import Componentry.Composition.Plugin.Basic
import Componentry.Proofs.Attempts
import Componentry.Proofs.Composition.Registrations

/-
  Names in registries.

  Plugins and initializers are registered one after the other,
  and some of them are refused.  Whatever is registered, and
  in which order, a registry has the first one of each name,
  so that a name stands for one of them at most.

  Main declarations:
    * `PluginRegistry.ofCalls`, `InitializerRegistry.ofCalls`
    * `PluginRegistry.appendsNew_register`
    * `InitializerRegistry.appendsNew_register`
    * `PluginRegistry.KeepsNames`
    * `InitializerRegistry.KeepsNames`
    * `registries_keepNames`
-/

------------------------------------------------------------
-- Plugins
------------------------------------------------------------

namespace Componentry

namespace PluginRegistry

/- The registry that some plugins are offered to. -/
def ofCalls (plugins : List Plugin) : PluginRegistry :=
  attemptAll register empty plugins

/- A plugin is put at the end if its name is new. -/
theorem appendsNew_register :
    AppendsNew register Plugin.name (fun _ => true)
      plugins where
  refuses := by
    intro registry plugin
    change _ ↔ _ ∨ plugin.name ∈ registry.names
    rw [register, ← List.contains_iff_mem]
    cases registry.names.contains plugin.name <;> simp
  keeps := by
    intro registry plugin error next hRefused
    unfold register at hRefused
    split at hRefused
    · cases hRefused
      rfl
    · cases hRefused
  appends := by
    intro registry plugin next hTaken
    unfold register at hTaken
    split at hTaken
    · cases hTaken
    · cases hTaken
      rfl

/- What a registry is after some plugins were offered to it. -/
structure KeepsNames (plugins : List Plugin) : Prop where
  -- What becomes of every single call.
  calls :
    KeepsFirsts register Plugin.name (fun _ => true) empty
      plugins
  -- There is the first plugin of each name, in order.
  holds :
    (ofCalls plugins).plugins = firsts Plugin.name plugins
  -- No name is there twice.
  distinct :
    (ofCalls plugins).names.Nodup

theorem keepsNames
    (plugins : List Plugin) :
    KeepsNames plugins := by
  have hCalls :=
    appendsNew_register.keepsFirsts
      (rfl : empty.plugins = []) plugins
  have hHolds :
      (ofCalls plugins).plugins =
        accepted register empty plugins :=
    appendsNew_register.kept_attemptAll empty plugins
  constructor
  case calls => exact hCalls
  case holds =>
    rw [hHolds, hCalls.firsts, List.filter_true]
  case distinct =>
    rw [names, hHolds]
    exact hCalls.distinct

end PluginRegistry

end Componentry

------------------------------------------------------------
-- Initializers
------------------------------------------------------------

namespace Componentry

/- Does an initializer have a name that is not blank? -/
def Initializer.isNamed (initializer : Initializer) : Bool :=
  !Text.isBlankText initializer.name

namespace InitializerRegistry

/- The registry that some initializers are offered to. -/
def ofCalls
    (initializers : List Initializer) :
    InitializerRegistry :=
  attemptAll register empty initializers

/-
  An initializer is put at the end if its name is new and not
  blank.
-/
theorem appendsNew_register :
    AppendsNew register Initializer.name Initializer.isNamed
      initializers where
  refuses := by
    intro registry initializer
    change _ ↔ _ ∨ initializer.name ∈ registry.names
    rw [Initializer.isNamed, Bool.not_eq_false']
    rcases register_cases registry initializer with
      ⟨hName, error, hRefused⟩ | ⟨⟨hBlank, hNew⟩, hTaken⟩
    · simp [hRefused, hName]
    · simp [hTaken, hBlank, hNew]
  keeps := by
    intro registry initializer error next hCall
    rcases register_cases registry initializer with
      ⟨-, _, hRefused⟩ | ⟨-, hTaken⟩
    · rw [hRefused] at hCall
      cases hCall
      rfl
    · rw [hTaken] at hCall
      cases hCall
  appends := by
    intro registry initializer next hCall
    rcases register_cases registry initializer with
      ⟨-, _, hRefused⟩ | ⟨-, hTaken⟩
    · rw [hRefused] at hCall
      cases hCall
    · rw [hTaken] at hCall
      cases hCall
      rfl

/- Where names differ, an initializer is found by its name. -/
theorem find?_eq_some_iff
    {registry : InitializerRegistry}
    (hDistinct : registry.names.Nodup)
    {name : String}
    {initializer : Initializer} :
    registry.find? name = some initializer ↔
      initializer ∈ registry.initializers ∧
        initializer.name = name := by
  have hSound
      {found : Initializer}
      (hFound : registry.find? name = some found) :
      found ∈ registry.initializers ∧ found.name = name :=
    ⟨List.mem_of_find?_eq_some hFound,
      by simpa using List.find?_some hFound⟩
  constructor
  · exact hSound
  · rintro ⟨hMember, hName⟩
    cases hFound : registry.find? name with
    | none =>
        rw [find?, List.find?_eq_none] at hFound
        exact absurd (beq_iff_eq.mpr hName) (hFound _ hMember)
    | some other =>
        rcases hSound hFound with ⟨hOther, hSame⟩
        rw [List.inj_on_of_nodup_map hDistinct hMember hOther
          (hName.trans hSame.symm)]

/-
  What a registry is after some initializers were offered to
  it.
-/
structure KeepsNames
    (initializers : List Initializer) : Prop where
  -- What becomes of every single call.
  calls :
    KeepsFirsts register Initializer.name
      Initializer.isNamed empty initializers
  -- There is the first one of each name that is not blank.
  holds :
    (ofCalls initializers).initializers =
      firsts Initializer.name (initializers.filter (·.isNamed))
  -- No name is there twice.
  distinct :
    (ofCalls initializers).names.Nodup
  -- A name stands for the one that was accepted with it.
  found :
    ∀ name initializer,
      (ofCalls initializers).find? name = some initializer ↔
        initializer ∈ accepted register empty initializers ∧
          initializer.name = name
  -- It stands for none if none was.
  missing :
    ∀ name,
      (ofCalls initializers).find? name = none ↔
        ∀ initializer ∈ accepted register empty initializers,
          initializer.name ≠ name

theorem keepsNames
    (initializers : List Initializer) :
    KeepsNames initializers := by
  have hCalls :=
    appendsNew_register.keepsFirsts
      (rfl : empty.initializers = []) initializers
  have hHolds :
      (ofCalls initializers).initializers =
        accepted register empty initializers :=
    appendsNew_register.kept_attemptAll empty initializers
  have hDistinct : (ofCalls initializers).names.Nodup := by
    rw [names, hHolds]
    exact hCalls.distinct
  constructor
  case calls => exact hCalls
  case holds => rw [hHolds, hCalls.firsts]
  case distinct => exact hDistinct
  case found =>
    intro name initializer
    rw [find?_eq_some_iff hDistinct, hHolds]
  case missing =>
    intro name
    rw [find?, List.find?_eq_none, hHolds]
    simp

end InitializerRegistry

/- Names are kept apart in both kinds of registries. -/
theorem registries_keepNames :
    (∀ plugins, PluginRegistry.KeepsNames plugins) ∧
      ∀ initializers,
        InitializerRegistry.KeepsNames initializers :=
  ⟨PluginRegistry.keepsNames, InitializerRegistry.keepsNames⟩

end Componentry
