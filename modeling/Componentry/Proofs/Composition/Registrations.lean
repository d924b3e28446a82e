import Componentry.Proofs.Composition.Initializers
import Componentry.Proofs.Composition.Templates

/-
  Initializers that are made from texts.

  An initializer starts without fragments and is given texts,
  one after the other; a registry starts empty and is given
  initializers.  Each step reads at most one text, so whatever
  the texts are, every fragment that has got into a registry
  was read from one, and every deployment can fill it in.

  Main declarations:
    * `Initializer.Part`, `Initializer.withText`
    * `Initializer.IsMade`, `InitializerRegistry.IsMade`
    * `Initializer.IsMade.isRead`
    * `InitializerRegistry.IsMade.isRead`
    * `Fragment.exists_page`
-/

------------------------------------------------------------
-- Making Initializers
------------------------------------------------------------

namespace Componentry

namespace Initializer

/- The parts of an initializer that texts are given for. -/
inductive Part where
  | globalScope
  | init
  | exit
  | build (target : BuildTarget)
deriving DecidableEq

/- The fragment of a part. -/
def fragment?
    (initializer : Initializer) :
    Part → Option Fragment
  | .globalScope => initializer.globalScope
  | .init => initializer.init
  | .exit => initializer.exit
  | .build target => initializer.build target

/- Give a text for a part. -/
def withText
    (initializer : Initializer)
    (part : Part)
    (text : String) :
    Except TemplateFault Initializer :=
  match part with
  | .globalScope => initializer.withGlobalScope text
  | .init => initializer.withInit text
  | .exit => initializer.withExit text
  | .build target => initializer.withBuild target text

/- What comes of a name and texts, one after the other. -/
inductive IsMade : Initializer → Prop where
  | named
      (name : String) :
      IsMade (.named name)
  | withText
      {initializer next : Initializer}
      {part : Part}
      {text : String}
      (hMade : IsMade initializer)
      (hNext : initializer.withText part text = .ok next) :
      IsMade next

/- Every fragment was read from a text. -/
def IsRead (initializer : Initializer) : Prop :=
  ∀ part fragment,
    initializer.fragment? part = some fragment →
      ∃ text, Fragment.ofText text = .ok fragment

end Initializer

/- What comes of registering such, whatever is refused. -/
inductive InitializerRegistry.IsMade :
    InitializerRegistry → Prop where
  | empty : IsMade .empty
  | register
      {registry : InitializerRegistry}
      {initializer : Initializer}
      (hMade : IsMade registry)
      (hInitializer : initializer.IsMade) :
      IsMade (registry.register initializer).2

end Componentry

------------------------------------------------------------
-- Fragments Are Read
------------------------------------------------------------

namespace Componentry

namespace Initializer

variable {initializer next : Initializer}

/- A text is read for its part, and no other part changes. -/
theorem fragment?_of_withText
    {part : Part}
    {text : String}
    (hNext : initializer.withText part text = .ok next) :
    ∃ fragment,
      Fragment.ofText text = .ok fragment ∧
        ∀ other,
          next.fragment? other =
            if other = part then some fragment
            else initializer.fragment? other := by
  -- All parts are read alike and told apart.
  cases part
  all_goals
    rcases bind_eq_ok_iff.mp hNext with
      ⟨fragment, hText, hSame⟩
    cases hSame
    refine ⟨fragment, hText, ?_⟩
    intro other
    cases other
  all_goals
    first
    | rfl
    | simp only [fragment?, Part.build.injEq]

/- Whatever texts are given, all fragments are read. -/
theorem IsMade.isRead
    (hMade : initializer.IsMade) :
    initializer.IsRead := by
  induction hMade with
  | named name =>
      intro part fragment hFragment
      cases part <;> cases hFragment
  | withText hMade hNext ih =>
      rcases fragment?_of_withText hNext with
        ⟨read, hRead, hParts⟩
      intro part fragment hFragment
      rw [hParts part] at hFragment
      split at hFragment
      · cases hFragment
        exact ⟨_, hRead⟩
      · exact ih part fragment hFragment

end Initializer

namespace InitializerRegistry

variable {registry : InitializerRegistry}

/-
  An initializer is refused for its name, and the registry
  stays; or its name is new, and it goes to the end.
-/
theorem register_cases
    (registry : InitializerRegistry)
    (initializer : Initializer) :
    ((Text.isBlankText initializer.name = true ∨
          initializer.name ∈ registry.names) ∧
        ∃ error,
          registry.register initializer =
            (.error error, registry)) ∨
      (Text.isBlankText initializer.name = false ∧
          initializer.name ∉ registry.names) ∧
        registry.register initializer =
          (.ok (), ⟨registry.initializers ++ [initializer]⟩) := by
  cases hBlank : Text.isBlankText initializer.name with
  | true =>
      refine Or.inl ⟨Or.inl rfl, .config .unnamedInitializer, ?_⟩
      rw [register, if_pos hBlank]
  | false =>
      by_cases hThere : initializer.name ∈ registry.names
      · refine
          Or.inl
            ⟨Or.inr hThere,
              .config (.duplicateInitializer initializer.name),
              ?_⟩
        unfold register
        rw [hBlank]
        simp [hThere]
      · exact
          Or.inr
            ⟨⟨rfl, hThere⟩, register_of_new hBlank hThere⟩

/- Registering keeps to initializers that are read. -/
theorem IsMade.isRead
    (hMade : registry.IsMade) :
    ∀ initializer ∈ registry.initializers,
      initializer.IsRead := by
  induction hMade with
  | empty =>
      intro initializer hMember
      cases hMember
  | @register registry initializer hMade hInitializer ih =>
      rcases register_cases registry initializer with
        ⟨-, _, hRefused⟩ | ⟨-, hTaken⟩
      · rw [hRefused]
        exact ih
      · rw [hTaken, List.forall_mem_append,
          List.forall_mem_singleton]
        exact ⟨ih, hInitializer.isRead⟩

end InitializerRegistry

end Componentry

------------------------------------------------------------
-- Fragments Are Filled In
------------------------------------------------------------

namespace Componentry

namespace Fragment

/- A fragment is the template of its text. -/
theorem template_of_ofText
    {text : String}
    {fragment : Fragment}
    (hText : ofText text = .ok fragment) :
    Template.ofText text fragmentParameters =
      .ok fragment.val := by
  unfold ofText at hText
  split at hText
  · cases hText
  · next template hTemplate =>
      cases hText
      exact hTemplate

/-
  A text that makes a fragment is written like a page, which
  every deployment fills in.
-/
theorem exists_page
    {text : String}
    {fragment : Fragment}
    (hText : ofText text = .ok fragment) :
    ∃ page : Template.Page,
      page.IsOver fragmentParameters ∧
        page.source = text ∧
        ∀ names : DeploymentNames,
          fragment.val.render names.value? =
            .ok (page.filledIn names.value?) := by
  have hTemplate := template_of_ofText hText
  rcases Template.exists_ofText_iff_page.mp
      ⟨_, hTemplate⟩ with
    ⟨page, hPage, hSource⟩
  refine ⟨page, hPage, hSource, ?_⟩
  intro names
  rw [← hSource] at hTemplate
  have hValues :
      Template.missing? names.value? page.names = none := by
    rw [Template.missing?_eq_none_iff]
    intro name hName
    rcases List.mem_map.mp hName with ⟨part, hPart, hSame⟩
    rw [← hSame]
    exact
      names.isSome_value? (hPage.declared part hPart)
  rw [hPage.render_eq _ hTemplate, hValues]

end Fragment

end Componentry
