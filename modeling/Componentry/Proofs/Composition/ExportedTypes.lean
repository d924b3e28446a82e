import Componentry.Proofs.Composition.Identifiers

/-
  What plugins see of a typekit.

  The built-in plugins see the name of a typekit and the names
  of its exported types.  So typekits that look alike in these
  are treated alike, whatever their projects are and whatever
  types they have besides; and a plugin fails at the first
  exported type that has no identifier, or not at all.

  Main declarations:
    * `Kit.Alike`
    * `Plugin.typeCodes_eq_error_iff`
    * `Plugin.ReadsCodes.contribute_eq`
    * `Plugin.ReadsCodes.contribute_eq_error_iff`
    * `PluginRegistry.run_of_alike`
    * `Plugin.HidesPrivateTypes`
    * `PluginRegistry.hidesPrivateTypes_builtin`
-/

------------------------------------------------------------
-- Typekits that Look Alike
------------------------------------------------------------

namespace Componentry

/- Two typekits of one name export the same types in order. -/
structure Kit.Alike (kit other : Kit) : Prop where
  name : kit.name = other.name
  exported : kit.exported = other.exported

namespace Plugin

variable {plugin : Plugin}
variable {kit other : Kit}

/- The codes of types are those of the exported ones. -/
theorem typeCodes_of_alike
    (hAlike : kit.Alike other)
    (plugin : String) :
    typeCodes plugin kit = typeCodes plugin other := by
  unfold typeCodes
  rw [hAlike.exported]

/- A plugin that sees codes only does not tell them apart. -/
theorem ReadsCodes.contribute_eq
    (hPlugin : plugin.ReadsCodes)
    (hAlike : kit.Alike other) :
    plugin.contribute kit = plugin.contribute other := by
  rcases hPlugin with ⟨make, hContribute⟩
  rw [hContribute, hContribute, hAlike.name,
    typeCodes_of_alike hAlike]

end Plugin

namespace PluginRegistry

variable {kit other : Kit}

/- Neither does a run of such plugins. -/
theorem runAll_of_alike
    {plugins : List Plugin}
    (hPlugins : ∀ plugin ∈ plugins, plugin.ReadsCodes)
    (hAlike : kit.Alike other) :
    runAll kit plugins = runAll other plugins := by
  induction plugins with
  | nil => rfl
  | cons plugin plugins ih =>
      rw [List.forall_mem_cons] at hPlugins
      rw [runAll, runAll, ih hPlugins.2,
        hPlugins.1.contribute_eq hAlike]

theorem run_of_alike
    {registry : PluginRegistry}
    (hPlugins :
      ∀ plugin ∈ registry.plugins, plugin.ReadsCodes)
    (hAlike : kit.Alike other) :
    registry.run kit = registry.run other := by
  rw [run, run, runAll_of_alike hPlugins hAlike,
    hAlike.name]

end PluginRegistry

end Componentry

------------------------------------------------------------
-- Failures
------------------------------------------------------------

namespace Componentry

namespace Plugin

variable {kit : Kit}
variable {error : ComposeError}

/- The error of a type without an identifier. -/
def unnamed (plugin name : String) : ComposeError :=
  .plugin plugin
    ("cannot derive a C++ identifier for type " ++ name)

theorem typeCode_eq_error_iff
    {plugin name : String} :
    typeCode plugin name = .error error ↔
      TypeName.method name = "" ∧
        error = unnamed plugin name := by
  rw [← String.isEmpty_iff]
  unfold typeCode
  dsimp only
  cases (TypeName.method name).isEmpty with
  | true =>
      simp only [if_true, Except.error.injEq, true_and]
      exact eq_comm
  | false => simp

/- The error of the first exported type without one. -/
inductive NamesUnnamed
    (plugin : String)
    (kit : Kit) :
    ComposeError → Prop where
  | intro
      {before after : List String}
      {name : String}
      (hTypes : kit.exported = before ++ name :: after)
      (hBefore :
        ∀ other ∈ before, TypeName.method other ≠ "")
      (hName : TypeName.method name = "") :
      NamesUnnamed plugin kit (unnamed plugin name)

/- Codes are derived up to the first type without one. -/
theorem typeCodes_eq_error_iff
    {plugin : String} :
    typeCodes plugin kit = .error error ↔
      NamesUnnamed plugin kit error := by
  have hOk :
      ∀ name,
        (∃ code, typeCode plugin name = .ok code) ↔
          TypeName.method name ≠ "" := by
    simp [typeCode_eq_ok_iff]
  simp only [typeCodes, mapM_eq_error_iff, hOk,
    typeCode_eq_error_iff]
  constructor
  · rintro ⟨_, _, _, hTypes, hBefore, hName, rfl⟩
    exact .intro hTypes hBefore hName
  · rintro ⟨hTypes, hBefore, hName⟩
    exact ⟨_, _, _, hTypes, hBefore, hName, rfl⟩

/- A plugin that sees codes only fails where they do. -/
theorem ReadsCodes.contribute_eq_error_iff
    {plugin : Plugin}
    (hPlugin : plugin.ReadsCodes) :
    plugin.contribute kit = .error error ↔
      NamesUnnamed plugin.name kit error := by
  rcases hPlugin with ⟨make, hContribute⟩
  simp only [hContribute, bind_eq_error_iff, reduceCtorEq,
    and_false, exists_false, or_false,
    typeCodes_eq_error_iff]

/- It fails at all if a type has no identifier. -/
theorem ReadsCodes.exists_error_iff
    {plugin : Plugin}
    (hPlugin : plugin.ReadsCodes) :
    (∃ error, plugin.contribute kit = .error error) ↔
      ∃ name ∈ kit.exported, TypeName.method name = "" := by
  have hEither :
      (∃ error, plugin.contribute kit = .error error) ↔
        ¬ ∃ made, plugin.contribute kit = .ok made := by
    cases plugin.contribute kit with
    | error error => simp
    | ok made => simp
  rw [hEither, hPlugin.exists_ok_iff, Kit.IsNameable,
    not_not, Kit.identifiers, List.mem_map]

end Plugin

end Componentry

------------------------------------------------------------
-- Built-in Plugins
------------------------------------------------------------

namespace Componentry

/-
  Types that are not exported neither appear in what a plugin
  contributes nor break it.
-/
structure Plugin.HidesPrivateTypes (plugin : Plugin) : Prop where
  -- Typekits that look alike give the same result.
  alike :
    ∀ kit other : Kit,
      kit.Alike other →
        plugin.contribute kit = plugin.contribute other
  -- A failure is due to an exported type.
  fails_iff :
    ∀ kit : Kit,
      (∃ error, plugin.contribute kit = .error error) ↔
        ∃ name ∈ kit.exported, TypeName.method name = ""
  -- It tells of the first exported type of that kind.
  error_iff :
    ∀ (kit : Kit) (error : ComposeError),
      plugin.contribute kit = .error error ↔
        NamesUnnamed plugin.name kit error

theorem Plugin.ReadsCodes.hidesTypes
    {plugin : Plugin}
    (hPlugin : plugin.ReadsCodes) :
    plugin.HidesPrivateTypes where
  alike := fun _ _ hAlike => hPlugin.contribute_eq hAlike
  fails_iff := fun _ => hPlugin.exists_error_iff
  error_iff := fun _ _ => hPlugin.contribute_eq_error_iff

/-
  Private types are hidden by each of the built-in plugins,
  and by a run of all of them.
-/
theorem PluginRegistry.hidesPrivateTypes :
    (∀ plugin ∈ Plugin.builtin, plugin.HidesPrivateTypes) ∧
      ∀ kit other : Kit,
        kit.Alike other →
          builtin.run kit = builtin.run other := by
  constructor
  · intro plugin hPlugin
    exact (Plugin.readsCodes_builtin plugin hPlugin).hidesTypes
  · intro kit other hAlike
    exact run_of_alike Plugin.readsCodes_builtin hAlike

end Componentry

------------------------------------------------------------
-- An Example
------------------------------------------------------------

namespace Componentry

namespace Kit

/- Two exported types, and none besides. -/
def sampleOpen : Kit where
  name := "base"
  project := "base"
  types := [⟨"/base/Time", true⟩, ⟨"/<>", true⟩]

/- The same with private types, one of which has no name. -/
def sampleMixed : Kit where
  name := "base"
  project := "other"
  types :=
    [⟨"/()", false⟩, ⟨"/base/Time", true⟩,
      ⟨"/base/Buffer", false⟩, ⟨"/<>", true⟩]

theorem sampleOpen_alike : sampleOpen.Alike sampleMixed :=
  ⟨rfl, rfl⟩

end Kit

/- Both fail at the exported type that has no identifier. -/
theorem PluginRegistry.sample_hidesPrivateTypes :
    Plugin.ros ∈ Plugin.builtin ∧
      Kit.sampleOpen.Alike Kit.sampleMixed ∧
      Plugin.ros.contribute Kit.sampleOpen =
        Plugin.ros.contribute Kit.sampleMixed ∧
      Plugin.ros.contribute Kit.sampleMixed =
        .error
          (.plugin "ros"
            "cannot derive a C++ identifier for type /<>") := by
  have hMember : Plugin.ros ∈ Plugin.builtin :=
    List.mem_cons_self
  have hHides := hidesPrivateTypes.1 Plugin.ros hMember
  have hTypes :
      Kit.sampleMixed.exported = ["/base/Time"] ++ ["/<>"] :=
    rfl
  have hUnnamed :
      Plugin.NamesUnnamed "ros" Kit.sampleMixed
        (Plugin.unnamed "ros" "/<>") :=
    .intro hTypes (by decide +kernel) (by decide +kernel)
  exact
    ⟨hMember, Kit.sampleOpen_alike,
      hHides.alike _ _ Kit.sampleOpen_alike,
      (hHides.error_iff _ _).mpr hUnnamed⟩

end Componentry
