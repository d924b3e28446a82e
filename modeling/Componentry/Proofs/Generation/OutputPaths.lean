import Componentry.Proofs.FileTree.Containment
import Componentry.Proofs.Generation.Outputs

/-
  Where the output of a run is.

  A plugin may write only below the directory of its typekit;
  task contexts are named by identifiers, and deployments by
  words.  So if the names of the typekits are plain as well,
  every file is below the directory of its item, and whatever
  directory the output is written to, nothing else changes.

  The name of a typekit is not checked, though: it is part of
  the name of a record, and one with dots and slashes leads
  out of the directory.

  Main declarations:
    * `PluginRegistry.isOrdinary_of_mem_sources`
    * `Run.Item.components_of_makes`,
      `Run.Item.isPlainName_of_makes`
    * `Run.StaysBelow`, `execute_staysBelow`
    * `climbing_escapes`
-/

------------------------------------------------------------
-- Paths of Contributed Files
------------------------------------------------------------

namespace Componentry

namespace PluginRegistry

variable {kit : Kit}

/- Whatever plugins there are, their files have been checked. -/
theorem isOrdinary_of_mem_sources
    {registry : PluginRegistry}
    {made : KitContributions}
    {path : Path}
    {text : String}
    (hRun : registry.run kit = .ok made)
    (hSource : (path, text) ∈ made.sources) :
    path.isOrdinary = true :=
  Path.isOrdinary_iff_staysInside.mpr
    (exists_of_mem_sources hRun hSource).1

end PluginRegistry

/- A task context that has code is named by an identifier. -/
theorem isIdentifier_of_task
    {capabilities : Capabilities}
    {context : TaskContext}
    {code : TaskCode}
    (hCode : capabilities.task context = .ok code) :
    Text.isIdentifier context.name = true := by
  unfold Capabilities.task at hCode
  by_cases hName : Text.isIdentifier context.name = true
  · exact hName
  · rw [if_pos (by simpa using hName)] at hCode
    cases hCode

end Componentry

------------------------------------------------------------
-- Files of Items
------------------------------------------------------------

namespace Componentry

namespace Run

variable {registry : Registry}
variable {store : Store}
variable {extensions : Extensions}

/- A file of a typekit is below the typekit's directory. -/
theorem components_of_mem_typekitFiles
    {plugins : PluginRegistry}
    {kit : Kit}
    {name : String}
    {made : KitContributions}
    {file : Path × String}
    (hName : Path.IsPlainName name)
    (hRun : plugins.run kit = .ok made)
    (hFile : file ∈ typekitFiles name made) :
    ∃ names,
      names ≠ [] ∧
        file.1.components = below "typekits" name names := by
  have hKind : Path.IsPlainName "typekits" := by
    constructor <;> simp
  have hDirectory := directory_isMadeOf hKind hName
  rcases List.mem_append.mp hFile with hSource | hBuild
  · rcases List.mem_map.mp hSource with
      ⟨⟨path, text⟩, hMember, hIs⟩
    subst hIs
    rcases
        Path.isOrdinary_iff.mp
          (PluginRegistry.isOrdinary_of_mem_sources hRun
            hMember) with
      ⟨names, hSome, hNames⟩
    exact ⟨names, hSome, hDirectory.join hNames hSome⟩
  · rw [List.mem_singleton.mp hBuild]
    have hFragment :
        Path.IsMadeOf
          (fragmentPath ((Path.mk "typekits").join ⟨name⟩)
            "build")
          (["typekits", name] ++ ["build" ++ ".fragment"]) :=
      fragmentPath_isMadeOf hDirectory (by simp)
    exact ⟨["build" ++ ".fragment"], by simp, hFragment⟩

/- A file of an item is below the item's directory. -/
theorem Item.components_of_makes
    {item : Item}
    {files : List (Path × String)}
    {file : Path × String}
    (hMakes : item.Makes registry store extensions files)
    (hName : Path.IsPlainName item.name)
    (hFile : file ∈ files) :
    ∃ names,
      names ≠ [] ∧
        file.1.components =
          below item.kind item.name names := by
  have hBelow
      {kind name : String}
      {files : List (Path × String)}
      {relative : List (List String)}
      (hPlaces :
        files.map (·.1.components) =
          relative.map (below kind name))
      (hSome : [] ∉ relative)
      (hFile : file ∈ files) :
      ∃ names,
        names ≠ [] ∧
          file.1.components = below kind name names := by
    have hMember := List.mem_map_of_mem
      (f := fun file : Path × String => file.1.components)
      hFile
    rw [hPlaces] at hMember
    rcases List.mem_map.mp hMember with
      ⟨names, hNames, hIs⟩
    refine ⟨names, ?_, hIs.symm⟩
    intro hNone
    exact hSome (hNone ▸ hNames)
  cases hMakes with
  | typekit hFound hList hMade =>
      exact components_of_mem_typekitFiles hName hMade hFile
  | task hCode =>
      exact
        hBelow (components_taskFiles hName) (by decide) hFile
  | deployment hComposed =>
      refine
        hBelow (components_deploymentFiles hName) ?_ hFile
      simp [deploymentRelative]

/- The names of all items are plain, each for its reason. -/
theorem Item.isPlainName_of_makes
    {before : Registry}
    {source : Store}
    {report : RebuildReport}
    {request : Request}
    {item : Item}
    {files : List (Path × String)}
    (hRebuild :
      before.rebuild source = (.ok report, registry))
    (hPlain :
      ∀ name ∈ request.typekits, Path.IsPlainName name)
    (hValid :
      request.IsValid registry.view extensions.initializers)
    (hItem : item ∈ request.items)
    (hMakes : item.Makes registry store extensions files) :
    Path.IsPlainName item.name := by
  cases hMakes with
  | @typekit name entity list kit hFound hList hKit =>
      have hRequested : name ∈ request.typekits := by
        simpa [Request.items, mem_distinct_iff] using hItem
      exact hPlain name hRequested
  | task hCode =>
      exact
        isPlainName_of_isIdentifier (isIdentifier_of_task hCode)
  | @deployment deployment composed hComposed =>
      have hRequested : deployment ∈ request.deployments := by
        simpa [Request.items] using hItem
      exact
        isPlainName_of_rebuild hRebuild
          (hValid.deployments _ hRequested).1

end Run

end Componentry

------------------------------------------------------------
-- Output of Runs
------------------------------------------------------------

namespace Componentry

/- The output of a run stays where it belongs. -/
structure Run.StaysBelow
    (request : Request)
    (artifacts : Artifacts) : Prop where
  -- Every file is below the directory of a requested item.
  places :
    ∀ (key : List Path.Component) (artifact : Artifact),
      artifacts.files[key]? = some artifact →
        artifact.path.components = key ∧
          ∃ item ∈ request.items,
            ∃ names,
              names ≠ [] ∧
                key =
                  (item.kind :: item.name :: names).map
                    .normal
  -- Wherever it is written, nothing else is changed.
  writes :
    ∀ directory tree,
      FileTree.LinksOutside directory tree →
        FileTree.ChangesBelow directory tree
          (artifacts.write directory tree).2

theorem execute_staysBelow
    {before registry : Registry}
    {source store : Store}
    {report : RebuildReport}
    {extensions : Extensions}
    {request : Request}
    {artifacts : Artifacts}
    (hRebuild :
      before.rebuild source = (.ok report, registry))
    (hPlain :
      ∀ name ∈ request.typekits, Path.IsPlainName name)
    (hRun :
      (Run.execute registry store extensions request).1 =
        .ok artifacts) :
    Run.StaysBelow request artifacts := by
  rw [Run.execute_eq_generate
      (Registry.isBuilt_of_rebuild hRebuild),
    Run.generate_eq_ok_iff] at hRun
  rcases hRun with ⟨hValid, made, hMade, hAdmits, hOutput⟩
  subst hOutput
  have hPlaces
      {key : List Path.Component}
      {artifact : Artifact}
      (hFound :
        (Run.output registry request
              made.flatten).files[key]? =
            some artifact) :
      artifact.path.components = key ∧
        ∃ item ∈ request.items,
          ∃ names,
            names ≠ [] ∧
              key =
                (item.kind :: item.name :: names).map
                  .normal := by
    rcases (Run.getElem?_files_iff hAdmits).mp hFound with
      ⟨file, hFile, hKey, hIs⟩
    rcases List.mem_flatten.mp hFile with
      ⟨files, hFiles, hFile⟩
    rcases exists_left_of_mem hMade hFiles with
      ⟨item, hItem, hMakes⟩
    have hName :=
      Run.Item.isPlainName_of_makes hRebuild hPlain hValid
        hItem hMakes
    rcases
        Run.Item.components_of_makes hMakes hName hFile with
      ⟨names, hSome, hNames⟩
    subst hIs
    exact
      ⟨hKey, item, hItem, names, hSome,
        hKey.symm.trans hNames⟩
  constructor
  case places =>
    intro key artifact hFound
    exact hPlaces hFound
  case writes =>
    intro directory tree hLinks
    apply Artifacts.changesBelow_write hLinks
    intro artifact hListed
    rcases Table.mem_values_iff.mp hListed with
      ⟨key, hFound⟩
    rcases hPlaces hFound with
      ⟨hKey, item, -, names, -, hNames⟩
    apply Path.isOrdinary_iff.mpr
    exact
      ⟨item.kind :: item.name :: names, by simp,
        hKey.trans hNames⟩

/- An empty tree has no links. -/
theorem FileTree.empty_linksOutside
    (directory : Path) :
    LinksOutside directory .empty := by
  intro place target hLink
  by_cases hRoot : place = []
  · subst hRoot
    cases hLink
  · simp only [ entry?, if_neg hRoot, empty,
      Std.ExtTreeMap.getElem?_insert] at hLink
    split at hLink
    · cases hLink
    · simp at hLink

theorem sample_staysBelow :
    ∃ report registry extensions artifacts,
      Registry.rebuild ⟨.standard, none⟩
            MemoryStore.sample.view =
          (.ok report, registry) ∧
        (∀ name ∈ Request.sample.typekits,
          Path.IsPlainName name) ∧
        (Run.execute registry
            MemoryStore.sampleWithTypes.view extensions
            .sample).1 =
          .ok artifacts ∧
        Run.StaysBelow .sample artifacts ∧
        FileTree.ChangesBelow ⟨"out"⟩ .empty
          (artifacts.write ⟨"out"⟩ .empty).2 := by
  rcases Run.exists_execute_sample with
    ⟨report, registry, extensions, artifacts, hRebuild, -,
      hRun⟩
  have hStays :=
    execute_staysBelow hRebuild
      Request.isPlainName_of_mem_sample hRun
  exact
    ⟨report, registry, extensions, artifacts, hRebuild,
      Request.isPlainName_of_mem_sample, hRun, hStays,
      hStays.writes ⟨"out"⟩ .empty
        (FileTree.empty_linksOutside _)⟩

/-
  An installation of one typekit, the record of which is named
  like a path that climbs.
-/
def MemoryStore.climbing : MemoryStore :=
  (((empty.putRecord
      (.ofFields "orogen-project-base"
        [("project_name", "base"),
         ("type_registry", "/base/base.tlb")])).putRecord
      (.ofFields "../..-typekit-gnulinux"
        [("project_name", "base"),
         ("type_registry", "/base/base.tlb")])).putText
      ⟨"/base/base.tlb"⟩ "<typelib/>").putText
    ⟨"/base/base.typelist"⟩ ""

/- A request for that typekit. -/
def Request.climbing : Request :=
  ⟨["../.."], [], []⟩

/- What is generated for it climbs out of the output. -/
theorem climbing_escapes :
    ∃ report registry extensions artifacts,
      Registry.rebuild ⟨.standard, none⟩
            MemoryStore.climbing.view =
          (.ok report, registry) ∧
        (Run.execute registry MemoryStore.climbing.view
            extensions .climbing).1 =
          .ok artifacts ∧
        artifacts.files.keys =
          [[.normal "typekits", .parent, .parent,
            .normal "build.fragment"]] ∧
        ( FileTree.entry? (artifacts.write ⟨"out"⟩ .empty).2
            ["home", "build.fragment"]).isSome =
          true ∧
        ¬ Run.StaysBelow .climbing artifacts := by
  have hRuns :
      (scan MemoryStore.climbing.view
              .standard).toOption.any
          (fun draft =>
            (Run.generate
                  ⟨.standard, some draft.snapshot⟩
                  MemoryStore.climbing.view
                  ⟨.empty, .empty, .builtin⟩
                  .climbing).toOption.any
              fun artifacts =>
                artifacts.files.keys ==
                    [[.normal "typekits", .parent, .parent,
                      .normal "build.fragment"]] &&
                  ( FileTree.entry?
                      (artifacts.write ⟨"out"⟩ .empty).2
                      ["home", "build.fragment"]).isSome) =
        true := by
    decide +kernel
  rcases (Option.any_eq_true _ _).mp hRuns with
    ⟨draft, hScan, hGenerates⟩
  rcases (Option.any_eq_true _ _).mp hGenerates with
    ⟨artifacts, hGenerated, hLeaves⟩
  rw [Bool.and_eq_true, beq_iff_eq] at hLeaves
  rcases hLeaves with ⟨hKeys, hWritten⟩
  have hRebuild :=
    Registry.rebuild_eq_of_scan ⟨.standard, none⟩
      (toOption_eq_some_iff.mp hScan)
  refine
    ⟨_, _, ⟨.empty, .empty, .builtin⟩, artifacts, hRebuild,
      ?_, hKeys, hWritten, ?_⟩
  · rw [Run.execute_eq_generate rfl]
    exact toOption_eq_some_iff.mp hGenerated
  · intro hStays
    have hMember :
        [.normal "typekits", .parent, .parent,
            .normal "build.fragment"] ∈
          artifacts.files := by
      rw [← Std.ExtTreeMap.mem_keys, hKeys]
      exact List.mem_singleton_self _
    rcases
        hStays.places _ _
          (Std.ExtTreeMap.getElem?_eq_some_getElem
            hMember) with
      ⟨-, item, -, names, -, hKey⟩
    simp at hKey

end Componentry
