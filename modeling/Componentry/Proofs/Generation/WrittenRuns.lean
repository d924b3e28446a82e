import Componentry.Proofs.Composition.Identifiers
import Componentry.Proofs.Composition.PluginFiles
import Componentry.Proofs.Generation.OutputPaths
import Componentry.Proofs.Generation.WrittenFiles

/-
  Writing the output of a run.

  Fragments have names of their own kind, so they are never in
  the way of each other.  But a plugin may give its files any
  names, and one of them may go on behind another, or behind
  the typekit's fragment; and a path may end with a slash, or
  have a null character, as may the name of a typekit.  A run
  sees to it only that the places of files differ.  So its
  output can be written to an empty directory if and only if
  the paths of its typekits are ones that files can have, and
  not in each other's way.

  Main declarations:
    * `Run.IsPlaced`, `Run.Item.Makes.isPlaced`
    * `Run.exists_item_of_run`, `Run.apart_of_run`
    * `Artifacts.FitsOnDisk`
    * `Run.fitsOnDisk_of_namesFiles`
    * `execute_writes_iff`
    * `nested_not_written`
-/

------------------------------------------------------------
-- Files of Items
------------------------------------------------------------

namespace Componentry

namespace Run

theorem fragmentPath_endsInStep
    (directory : Path)
    {file : String}
    (hFile : '/' ∉ file.toList) :
    (fragmentPath directory file).EndsInStep := by
  have hPlain : Path.IsPlainName (file ++ ".fragment") :=
    .of_ending hFile (by simp) (by simp)
  exact Path.endsInStep_join_iff.mpr hPlain.endsInStep

/-
  A file has a dotted place below its item, and its path ends
  there.  Whether it can be used is up to the item's name.
-/
def IsPlaced (item : Item) (path : Path) : Prop :=
  path.EndsInStep ∧
    ∃ names,
      IsDotted names ∧
        (∀ name ∈ names, '\x00' ∉ name.toList) ∧
        path.components = below item.kind item.name names

theorem IsPlaced.isFilePath
    {item : Item}
    {path : Path}
    (hPlaced : IsPlaced item path)
    (hName : '\x00' ∉ item.name.toList) :
    path.IsFilePath where
  usable := by
    rcases hPlaced.2 with ⟨names, -, hNames, hIs⟩
    have hMade :
        path.IsMadeOf (item.kind :: item.name :: names) :=
      hIs
    rw [Path.isUsable_iff, hMade.moves_eq,
      List.forall_mem_cons, List.forall_mem_cons]
    refine ⟨?_, hName, hNames⟩
    cases item <;> simp [Item.kind]
  ends := hPlaced.1

theorem isPlaced_fragment
    {item : Item}
    {directory : Path}
    {front : List String}
    {file : String}
    (hDirectory :
      directory.IsMadeOf (item.kind :: item.name :: front))
    (hFront : ∀ name ∈ front, '.' ∉ name.toList)
    (hFile : '/' ∉ file.toList)
    (hUsable :
      ∀ name ∈ front ++ [file], '\x00' ∉ name.toList) :
    IsPlaced item (fragmentPath directory file) := by
  have hDot : '.' ∈ (file ++ ".fragment").toList := by
    rw [String.toList_append]
    exact List.mem_append_right _ (by decide)
  have hNames :
      ∀ name ∈ front ++ [file ++ ".fragment"],
        '\x00' ∉ name.toList := by
    rw [List.forall_mem_append, List.forall_mem_singleton]
      at hUsable ⊢
    refine ⟨hUsable.1, ?_⟩
    rw [String.toList_append, List.mem_append, not_or]
    exact ⟨hUsable.2, by decide⟩
  exact
    ⟨fragmentPath_endsInStep directory hFile, _,
      isDotted_concat hFront hDot, hNames,
      fragmentPath_isMadeOf hDirectory hFile⟩

/-
  Task contexts and deployments place their files like that,
  and so do typekits if their plugins name files.
-/
theorem Item.Makes.isPlaced
    {registry : Registry}
    {store : Store}
    {extensions : Extensions}
    {item : Item}
    {files : List (Path × String)}
    {file : Path × String}
    (hMakes : item.Makes registry store extensions files)
    (hName : Path.IsPlainName item.name)
    (hPlugins :
      item.kind = "typekits" →
        ∀ plugin ∈ extensions.plugins.plugins,
          plugin.NamesFiles)
    (hFile : file ∈ files) :
    IsPlaced item file.1 := by
  have hKind : Path.IsPlainName item.kind := by
    cases item with
    | typekit name => constructor <;> simp [Item.kind]
    | task context => constructor <;> simp [Item.kind]
    | deployment request => constructor <;> simp [Item.kind]
  have hDirectory := directory_isMadeOf hKind hName
  have hNone :
      ∀ name ∈ ([] : List String), '.' ∉ name.toList :=
    fun name hName => (List.not_mem_nil hName).elim
  cases hMakes with
  | @typekit name entity list made hFound hList hMade =>
      rcases List.mem_append.mp hFile with hSource | hBuild
      · rcases List.mem_map.mp hSource with
          ⟨⟨path, text⟩, hMember, hIs⟩
        have hPath :=
          PluginRegistry.isFile_of_mem_sources (hPlugins rfl)
            hMade hMember
        have hEnds := hPath.isFilePath.ends
        rw [← hIs]
        exact
          ⟨Path.endsInStep_join_iff.mpr hEnds, path.moves,
            hPath.dotted,
            Path.isUsable_iff.mp hPath.isFilePath.usable,
            hDirectory.join hPath.made hEnds.moves_ne_nil⟩
      · rw [List.mem_singleton.mp hBuild]
        exact
          isPlaced_fragment hDirectory hNone (by simp)
            (by simp)
  | @task context code hCode =>
      simp only [taskFiles, List.mem_cons, List.not_mem_nil,
        or_false] at hFile
      rcases hFile with hIs | hIs | hIs
      all_goals
        rw [hIs]
        exact
          isPlaced_fragment hDirectory hNone (by simp)
            (by simp)
  | @deployment request composed hComposed =>
      rcases List.mem_append.mp hFile with hFixed | hTarget
      · simp only [List.mem_cons, List.not_mem_nil, or_false]
          at hFixed
        rcases hFixed with hIs | hIs | hIs
        all_goals
          rw [hIs]
          exact
            isPlaced_fragment hDirectory hNone (by simp)
              (by simp)
      · rcases List.mem_map.mp hTarget with
          ⟨⟨target, text⟩, -, hIs⟩
        have hBuild : Path.IsPlainName "build" := by
          constructor <;> simp
        have hTargetPlain : '/' ∉ target.key.toList := by
          cases target <;> simp [BuildTarget.key]
        rw [← hIs]
        exact
          isPlaced_fragment
            (hDirectory.join hBuild.isMadeOf (by simp))
            (by simp) hTargetPlain
            (by cases target <;> simp [BuildTarget.key])

/- Only the names of typekits may have null characters. -/
theorem Item.not_mem_name_of_makes
    {before registry : Registry}
    {source store : Store}
    {report : RebuildReport}
    {extensions : Extensions}
    {request : Request}
    {item : Item}
    {files : List (Path × String)}
    (hRebuild :
      before.rebuild source = (.ok report, registry))
    (hValid :
      request.IsValid registry.view extensions.initializers)
    (hItem : item ∈ request.items)
    (hMakes : item.Makes registry store extensions files)
    (hTypekits :
      item.kind = "typekits" →
        ∀ name ∈ request.typekits, '\x00' ∉ name.toList) :
    '\x00' ∉ item.name.toList := by
  cases hMakes with
  | @typekit name entity list kit hFound hList hKit =>
      have hRequested : name ∈ request.typekits := by
        simpa [Request.items, mem_distinct_iff] using hItem
      exact hTypekits rfl name hRequested
  | @task context code hCode =>
      have hNamed :=
        (Text.isIdentifier_iff.mp
          (isIdentifier_of_task hCode)).2
      intro hNull
      exact absurd (hNamed _ hNull) (by decide)
  | @deployment deployment composed hComposed =>
      have hRequested : deployment ∈ request.deployments := by
        simpa [Request.items] using hItem
      exact
        not_mem_of_isEntityName
          (isEntityName_of_rebuild hRebuild
            (hValid.deployments _ hRequested).1)
          (by decide +kernel)

/- Placed files are not in each other's way. -/
theorem IsPlaced.eq_of_isPrefix
    {item other : Item}
    {first second : Path}
    (hFirst : IsPlaced item first)
    (hSecond : IsPlaced other second)
    (hPrefix : first.components <+: second.components) :
    first.components = second.components := by
  rcases hFirst.2 with ⟨names, hNames, -, hIs⟩
  rcases hSecond.2 with ⟨more, hMore, -, hSame⟩
  rw [hIs, hSame] at hPrefix ⊢
  unfold below at hPrefix ⊢
  rw [List.prefix_map_iff_of_injective
      fun _ _ hName => Path.Component.normal.inj hName,
    List.cons_prefix_cons, List.cons_prefix_cons] at hPrefix
  rw [hPrefix.1, hPrefix.2.1,
    hNames.eq_of_isPrefix hMore hPrefix.2.2]

end Run

end Componentry

------------------------------------------------------------
-- Files of a Run
------------------------------------------------------------

namespace Componentry

namespace Run

section

variable {before registry : Registry}
variable {source store : Store}
variable {report : RebuildReport}
variable {extensions : Extensions}
variable {request : Request}
variable {artifacts : Artifacts}
variable
  (hRebuild :
    before.rebuild source = (.ok report, registry))
  (hPlain :
    ∀ name ∈ request.typekits, Path.IsPlainName name)
  (hRun :
    (execute registry store extensions request).1 =
      .ok artifacts)

include hRebuild hPlain hRun

/-
  Every file of a run is kept by its own path and was made for
  an item with a plain name.
-/
theorem exists_item_of_run
    {key : List Path.Component}
    {artifact : Artifact}
    (hFound : artifacts.files[key]? = some artifact) :
    artifact.path.components = key ∧
      ∃ (item : Item) (files : List (Path × String)),
        item.Makes registry store extensions files ∧
          Path.IsPlainName item.name ∧
          ((item.kind = "typekits" →
              ∀ name ∈ request.typekits,
                '\x00' ∉ name.toList) →
            '\x00' ∉ item.name.toList) ∧
          (artifact.path, artifact.text) ∈ files := by
  rw [execute_eq_generate
      (Registry.isBuilt_of_rebuild hRebuild),
    generate_eq_ok_iff] at hRun
  rcases hRun with ⟨hValid, made, hMade, hAdmits, hOutput⟩
  rw [hOutput] at hFound
  rcases (getElem?_files_iff hAdmits).mp hFound with
    ⟨file, hFile, hKey, hIs⟩
  rcases List.mem_flatten.mp hFile with
    ⟨files, hFiles, hInside⟩
  rcases exists_left_of_mem hMade hFiles with
    ⟨item, hItem, hMakes⟩
  have hName :=
    Item.isPlainName_of_makes hRebuild hPlain hValid hItem
      hMakes
  have hUsable :=
    Item.not_mem_name_of_makes hRebuild hValid hItem hMakes
  rw [hIs]
  exact
    ⟨hKey, item, files, hMakes, hName, hUsable, hInside⟩

theorem isKeyed_of_run : artifacts.IsKeyed :=
  fun _ _ hFound =>
    (exists_item_of_run hRebuild hPlain hRun hFound).1

/-
  Every file is below the place of an item, and placed like
  most unless a typekit or a plugin has named it.
-/
theorem exists_place_of_run
    {artifact : Artifact}
    (hListed : artifact ∈ artifacts.list) :
    ∃ (item : Item) (names : List String),
      artifact.path.IsMadeOf
          (item.kind :: item.name :: names) ∧
        ((item.kind = "typekits" →
            (∀ plugin ∈ extensions.plugins.plugins,
                plugin.NamesFiles) ∧
              ∀ name ∈ request.typekits,
                '\x00' ∉ name.toList) →
          IsPlaced item artifact.path ∧
            artifact.path.IsFilePath) := by
  rcases Table.mem_values_iff.mp hListed with ⟨key, hFound⟩
  rcases exists_item_of_run hRebuild hPlain hRun hFound with
    ⟨hKey, item, files, hMakes, hName, hUsable, hFile⟩
  rcases Item.components_of_makes hMakes hName hFile with
    ⟨names, -, hNames⟩
  refine ⟨item, names, hNames, ?_⟩
  intro hTypekits
  have hPlaced :=
    hMakes.isPlaced hName (fun hKind => (hTypekits hKind).1)
      hFile
  exact
    ⟨hPlaced,
      hPlaced.isFilePath
        (hUsable fun hKind => (hTypekits hKind).2)⟩

theorem isOrdinary_of_run
    {artifact : Artifact}
    (hListed : artifact ∈ artifacts.list) :
    artifact.path.isOrdinary = true := by
  rcases
      exists_place_of_run hRebuild hPlain hRun hListed with
    ⟨item, names, hMade, -⟩
  exact hMade.isOrdinary (List.cons_ne_nil _ _)

theorem isNormal_of_run
    {artifact : Artifact}
    (hListed : artifact ∈ artifacts.list) :
    ∀ component ∈ artifact.path.components,
      component.isNormal = true :=
  Path.isNormal_of_isOrdinary
    (isOrdinary_of_run hRebuild hPlain hRun hListed)

/- No item is called like the manifest. -/
theorem head?_ne_of_run
    {artifact : Artifact}
    (hListed : artifact ∈ artifacts.list) :
    artifact.path.components.head? ≠
      some (.normal "manifest.json") := by
  rcases
      exists_place_of_run hRebuild hPlain hRun hListed with
    ⟨item, names, hMade, -⟩
  rw [hMade]
  cases item <;> simp [Item.kind]

/- Only typekits depend on the names that are chosen. -/
theorem apart_of_run
    {first second : Artifact}
    (hFirst : first ∈ artifacts.list)
    (hSecond : second ∈ artifacts.list)
    (hTypekits :
      first.path.components.head? =
          some (.normal "typekits") →
        (∀ plugin ∈ extensions.plugins.plugins,
            plugin.NamesFiles) ∧
          ∀ name ∈ request.typekits,
            '\x00' ∉ name.toList) :
    first.path.IsFilePath ∧
      (first.path.components <+: second.path.components →
        first.path.components = second.path.components) := by
  rcases exists_place_of_run hRebuild hPlain hRun hFirst with
    ⟨item, names, hMade, hPlaced⟩
  rcases
      exists_place_of_run hRebuild hPlain hRun hSecond with
    ⟨other, more, hOtherMade, hOtherPlaced⟩
  have hFirstPlaced :
      IsPlaced item first.path ∧ first.path.IsFilePath := by
    apply hPlaced
    intro hKind
    apply hTypekits
    rw [hMade, hKind]
    rfl
  refine ⟨hFirstPlaced.2, ?_⟩
  intro hPrefix
  -- What goes on behind a path is of the same kind.
  have hKind : item.kind = other.kind := by
    rw [hMade, hOtherMade] at hPrefix
    exact
      Path.Component.normal.inj
        (List.cons_prefix_cons.mp hPrefix).1
  apply
    hFirstPlaced.1.eq_of_isPrefix (hOtherPlaced ?_).1 hPrefix
  intro hIs
  apply hTypekits
  rw [hMade, hKind, hIs]
  rfl

end

end Run

end Componentry

------------------------------------------------------------
-- Writing a Run
------------------------------------------------------------

namespace Componentry

/-
  The files of typekits are not in the way of any others, and
  files can have their paths.
-/
def Artifacts.FitsOnDisk (artifacts : Artifacts) : Prop :=
  ∀ first ∈ artifacts.list,
    first.path.components.head? = some (.normal "typekits") →
      first.path.IsFilePath ∧
        ∀ second ∈ artifacts.list,
          first.path.components <+: second.path.components →
            first.path.components = second.path.components

instance (artifacts : Artifacts) :
    Decidable artifacts.FitsOnDisk := by
  unfold Artifacts.FitsOnDisk
  infer_instance

namespace Run

section

variable {before registry : Registry}
variable {source store : Store}
variable {report : RebuildReport}
variable {extensions : Extensions}
variable {request : Request}
variable {artifacts : Artifacts}
variable
  (hRebuild :
    before.rebuild source = (.ok report, registry))
  (hPlain :
    ∀ name ∈ request.typekits, Path.IsPlainName name)
  (hRun :
    (execute registry store extensions request).1 =
      .ok artifacts)

include hRebuild hPlain hRun

/- Plugins that name files do not get in the way. -/
theorem fitsOnDisk_of_namesFiles
    (hPlugins :
      ∀ plugin ∈ extensions.plugins.plugins,
        plugin.NamesFiles)
    (hUsable :
      ∀ name ∈ request.typekits, '\x00' ∉ name.toList) :
    artifacts.FitsOnDisk := by
  intro first hFirst hTypekit
  have hApart
      {second : Artifact}
      (hSecond : second ∈ artifacts.list) :=
    apart_of_run hRebuild hPlain hRun hFirst hSecond
      fun _ => ⟨hPlugins, hUsable⟩
  exact
    ⟨(hApart hFirst).1,
      fun second hSecond => (hApart hSecond).2⟩

omit hPlain in
/- Every requested typekit has a fragment. -/
theorem exists_fragment_of_run
    {name : String}
    (hName : name ∈ request.typekits) :
    ∃ artifact ∈ artifacts.list,
      artifact.path =
        fragmentPath ((Path.mk "typekits").join ⟨name⟩)
          "build" := by
  rw [execute_eq_generate
      (Registry.isBuilt_of_rebuild hRebuild),
    generate_eq_ok_iff] at hRun
  rcases hRun with ⟨-, made, hMade, hAdmits, hOutput⟩
  have hItem : .typekit name ∈ request.items := by
    simpa [Request.items, mem_distinct_iff] using hName
  rcases exists_right_of_mem hMade hItem with
    ⟨files, hFiles, hMakes⟩
  cases hMakes with
  | @typekit _ entity list kit hFound hList hKit =>
      generalize hPath :
          fragmentPath ((Path.mk "typekits").join ⟨name⟩)
            "build" =
            path
      have hLast :
          (path, kit.buildFragment) ∈
            typekitFiles name kit := by
        rw [← hPath]
        exact
          List.mem_append_right _ (List.mem_singleton_self _)
      refine ⟨⟨path, kit.buildFragment⟩, ?_, rfl⟩
      rw [hOutput]
      exact
        Table.mem_values_iff.mpr
          ⟨path.components,
            (getElem?_files_iff hAdmits).mpr
              ⟨_, List.mem_flatten_of_mem hFiles hLast, rfl,
                rfl⟩⟩

/- It fits only if the name of its typekit can be used. -/
theorem not_mem_of_fitsOnDisk
    {name : String}
    (hFits : artifacts.FitsOnDisk)
    (hName : name ∈ request.typekits) :
    '\x00' ∉ name.toList := by
  rcases exists_fragment_of_run hRebuild hRun hName with
    ⟨artifact, hListed, hPath⟩
  have hKind : Path.IsPlainName "typekits" := by
    constructor <;> simp
  have hMade :
      artifact.path.IsMadeOf
        ["typekits", name, "build" ++ ".fragment"] := by
    rw [hPath]
    exact
      fragmentPath_isMadeOf
        (directory_isMadeOf hKind (hPlain name hName))
        (by simp)
  have hHead :
      artifact.path.components.head? =
        some (.normal "typekits") := by
    rw [hMade]
    rfl
  have hUsable := (hFits artifact hListed hHead).1.usable
  rw [Path.isUsable_iff, hMade.moves_eq] at hUsable
  exact hUsable name (by simp)

/- Where the files of typekits fit, all files do. -/
theorem apart_of_fitsOnDisk
    {first second : Artifact}
    (hFits : artifacts.FitsOnDisk)
    (hFirst : first ∈ artifacts.list)
    (hSecond : second ∈ artifacts.list) :
    first.path.IsFilePath ∧
      (first.path.components <+: second.path.components →
        first.path.components = second.path.components) := by
  by_cases hTypekit :
      first.path.components.head? = some (.normal "typekits")
  · have hFit := hFits first hFirst hTypekit
    exact ⟨hFit.1, hFit.2 second hSecond⟩
  · exact
      apart_of_run hRebuild hPlain hRun hFirst hSecond
        fun hIs => (hTypekit hIs).elim

/- Then they can be written where there is nothing yet. -/
theorem exists_write_of_fitsOnDisk
    {tree : FileTree}
    {directory : Path}
    {above : FileTree.Place}
    (hFits : artifacts.FitsOnDisk)
    (hThere : tree.LeadsTo directory above)
    (hEmpty :
      ∀ place,
        FileTree.isBelow above place = true →
          tree.entry? place = none) :
    ∃ after,
      artifacts.write directory tree =
        (.ok artifacts.manifest, after) := by
  have hApart
      {first second : Artifact}
      (hFirst : first ∈ artifacts.list)
      (hSecond : second ∈ artifacts.list) :=
    apart_of_fitsOnDisk hRebuild hPlain hRun hFits hFirst
      hSecond
  have hFiles
      (artifact : Artifact)
      (hListed : artifact ∈ artifacts.list) :=
    (hApart hListed hListed).1
  have hAdmits
      (artifact : Artifact)
      (hMember : artifact ∈ artifacts.allFiles) :
      tree.Admits above ([] ++ artifact.path.moves) :=
    FileTree.admits_of_nothing_below hEmpty
      (Artifacts.isFilePath_of_mem_allFiles hFiles artifact
        hMember).ends.moves_ne_nil
  exact
    Artifacts.exists_write
      (isKeyed_of_run hRebuild hPlain hRun)
      (fun _ hListed =>
        isNormal_of_run hRebuild hPlain hRun hListed)
      (fun _ hListed =>
        head?_ne_of_run hRebuild hPlain hRun hListed)
      (FileTree.isSite_of_nothing_below hThere hEmpty)
      hThere.usable hFiles
      (fun first hFirst second hSecond =>
        (hApart hFirst hSecond).2)
      hAdmits

end

end Run

/- A plugin that writes a file below the typekit's fragment. -/
def Plugin.nesting : Plugin where
  name := "nesting"
  contribute := fun _ =>
    .ok [.source ⟨"build.fragment/x"⟩ ""]

end Componentry
