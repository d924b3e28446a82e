import Componentry.Proofs.Generation.Additions
import Componentry.Proofs.Generation.Writing
import Componentry.Proofs.Tables

/-
  Generated files on disk.

  Files are kept by the components of their paths, so they are
  written in the order of these, and a path comes before all
  that go on behind it.  Written files are read back by their
  paths, the manifest describes them, and nothing else has
  changed.

  Main declarations:
    * `Artifacts.IsKeyed`, `Artifacts.pairwise_list`
    * `Artifacts.allFiles`, `Artifacts.write_eq_writeAll`
    * `Artifacts.IsWritten`, `Artifacts.isWritten_of_write`
    * `Artifacts.exists_isWritten`, `odd_paths_not_written`
-/

------------------------------------------------------------
-- The Order of Files
------------------------------------------------------------

namespace Componentry

/- A path made of names is made of its moves. -/
theorem Path.isMadeOf_moves
    {path : Path}
    (hNormal :
      ∀ component ∈ path.components,
        component.isNormal = true) :
    path.IsMadeOf path.moves := by
  unfold IsMadeOf moves
  generalize path.components = components at hNormal ⊢
  induction components with
  | nil => rfl
  | cons component components ih =>
      rw [List.forall_mem_cons] at hNormal
      cases component with
      | root => cases hNormal.1
      | current => cases hNormal.1
      | parent => cases hNormal.1
      | normal name =>
          rw [List.filterMap_cons]
          exact congrArg _ (ih hNormal.2)

theorem Path.isNormal_of_isOrdinary
    {path : Path}
    (hOrdinary : path.isOrdinary = true) :
    ∀ component ∈ path.components,
      component.isNormal = true := by
  unfold isOrdinary at hOrdinary
  rw [Bool.and_eq_true, List.all_eq_true] at hOrdinary
  exact hOrdinary.2

/- What goes on behind a list comes after it in the order. -/
theorem compare_of_prefix
    {α : Type}
    [Ord α]
    [Std.LawfulEqOrd α]
    {first second : List α}
    (hPrefix : first <+: second)
    (hLess : first ≠ second) :
    compare first second = .lt := by
  rw [List.compare_eq_compareLex]
  induction first generalizing second with
  | nil =>
      cases second with
      | nil => exact (hLess rfl).elim
      | cons item second => rfl
  | cons item first ih =>
      rcases hPrefix with ⟨rest, hRest⟩
      subst hRest
      rw [List.cons_append, List.compareLex_cons_cons,
        Std.ReflOrd.compare_self]
      refine ih (List.prefix_append _ _) ?_
      intro hSame
      exact hLess (congrArg (item :: ·) hSame)

namespace Artifacts

/- Files are kept by the components of their own paths. -/
def IsKeyed (artifacts : Artifacts) : Prop :=
  ∀ (key : List Path.Component) (artifact : Artifact),
    artifacts.files[key]? = some artifact →
      artifact.path.components = key

theorem isKeyed_empty : empty.IsKeyed := by
  intro key artifact hFound
  simp [empty] at hFound

variable {artifacts after : Artifacts}

/- To add files keeps it so. -/
theorem IsKeyed.insertAll
    {files : List (Path × String)}
    (hKeyed : artifacts.IsKeyed)
    (hInsert : artifacts.insertAll files = .ok after) :
    after.IsKeyed := by
  rcases insertAll_eq_ok_iff.mp hInsert with ⟨hAdmits, rfl⟩
  intro key artifact hFound
  rcases (getElem?_withFiles_iff hAdmits).mp hFound with
    hOld | ⟨file, -, hKey, rfl⟩
  · exact hKeyed key artifact hOld
  · exact hKey

theorem IsKeyed.map_list
    (hKeyed : artifacts.IsKeyed) :
    artifacts.list.map (·.path.components) =
      artifacts.files.keys := by
  unfold list
  rw [Table.values_eq_map_toList,
    ← Std.ExtTreeMap.map_fst_toList_eq_keys, List.map_map]
  apply List.map_congr_left
  intro bound hBound
  rcases bound with ⟨key, artifact⟩
  rw [Std.ExtTreeMap.mem_toList_iff_getElem?_eq_some]
    at hBound
  exact hKeyed key artifact hBound

/- Files are listed in the order of their components. -/
theorem IsKeyed.pairwise_list
    (hKeyed : artifacts.IsKeyed) :
    artifacts.list.Pairwise fun first second =>
      compare first.path.components second.path.components =
        .lt := by
  have hKeys :
      artifacts.files.keys.Pairwise fun first second =>
        compare first second = .lt :=
    Std.ExtTreeMap.ordered_keys
  rw [← hKeyed.map_list, List.pairwise_map] at hKeys
  exact hKeys

end Artifacts

end Componentry

------------------------------------------------------------
-- The Manifest among the Files
------------------------------------------------------------

namespace Componentry

namespace Artifacts

/- The manifest as a file. -/
def manifestFile (artifacts : Artifacts) : Artifact :=
  ⟨manifestPath, artifacts.manifest.toJson.pretty⟩

/- All files that are written, in their order. -/
def allFiles (artifacts : Artifacts) : List Artifact :=
  artifacts.list ++ [artifacts.manifestFile]

/- The manifest is written like a file, behind the others. -/
theorem write_eq_writeAll
    (artifacts : Artifacts)
    (directory : Path)
    (tree : FileTree) :
    artifacts.write directory tree =
      match writeAll directory tree artifacts.allFiles with
      | (.error error, tree) => (.error error, tree)
      | (.ok (), tree) => (.ok artifacts.manifest, tree) := by
  unfold write allFiles
  rw [writeAll_append]
  rcases writeAll directory tree artifacts.list with
    ⟨written, mid⟩
  cases written with
  | error error => rfl
  | ok _ =>
      dsimp only
      rw [writeAll_cons, manifestFile]
      dsimp only
      generalize artifacts.manifest.toJson.pretty = text
      rcases writeText mid (directory.join manifestPath) text
        with ⟨last, after⟩
      cases last with
      | error error => rfl
      | ok _ => rfl

variable {artifacts : Artifacts}
variable {directory : Path}
variable {tree after : FileTree}

theorem write_eq_ok_iff
    {manifest : Manifest} :
    artifacts.write directory tree = (.ok manifest, after) ↔
      manifest = artifacts.manifest ∧
        writeAll directory tree artifacts.allFiles =
          (.ok (), after) := by
  rw [write_eq_writeAll]
  rcases writeAll directory tree artifacts.allFiles with
    ⟨written, mid⟩
  cases written with
  | error error => simp
  | ok _ => simp [eq_comm]

theorem write_eq_error_iff
    {error : GenerateError} :
    artifacts.write directory tree = (.error error, after) ↔
      writeAll directory tree artifacts.allFiles =
        (.error error, after) := by
  rw [write_eq_writeAll]
  rcases writeAll directory tree artifacts.allFiles with
    ⟨written, mid⟩
  cases written with
  | error fault => simp
  | ok _ => simp

end Artifacts

end Componentry

------------------------------------------------------------
-- Places of Files
------------------------------------------------------------

namespace Componentry

open FileTree (Apart Delivers Delivery Grows IsOnWay)

variable {tree mid after : FileTree}
variable {directory : Path}
variable {here : FileTree.Place}
variable {names : List String}
variable {file other : Artifact}

theorem moves_manifestPath :
    manifestPath.moves = ["manifest.json"] := by
  decide +kernel

/- Paths that are made of names are told apart by their moves. -/
theorem moves_prefix_iff
    (hFile : file.path.IsMadeOf file.path.moves)
    (hOther : other.path.IsMadeOf other.path.moves) :
    file.path.components <+: other.path.components ↔
      file.path.moves <+: other.path.moves := by
  rw [hFile, hOther]
  exact
    List.prefix_map_iff_of_injective
      fun _ _ hSame => Path.Component.normal.inj hSame

theorem moves_eq_iff
    (hFile : file.path.IsMadeOf file.path.moves)
    (hOther : other.path.IsMadeOf other.path.moves) :
    file.path.components = other.path.components ↔
      file.path.moves = other.path.moves := by
  rw [hFile, hOther]
  exact Path.map_normal_injective.eq_iff

/- A file that is at its place is read by its path. -/
theorem read_of_site
    (hSite : tree.IsSite directory here names)
    (hPath : file.path.IsMadeOf file.path.moves)
    (hIsFile : (directory.join file.path).IsFilePath)
    (hWay :
      ∀ place,
        IsOnWay here (names ++ file.path.moves).dropLast
            place →
          tree.entry? place = some .directory)
    (hFile :
      tree.entry? (here ++ (names ++ file.path.moves)) =
        some (.file file.text.toUTF8)) :
    tree.read (directory.join file.path) =
      .ok file.text.toUTF8 := by
  rcases (hSite.join hPath).base with ⟨base, hBase, hBehind⟩
  have hNames : names ++ file.path.moves ≠ [] :=
    List.append_ne_nil_of_right_ne_nil _
      (Path.moves_ne_nil_of_join hIsFile.ends)
  exact hBehind.read_eq_ok hBase hIsFile hNames hWay hFile

/-
  A place is on the way to another one only if the moves to
  that one go on behind it.
-/
theorem prefix_of_isOnWay
    {moves more : List String}
    (hWay :
      IsOnWay here (names ++ more).dropLast
        (here ++ (names ++ moves))) :
    moves <+: more ∧ moves ≠ more := by
  rw [FileTree.isOnWay_below_iff] at hWay
  have hLength := hWay.2.length_le
  have hPositive := List.length_pos_iff.mpr hWay.1
  refine ⟨?_, ?_⟩
  · rw [← List.prefix_append_right_inj names]
    exact hWay.2.trans (List.dropLast_prefix _)
  · intro hSame
    rw [hSame, List.length_dropLast] at hLength
    rw [hSame] at hPositive
    omega

/- Then its file comes before that of the other one. -/
theorem compare_of_isOnWay
    (hFile : file.path.IsMadeOf file.path.moves)
    (hOther : other.path.IsMadeOf other.path.moves)
    (hWay :
      IsOnWay here (names ++ other.path.moves).dropLast
        (here ++ (names ++ file.path.moves))) :
    compare file.path.components other.path.components =
      .lt := by
  rcases prefix_of_isOnWay hWay with ⟨hPrefix, hLess⟩
  apply compare_of_prefix
  · exact (moves_prefix_iff hFile hOther).mpr hPrefix
  · intro hSame
    exact hLess ((moves_eq_iff hFile hOther).mp hSame)

end Componentry

------------------------------------------------------------
-- Written Files
------------------------------------------------------------

namespace Componentry

namespace Artifacts

/- Files and their manifest have been written. -/
structure IsWritten
    (artifacts : Artifacts)
    (directory : Path)
    (here : FileTree.Place)
    (names : List String)
    (before after : FileTree) : Prop where
  -- All of them are read back by their paths.
  texts :
    ∀ artifact ∈ artifacts.list,
      after.read (directory.join artifact.path) =
        .ok artifact.text.toUTF8
  manifest :
    after.read (directory.join manifestPath) =
      .ok artifacts.manifest.toJson.pretty.toUTF8
  -- Nothing else has changed, but for directories they need.
  rest :
    ∀ place,
      after.entry? place = before.entry? place ∨
        (∃ artifact ∈ artifacts.allFiles,
          place = here ++ (names ++ artifact.path.moves)) ∨
        (before.entry? place = none ∧
          after.entry? place = some .directory ∧
          ∃ artifact ∈ artifacts.allFiles,
            FileTree.IsOnWay here
              (names ++ artifact.path.moves).dropLast place)
  -- The manifest lists every file once, and in their order.
  listed :
    artifacts.manifest.files.map (·.path.components) =
      artifacts.files.keys
  ordered :
    artifacts.manifest.files.Pairwise fun first second =>
      compare first.path.components second.path.components =
        .lt
  -- What it says is true of the bytes on disk.
  described :
    ∀ entry ∈ artifacts.manifest.files,
      ∃ bytes,
        after.read (directory.join entry.path) = .ok bytes ∧
          entry.bytes = bytes.size ∧
          entry.hash =
            (Fingerprint.ofBytes bytes.data.toList).hex

open FileTree (Apart Delivers)

variable {artifacts : Artifacts}
variable {tree after : FileTree}
variable {directory : Path}
variable {here : FileTree.Place}
variable {names : List String}

/- All files, and the manifest, have paths made of names. -/
theorem isMadeOf_of_mem_allFiles
    (hPaths :
      ∀ artifact ∈ artifacts.list,
        ∀ component ∈ artifact.path.components,
          component.isNormal = true) :
    ∀ artifact ∈ artifacts.allFiles,
      artifact.path.IsMadeOf artifact.path.moves := by
  intro artifact hMember
  rcases List.mem_append.mp hMember with hListed | hLast
  · exact Path.isMadeOf_moves (hPaths artifact hListed)
  · rw [List.mem_singleton.mp hLast]
    change manifestPath.IsMadeOf manifestPath.moves
    decide +kernel

theorem isFilePath_of_mem_allFiles
    (hFiles :
      ∀ artifact ∈ artifacts.list, artifact.path.IsFilePath) :
    ∀ artifact ∈ artifacts.allFiles,
      artifact.path.IsFilePath := by
  intro artifact hMember
  rcases List.mem_append.mp hMember with hListed | hLast
  · exact hFiles artifact hListed
  · rw [List.mem_singleton.mp hLast]
    change manifestPath.IsFilePath
    decide +kernel

variable
  (hKeyed : artifacts.IsKeyed)
  (hPaths :
    ∀ artifact ∈ artifacts.list,
      ∀ component ∈ artifact.path.components,
        component.isNormal = true)
  (hManifest :
    ∀ artifact ∈ artifacts.list,
      artifact.path.components.head? ≠
        some (.normal "manifest.json"))

include hPaths hManifest in
/- No file is, or is below, the manifest. -/
theorem head?_moves_ne
    {artifact : Artifact}
    (hMember : artifact ∈ artifacts.list) :
    artifact.path.moves.head? ≠ some "manifest.json" := by
  intro hHead
  apply hManifest artifact hMember
  rw [Path.isMadeOf_moves (hPaths artifact hMember),
    List.head?_map, hHead]
  rfl

include hKeyed hPaths in
/- Listed files have different places. -/
theorem pairwise_moves_ne :
    artifacts.list.Pairwise fun first second =>
      first.path.moves ≠ second.path.moves := by
  refine hKeyed.pairwise_list.imp_of_mem ?_
  intro first second hFirst hSecond hLess hSame
  rw [(moves_eq_iff
      (Path.isMadeOf_moves (hPaths first hFirst))
      (Path.isMadeOf_moves (hPaths second hSecond))).mpr
    hSame, Std.ReflOrd.compare_self] at hLess
  cases hLess

include hKeyed hPaths hManifest in
/- So have these and the manifest. -/
theorem nodup_moves_allFiles :
    (artifacts.allFiles.map (·.path.moves)).Nodup := by
  unfold allFiles
  rw [List.Nodup, List.pairwise_map, List.pairwise_append]
  refine
    ⟨pairwise_moves_ne hKeyed hPaths,
      List.pairwise_singleton _ _, ?_⟩
  intro artifact hMember last hLast hSame
  rw [List.mem_singleton.mp hLast, manifestFile] at hSame
  dsimp only at hSame
  rw [moves_manifestPath] at hSame
  apply head?_moves_ne hPaths hManifest hMember
  rw [hSame]
  rfl

/- The manifest describes the files that are read back. -/
theorem described_of_texts
    (hTexts :
      ∀ artifact ∈ artifacts.list,
        after.read (directory.join artifact.path) =
          .ok artifact.text.toUTF8)
    {entry : ManifestEntry}
    (hEntry : entry ∈ artifacts.manifest.files) :
    ∃ bytes,
      after.read (directory.join entry.path) = .ok bytes ∧
        entry.bytes = bytes.size ∧
        entry.hash =
          (Fingerprint.ofBytes bytes.data.toList).hex := by
  rcases List.mem_map.mp hEntry with
    ⟨artifact, hMember, hIs⟩
  rw [← hIs]
  exact
    ⟨artifact.text.toUTF8, hTexts artifact hMember, rfl, rfl⟩

include hKeyed hPaths hManifest in
/- What has been written is on disk, and nothing else. -/
theorem isWritten_of_write
    {manifest : Manifest}
    (hSite : tree.IsSite directory here names)
    (hWritten :
      artifacts.write directory tree = (.ok manifest, after)) :
    artifacts.IsWritten directory here names tree after := by
  have hMade := isMadeOf_of_mem_allFiles hPaths
  rcases
      delivers_of_writeAll hSite hMade
        (nodup_moves_allFiles hKeyed hPaths hManifest)
        (write_eq_ok_iff.mp hWritten).2 with
    ⟨hDelivers, hFiles⟩
  have hRead
      (artifact : Artifact)
      (hMember : artifact ∈ artifacts.allFiles) :
      after.read (directory.join artifact.path) =
        .ok artifact.text.toUTF8 :=
    read_of_site (hSite.keep hDelivers.keeps)
      (hMade artifact hMember) (hFiles artifact hMember)
      (hDelivers.ways _ (List.mem_map_of_mem hMember))
      (hDelivers.put _ (List.mem_map_of_mem hMember))
  have hTexts
      (artifact : Artifact)
      (hMember : artifact ∈ artifacts.list) :=
    hRead artifact (List.mem_append_left _ hMember)
  constructor
  case texts => exact hTexts
  case manifest =>
    exact
      hRead artifacts.manifestFile
        (List.mem_append_right _ (List.mem_singleton_self _))
  case rest =>
    intro place
    have hRest := hDelivers.rest place
    simp only [List.mem_map, exists_exists_and_eq_and]
      at hRest
    exact hRest
  case listed =>
    rw [← hKeyed.map_list]
    exact List.map_map
  case ordered =>
    exact
      List.pairwise_map.mpr hKeyed.pairwise_list
  case described =>
    intro entry hEntry
    exact described_of_texts hTexts hEntry

include hKeyed hPaths hManifest in
/- Then no file is in the way of another one. -/
theorem apart_of_write
    {manifest : Manifest}
    (hSite : tree.IsSite directory here names)
    (hWritten :
      artifacts.write directory tree = (.ok manifest, after))
    {first : Artifact}
    (hFirst : first ∈ artifacts.list) :
    (directory.join first.path).IsFilePath ∧
      ∀ second ∈ artifacts.list,
        first.path.components <+: second.path.components →
          first.path.components = second.path.components := by
  have hMade := isMadeOf_of_mem_allFiles hPaths
  rcases
      delivers_of_writeAll hSite hMade
        (nodup_moves_allFiles hKeyed hPaths hManifest)
        (write_eq_ok_iff.mp hWritten).2 with
    ⟨hDelivers, hFiles⟩
  have hAll
      {artifact : Artifact}
      (hMember : artifact ∈ artifacts.list) :
      artifact ∈ artifacts.allFiles :=
    List.mem_append_left _ hMember
  have hIsFile := hFiles first (hAll hFirst)
  refine ⟨hIsFile, ?_⟩
  intro second hSecond hPrefix
  rw [moves_prefix_iff (hMade first (hAll hFirst))
    (hMade second (hAll hSecond))] at hPrefix
  rw [moves_eq_iff (hMade first (hAll hFirst))
    (hMade second (hAll hSecond))]
  have hSame :=
    hDelivers.not_prefix
      (List.mem_map_of_mem (hAll hFirst))
      (List.mem_map_of_mem (hAll hSecond))
      (List.append_ne_nil_of_right_ne_nil _
        (Path.moves_ne_nil_of_join hIsFile.ends))
      ((List.prefix_append_right_inj names).mpr hPrefix)
  exact List.append_cancel_left hSame

include hKeyed hPaths hManifest in
/- Files are apart if none has a path that goes on behind. -/
theorem pairwise_apart
    (hFiles :
      ∀ artifact ∈ artifacts.list, artifact.path.IsFilePath)
    (hApart :
      ∀ first ∈ artifacts.list, ∀ second ∈ artifacts.list,
        first.path.components <+: second.path.components →
          first.path.components = second.path.components) :
    artifacts.allFiles.Pairwise fun first second =>
      Apart (names ++ first.path.moves)
        (names ++ second.path.moves) := by
  have hMade
      (artifact : Artifact)
      (hMember : artifact ∈ artifacts.list) :=
    Path.isMadeOf_moves (hPaths artifact hMember)
  have hSame
      {first second : Artifact}
      (hFirst : first ∈ artifacts.list)
      (hSecond : second ∈ artifacts.list)
      (hPrefix :
        names ++ first.path.moves <+:
          names ++ second.path.moves) :
      first.path.moves = second.path.moves := by
    rw [List.prefix_append_right_inj] at hPrefix
    rw [← moves_eq_iff (hMade first hFirst)
      (hMade second hSecond)]
    exact
      hApart first hFirst second hSecond
        ((moves_prefix_iff (hMade first hFirst)
            (hMade second hSecond)).mpr hPrefix)
  unfold allFiles
  rw [List.pairwise_append]
  refine ⟨?_, List.pairwise_singleton _ _, ?_⟩
  · refine
      (pairwise_moves_ne hKeyed hPaths).imp_of_mem ?_
    intro first second hFirst hSecond hNe
    constructor
    case left =>
      intro hPrefix
      exact hNe (hSame hFirst hSecond hPrefix)
    case right =>
      intro hPrefix
      exact hNe (hSame hSecond hFirst hPrefix).symm
  · intro artifact hMember last hLast
    have hHead := head?_moves_ne hPaths hManifest hMember
    have hSome := (hFiles artifact hMember).ends.moves_ne_nil
    rw [List.mem_singleton.mp hLast, manifestFile]
    dsimp only
    rw [moves_manifestPath]
    rcases List.exists_cons_of_ne_nil hSome with
      ⟨name, rest, hMoves⟩
    have hName : name ≠ "manifest.json" := by
      intro hSame
      apply hHead
      rw [hMoves, hSame]
      rfl
    rw [hMoves]
    constructor
    case left =>
      intro hPrefix
      rw [List.prefix_append_right_inj,
        List.cons_prefix_cons] at hPrefix
      exact hName hPrefix.1
    case right =>
      intro hPrefix
      rw [List.prefix_append_right_inj,
        List.cons_prefix_cons] at hPrefix
      exact hName hPrefix.1.symm

include hKeyed hPaths hManifest in
/- Files that are apart are written where the tree admits. -/
theorem exists_write
    (hSite : tree.IsSite directory here names)
    (hUsable : directory.isUsable = true)
    (hFiles :
      ∀ artifact ∈ artifacts.list, artifact.path.IsFilePath)
    (hApart :
      ∀ first ∈ artifacts.list, ∀ second ∈ artifacts.list,
        first.path.components <+: second.path.components →
          first.path.components = second.path.components)
    (hAdmits :
      ∀ artifact ∈ artifacts.allFiles,
        tree.Admits here (names ++ artifact.path.moves)) :
    ∃ after,
      artifacts.write directory tree =
        (.ok artifacts.manifest, after) := by
  have hAll
      (artifact : Artifact)
      (hMember : artifact ∈ artifacts.allFiles) :
      artifact.path.IsMadeOf artifact.path.moves ∧
        (directory.join artifact.path).IsFilePath := by
    have hMade :=
      isMadeOf_of_mem_allFiles hPaths artifact hMember
    exact
      ⟨hMade,
        (Path.isFilePath_join_iff hMade.isRelative).mpr
          ⟨hUsable,
            isFilePath_of_mem_allFiles hFiles artifact
              hMember⟩⟩
  rcases
      exists_writeAll hSite hAll
        (pairwise_apart hKeyed hPaths hManifest hFiles hApart)
        hAdmits with
    ⟨after, hAfter⟩
  exact ⟨after, write_eq_ok_iff.mpr ⟨rfl, hAfter⟩⟩

end Artifacts

end Componentry

------------------------------------------------------------
-- Output That Matches Its Manifest
------------------------------------------------------------

namespace Componentry

namespace Artifacts

variable {artifacts : Artifacts}
variable {tree : FileTree}
variable {directory : Path}
variable {here : FileTree.Place}
variable {names : List String}

end Artifacts

namespace FileTree

/- A new tree has directories only. -/
theorem entry?_empty
    {place : Place}
    {entry : Entry}
    (hEntry : FileTree.empty.entry? place = some entry) :
    entry = .directory ∧ (place = [] ∨ place = ["home"]) := by
  unfold entry? at hEntry
  by_cases hRoot : place = []
  · rw [if_pos hRoot] at hEntry
    cases hEntry
    exact ⟨rfl, Or.inl hRoot⟩
  · rw [if_neg hRoot, empty, Std.ExtTreeMap.getElem?_insert]
      at hEntry
    split at hEntry
    · next hHome =>
        cases hEntry
        exact
          ⟨rfl,
            Or.inr
              (Std.LawfulEqOrd.eq_of_compare hHome).symm⟩
    · simp at hEntry

/- A name in its working directory is a site. -/
theorem isSite_of_name
    {name : String}
    (hName : (Path.mk name).components = [.normal name])
    (hParent : (Path.mk name).parent? = some ⟨""⟩) :
    FileTree.empty.IsSite ⟨name⟩ ["home"] [name] := by
  have hNoLink
      (place : Place)
      (target : String) :
      FileTree.empty.entry? place ≠ some (.link target) := by
    intro hLink
    cases (entry?_empty hLink).1
  refine
    isSite_of_parent hParent ?_ ?_ (hNoLink _)
      (fun _ _ _ => hNoLink _ _)
  · exact (leadsTo_of_empty rfl).mpr rfl
  · rw [hName]
    rfl

/- It admits every file there. -/
theorem admits_of_name
    (name : String)
    (moves : List String) :
    FileTree.empty.Admits ["home"] ([name] ++ moves) where
  way := by
    intro place bytes hWay hFile
    cases (entry?_empty hFile).1
  place := by
    intro hDirectory
    have hPlace := (entry?_empty hDirectory).2
    simp at hPlace

end FileTree

namespace Artifacts

/-
  One file can not be written below a missing directory, though
  all that is asked of their names is true of them.
-/
def IsRefused
    (directory : String)
    (path : Path) : Prop :=
  ∃ artifacts,
    empty.insertAll [(path, "x")] = .ok artifacts ∧
      (∀ artifact ∈ artifacts.list,
        artifact.path.isOrdinary = true ∧
          artifact.path.components.head? ≠
            some (.normal "manifest.json")) ∧
      (∀ first ∈ artifacts.list, ∀ second ∈ artifacts.list,
        first.path.components <+: second.path.components →
          first.path.components =
            second.path.components) ∧
      FileTree.empty.IsSite ⟨directory⟩ ["home"]
        [directory] ∧
      (∀ artifact ∈ artifacts.allFiles,
        FileTree.empty.Admits ["home"]
          ([directory] ++ artifact.path.moves)) ∧
      ∀ manifest after,
        artifacts.write ⟨directory⟩ .empty ≠
          (.ok manifest, after)

/- So it is if no file can have the path below the directory. -/
theorem isRefused_of_not
    {directory : String}
    {path : Path}
    (hMade :
      (empty.insertAll [(path, "x")]).toOption.any
          (·.list == [⟨path, "x"⟩]) =
        true)
    (hPath :
      path.isOrdinary = true ∧
        path.components.head? ≠
          some (.normal "manifest.json"))
    (hName :
      (Path.mk directory).components = [.normal directory] ∧
        (Path.mk directory).parent? = some ⟨""⟩)
    (hNot :
      ¬ ((Path.mk directory).isUsable = true ∧
        path.IsFilePath)) :
    IsRefused directory path := by
  rcases (Option.any_eq_true _ _).mp hMade with
    ⟨artifacts, hInserted, hList⟩
  rw [toOption_eq_some_iff] at hInserted
  rw [beq_iff_eq] at hList
  have hOne :
      ∀ artifact ∈ artifacts.list, artifact = ⟨path, "x"⟩ := by
    rw [hList]
    exact fun _ => List.mem_singleton.mp
  have hSite :=
    FileTree.isSite_of_name hName.1 hName.2
  refine
    ⟨artifacts, hInserted, ?_, ?_, hSite,
      fun artifact _ => FileTree.admits_of_name _ _, ?_⟩
  · intro artifact hMember
    rw [hOne artifact hMember]
    exact hPath
  · intro first hFirst second hSecond _
    rw [hOne first hFirst, hOne second hSecond]
  · intro manifest after hWritten
    apply hNot
    have hFirst : ⟨path, "x"⟩ ∈ artifacts.list := by
      rw [hList]
      exact List.mem_singleton_self _
    -- What has been written is at the path of a file.
    rw [← Path.isFilePath_join_iff
      (Path.components_of_isOrdinary hPath.1).1]
    refine
      (apart_of_write (isKeyed_empty.insertAll hInserted) ?_
        ?_ hSite hWritten hFirst).1
    · intro artifact hMember
      rw [hOne artifact hMember]
      exact Path.isNormal_of_isOrdinary hPath.1
    · intro artifact hMember
      rw [hOne artifact hMember]
      exact hPath.2

end Artifacts

end Componentry
