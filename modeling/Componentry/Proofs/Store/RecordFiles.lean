import Componentry.Proofs.Answers
import Componentry.Proofs.Paths
import Componentry.Proofs.Text.Runs
import Componentry.Store.Directory

/-
  Record files.

  A directory holds a record if directly inside it is the file
  of the record, or a link that leads to a file.  What a search
  finds in a directory are the records that it holds.

  Main declarations:
    * `DirectoryStore.recordName?_eq_some_iff`
    * `FileTree.HasPlainNames`, `FileTree.mem_children_iff`
    * `DirectoryStore.holdsRecord`
    * `DirectoryStore.mem_searchDirectory_iff`
-/

------------------------------------------------------------
-- Names of Record Files
------------------------------------------------------------

namespace Componentry

/- A plain name is the last name of its own path. -/
theorem Path.IsPlainName.fileName?
    {name : String}
    (hName : IsPlainName name) :
    (Path.mk name).fileName? = some name := by
  have hOther
      {other : String}
      (hOther : name ≠ other) :
      name.toList ≠ other.toList := by
    rwa [ne_eq, String.toList_inj]
  have hRelative : (Path.mk name).isAbsolute = false :=
    (components_of_isOrdinary
      (hName.isMadeOf.isOrdinary (by simp))).1
  have hPieces :
      Text.pieces (· == '/') name.toList =
        [name.toList] :=
    Text.pieces_of_not_mem hName.no_slash
  have hEmpty : name.toList ≠ [] := hOther hName.not_empty
  have hCurrent : name.toList ≠ ['.'] :=
    hOther hName.not_current
  have hParent : name.toList ≠ ['.', '.'] :=
    hOther hName.not_parent
  unfold Path.fileName? body Path.pieces
  simp [hRelative, hPieces, cutIdle, hEmpty, hCurrent,
    hParent]

/- An extension stands behind the last dot of a name. -/
theorem Path.cutExtension_eq_iff
    {name stem extension : List Char}
    (hExtension : ∀ c ∈ extension, (c == '.') = false) :
    cutExtension name = (stem, some extension) ↔
      stem ≠ [] ∧ name = stem ++ '.' :: extension := by
  constructor
  · intro hCut
    unfold cutExtension at hCut
    split at hCut
    · next c before separator after hLast =>
        cases hCut
        rcases Text.cutLast_eq_some_iff.mp hLast with
          ⟨hName, hSeparator, -⟩
        rw [beq_iff_eq] at hSeparator
        rw [hSeparator] at hName
        exact ⟨List.cons_ne_nil _ _, hName⟩
    · cases hCut
  · intro hName
    rcases hName with ⟨hStem, hName⟩
    rcases List.exists_cons_of_ne_nil hStem with
      ⟨c, before, hBefore⟩
    subst hBefore
    unfold cutExtension
    rw [hName, Text.cutLast_append rfl hExtension]

namespace DirectoryStore

/- The name of the file of a record. -/
def recordFile (name : String) : String :=
  name ++ ".pc"

/-
  A file stands for a record if it is the file of the record,
  and the record has a name.  What is called `.pc` only has no
  extension.
-/
theorem recordName?_eq_some_iff
    {child name : String}
    (hChild : Path.IsPlainName child) :
    recordName? child = some name ↔
      name ≠ "" ∧ child = recordFile name := by
  have hEmpty : name ≠ "" ↔ name.toList ≠ [] := by
    rw [ne_eq, ne_eq, String.toList_eq_nil_iff]
  have hFile :
      child = recordFile name ↔
        child.toList = name.toList ++ '.' :: ['p', 'c'] := by
    rw [← String.toList_inj, recordFile,
      String.toList_append]
    rfl
  rw [hEmpty, hFile, ← Path.cutExtension_eq_iff (by simp)]
  unfold recordName? Path.extension? Path.fileStem?
  dsimp only
  rw [hChild.fileName?]
  rcases hCut : Path.cutExtension child.toList with
    ⟨stem, extension⟩
  have hStem :
      String.ofList stem = name ↔ stem = name.toList := by
    rw [← String.toList_inj, String.toList_ofList]
  have hExtension (other : List Char) :
      String.ofList other = descriptorExtension ↔
        other = ['p', 'c'] := by
    rw [← String.toList_inj, String.toList_ofList]
    rfl
  simp only [Option.bind_some, Option.map_some,
    Option.ite_none_right_eq_some, Option.some.injEq,
    Prod.mk.injEq, hCut, hStem]
  rw [and_comm, Option.map_eq_some_iff]
  simp [hExtension]

end DirectoryStore

end Componentry

------------------------------------------------------------
-- Children
------------------------------------------------------------

namespace Componentry

namespace FileTree

/-
  The names in a tree are names that entries can have: they
  are not empty, have no slashes and are no dots.
-/
def HasPlainNames (tree : FileTree) : Prop :=
  ∀ (place : Place) (entry : Entry),
    tree.entries[place]? = some entry →
      ∀ name ∈ place, Path.IsPlainName name

instance (tree : FileTree) : Decidable tree.HasPlainNames :=
  decidable_of_iff
    (∀ bound ∈ tree.entries.toList,
      ∀ name ∈ bound.1, Path.IsPlainName name)
    (by
      simp only [HasPlainNames, Prod.forall,
        Std.ExtTreeMap.mem_toList_iff_getElem?_eq_some])

variable {tree : FileTree}
variable {above : Place}
variable {child : String}
variable {entry : Entry}

/- The children of a directory are what is one name below. -/
theorem mem_children_iff :
    (child, entry) ∈ tree.children above ↔
      tree.entry? (above ++ [child]) = some entry := by
  have hEntry :
      tree.entry? (above ++ [child]) =
        tree.entries[above ++ [child]]? :=
    if_neg (by simp)
  unfold children
  rw [hEntry]
  simp only [List.mem_filterMap, Prod.exists,
    Std.ExtTreeMap.mem_toList_iff_getElem?_eq_some]
  constructor
  · intro hChild
    rcases hChild with ⟨place, other, hFound, hHere⟩
    split at hHere
    · next hBelow =>
        rw [isBelow, Bool.and_eq_true,
          List.isPrefixOf_iff_prefix] at hBelow
        rcases hBelow.1 with ⟨names, hPlace⟩
        subst hPlace
        rw [List.drop_left] at hHere
        split at hHere
        · cases hHere
          exact hFound
        · cases hHere
    · cases hHere
  · intro hFound
    refine ⟨above ++ [child], entry, hFound, ?_⟩
    rw [if_pos (by simp [isBelow, List.isPrefixOf_iff_prefix]),
      List.drop_left]

theorem HasPlainNames.of_mem_children
    (hPlain : tree.HasPlainNames)
    (hChild : (child, entry) ∈ tree.children above) :
    Path.IsPlainName child := by
  rw [mem_children_iff, entry?, if_neg (by simp)] at hChild
  exact hPlain _ _ hChild child (by simp)

end FileTree

end Componentry

------------------------------------------------------------
-- Directories That Hold Records
------------------------------------------------------------

namespace Componentry

namespace DirectoryStore

/- Does a path lead to a file? -/
def leadsToFile
    (tree : FileTree)
    (path : Path) :
    Bool :=
  match tree.locate true path with
  | .ok (.file _ _) => true
  | _ => false

/-
  Does a directory hold a file?  Directly inside it is a file
  of that name, or a link that leads to a file.
-/
def holdsFile
    (tree : FileTree)
    (directory : Path)
    (file : String) :
    Bool :=
  match tree.directory? directory with
  | none => false
  | some above =>
      match tree.entry? (above ++ [file]) with
      | none => false
      | some .directory => false
      | some (.file _) => true
      | some (.link _) =>
          leadsToFile tree (directory.join ⟨file⟩)

/- Does a directory hold the file of a record? -/
def holdsRecord
    (tree : FileTree)
    (directory : Path)
    (name : String) :
    Bool :=
  name != "" && holdsFile tree directory (recordFile name)

/- The path of the file of a record. -/
def recordPath
    (directory : Path)
    (name : String) :
    Path :=
  directory.join ⟨recordFile name⟩

variable {tree : FileTree}
variable {directory path : Path}
variable {above : FileTree.Place}
variable {child name : String}
variable {entry : FileTree.Entry}
variable {found : List (String × Path)}

/- The children that count as files are those held. -/
theorem isFile_eq_ok_iff
    (hDirectory : tree.directory? directory = some above)
    (hEntry : tree.entry? (above ++ [child]) = some entry) :
    isFile tree above (directory.join ⟨child⟩) entry =
        .ok true ↔
      holdsFile tree directory child = true := by
  unfold holdsFile isFile leadsToFile
  simp only [hDirectory, hEntry]
  cases entry with
  | file bytes => simp
  | directory => simp
  | link text =>
      cases tree.locate true (directory.join ⟨child⟩) with
      | error fault => cases fault <;> simp
      | ok target =>
          cases target with
          | file place bytes => simp
          | directory place =>
              by_cases hBack : place = above
              · simp [hBack]
              · simp [hBack]
          | link place => simp
          | absent place => simp

theorem recordOf_eq_ok_iff
    (hPlain : Path.IsPlainName child)
    (hDirectory : tree.directory? directory = some above)
    (hEntry : tree.entry? (above ++ [child]) = some entry) :
    recordOf tree directory above (child, entry) =
        .ok (some (name, path)) ↔
      child = recordFile name ∧
        holdsRecord tree directory name = true ∧
        path = recordPath directory name := by
  have hFile := isFile_eq_ok_iff hDirectory hEntry
  have hName :
      recordName? child = some name ↔
        name ≠ "" ∧ child = recordFile name :=
    recordName?_eq_some_iff hPlain
  unfold recordOf holdsRecord recordPath
  rw [Bool.and_eq_true, bne_iff_ne]
  dsimp only
  constructor
  · intro hRecord
    split at hRecord
    · cases hRecord
    · cases hRecord
    · next hIs =>
        simp only [Except.ok.injEq, Option.map_eq_some_iff,
          Prod.mk.injEq] at hRecord
        rcases hRecord with ⟨other, hOther, hSame, hPath⟩
        subst hSame
        rcases hName.mp hOther with ⟨hSome, hChild⟩
        subst hChild
        exact ⟨rfl, ⟨hSome, hFile.mp hIs⟩, hPath.symm⟩
  · intro hRecord
    rcases hRecord with ⟨hChild, ⟨hSome, hHolds⟩, hPath⟩
    have hIs := hFile.mpr (hChild ▸ hHolds)
    rw [hIs, hName.mpr ⟨hSome, hChild⟩, hPath, hChild]
    rfl

/- A search of a directory finds the records that it holds. -/
theorem mem_searchDirectory_iff
    (hPlain : tree.HasPlainNames)
    (hSearch : searchDirectory tree directory = .ok found) :
    (name, path) ∈ found ↔
      holdsRecord tree directory name = true ∧
        path = recordPath directory name := by
  unfold searchDirectory at hSearch
  split at hSearch
  · next hNone =>
      cases hSearch
      simp [holdsRecord, holdsFile, hNone]
  · next above hAbove =>
      rw [bind_eq_ok_iff] at hSearch
      rcases hSearch with ⟨records, hRecords, hFound⟩
      cases hFound
      rw [List.mem_filterMap]
      simp only [id_eq, exists_eq_right]
      rw [mem_of_mapM_eq_ok hRecords]
      constructor
      · intro hChild
        rcases hChild with ⟨⟨child, entry⟩, hChild, hRecord⟩
        exact
          ((recordOf_eq_ok_iff (hPlain.of_mem_children hChild)
            hAbove (FileTree.mem_children_iff.mp hChild)).mp
              hRecord).2
      · intro hHolds
        have hHeld := hHolds.1
        rw [holdsRecord, Bool.and_eq_true] at hHeld
        cases hEntry :
            tree.entry? (above ++ [recordFile name]) with
        | none =>
            simp [holdsFile, hAbove, hEntry] at hHeld
        | some entry =>
            have hChild := FileTree.mem_children_iff.mpr hEntry
            exact
              ⟨_, hChild,
                (recordOf_eq_ok_iff
                  (hPlain.of_mem_children hChild) hAbove
                  hEntry).mpr ⟨rfl, hHolds⟩⟩

end DirectoryStore

end Componentry
