import Mathlib.Data.List.Find
import Componentry.Proofs.Store.RecordFiles
import Componentry.Proofs.Tables

/-
  What a search finds.

  A search finds every record that some directory holds, in
  the earliest directory that holds it, and nothing else.
  Directories that do not exist do not matter, and nor does
  what stands for no record.

  Main declarations:
    * `DirectoryStore.getElem?_search`
    * `DirectoryStore.mem_recordNames_iff`
    * `DirectoryStore.pairwise_recordNames`
    * `DirectoryStore.SameRecords`
    * `DirectoryStore.exists_load_of_mem`
    * `DirectoryStore.view_filter_isDirectory`
-/

------------------------------------------------------------
-- Searching
------------------------------------------------------------

namespace Componentry

namespace DirectoryStore

variable {tree : FileTree}
variable {directory : Path}
variable {directories : List Path}
variable {index after : Index}
variable {records : List (String × Path)}

/- What is found stays; of what is new the first is added. -/
theorem getElem?_addNew
    (index : Index)
    (records : List (String × Path))
    (name : String) :
    (addNew index records)[name]? =
      (index[name]?).or
        ((records.find? (·.1 == name)).map (·.2)) := by
  unfold addNew
  induction records generalizing index with
  | nil => simp
  | cons record records ih =>
      rw [List.foldl_cons, ih, ByName.getElem?_insertIfNew,
        Option.or_assoc]
      by_cases hName : record.1 = name
      · rw [if_pos hName,
          List.find?_cons_of_pos (by simp [hName])]
        rfl
      · rw [if_neg hName,
          List.find?_cons_of_neg (by simp [hName]),
          Option.none_or]

/- A directory adds the records that it holds. -/
theorem getElem?_addNew_of_search
    (hPlain : tree.HasPlainNames)
    (hSearch : searchDirectory tree directory = .ok records)
    (name : String) :
    (addNew index records)[name]? =
      (index[name]?).or
        (if holdsRecord tree directory name then
          some (recordPath directory name)
        else none) := by
  rw [getElem?_addNew]
  apply congrArg
  cases hFirst : records.find? (·.1 == name) with
  | none =>
      rw [List.find?_eq_none] at hFirst
      have hNone :
          ¬ holdsRecord tree directory name = true := by
        intro hHolds
        exact
          hFirst (name, recordPath directory name)
            ((mem_searchDirectory_iff hPlain hSearch).mpr
              ⟨hHolds, rfl⟩)
            (beq_self_eq_true name)
      rw [if_neg hNone]
      rfl
  | some record =>
      have hMember := List.mem_of_find?_eq_some hFirst
      have hName : record.1 = name := by
        simpa using List.find?_some hFirst
      rcases record with ⟨other, path⟩
      subst hName
      rcases (mem_searchDirectory_iff hPlain hSearch).mp
          hMember with
        ⟨hHolds, hPath⟩
      rw [if_pos hHolds, ← hPath]
      rfl

theorem getElem?_searchFrom
    (hPlain : tree.HasPlainNames)
    (hSearch : searchFrom tree index directories = .ok after)
    (name : String) :
    after[name]? =
      (index[name]?).or
        ((directories.find? (holdsRecord tree · name)).map
          (recordPath · name)) := by
  induction directories generalizing index with
  | nil =>
      cases hSearch
      simp
  | cons directory directories ih =>
      rw [searchFrom, bind_eq_ok_iff] at hSearch
      rcases hSearch with ⟨records, hRecords, hRest⟩
      rw [ih hRest,
        getElem?_addNew_of_search hPlain hRecords,
        Option.or_assoc, List.find?_cons]
      cases holdsRecord tree directory name with
      | true => rfl
      | false => rfl

/-
  A search finds a record in the earliest directory that holds
  it.
-/
theorem getElem?_search
    (hPlain : tree.HasPlainNames)
    (hSearch : search tree directories = .ok after)
    (name : String) :
    after[name]? =
      (directories.find? (holdsRecord tree · name)).map
        (recordPath · name) := by
  rw [getElem?_searchFrom hPlain hSearch]
  simp

/- A directory that does not exist does not matter. -/
theorem searchFrom_filter_isDirectory
    (index : Index)
    (directories : List Path) :
    searchFrom tree index
        (directories.filter tree.isDirectory) =
      searchFrom tree index directories := by
  induction directories generalizing index with
  | nil => rfl
  | cons directory directories ih =>
      cases hDirectory : tree.isDirectory directory with
      | true =>
          rw [List.filter_cons_of_pos hDirectory, searchFrom,
            searchFrom]
          apply bind_congr_of_ok
          intro records hRecords
          exact ih _
      | false =>
          have hNone : tree.directory? directory = none := by
            rw [FileTree.isDirectory] at hDirectory
            simpa using hDirectory
          rw [List.filter_cons_of_neg (by simp [hDirectory]),
            ih, searchFrom, searchDirectory, hNone]
          rfl

theorem search_filter_isDirectory
    (tree : FileTree)
    (directories : List Path) :
    search tree (directories.filter tree.isDirectory) =
      search tree directories :=
  searchFrom_filter_isDirectory ∅ directories

/-
  Two trees hold the same records in some directories, and the
  same bytes are read for them.
-/
structure SameRecords
    (directories : List Path)
    (tree other : FileTree) : Prop where
  held :
    ∀ directory name,
      directory ∈ directories →
        holdsRecord other directory name =
          holdsRecord tree directory name
  read :
    ∀ directory name,
      directory ∈ directories →
        holdsRecord tree directory name = true →
          other.read (recordPath directory name) =
            tree.read (recordPath directory name)

/- Nor does what stands for no record. -/
theorem SameRecords.find?_eq
    {other : FileTree}
    (hSame : SameRecords directories tree other)
    (name : String) :
    directories.find? (holdsRecord other · name) =
      directories.find? (holdsRecord tree · name) := by
  apply List.find?_congr
  intro directory hDirectory
  exact hSame.held directory name hDirectory

theorem SameRecords.index_eq
    {other : FileTree}
    {found : Index}
    (hSame : SameRecords directories tree other)
    (hPlain : tree.HasPlainNames)
    (hOther : other.HasPlainNames)
    (hFirst : search tree directories = .ok after)
    (hSecond : search other directories = .ok found) :
    found = after := by
  apply Std.ExtTreeMap.ext_getElem?
  intro name
  rw [getElem?_search hPlain hFirst,
    getElem?_search hOther hSecond, hSame.find?_eq]

end DirectoryStore

end Componentry

------------------------------------------------------------
-- Listings
------------------------------------------------------------

namespace Componentry

namespace DirectoryStore

variable {tree : FileTree}
variable {store : DirectoryStore}
variable {names : List String}

theorem recordNames_eq_ok_iff :
    (store.view tree).recordNames = .ok names ↔
      ∃ found,
        search tree store.searchPaths = .ok found ∧
          found.keys = names := by
  unfold view
  cases search tree store.searchPaths with
  | error error => simp [Except.map]
  | ok found => simp [Except.map]

/- The records listed are those that some directory holds. -/
theorem mem_recordNames_iff
    (hPlain : tree.HasPlainNames)
    (hNames : (store.view tree).recordNames = .ok names)
    (name : String) :
    name ∈ names ↔
      ∃ directory ∈ store.searchPaths,
        holdsRecord tree directory name = true := by
  rcases recordNames_eq_ok_iff.mp hNames with
    ⟨found, hSearch, hKeys⟩
  subst hKeys
  rw [Std.ExtTreeMap.mem_keys,
    Std.ExtTreeMap.mem_iff_isSome_getElem?,
    getElem?_search hPlain hSearch, Option.isSome_map,
    List.find?_isSome]

/- They stand in order, each once. -/
theorem pairwise_recordNames
    (hNames : (store.view tree).recordNames = .ok names) :
    names.Pairwise (· < ·) := by
  rcases recordNames_eq_ok_iff.mp hNames with
    ⟨found, -, hKeys⟩
  rw [← hKeys]
  exact ByName.pairwise_keys found

end DirectoryStore

end Componentry

------------------------------------------------------------
-- Listed Stores
------------------------------------------------------------

namespace Componentry

namespace DirectoryStore

variable {tree : FileTree}
variable {store : DirectoryStore}
variable {names : List String}

/- A listing is remembered, whatever was known before. -/
theorem afterListing_of_search
    {found : Index}
    (hSearch : search tree store.searchPaths = .ok found) :
    store.afterListing tree = ⟨store.searchPaths, found⟩ := by
  unfold afterListing
  rw [hSearch]

theorem searchPaths_afterListing
    (store : DirectoryStore)
    (tree : FileTree) :
    (store.afterListing tree).searchPaths =
      store.searchPaths := by
  unfold afterListing
  split
  · rfl
  · rfl

theorem recordNames_afterListing
    (store : DirectoryStore)
    (tree : FileTree) :
    ((store.afterListing tree).view tree).recordNames =
      (store.view tree).recordNames := by
  unfold view
  rw [searchPaths_afterListing]

/- A record that is known is loaded from its file. -/
theorem load_of_index
    {name : String}
    {path : Path}
    (hIndex : store.index[name]? = some path) :
    (store.view tree).load name = loadFile tree name path := by
  unfold view pathOf
  simp only [hIndex]

/-
  A record that has been listed is loaded from the earliest
  directory that holds it.
-/
theorem exists_load_of_mem
    {name : String}
    (hPlain : tree.HasPlainNames)
    (hNames : (store.view tree).recordNames = .ok names)
    (hName : name ∈ names) :
    ∃ directory,
      store.searchPaths.find? (holdsRecord tree · name) =
          some directory ∧
        ((store.afterListing tree).view tree).load name =
          loadFile tree name (recordPath directory name) := by
  rw [mem_recordNames_iff hPlain hNames,
    ← List.find?_isSome, Option.isSome_iff_exists] at hName
  rcases hName with ⟨directory, hDirectory⟩
  rcases recordNames_eq_ok_iff.mp hNames with
    ⟨found, hSearch, -⟩
  have hFound :
      found[name]? = some (recordPath directory name) := by
    rw [getElem?_search hPlain hSearch, hDirectory]
    rfl
  refine ⟨directory, hDirectory, ?_⟩
  rw [afterListing_of_search hSearch, load_of_index hFound]

/- The answers depend on the directories that exist. -/
theorem view_filter_isDirectory
    (store : DirectoryStore)
    (tree : FileTree) :
    view
        ⟨store.searchPaths.filter tree.isDirectory,
          store.index⟩
        tree =
      store.view tree := by
  unfold view pathOf
  simp only [search_filter_isDirectory]

theorem afterListing_filter_isDirectory
    (store : DirectoryStore)
    (tree : FileTree) :
    afterListing
        ⟨store.searchPaths.filter tree.isDirectory,
          store.index⟩
        tree =
      ⟨store.searchPaths.filter tree.isDirectory,
        (store.afterListing tree).index⟩ := by
  unfold afterListing
  simp only [search_filter_isDirectory]
  cases search tree store.searchPaths with
  | error error => rfl
  | ok found => rfl

end DirectoryStore

end Componentry
