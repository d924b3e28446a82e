import Mathlib.Data.List.Sort
import Componentry.Proofs.MemoryStores
import Componentry.Proofs.Registry.Agreement
import Componentry.Proofs.Store.Searches
import Componentry.Session

/-
  Stores in memory that mirror directories.

  A store in memory mirrors directories if it has the records
  that they hold, each as it is read from the earliest of
  them, and the type lists that a rebuild reads.  A rebuild
  over the directories, whatever they were searched for
  before, then does what one over the mirror does.

  Main declarations:
    * `MemoryStore.Mirrors`, `MemoryStore.SharesText`
    * `MemoryStore.Mirrors.agrees`
    * `MemoryStore.exists_path_of_scan_error`
    * `RebuildsAlike`, `Session.rebuildsAlike`
-/

------------------------------------------------------------
-- Mirrors
------------------------------------------------------------

namespace Componentry

namespace MemoryStore

/-
  A store has the records that some directory holds.  Those
  that a naming selects are read from the earliest one.
-/
structure Mirrors
    (memory : MemoryStore)
    (tree : FileTree)
    (directories : List Path)
    (naming : Naming) : Prop where
  names :
    ∀ name : String,
      memory.records.contains name = true ↔
        ∃ directory ∈ directories,
          DirectoryStore.holdsRecord tree directory name =
            true
  records :
    ∀ group name directory,
      naming.selects group name = true →
        directories.find?
            (DirectoryStore.holdsRecord tree · name) =
          some directory →
        ∃ text record,
          tree.read
              (DirectoryStore.recordPath directory name) =
            .ok text.toUTF8 ∧
          Descriptor.parse name
              (DirectoryStore.recordPath directory name)
              text =
            .ok record ∧
          memory.records[name]? = some record

/-
  Reading a path gives the text that the memory has for it, or
  it reports that nothing is found, and the memory has none.
-/
def SharesText
    (memory : MemoryStore)
    (tree : FileTree)
    (path : Path) : Prop :=
  (∃ text,
    tree.read path = .ok text.toUTF8 ∧
      memory.texts[path.components]? = some text) ∨
    (tree.read path = .error .notFound ∧
      memory.texts[path.components]? = none)

end MemoryStore

end Componentry

------------------------------------------------------------
-- Readings
------------------------------------------------------------

namespace Componentry

/- The bytes of a text are decoded to the text. -/
theorem Text.decodeUtf8_toUTF8
    (text : String) :
    decodeUtf8 text.toUTF8 = .ok text := by
  have hText :
      String.fromUTF8? text.toUTF8 = some text :=
    dif_pos text.isValidUTF8
  rw [decodeUtf8, hText]

variable {tree : FileTree}
variable {memory : MemoryStore}
variable {path : Path}
variable {name text : String}
variable {record : Descriptor}

/- A file is read alike if its bytes are. -/
theorem DirectoryStore.loadFile_of_read_eq
    {other : FileTree}
    (hRead : other.read path = tree.read path)
    (name : String) :
    loadFile other name path = loadFile tree name path := by
  unfold loadFile
  rw [hRead]

theorem DirectoryStore.readText_of_read_eq
    {other : FileTree}
    (hRead : other.read path = tree.read path) :
    readText other path = readText tree path := by
  unfold readText
  rw [hRead]

theorem DirectoryStore.loadFile_eq_ok
    (hRead : tree.read path = .ok text.toUTF8)
    (hParse : Descriptor.parse name path text = .ok record) :
    loadFile tree name path = .ok record := by
  unfold loadFile
  simp only [hRead, Text.decodeUtf8_toUTF8, hParse]

/- Where a text is shared, both stores give the same answer. -/
theorem MemoryStore.SharesText.readText_eq
    (hShares : memory.SharesText tree path) :
    memory.view.readText path =
      DirectoryStore.readText tree path := by
  unfold MemoryStore.view DirectoryStore.readText
  rcases hShares with ⟨text, hRead, hText⟩ | ⟨hRead, hNone⟩
  · simp only [hRead, hText, Text.decodeUtf8_toUTF8]
  · simp only [hRead, hNone]

end Componentry

------------------------------------------------------------
-- Rebuilt Directories
------------------------------------------------------------

namespace Componentry

variable {tree : FileTree}
variable {store : DirectoryStore}
variable {memory : MemoryStore}
variable {naming : Naming}
variable {names : List String}

/- A mirror lists what the directories do. -/
theorem MemoryStore.Mirrors.keys_eq
    (hMirrors :
      memory.Mirrors tree store.searchPaths naming)
    (hPlain : tree.HasPlainNames)
    (hNames : (store.view tree).recordNames = .ok names) :
    memory.records.keys = names := by
  refine
    (ByName.pairwise_keys memory.records).eq_of_mem_iff
      (DirectoryStore.pairwise_recordNames hNames) ?_
  intro name
  rw [Std.ExtTreeMap.mem_keys, ← Std.ExtTreeMap.contains_iff_mem,
    hMirrors.names,
    DirectoryStore.mem_recordNames_iff hPlain hNames]

/-
  A mirror agrees with the directories, once they have been
  listed.
-/
theorem MemoryStore.Mirrors.agrees
    (hMirrors :
      memory.Mirrors tree store.searchPaths naming)
    (hPlain : tree.HasPlainNames)
    (hNames : (store.view tree).recordNames = .ok names)
    (hTexts :
      ∀ typekit,
        typekit ∈
            Survey.typekitsRead
              ((store.afterListing tree).view tree) naming
              names →
          memory.SharesText tree
            (typeListPath typekit.typeRegistry)) :
    ((store.afterListing tree).view tree).Agrees memory.view
      naming names := by
  refine
    { names_first := ?_
      names_second := ?_
      load := ?_
      typeList := ?_ }
  · rw [DirectoryStore.recordNames_afterListing, hNames]
  · exact
      congrArg Except.ok (hMirrors.keys_eq hPlain hNames)
  · intro group name hName hSelected
    rcases DirectoryStore.exists_load_of_mem hPlain hNames
        hName with
      ⟨directory, hDirectory, hLoad⟩
    rcases hMirrors.records group name directory hSelected
        hDirectory with
      ⟨text, record, hRead, hParse, hRecord⟩
    rw [hLoad, DirectoryStore.loadFile_eq_ok hRead hParse]
    simp only [MemoryStore.view, hRecord]
  · intro typekit hTypekit
    exact (hTexts typekit hTypekit).readText_eq

/-
  So does another tree with the same records and the same type
  lists.
-/
theorem DirectoryStore.SameRecords.agrees
    {other : FileTree}
    {listed : List String}
    (hSame : SameRecords store.searchPaths tree other)
    (hPlain : tree.HasPlainNames)
    (hOther : other.HasPlainNames)
    (hNames : (store.view tree).recordNames = .ok names)
    (hListed : (store.view other).recordNames = .ok listed)
    (hTexts :
      ∀ typekit,
        typekit ∈
            Survey.typekitsRead
              ((store.afterListing tree).view tree) naming
              names →
          other.read (typeListPath typekit.typeRegistry) =
            tree.read (typeListPath typekit.typeRegistry)) :
    ((store.afterListing tree).view tree).Agrees
      ((store.afterListing other).view other) naming
      names := by
  have hAll : listed = names := by
    rcases recordNames_eq_ok_iff.mp hNames with
      ⟨found, hSearch, hKeys⟩
    rcases recordNames_eq_ok_iff.mp hListed with
      ⟨others, hOthers, hOtherKeys⟩
    rw [← hKeys, ← hOtherKeys,
      hSame.index_eq hPlain hOther hSearch hOthers]
  subst hAll
  refine
    { names_first := ?_
      names_second := ?_
      load := ?_
      typeList := ?_ }
  · rw [recordNames_afterListing, hNames]
  · rw [recordNames_afterListing, hListed]
  · intro group name hName hSelected
    rcases exists_load_of_mem hPlain hNames hName with
      ⟨directory, hDirectory, hLoad⟩
    rcases exists_load_of_mem hOther hListed hName with
      ⟨found, hFound, hOtherLoad⟩
    rw [hSame.find?_eq, hDirectory, Option.some.injEq]
      at hFound
    subst hFound
    rw [hLoad, hOtherLoad]
    apply loadFile_of_read_eq
    have hHolds := List.find?_some hDirectory
    exact
      hSame.read directory name
        (List.mem_of_find?_eq_some hDirectory) hHolds
  · intro typekit hTypekit
    exact readText_of_read_eq (hTexts typekit hTypekit)

/- A store in memory fails a scan only for a missing text. -/
theorem MemoryStore.exists_path_of_scan_error
    {error : StoreError}
    (hScan : scan memory.view naming = .error error) :
    ∃ path, error = .textNotFound path := by
  have hFault :
      (Survey.questions memory.view naming
          memory.records.keys).findSome? memory.view.fault? =
        some error := by
    rw [← faultOf_scan rfl, hScan]
    rfl
  rcases List.exists_of_findSome?_eq_some hFault with
    ⟨question, hQuestion, hFault⟩
  rw [Survey.mem_questions_iff] at hQuestion
  rcases hQuestion with
    ⟨group, name, hName, hSelected, hLoad⟩ |
      ⟨record, typekit, hPasses, hList⟩
  · -- What is listed can be loaded.
    subst hLoad
    rw [Std.ExtTreeMap.mem_keys,
      Std.ExtTreeMap.mem_iff_isSome_getElem?,
      Option.isSome_iff_exists] at hName
    rcases hName with ⟨record, hRecord⟩
    have hLoad : memory.view.load name = .ok record := by
      simp only [MemoryStore.view, hRecord]
    rw [Store.fault?_load_of_ok hLoad] at hFault
    cases hFault
  · subst hList
    rw [Store.fault?_typeList_eq_some_iff] at hFault
    simp only [MemoryStore.view] at hFault
    split at hFault
    · cases hFault
    · cases hFault
      exact ⟨_, rfl⟩

end Componentry

------------------------------------------------------------
-- Rebuilds
------------------------------------------------------------

namespace Componentry

/- The session with another store. -/
def Session.over
    (session : Session)
    (store : StoreState) :
    Session :=
  { session with store }

/-
  A rebuild over directories does what one over a store in
  memory does: the report, or the missing type list, and the
  snapshot that is published are the same.  The records listed
  are those that some directory holds, in order and each once.
  Directories that do not exist do not matter, and nor does
  what is in a tree besides the records and the type lists.
-/
structure RebuildsAlike
    (session : Session)
    (store : DirectoryStore)
    (memory : MemoryStore)
    (registry : Registry)
    (names : List String) : Prop where
  answer :
    (session.rebuildWith registry).1 =
      ((session.over (.memory memory)).rebuildWith
        registry).1
  published :
    (session.rebuildWith registry).2.registry =
      ((session.over (.memory memory)).rebuildWith
        registry).2.registry
  fault :
    ∀ error,
      (session.rebuildWith registry).1 = .error error →
        ∃ path, error = .store (.textNotFound path)
  listed :
    names = memory.records.keys
  ordered :
    names.Pairwise fun first second =>
      Text.bytes first < Text.bytes second
  held :
    ∀ name,
      name ∈ names ↔
        ∃ directory ∈ store.searchPaths,
          DirectoryStore.holdsRecord session.tree directory
              name =
            true
  missing :
    ((session.over
        (.directory
          ⟨store.searchPaths.filter session.tree.isDirectory,
            store.index⟩)).rebuildWith registry).1 =
      (session.rebuildWith registry).1
  others :
    ∀ other listed,
      other.HasPlainNames →
        (store.view other).recordNames = .ok listed →
        DirectoryStore.SameRecords store.searchPaths
          session.tree other →
        (∀ typekit,
          typekit ∈
              Survey.typekitsRead session.listed.view
                registry.naming names →
            other.read (typeListPath typekit.typeRegistry) =
              session.tree.read
                (typeListPath typekit.typeRegistry)) →
          (Session.rebuildWith
              { session with tree := other } registry).1 =
            (session.rebuildWith registry).1

variable {session : Session}
variable {store : DirectoryStore}
variable {memory : MemoryStore}
variable {registry : Registry}
variable {names : List String}

theorem Session.listed_view
    (hStore : session.store = .directory store) :
    session.listed.view =
      (store.afterListing session.tree).view session.tree := by
  unfold Session.view Session.listed
  rw [hStore]
  rfl

/- Directories that do not exist do not matter. -/
theorem Session.rebuildWith_filter_isDirectory
    (hStore : session.store = .directory store) :
    ((session.over
        (.directory
          ⟨store.searchPaths.filter session.tree.isDirectory,
            store.index⟩)).rebuildWith registry).1 =
      (session.rebuildWith registry).1 := by
  have hStores :
      (session.over
          (.directory
            ⟨store.searchPaths.filter
                session.tree.isDirectory,
              store.index⟩)).listed.view =
        session.listed.view := by
    rw [Session.listed_view hStore, Session.listed_view rfl]
    change
      (DirectoryStore.afterListing _ session.tree).view
          session.tree = _
    rw [DirectoryStore.afterListing_filter_isDirectory,
      ← DirectoryStore.searchPaths_afterListing store
        session.tree,
      DirectoryStore.view_filter_isDirectory]
  change (registry.rebuild _).1 = (registry.rebuild _).1
  rw [hStores]

/-
  A rebuild over directories, whatever they were searched for
  before, does what one over their mirror does.  The mirror
  has to share the type lists that are read.
-/
theorem Session.rebuildsAlike
    (hStore : session.store = .directory store)
    (hPlain : session.tree.HasPlainNames)
    (hNames : session.view.recordNames = .ok names)
    (hMirrors :
      memory.Mirrors session.tree store.searchPaths
        registry.naming)
    (hTexts :
      ∀ typekit,
        typekit ∈
            Survey.typekitsRead session.listed.view
              registry.naming names →
          memory.SharesText session.tree
            (typeListPath typekit.typeRegistry)) :
    RebuildsAlike session store memory registry names := by
  have hView := Session.listed_view hStore
  rw [Session.view, hStore] at hNames
  have hAgrees :
      session.listed.view.Agrees memory.view registry.naming
        names := by
    rw [hView] at hTexts ⊢
    exact hMirrors.agrees hPlain hNames hTexts
  have hRebuild := Registry.rebuild_of_agrees hAgrees
  have hKeys := hMirrors.keys_eq hPlain hNames
  constructor
  case answer =>
    exact congrArg (·.1) hRebuild.symm
  case published =>
    exact congrArg (some ·.2) hRebuild.symm
  case fault =>
    intro error hError
    change
      (registry.rebuild session.listed.view).1 =
        .error error at hError
    rw [← hRebuild, Registry.rebuild_eq_error_iff] at hError
    rcases hError with ⟨fault, hFault, hError⟩
    subst hError
    rcases MemoryStore.exists_path_of_scan_error
        (faultOf_eq_some_iff.mp hFault) with
      ⟨path, hPath⟩
    exact ⟨path, congrArg RegistryError.store hPath⟩
  case listed => exact hKeys.symm
  case ordered =>
    exact
      (DirectoryStore.pairwise_recordNames hNames).imp
        Text.bytes_lt_iff.mpr
  case held =>
    exact DirectoryStore.mem_recordNames_iff hPlain hNames
  case missing =>
    exact Session.rebuildWith_filter_isDirectory hStore
  case others =>
    intro other listed hOther hListed hSame hShared
    rw [hView] at hShared
    have hOthers :
        Session.view
            (Session.listed { session with tree := other }) =
          (store.afterListing other).view other :=
      Session.listed_view hStore
    change (registry.rebuild _).1 = (registry.rebuild _).1
    rw [hOthers, hView,
      Registry.rebuild_of_agrees
        (hSame.agrees hPlain hOther hNames hListed hShared)]

end Componentry

------------------------------------------------------------
-- A Small Installation in Directories
------------------------------------------------------------

namespace Componentry

/- The text of a record of the small installation. -/
def Descriptor.packageText : String :=
  "project_name=base\ntype_registry=/base.tlb\n"

/- The fields that are read from it. -/
def Descriptor.packageFields : Fields :=
  .ofList
    [("project_name", "base"),
      ("type_registry", "/base.tlb")]

namespace FileTree

/-
  The first directory has a project, besides another file, a
  link that leads nowhere and a directory that is called like
  a record.  The second one has a link to a typekit and a
  project that is not the first of its name.
-/
def packages : FileTree :=
  [(["home", "first"], .directory),
    (["home", "first", "README"], .file "packages".toUTF8),
    (["home", "first", "a-tasks-gnulinux.pc"],
      .link "nowhere"),
    (["home", "first", "orogen-project-b.pc"], .directory),
    (["home", "first", "orogen-project-base.pc"],
      .file Descriptor.packageText.toUTF8),
    (["home", "second"], .directory),
    (["home", "second", "base-typekit-gnulinux.pc"],
      .link "../typekit.pc"),
    (["home", "second", "orogen-project-base.pc"],
      .file "project_name=other\n".toUTF8),
    (["home", "typekit.pc"],
      .file Descriptor.packageText.toUTF8),
    (["base.typelist"], .file "/base/Pose 1\n".toUTF8)].foldl
    (fun tree (place, entry) => tree.set place entry) empty

end FileTree

/-
  Its directories, with one that does not exist, and what they
  were searched for once.
-/
def DirectoryStore.packages : DirectoryStore where
  searchPaths := [⟨"first"⟩, ⟨"missing"⟩, ⟨"second"⟩]
  index :=
    (∅ : Index).insert "orogen-project-base"
      ⟨"second/orogen-project-base.pc"⟩

/- A session over them. -/
def Session.packages : Session where
  tree := .packages
  store := .directory .packages
  registry := none
  artifacts := none

/- What the session's store holds, in memory. -/
def MemoryStore.packages : MemoryStore :=
  ((empty.putRecord
    ⟨"orogen-project-base",
      ⟨"first/orogen-project-base.pc"⟩,
      Descriptor.packageFields⟩).putRecord
    ⟨"base-typekit-gnulinux",
      ⟨"second/base-typekit-gnulinux.pc"⟩,
      Descriptor.packageFields⟩).putText
    ⟨"/base.typelist"⟩ "/base/Pose 1\n"

theorem recordNames_packages :
    (DirectoryStore.packages.view .packages).recordNames =
      .ok ["base-typekit-gnulinux", "orogen-project-base"] := by
  decide +kernel

/- The small installation is mirrored. -/
theorem MemoryStore.mirrors_packages :
    packages.Mirrors .packages
      DirectoryStore.packages.searchPaths .standard where
  names := by
    intro name
    rw [← DirectoryStore.mem_recordNames_iff
      (by decide +kernel) recordNames_packages,
      Std.ExtTreeMap.contains_iff_mem,
      ← Std.ExtTreeMap.mem_keys]
    have hKeys :
        packages.records.keys =
          ["base-typekit-gnulinux", "orogen-project-base"] := by
      decide +kernel
    rw [hKeys]
  records := by
    intro group name directory hSelected hDirectory
    have hHolds := List.find?_some hDirectory
    have hName :
        name ∈
          ["base-typekit-gnulinux", "orogen-project-base"] :=
      (DirectoryStore.mem_recordNames_iff (by decide +kernel)
        recordNames_packages name).mpr
          ⟨directory, List.mem_of_find?_eq_some hDirectory,
            hHolds⟩
    simp only [List.mem_cons, List.not_mem_nil,
      or_false] at hName
    rcases hName with hName | hName
    · subst hName
      have hSecond : directory = ⟨"second"⟩ := by
        apply Option.some.inj
        rw [← hDirectory]
        decide +kernel
      subst hSecond
      exact
        ⟨Descriptor.packageText,
          ⟨"base-typekit-gnulinux",
            ⟨"second/base-typekit-gnulinux.pc"⟩,
            Descriptor.packageFields⟩,
          rfl, by decide +kernel, by decide +kernel⟩
    · subst hName
      have hFirst : directory = ⟨"first"⟩ := by
        apply Option.some.inj
        rw [← hDirectory]
        decide +kernel
      subst hFirst
      exact
        ⟨Descriptor.packageText,
          ⟨"orogen-project-base",
            ⟨"first/orogen-project-base.pc"⟩,
            Descriptor.packageFields⟩,
          rfl, by decide +kernel, by decide +kernel⟩

/- It is rebuilt as its mirror is. -/
theorem rebuildsAlike_packages :
    RebuildsAlike .packages .packages .packages
      ⟨.standard, none⟩
      ["base-typekit-gnulinux", "orogen-project-base"] := by
  refine
    Session.rebuildsAlike rfl (by decide +kernel)
      recordNames_packages MemoryStore.mirrors_packages ?_
  have hRead :
      Survey.typekitsRead Session.packages.listed.view
          .standard
          ["base-typekit-gnulinux", "orogen-project-base"] =
        [⟨"base", "base", "base-typekit-gnulinux",
          ⟨"/base.tlb"⟩⟩] := by
    decide +kernel
  intro typekit hTypekit
  rw [hRead, List.mem_singleton] at hTypekit
  subst hTypekit
  exact Or.inl ⟨"/base/Pose 1\n", rfl, by decide +kernel⟩

/-
  A file that is called `.pc` has no extension: it is no
  record, not even one without a name.
-/
theorem hidden_not_listed :
    let tree :=
      (FileTree.empty.set ["home", "records"]
        .directory).set ["home", "records", ".pc"]
          (.file "project_name=base\n".toUTF8)
    DirectoryStore.holdsFile tree ⟨"records"⟩
          (DirectoryStore.recordFile "") =
        true ∧
      ((DirectoryStore.ofPaths [⟨"records"⟩]).view
          tree).recordNames =
        .ok [] := by
  decide +kernel

end Componentry
