import Componentry.Proofs.Sessions
import Componentry.Proofs.Store.Mirrors
import Componentry.Proofs.Store.Visits

/-
  Rebuilds that forget what was found before.

  What a store over directories remembers when a rebuild
  starts does not matter: neither for the report, or the
  error, nor for what it remembers afterwards, which is what
  the rebuild itself has found.  Until a file is changed, a
  record is then read from the earliest directory that holds
  it.

  Main declarations:
    * `Session.rebuildVisiting`, `Session.rebuildWith_over`
    * `Inquiry`, `Session.IsFresh`
    * `Session.IsFresh.load_eq`
    * `ForgetsPast`, `Session.forgetsPast`
-/

------------------------------------------------------------
-- Rebuilds That Visit
------------------------------------------------------------

namespace Componentry

namespace Session

/-
  Rebuild a registry by a scan that visits a store over
  directories, question by question.
-/
def rebuildVisiting
    (session : Session)
    (registry : Registry)
    (store : DirectoryStore) :
    Except RegistryError RebuildReport × Session :=
  match
      (Visit.scan session.tree registry.naming).run.run
        store with
  | (.error error, store) =>
      (.error (.store error),
        { session with
          store := .directory store
          registry := some registry })
  | (.ok draft, store) =>
      (.ok (.ofDraft draft),
        { session with
          store := .directory store
          registry :=
            some
              { registry with
                current := some draft.snapshot } })

variable {session : Session}
variable {registry : Registry}
variable {store : DirectoryStore}
variable {tree : FileTree}
variable {paths : List Path}
variable {found : DirectoryStore.Index}

/- A rebuild over directories visits the store. -/
theorem rebuildWith_over
    (session : Session)
    (registry : Registry)
    (store : DirectoryStore) :
    (session.over (.directory store)).rebuildWith registry =
      session.rebuildVisiting registry store := by
  have hView :
      (session.over (.directory store)).listed.view =
        (store.afterListing session.tree).view
          session.tree :=
    listed_view rfl
  unfold rebuildVisiting rebuildWith Registry.rebuild
  dsimp only
  rw [hView, Visit.run_scan]
  cases scan
      ((store.afterListing session.tree).view session.tree)
      registry.naming with
  | error error => rfl
  | ok draft => rfl

end Session

end Componentry

------------------------------------------------------------
-- Inquiries
------------------------------------------------------------

namespace Componentry

/- What can be done in a session that changes no file. -/
inductive Inquiry where
  | names
  | load (name : String)
  | matching (naming : Naming) (group : RecordClass)
  | rebuild
  | execute (extensions : Extensions) (request : Request)

namespace Session

/- The session after an inquiry. -/
def afterInquiry (session : Session) : Inquiry → Session
  | .names => session.recordNames.2
  | .load name => (session.load name).2
  | .matching naming group =>
      (session.matching naming group).2
  | .rebuild => session.after .rebuild
  | .execute extensions request =>
      session.after (.execute extensions request)

/- The session after inquiries, in order. -/
def afterInquiries
    (session : Session)
    (inquiries : List Inquiry) :
    Session :=
  inquiries.foldl afterInquiry session

/-
  A session's store remembers what a search of the session's
  tree finds.
-/
structure IsFresh
    (session : Session)
    (tree : FileTree)
    (paths : List Path)
    (found : DirectoryStore.Index) : Prop where
  placed : session.tree = tree
  stored : session.store = .directory ⟨paths, found⟩
  searched : DirectoryStore.search tree paths = .ok found

namespace IsFresh

variable {session : Session}
variable {tree : FileTree}
variable {paths : List Path}
variable {found : DirectoryStore.Index}

/- A fresh store is listed already. -/
theorem listed_eq
    (hFresh : session.IsFresh tree paths found) :
    session.listed = session := by
  have hStore :
      session.store.afterListing session.tree =
        session.store := by
    rw [hFresh.stored, hFresh.placed]
    exact
      congrArg StoreState.directory
        (DirectoryStore.afterListing_of_search
          hFresh.searched)
  rw [listed, hStore]

/- Looking up a record finds nothing new. -/
theorem afterLoad_eq
    (hFresh : session.IsFresh tree paths found)
    (name : String) :
    session.store.afterLoad session.tree name =
      session.store := by
  rw [hFresh.stored, hFresh.placed]
  apply congrArg StoreState.directory
  unfold DirectoryStore.afterLoad
  split
  · rfl
  · exact
      DirectoryStore.afterListing_of_search hFresh.searched

theorem of_same
    {other : Session}
    (hFresh : session.IsFresh tree paths found)
    (hTree : other.tree = session.tree)
    (hStore : other.store = session.store) :
    other.IsFresh tree paths found where
  placed := hTree.trans hFresh.placed
  stored := hStore.trans hFresh.stored
  searched := hFresh.searched

/- A rebuild over a fresh store leaves it fresh. -/
theorem rebuildWith
    (hFresh : session.IsFresh tree paths found)
    (registry : Registry) :
    (session.rebuildWith registry).2.IsFresh tree paths
      found := by
  apply hFresh.of_same
  · rfl
  · change session.listed.store = session.store
    rw [hFresh.listed_eq]

/- So does a run over it. -/
theorem generateWith
    (hFresh : session.IsFresh tree paths found)
    (registry : Registry)
    (extensions : Extensions)
    (request : Request) :
    (session.generateWith registry extensions
        request).2.IsFresh tree paths found := by
  unfold Session.generateWith
  rw [hFresh.listed_eq, ite_self]
  dsimp only
  split
  · exact hFresh.of_same rfl rfl
  · exact hFresh.of_same rfl rfl

theorem afterInquiry
    (hFresh : session.IsFresh tree paths found)
    (inquiry : Inquiry) :
    (session.afterInquiry inquiry).IsFresh tree paths
      found := by
  cases inquiry with
  | names =>
      change session.listed.IsFresh tree paths found
      rwa [hFresh.listed_eq]
  | load name =>
      exact hFresh.of_same rfl (hFresh.afterLoad_eq name)
  | matching naming group =>
      change session.listed.IsFresh tree paths found
      rwa [hFresh.listed_eq]
  | rebuild =>
      unfold Session.afterInquiry Session.after
        Session.rebuild
      cases hRegistry : session.registry with
      | none => exact hFresh
      | some registry => exact hFresh.rebuildWith registry
  | execute extensions request =>
      unfold Session.afterInquiry Session.after
        Session.generate
      cases hRegistry : session.registry with
      | none => exact hFresh
      | some registry =>
          exact
            hFresh.generateWith registry extensions request

theorem afterInquiries
    (hFresh : session.IsFresh tree paths found)
    (inquiries : List Inquiry) :
    (session.afterInquiries inquiries).IsFresh tree paths
      found := by
  induction inquiries generalizing session with
  | nil => exact hFresh
  | cons inquiry inquiries ih =>
      exact ih (hFresh.afterInquiry inquiry)

end IsFresh

end Session

end Componentry

------------------------------------------------------------
-- Records of Fresh Stores
------------------------------------------------------------

namespace Componentry

/- A file that is read is never an unknown record. -/
theorem DirectoryStore.loadFile_ne_notFound
    (tree : FileTree)
    (name other : String)
    (path : Path) :
    loadFile tree name path ≠ .error (.notFound other) := by
  unfold loadFile
  split
  · simp
  · split
    · simp
    · split
      · simp
      · simp

namespace Session.IsFresh

variable {session : Session}
variable {tree : FileTree}
variable {paths : List Path}
variable {found : DirectoryStore.Index}

/-
  A record is read from the earliest directory that holds it.
-/
theorem load_eq
    (hFresh : session.IsFresh tree paths found)
    (hPlain : tree.HasPlainNames)
    (name : String) :
    (session.load name).1 =
      match
          paths.find?
            (DirectoryStore.holdsRecord tree · name) with
      | some directory =>
          DirectoryStore.loadFile tree name
            (DirectoryStore.recordPath directory name)
      | none => .error (.notFound name) := by
  have hFound :=
    DirectoryStore.getElem?_search hPlain hFresh.searched
      name
  unfold Session.load Session.view
  rw [hFresh.stored, hFresh.placed]
  change
    (DirectoryStore.view ⟨paths, found⟩ tree).load name = _
  unfold DirectoryStore.view DirectoryStore.pathOf
  cases hDirectory :
      paths.find?
        (DirectoryStore.holdsRecord tree · name) with
  | some directory =>
      rw [hDirectory] at hFound
      simp only [hFound, Option.map_some]
  | none =>
      rw [hDirectory] at hFound
      simp only [hFound, Option.map_none, hFresh.searched]

/- Only a record that no directory holds is not found. -/
theorem load_eq_notFound_iff
    (hFresh : session.IsFresh tree paths found)
    (hPlain : tree.HasPlainNames)
    (name : String) :
    (∃ other,
        (session.load name).1 = .error (.notFound other)) ↔
      ∀ directory ∈ paths,
        DirectoryStore.holdsRecord tree directory name =
          false := by
  rw [hFresh.load_eq hPlain]
  cases hDirectory :
      paths.find?
        (DirectoryStore.holdsRecord tree · name) with
  | some directory =>
      have hHolds := List.find?_some hDirectory
      have hMember := List.mem_of_find?_eq_some hDirectory
      constructor
      · rintro ⟨other, hOther⟩
        exact
          absurd hOther
            (DirectoryStore.loadFile_ne_notFound _ _ _ _)
      · intro hNone
        rw [hNone directory hMember] at hHolds
        cases hHolds
  | none =>
      rw [List.find?_eq_none] at hDirectory
      constructor
      · intro _ directory hMember
        simpa using hDirectory directory hMember
      · intro _
        exact ⟨name, rfl⟩

end Session.IsFresh

end Componentry

------------------------------------------------------------
-- Directories That Cannot Be Searched
------------------------------------------------------------

namespace Componentry

namespace DirectoryStore

variable {tree : FileTree}
variable {store : DirectoryStore}
variable {error : StoreError}

/- A search that fails leaves a store as it is. -/
theorem afterListing_of_search_error
    (hSearch :
      search tree store.searchPaths = .error error) :
    store.afterListing tree = store := by
  unfold afterListing
  rw [hSearch]

/- It ends a scan at once. -/
theorem scan_of_search_error
    {naming : Naming}
    (hSearch :
      search tree store.searchPaths = .error error) :
    scan (store.view tree) naming = .error error := by
  have hNames :
      (store.view tree).recordNames = .error error := by
    unfold view
    rw [hSearch]
    rfl
  unfold scan
  rw [hNames]
  rfl

end DirectoryStore

end Componentry

------------------------------------------------------------
-- Forgetting
------------------------------------------------------------

namespace Componentry

/- The session over directories with something remembered. -/
def Session.remembering
    (session : Session)
    (paths : List Path)
    (index : DirectoryStore.Index) :
    Session :=
  session.over (.directory ⟨paths, index⟩)

/-
  A rebuild over directories gives the same report, or the
  same error, and publishes the same, whichever of two things
  the store remembers.  It asks the store question by
  question.  If the directories can be searched, the store
  then remembers what the search finds, and as long as no file
  changes a record is read from the earliest directory that
  holds it; only one that none holds is not found.  If they
  cannot be searched, that is the error, and the store
  remembers what it did.
-/
structure ForgetsPast
    (session : Session)
    (paths : List Path)
    (registry : Registry)
    (first second : DirectoryStore.Index) : Prop where
  answer :
    ((session.remembering paths first).rebuildWith
        registry).1 =
      ((session.remembering paths second).rebuildWith
        registry).1
  published :
    ((session.remembering paths first).rebuildWith
        registry).2.registry =
      ((session.remembering paths second).rebuildWith
        registry).2.registry
  visits :
    ∀ index,
      (session.remembering paths index).rebuildWith registry =
        session.rebuildVisiting registry ⟨paths, index⟩
  replaced :
    ∀ index found,
      DirectoryStore.search session.tree paths = .ok found →
        ((session.remembering paths index).rebuildWith
            registry).2.store =
          .directory ⟨paths, found⟩
  kept :
    ∀ index error,
      DirectoryStore.search session.tree paths =
          .error error →
        ((session.remembering paths index).rebuildWith
            registry).1 = .error (.store error) ∧
          ((session.remembering paths index).rebuildWith
              registry).2.store =
            .directory ⟨paths, index⟩
  loads :
    ∀ index found inquiries name,
      DirectoryStore.search session.tree paths = .ok found →
        ((((session.remembering paths index).rebuildWith
            registry).2.afterInquiries inquiries).load
              name).1 =
          match
              paths.find?
                (DirectoryStore.holdsRecord session.tree ·
                  name) with
          | some directory =>
              DirectoryStore.loadFile session.tree name
                (DirectoryStore.recordPath directory name)
          | none => .error (.notFound name)
  unknown :
    ∀ index found inquiries name,
      DirectoryStore.search session.tree paths = .ok found →
        ((∃ other,
            ((((session.remembering paths index).rebuildWith
              registry).2.afterInquiries inquiries).load
                name).1 = .error (.notFound other)) ↔
          ∀ directory ∈ paths,
            DirectoryStore.holdsRecord session.tree directory
              name = false)

namespace Session

variable {session : Session}
variable {paths : List Path}
variable {found : DirectoryStore.Index}

/-
  Once directories have been listed, a scan does not see what
  was remembered before.
-/
theorem scan_remembering
    (session : Session)
    (paths : List Path)
    (naming : Naming)
    (first second : DirectoryStore.Index) :
    scan (session.remembering paths first).listed.view
        naming =
      scan (session.remembering paths second).listed.view
        naming := by
  rw [listed_view rfl, listed_view rfl]
  cases hSearch :
      DirectoryStore.search session.tree paths with
  | ok found =>
      rw [DirectoryStore.afterListing_of_search hSearch,
        DirectoryStore.afterListing_of_search hSearch]
      rfl
  | error error =>
      rw [DirectoryStore.afterListing_of_search_error hSearch,
        DirectoryStore.afterListing_of_search_error hSearch,
        DirectoryStore.scan_of_search_error hSearch,
        DirectoryStore.scan_of_search_error hSearch]

/- A rebuild whose search succeeds leaves a fresh store. -/
theorem isFresh_rebuildWith
    (hSearch :
      DirectoryStore.search session.tree paths = .ok found)
    (registry : Registry)
    (index : DirectoryStore.Index) :
    ((session.remembering paths index).rebuildWith
        registry).2.IsFresh session.tree paths found where
  placed := rfl
  stored :=
    congrArg StoreState.directory
      (DirectoryStore.afterListing_of_search hSearch)
  searched := hSearch

/- One whose search fails gives that error. -/
theorem rebuildWith_of_search_error
    {error : StoreError}
    (hSearch :
      DirectoryStore.search session.tree paths =
        .error error)
    (registry : Registry)
    (index : DirectoryStore.Index) :
    ((session.remembering paths index).rebuildWith
          registry).1 =
        .error (.store error) ∧
      ((session.remembering paths index).rebuildWith
          registry).2.store =
        .directory ⟨paths, index⟩ := by
  have hListing :
      DirectoryStore.afterListing ⟨paths, index⟩
          session.tree =
        ⟨paths, index⟩ :=
    DirectoryStore.afterListing_of_search_error hSearch
  have hView :
      (session.remembering paths index).listed.view =
        DirectoryStore.view ⟨paths, index⟩ session.tree :=
    (listed_view rfl).trans
      (congrArg (·.view session.tree) hListing)
  constructor
  · change (registry.rebuild _).1 = _
    rw [hView, Registry.rebuild,
      DirectoryStore.scan_of_search_error hSearch]
  · exact congrArg StoreState.directory hListing

/-
  A rebuild over directories forgets what the store remembers.
-/
theorem forgetsPast
    (hPlain : session.tree.HasPlainNames)
    (paths : List Path)
    (registry : Registry)
    (first second : DirectoryStore.Index) :
    ForgetsPast session paths registry first second := by
  have hScan :=
    session.scan_remembering paths registry.naming first second
  have hRebuild :
      registry.rebuild
          (session.remembering paths first).listed.view =
        registry.rebuild
          (session.remembering paths second).listed.view := by
    unfold Registry.rebuild
    rw [hScan]
  constructor
  case answer => exact congrArg (·.1) hRebuild
  case published => exact congrArg (some ·.2) hRebuild
  case visits =>
    intro index
    exact session.rebuildWith_over registry ⟨paths, index⟩
  case replaced =>
    intro index found hSearch
    exact (isFresh_rebuildWith hSearch registry index).stored
  case kept =>
    intro index error hSearch
    exact
      rebuildWith_of_search_error hSearch registry index
  case loads =>
    intro index found inquiries name hSearch
    have hFresh := isFresh_rebuildWith hSearch registry index
    exact
      (hFresh.afterInquiries inquiries).load_eq hPlain name
  case unknown =>
    intro index found inquiries name hSearch
    have hFresh := isFresh_rebuildWith hSearch registry index
    exact
      (hFresh.afterInquiries inquiries).load_eq_notFound_iff
        hPlain name

/-
  The store of the small installation remembers a project that
  is not the first of its name; one that has not searched yet
  remembers nothing.
-/
theorem forgetsPast_packages :
    FileTree.packages.HasPlainNames ∧
      ForgetsPast .packages DirectoryStore.packages.searchPaths
        ⟨.standard, none⟩ DirectoryStore.packages.index ∅ := by
  have hPlain : FileTree.packages.HasPlainNames := by
    decide +kernel
  exact
    ⟨hPlain,
      forgetsPast hPlain DirectoryStore.packages.searchPaths
        ⟨.standard, none⟩ DirectoryStore.packages.index ∅⟩

end Session

end Componentry
