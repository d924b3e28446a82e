import Componentry.Proofs.Store.Searches
import Componentry.Registry.Scan

/-
  Scans that visit a store over directories.

  A visit asks the store one question after the other, and
  every question may change what the store remembers: a
  listing replaces it, and so does a record whose name is
  unknown.  A scan lists first.  The names that it then asks
  for are those that were found, so nothing changes any more:
  the visit does what a scan of the answers of the listed
  store does.

  Main declarations:
    * `Visit`, `Visit.scan`
    * `Visit.IsQuiet`, `Visit.IsQuiet.bind`
    * `Visit.run_scan`
-/

------------------------------------------------------------
-- Visits
------------------------------------------------------------

namespace Componentry

/- Questions to a store that remembers what it has found. -/
abbrev Visit := ExceptT StoreError (StateM DirectoryStore)

namespace Visit

variable (tree : FileTree) (naming : Naming)

/- List the records. -/
def recordNames : Visit (List String) :=
  ExceptT.mk fun store =>
    ((store.view tree).recordNames, store.afterListing tree)

/- Look up a record; it may not be understood. -/
def lookUp
    (name : String) :
    Visit (Except StoreError Descriptor) :=
  ExceptT.mk fun store =>
    (.ok ((store.view tree).load name),
      store.afterLoad tree name)

/- Load records by name; those not understood are noted. -/
def loadAll : List String → Visit Loaded
  | [] => pure ⟨[], []⟩
  | name :: rest => do
      match ← lookUp tree name with
      | .ok record => do
          let loaded ← loadAll rest
          pure { loaded with records := record :: loaded.records }
      | .error error =>
          if error.isParse then do
            let loaded ← loadAll rest
            pure
              { loaded with
                diagnostics :=
                  .unreadable name error :: loaded.diagnostics }
          else throw error

/-
  Register a record.  Of the store this reads type lists only,
  and what is read is not remembered.
-/
def registerRecord
    (group : RecordClass)
    (draft : Draft)
    (record : Descriptor) :
    Visit Draft :=
  ExceptT.mk fun store =>
    (Componentry.registerRecord (store.view tree) naming group
      draft record, store)

/- Scan the records of a class. -/
def scanClass
    (names : List String)
    (draft : Draft)
    (group : RecordClass) :
    Visit Draft := do
  let loaded ←
    loadAll tree (names.filter (naming.selects group))
  loaded.records.foldlM (registerRecord tree naming group)
    (draft.diagnoseAll loaded.diagnostics)

/- The snapshot of a store, with all diagnostics. -/
def scan : Visit Draft := do
  let names ← recordNames tree
  RecordClass.all.foldlM (scanClass tree naming names)
    (.empty naming.target)

end Visit

end Componentry

------------------------------------------------------------
-- Quiet Visits
------------------------------------------------------------

namespace Componentry

namespace Visit

variable {α β σ : Type}
variable {store : DirectoryStore}

/- A visit gets an answer and leaves the store as it is. -/
def IsQuiet
    (store : DirectoryStore)
    (visit : Visit α)
    (answer : Except StoreError α) : Prop :=
  visit.run.run store = (answer, store)

namespace IsQuiet

theorem pure (value : α) :
    IsQuiet store (Pure.pure value) (.ok value) :=
  rfl

theorem throw (error : StoreError) :
    IsQuiet store (throw error : Visit α) (.error error) :=
  rfl

/- Quiet visits one after the other are quiet. -/
theorem bind
    {visit : Visit α}
    {next : α → Visit β}
    {answer : Except StoreError α}
    {after : α → Except StoreError β}
    (hVisit : IsQuiet store visit answer)
    (hNext :
      ∀ value, IsQuiet store (next value) (after value)) :
    IsQuiet store (visit >>= next) (answer >>= after) := by
  unfold IsQuiet at hVisit
  rw [IsQuiet, ExceptT.run_bind, StateT.run_bind, hVisit]
  cases answer with
  | error error => rfl
  | ok value => exact hNext value

/- So is a visit behind one that gets an answer. -/
theorem bind_ok
    {visit : Visit α}
    {next : α → Visit β}
    {value : α}
    {answer : Except StoreError β}
    (hVisit : IsQuiet store visit (.ok value))
    (hNext : IsQuiet store (next value) answer) :
    IsQuiet store (visit >>= next) answer := by
  unfold IsQuiet at hVisit
  rw [IsQuiet, ExceptT.run_bind, StateT.run_bind, hVisit]
  exact hNext

theorem foldlM
    {step : σ → α → Visit σ}
    {pureStep : σ → α → Except StoreError σ}
    (hStep :
      ∀ state item,
        IsQuiet store (step state item)
          (pureStep state item))
    (start : σ)
    (items : List α) :
    IsQuiet store (items.foldlM step start)
      (items.foldlM pureStep start) := by
  induction items generalizing start with
  | nil => exact pure start
  | cons item items ih =>
      rw [List.foldlM_cons, List.foldlM_cons]
      exact (hStep start item).bind ih

end IsQuiet

end Visit

end Componentry

------------------------------------------------------------
-- Visits of Listed Stores
------------------------------------------------------------

namespace Componentry

namespace Visit

variable {tree : FileTree} {naming : Naming}
variable {store : DirectoryStore}
variable {names : List String}

/- A record that is known is looked up without a search. -/
theorem lookUp_isQuiet
    {name : String}
    (hKnown : name ∈ store.index) :
    IsQuiet store (lookUp tree name)
      (.ok ((store.view tree).load name)) := by
  have hAfter : store.afterLoad tree name = store :=
    if_pos (Std.ExtTreeMap.contains_iff_mem.mpr hKnown)
  change (_, store.afterLoad tree name) = (_, store)
  rw [hAfter]

/- So are all records that are known. -/
theorem loadAll_isQuiet
    (hKnown : ∀ name ∈ names, name ∈ store.index) :
    IsQuiet store (loadAll tree names)
      (Componentry.loadAll (store.view tree) names) := by
  induction names with
  | nil => exact .pure _
  | cons name names ih =>
      rw [List.forall_mem_cons] at hKnown
      have hRest := ih hKnown.2
      unfold loadAll Componentry.loadAll
      apply (lookUp_isQuiet hKnown.1).bind_ok
      cases (store.view tree).load name with
      | ok record => exact hRest.bind fun _ => .pure _
      | error error =>
          cases hParse : error.isParse with
          | true =>
              simp only [hParse, if_true]
              exact hRest.bind fun _ => .pure _
          | false =>
              simp only [hParse, Bool.false_eq_true, if_false]
              exact .throw error

/- Registering a record changes nothing in any store. -/
theorem registerRecord_isQuiet
    (store : DirectoryStore)
    (group : RecordClass)
    (draft : Draft)
    (record : Descriptor) :
    IsQuiet store
      (registerRecord tree naming group draft record)
      (Componentry.registerRecord (store.view tree) naming
        group draft record) :=
  rfl

theorem scanClass_isQuiet
    (hKnown : ∀ name ∈ names, name ∈ store.index)
    (draft : Draft)
    (group : RecordClass) :
    IsQuiet store (scanClass tree naming names draft group)
      (Componentry.scanClass (store.view tree) naming names
        draft group) := by
  have hLoad :
      IsQuiet store
        (loadAll tree (names.filter (naming.selects group)))
        (Componentry.loadAll (store.view tree)
          (names.filter (naming.selects group))) := by
    apply loadAll_isQuiet
    intro name hName
    exact hKnown name (List.mem_of_mem_filter hName)
  exact
    hLoad.bind fun loaded =>
      .foldlM (registerRecord_isQuiet store group) _ _

/-
  A scan that visits a store does what one of the answers of
  the listed store does, and leaves the store listed.
-/
theorem run_scan
    (tree : FileTree)
    (naming : Naming)
    (store : DirectoryStore) :
    (scan tree naming).run.run store =
      (Componentry.scan ((store.afterListing tree).view tree)
          naming,
        store.afterListing tree) := by
  have hListing :
      (recordNames tree).run.run store =
        (((store.afterListing tree).view tree).recordNames,
          store.afterListing tree) := by
    rw [DirectoryStore.recordNames_afterListing]
    rfl
  unfold scan Componentry.scan
  rw [ExceptT.run_bind, StateT.run_bind, hListing]
  cases hNames :
      ((store.afterListing tree).view tree).recordNames with
  | error error => rfl
  | ok names =>
      -- What was listed is what the store remembers.
      have hKnown :
          ∀ name ∈ names,
            name ∈ (store.afterListing tree).index := by
        rw [DirectoryStore.recordNames_afterListing,
          DirectoryStore.recordNames_eq_ok_iff] at hNames
        rcases hNames with ⟨found, hSearch, hKeys⟩
        subst hKeys
        rw [DirectoryStore.afterListing_of_search hSearch]
        intro name
        exact Std.ExtTreeMap.mem_keys.mp
      exact
        IsQuiet.foldlM (scanClass_isQuiet hKnown) _ _

end Visit

end Componentry
