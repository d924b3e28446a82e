import Componentry.Proofs.Answers
import Componentry.Proofs.ByteOrder
import Componentry.Registry.Scan

/-
  Loading the records of a class.

  Loading gives the records that can be read, in the order of
  their names, and a diagnostic for every record that cannot
  be understood.  In an orderly store the names increase, and
  a record carries the name that it is loaded under.

  Main declarations:
    * `Store.IsOrderly`
    * `Store.loaded`, `Store.recordsOf`
    * `loadAll_records`, `loadAll_diagnostics`
    * `loadAll_countP`
-/

------------------------------------------------------------
-- Orderly Stores
------------------------------------------------------------

namespace Componentry

namespace Store

/-
  The names of a listing increase in byte order, so none
  occurs twice, and a record has the name it is loaded under.
-/
structure IsOrderly (store : Store) : Prop where
  names_increase :
    ∀ names, store.recordNames = .ok names →
      names.Pairwise fun first second =>
        Text.bytes first < Text.bytes second
  name_of_load :
    ∀ name record, store.load name = .ok record →
      record.name = name

/- The records that can be loaded under the given names. -/
def loaded
    (store : Store)
    (names : List String) :
    List Descriptor :=
  names.filterMap fun name => (store.load name).toOption

/- The records of a class that can be loaded. -/
def recordsOf
    (store : Store)
    (naming : Naming)
    (names : List String)
    (group : RecordClass) :
    List Descriptor :=
  store.loaded (names.filter (naming.selects group))

end Store

end Componentry

------------------------------------------------------------
-- Records in Order
------------------------------------------------------------

namespace Componentry

namespace Store

variable {store : Store} {naming : Naming}
variable {names : List String} {group : RecordClass}

/- The names of a listing increase, so none occurs twice. -/
theorem IsOrderly.pairwise_names
    (hStore : store.IsOrderly)
    (hNames : store.recordNames = .ok names) :
    names.Pairwise (· < ·) :=
  (hStore.names_increase names hNames).imp
    Text.bytes_lt_iff.mp

theorem IsOrderly.nodup_names
    (hStore : store.IsOrderly)
    (hNames : store.recordNames = .ok names) :
    names.Nodup :=
  (hStore.pairwise_names hNames).imp String.ne_of_lt

/- A record of an orderly store is loaded under its name. -/
theorem mem_loaded_iff
    (hStore : store.IsOrderly)
    {record : Descriptor} :
    record ∈ store.loaded names ↔
      record.name ∈ names ∧
        store.load record.name = .ok record := by
  simp only [loaded, List.mem_filterMap,
    toOption_eq_some_iff]
  constructor
  · rintro ⟨name, hName, hLoad⟩
    rw [hStore.name_of_load name record hLoad]
    exact ⟨hName, hLoad⟩
  · rintro ⟨hName, hLoad⟩
    exact ⟨record.name, hName, hLoad⟩

/- The records of a class are the selected ones. -/
theorem mem_recordsOf_iff
    (hStore : store.IsOrderly)
    {record : Descriptor} :
    record ∈ store.recordsOf naming names group ↔
      record.name ∈ names ∧
        naming.selects group record.name = true ∧
        store.load record.name = .ok record := by
  rw [recordsOf, mem_loaded_iff hStore, List.mem_filter,
    and_assoc]

/- The records of a class stand in the order of their names. -/
theorem recordsOf_pairwise
    (hStore : store.IsOrderly)
    (hNames : store.recordNames = .ok names) :
    (store.recordsOf naming names group).Pairwise
      (fun first second => first.name < second.name) := by
  have hSelected :
      (names.filter (naming.selects group)).Pairwise
        (· < ·) :=
    (hStore.pairwise_names hNames).filter _
  refine hSelected.filterMap _ ?_
  intro first second hLess record hFirst other hSecond
  rw [toOption_eq_some_iff] at hFirst hSecond
  rw [hStore.name_of_load first record hFirst,
    hStore.name_of_load second other hSecond]
  exact hLess

end Store

end Componentry

------------------------------------------------------------
-- What Loading Gives
------------------------------------------------------------

namespace Componentry

variable {store : Store} {names : List String}
variable {loaded : Loaded}

/-
  Loading one name more: the record is kept if there is one,
  else a diagnostic is noted for the name.
-/
theorem loadAll_cons_cases
    {name : String}
    (hLoad : loadAll store (name :: names) = .ok loaded) :
    ∃ rest,
      loadAll store names = .ok rest ∧
        ((∃ record, store.load name = .ok record ∧
            loaded =
              { rest with
                records := record :: rest.records }) ∨
          (∃ error, store.load name = .error error ∧
            loaded =
              { rest with
                diagnostics :=
                  .unreadable name error ::
                    rest.diagnostics })) := by
  rw [loadAll] at hLoad
  cases hName : store.load name with
  | ok record =>
      simp only [hName, bind_eq_ok_iff,
        Except.ok.injEq] at hLoad
      rcases hLoad with ⟨rest, hRest, rfl⟩
      exact ⟨rest, hRest, Or.inl ⟨record, rfl, rfl⟩⟩
  | error error =>
      simp only [hName] at hLoad
      by_cases hParse : error.isParse = true
      · simp only [hParse, if_true, bind_eq_ok_iff,
          Except.ok.injEq] at hLoad
        rcases hLoad with ⟨rest, hRest, rfl⟩
        exact ⟨rest, hRest, Or.inr ⟨error, rfl, rfl⟩⟩
      · simp [hParse] at hLoad

/- Loading gives the records that can be loaded. -/
theorem loadAll_records
    (hLoad : loadAll store names = .ok loaded) :
    loaded.records = store.loaded names := by
  induction names generalizing loaded with
  | nil =>
      cases hLoad
      rfl
  | cons name names ih =>
      rcases loadAll_cons_cases hLoad with
        ⟨rest, hRest, ⟨record, hName, rfl⟩ |
          ⟨error, hName, rfl⟩⟩
      · simp [Store.loaded, hName, Except.toOption, ih hRest]
      · simp [Store.loaded, hName, Except.toOption, ih hRest]

/- What loading notes are malformed records of its names. -/
theorem loadAll_diagnostics
    (hLoad : loadAll store names = .ok loaded) :
    ∀ diagnostic ∈ loaded.diagnostics,
      diagnostic.kind = .malformedRecord ∧
        diagnostic.record ∈ names := by
  induction names generalizing loaded with
  | nil =>
      cases hLoad
      simp
  | cons name names ih =>
      rcases loadAll_cons_cases hLoad with
        ⟨rest, hRest, ⟨record, hName, rfl⟩ |
          ⟨error, hName, rfl⟩⟩
      · intro diagnostic hMember
        have hFound := ih hRest diagnostic hMember
        exact ⟨hFound.1, List.mem_cons_of_mem _ hFound.2⟩
      · intro diagnostic hMember
        rcases List.mem_cons.mp hMember with rfl | hMember
        · exact ⟨rfl, List.mem_cons_self⟩
        · have hFound := ih hRest diagnostic hMember
          exact ⟨hFound.1, List.mem_cons_of_mem _ hFound.2⟩

/- Every name gives a record or a diagnostic, and only one. -/
theorem loadAll_countP
    (hStore : store.IsOrderly)
    (hLoad : loadAll store names = .ok loaded)
    (chosen : String → Bool) :
    loaded.records.countP (chosen ·.name) +
        loaded.diagnostics.countP (chosen ·.record) =
      names.countP chosen := by
  induction names generalizing loaded with
  | nil =>
      cases hLoad
      rfl
  | cons name names ih =>
      rcases loadAll_cons_cases hLoad with
        ⟨rest, hRest, ⟨record, hName, rfl⟩ |
          ⟨error, hName, rfl⟩⟩
      · have hRecord := hStore.name_of_load name record hName
        have hCount := ih hRest
        simp only [List.countP_cons, hRecord]
        omega
      · have hCount := ih hRest
        simp only [List.countP_cons, Diagnostic.unreadable]
        omega

end Componentry
