import Mathlib.Data.List.Induction
import Mathlib.Data.List.Nodup
import Componentry.Registry.Snapshot

/-
  Tables of values by name.

  The values of a table are those found under some name, each
  name once.  A table made from a list of values with
  different names holds exactly these values; one in which the
  first value of a name stays holds the first of each name.

  Main declarations:
    * `Table.mem_values_iff`, `Table.length_values`
    * `ByName.values_insert_perm`
    * `ByName.ofValues`, `ByName.ofFirst`
    * `ByName.getElem?_foldl_put_iff`
    * `ByName.getElem?_ofValues_iff`
    * `ByName.values_ofValues_perm`
    * `ByName.getElem?_ofFirst`
    * `find?_eq_some_iff_first`
-/

------------------------------------------------------------
-- Values of Tables
------------------------------------------------------------

namespace Componentry

namespace Table

variable {κ α : Type}
variable [Ord κ] [Std.TransOrd κ]

/- The values of a table are those of its entries. -/
theorem values_eq_map_toList
    (table : Std.ExtTreeMap κ α) :
    table.values = table.toList.map (·.2) := by
  rcases table with ⟨table⟩
  induction table using Std.ExtDTreeMap.inductionOn with
  | mk table =>
      change
        table.inner.values =
          (Std.DTreeMap.Internal.Impl.Const.toList
            table.inner).map (·.2)
      rw [Std.DTreeMap.Internal.Impl.values_eq_map_snd,
        Std.DTreeMap.Internal.Impl.Const.toList_eq_toListModel_map,
        List.map_map]
      rfl

/- A table has one value for every entry. -/
theorem length_values
    (table : Std.ExtTreeMap κ α) :
    table.values.length = table.size := by
  rw [values_eq_map_toList, List.length_map,
    Std.ExtTreeMap.length_toList]

/- The values of a table are those that keys find. -/
theorem mem_values_iff
    [Std.LawfulEqOrd κ]
    {table : Std.ExtTreeMap κ α}
    {value : α} :
    value ∈ table.values ↔
      ∃ key : κ, table[key]? = some value := by
  rw [values_eq_map_toList]
  simp only [List.mem_map, Prod.exists, exists_eq_right,
    Std.ExtTreeMap.mem_toList_iff_getElem?_eq_some]

end Table

end Componentry

------------------------------------------------------------
-- Values by Name
------------------------------------------------------------

namespace Componentry

namespace ByName

variable {α : Type}

/- The names in a table increase, so none occurs twice. -/
theorem pairwise_keys
    (table : ByName α) :
    table.keys.Pairwise (· < ·) :=
  table.ordered_keys.imp compareOfLessAndEq_eq_lt.mp

/- What a table finds after a value has been put into it. -/
theorem getElem?_insert
    (table : ByName α)
    (name : String)
    (value : α)
    (key : String) :
    (table.insert name value)[key]? =
      if name = key then some value else table[key]? := by
  simp [Std.ExtTreeMap.getElem?_insert]

/- A value under a new name is found; others are kept. -/
theorem getElem?_insertIfNew
    (table : ByName α)
    (name : String)
    (value : α)
    (key : String) :
    (table.insertIfNew name value)[key]? =
      (table[key]?).or
        (if name = key then some value else none) := by
  rw [Std.ExtTreeMap.getElem?_insertIfNew]
  by_cases hKey : name = key
  · subst hKey
    cases hFound : table[name]? with
    | none => simp [Std.ExtTreeMap.mem_iff_isSome_getElem?, hFound]
    | some found =>
        simp [Std.ExtTreeMap.mem_iff_isSome_getElem?, hFound]
  · simp [hKey]

/- A table keeps the value that it has under a name. -/
theorem insertIfNew_of_some
    {table : ByName α}
    {name : String}
    {found : α}
    (hFound : table[name]? = some found)
    (value : α) :
    table.insertIfNew name value = table := by
  apply Std.ExtTreeMap.ext_getElem?
  intro key
  rw [getElem?_insertIfNew]
  by_cases hKey : name = key
  · subst hKey
    simp [hFound]
  · simp [hKey]

/- A table takes a value under a new name. -/
theorem insertIfNew_of_none
    {table : ByName α}
    {name : String}
    (hNew : table[name]? = none)
    (value : α) :
    table.insertIfNew name value =
      table.insert name value := by
  apply Std.ExtTreeMap.ext_getElem?
  intro key
  rw [getElem?_insertIfNew, getElem?_insert]
  by_cases hKey : name = key
  · subst hKey
    simp [hNew]
  · simp [hKey]

/- A value under a new name makes a table larger. -/
theorem size_insert_of_none
    {table : ByName α}
    {name : String}
    (hNew : table[name]? = none)
    (value : α) :
    (table.insert name value).size = table.size + 1 := by
  simp [Std.ExtTreeMap.size_insert,
    Std.ExtTreeMap.mem_iff_isSome_getElem?, hNew]

/- A value under a known name does not. -/
theorem size_insert_of_some
    {table : ByName α}
    {name : String}
    {found : α}
    (hFound : table[name]? = some found)
    (value : α) :
    (table.insert name value).size = table.size := by
  simp [Std.ExtTreeMap.size_insert,
    Std.ExtTreeMap.mem_iff_isSome_getElem?, hFound]

/- No entry stands twice in the list of a table. -/
theorem nodup_toList
    (table : ByName α) :
    table.toList.Nodup := by
  refine table.distinct_keys_toList.imp ?_
  rintro entry _ hNames rfl
  exact hNames Std.ReflCmp.compare_self

/- Lists with the entries of a table give its values. -/
theorem values_perm_of_mem_iff
    {table : ByName α}
    (entries : List (String × α))
    (hNodup : entries.Nodup)
    (hEntries :
      ∀ name value,
        (name, value) ∈ entries ↔
          table[name]? = some value) :
    table.values.Perm (entries.map (·.2)) := by
  rw [Table.values_eq_map_toList]
  apply List.Perm.map
  rw [List.perm_ext_iff_of_nodup table.nodup_toList hNodup]
  rintro ⟨name, value⟩
  rw [hEntries,
    Std.ExtTreeMap.mem_toList_iff_getElem?_eq_some]

/- A value under a new name is added to the values. -/
theorem values_insert_perm
    {table : ByName α}
    {name : String}
    {value : α}
    (hNew : table[name]? = none) :
    (table.insert name value).values.Perm
      (value :: table.values) := by
  rw [Table.values_eq_map_toList table]
  refine
    values_perm_of_mem_iff ((name, value) :: table.toList)
      ?_ ?_
  · refine List.nodup_cons.mpr ⟨?_, table.nodup_toList⟩
    simp [hNew]
  · intro other found
    rw [List.mem_cons, Prod.mk.injEq,
      Std.ExtTreeMap.mem_toList_iff_getElem?_eq_some,
      getElem?_insert]
    by_cases hName : name = other
    · subst hName
      simp [hNew, eq_comm]
    · simp [hName, Ne.symm hName]

end ByName

end Componentry

------------------------------------------------------------
-- Tables of Lists
------------------------------------------------------------

namespace Componentry

namespace ByName

variable {α : Type}

/- The table of a list; the last value of a name stays. -/
def ofValues
    (name : α → String)
    (values : List α) :
    ByName α :=
  values.foldl
    (fun table value => table.insert (name value) value) ∅

/- The table of a list; the first value of a name stays. -/
def ofFirst
    (name : α → String)
    (values : List α) :
    ByName α :=
  values.foldl
    (fun table value => table.insertIfNew (name value) value)
    ∅

theorem ofFirst_append_singleton
    (name : α → String)
    (values : List α)
    (last : α) :
    ofFirst name (values ++ [last]) =
      (ofFirst name values).insertIfNew (name last) last := by
  rw [ofFirst, List.foldl_append]
  rfl

/- What is found is a value of the list with that name. -/
theorem mem_of_getElem?_ofValues
    {name : α → String}
    {values : List α}
    {key : String}
    {value : α}
    (hFound : (ofValues name values)[key]? = some value) :
    value ∈ values ∧ name value = key := by
  induction values using List.reverseRecOn with
  | nil => simp [ofValues] at hFound
  | append_singleton values last ih =>
      rw [ofValues, List.foldl_append, ← ofValues,
        List.foldl_cons, List.foldl_nil, getElem?_insert]
        at hFound
      by_cases hKey : name last = key
      · rw [if_pos hKey, Option.some.injEq] at hFound
        subst hFound
        exact ⟨by simp, hKey⟩
      · rw [if_neg hKey] at hFound
        rcases ih hFound with ⟨hMember, hName⟩
        exact ⟨List.mem_append_left _ hMember, hName⟩

/- Something is found under the name of every value. -/
theorem exists_getElem?_ofValues
    {name : α → String}
    {values : List α}
    {value : α}
    (hMember : value ∈ values) :
    ∃ found,
      (ofValues name values)[name value]? = some found := by
  induction values using List.reverseRecOn with
  | nil => simp at hMember
  | append_singleton values last ih =>
      rw [ofValues, List.foldl_append, ← ofValues,
        List.foldl_cons, List.foldl_nil, getElem?_insert]
      by_cases hName : name last = name value
      · exact ⟨last, if_pos hName⟩
      · rw [if_neg hName]
        rcases List.mem_append.mp hMember with
          hEarlier | hLast
        · exact ih hEarlier
        · rw [List.mem_singleton.mp hLast] at hName
          exact (hName rfl).elim

/- Different names find exactly what is put under them. -/
theorem getElem?_foldl_put_iff
    {β : Type}
    {name : β → String}
    {value : β → α}
    {items : List β}
    (hNames : (items.map name).Nodup)
    {key : String}
    {found : α} :
    (items.foldl
          (fun table item =>
            table.insert (name item) (value item))
          (∅ : ByName α))[key]? =
        some found ↔
      ∃ item ∈ items, name item = key ∧ value item = found := by
  induction items using List.reverseRecOn with
  | nil => simp
  | append_singleton items last ih =>
      rw [List.map_append, List.nodup_append] at hNames
      rcases hNames with ⟨hNames, -, hFresh⟩
      have hLast :
          ∀ other ∈ items, name other ≠ name last := by
        intro other hOther
        exact
          hFresh _ (List.mem_map_of_mem hOther) _ (by simp)
      rw [List.foldl_append, List.foldl_cons,
        List.foldl_nil, getElem?_insert]
      by_cases hKey : name last = key
      · subst hKey
        rw [if_pos rfl, Option.some.injEq]
        constructor
        · intro hFound
          exact ⟨last, by simp, rfl, hFound⟩
        · intro hFound
          rcases hFound with ⟨item, hItem, hName, hValue⟩
          rcases List.mem_append.mp hItem with
            hEarlier | hItem
          · exact (hLast item hEarlier hName).elim
          · rw [← List.mem_singleton.mp hItem]
            exact hValue
      · rw [if_neg hKey, ih hNames]
        constructor
        · intro hFound
          rcases hFound with ⟨item, hItem, hRest⟩
          exact
            ⟨item, List.mem_append_left _ hItem, hRest⟩
        · intro hFound
          rcases hFound with ⟨item, hItem, hName, hValue⟩
          rcases List.mem_append.mp hItem with
            hEarlier | hItem
          · exact ⟨item, hEarlier, hName, hValue⟩
          · rw [List.mem_singleton.mp hItem] at hName
            exact (hKey hName).elim

/- Different names find exactly the values of the list. -/
theorem getElem?_ofValues_iff
    {name : α → String}
    {values : List α}
    (hNames : (values.map name).Nodup)
    {key : String}
    {value : α} :
    (ofValues name values)[key]? = some value ↔
      value ∈ values ∧ name value = key := by
  have hPut :
      (ofValues name values)[key]? = some value ↔
        ∃ item ∈ values, name item = key ∧ item = value :=
    getElem?_foldl_put_iff hNames
  rw [hPut]
  constructor
  · intro hFound
    rcases hFound with ⟨item, hItem, hName, hSame⟩
    subst hSame
    exact ⟨hItem, hName⟩
  · intro hMember
    exact ⟨value, hMember.1, hMember.2, rfl⟩

/- Different names keep all values of the list. -/
theorem values_ofValues_perm
    {name : α → String}
    {values : List α}
    (hNames : (values.map name).Nodup) :
    (ofValues name values).values.Perm values := by
  have hPerm :
      (ofValues name values).values.Perm
        ((values.map fun value =>
          (name value, value)).map (·.2)) := by
    apply values_perm_of_mem_iff
    · refine List.Nodup.of_map (·.1) ?_
      rw [List.map_map]
      exact hNames
    · intro key value
      rw [getElem?_ofValues_iff hNames]
      simp only [List.mem_map, Prod.mk.injEq]
      constructor
      · rintro ⟨found, hFound, rfl, rfl⟩
        exact ⟨hFound, rfl⟩
      · rintro ⟨hFound, rfl⟩
        exact ⟨value, hFound, rfl, rfl⟩
  simpa [List.map_map, Function.comp_def] using hPerm

/- The first value of a name is the one that is found. -/
theorem getElem?_ofFirst
    (name : α → String)
    (values : List α)
    (key : String) :
    (ofFirst name values)[key]? =
      values.find? (fun value => name value == key) := by
  induction values using List.reverseRecOn with
  | nil => simp [ofFirst]
  | append_singleton values last ih =>
      rw [ofFirst_append_singleton, getElem?_insertIfNew, ih,
        List.find?_append, List.find?_singleton]
      simp

end ByName

end Componentry

------------------------------------------------------------
-- First Values
------------------------------------------------------------

namespace Componentry

/-
  In a list that is in order, the value found is the only one
  sought that no other one comes before.
-/
theorem find?_eq_some_iff_first
    {α : Type}
    {precedes : α → α → Prop}
    {values : List α}
    (hOrder : values.Pairwise precedes)
    (hAsymm :
      ∀ first second,
        precedes first second → ¬ precedes second first)
    {sought : α → Bool}
    {value : α} :
    values.find? sought = some value ↔
      value ∈ values ∧
        sought value = true ∧
        ∀ other ∈ values,
          sought other = true → ¬ precedes other value := by
  induction values with
  | nil => simp
  | cons first values ih =>
      rcases List.pairwise_cons.mp hOrder with
        ⟨hFirst, hOrder⟩
      cases hSought : sought first with
      | true =>
          rw [List.find?_cons_of_pos hSought,
            Option.some.injEq]
          constructor
          · rintro rfl
            refine ⟨List.mem_cons_self, hSought, ?_⟩
            intro other hOther _ hLess
            rcases List.mem_cons.mp hOther with rfl | hOther
            · exact hAsymm _ _ hLess hLess
            · exact hAsymm _ _ (hFirst other hOther) hLess
          · rintro ⟨hMember, -, hLeast⟩
            rcases List.mem_cons.mp hMember with
              rfl | hMember
            · rfl
            · exact
                (hLeast first List.mem_cons_self hSought
                  (hFirst value hMember)).elim
      | false =>
          rw [List.find?_cons_of_neg (by simp [hSought]),
            ih hOrder]
          constructor
          · rintro ⟨hMember, hValue, hLeast⟩
            refine
              ⟨List.mem_cons_of_mem _ hMember, hValue, ?_⟩
            intro other hOther hFound
            rcases List.mem_cons.mp hOther with rfl | hOther
            · rw [hSought] at hFound
              cases hFound
            · exact hLeast other hOther hFound
          · rintro ⟨hMember, hValue, hLeast⟩
            rcases List.mem_cons.mp hMember with
              rfl | hMember
            · rw [hSought] at hValue
              cases hValue
            · refine ⟨hMember, hValue, ?_⟩
              intro other hOther hFound
              exact
                hLeast other (List.mem_cons_of_mem _ hOther)
                  hFound

end Componentry
