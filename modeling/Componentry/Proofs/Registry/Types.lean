import Componentry.Proofs.MemoryStores
import Componentry.Proofs.Registry.Counts

/-
  Who owns a type, and whether it is exported.

  The accepted typekits register their types one after the
  other.  The first registration of a type settles its owner,
  and any registration as exported exports it, so the table of
  types is told by the type lists and the order of records.

  Main declarations:
    * `registrationsOf`
    * `getElem?_foldl_indexRegistration`
    * `TypesOfTypekits`
    * `scan_typesOfTypekits`
-/

------------------------------------------------------------
-- Type Lists
------------------------------------------------------------

namespace Componentry

namespace TypeList

/- A list exports only types that it names. -/
def IsSound (list : TypeList) : Prop :=
  ∀ type ∈ list.exported, type ∈ list.all

/- A list that was read is sound. -/
theorem parse_isSound (text : String) :
    (parse text).IsSound := by
  intro type hExported
  simp only [parse, ofEntries, List.mem_map,
    List.mem_filter] at hExported ⊢
  rcases hExported with ⟨entry, ⟨hEntry, -⟩, hName⟩
  exact ⟨entry, hEntry, hName⟩

/- A list registers its private types and its exported ones. -/
theorem mem_registrations_iff
    {list : TypeList}
    {registration : String × Bool} :
    registration ∈ list.registrations ↔
      (registration.1 ∈ list.nonExported ∧
          registration.2 = false) ∨
        (registration.1 ∈ list.exported ∧
          registration.2 = true) := by
  rcases registration with ⟨type, exported⟩
  rw [registrations, List.mem_append, List.mem_map,
    List.mem_map]
  constructor
  · rintro (⟨_, hType, hSame⟩ | ⟨_, hType, hSame⟩)
    · cases hSame
      exact Or.inl ⟨hType, rfl⟩
    · cases hSame
      exact Or.inr ⟨hType, rfl⟩
  · rintro (⟨hType, rfl⟩ | ⟨hType, rfl⟩)
    · exact Or.inl ⟨type, hType, rfl⟩
    · exact Or.inr ⟨type, hType, rfl⟩

/- A sound list registers the types that it names. -/
theorem exists_mem_registrations_iff
    {list : TypeList}
    (hSound : list.IsSound)
    (type : String) :
    (∃ registration ∈ list.registrations,
        registration.1 = type) ↔
      type ∈ list.all := by
  simp only [mem_registrations_iff]
  constructor
  · rintro ⟨registration, ⟨hPrivate, -⟩ | ⟨hExported, -⟩,
      rfl⟩
    · exact List.mem_of_mem_filter hPrivate
    · exact hSound registration.1 hExported
  · intro hType
    by_cases hExported : type ∈ list.exported
    · exact ⟨(type, true), Or.inr ⟨hExported, rfl⟩, rfl⟩
    · refine ⟨(type, false), Or.inl ⟨?_, rfl⟩, rfl⟩
      simp [nonExported, isExported, hType, hExported]

end TypeList

end Componentry

------------------------------------------------------------
-- Registrations
------------------------------------------------------------

namespace Componentry

/- The registrations of typekits, each with its owner. -/
def registrationsOf
    (typekits : List (Typekit × TypeList)) :
    List (String × String × Bool) :=
  typekits.flatMap fun listed =>
    listed.2.registrations.map (listed.1.name, ·)

/- Register a type for an owner. -/
def indexRegistration
    (types : ByName TypeEntry)
    (registration : String × String × Bool) :
    ByName TypeEntry :=
  indexType registration.1 types registration.2

/- Typekits fill the index with their registrations. -/
theorem foldl_indexTypes
    (typekits : List (Typekit × TypeList))
    (types : ByName TypeEntry) :
    typekits.foldl indexTypes types =
      (registrationsOf typekits).foldl indexRegistration types := by
  induction typekits generalizing types with
  | nil => rfl
  | cons listed typekits ih =>
      rw [List.foldl_cons, ih]
      simp only [registrationsOf, List.flatMap_cons,
        List.foldl_append, List.foldl_map]
      rfl

/- What the index finds after one registration more. -/
theorem getElem?_indexRegistration
    (types : ByName TypeEntry)
    (owner type : String)
    (exported : Bool)
    (key : String) :
    (indexRegistration types (owner, type, exported))[key]? =
      if type = key then
        some
          (match types[key]? with
          | none => ⟨owner, exported⟩
          | some entry =>
              ⟨entry.owner, entry.exported || exported⟩)
      else types[key]? := by
  rw [indexRegistration, indexType, ByName.getElem?_insert]
  by_cases hKey : type = key
  · subst hKey
    rfl
  · simp only [hKey, if_false]

/-
  The first registration of a type gives the owner, and any
  registration as exported exports it.
-/
theorem getElem?_foldl_indexRegistration
    (registrations : List (String × String × Bool))
    (type : String) :
    (registrations.foldl indexRegistration ∅)[type]? =
      (registrations.find? (·.2.1 == type)).map fun first =>
        ⟨first.1,
          registrations.any fun registration =>
            registration.2.1 == type && registration.2.2⟩ := by
  induction registrations using List.reverseRecOn with
  | nil => simp
  | append_singleton registrations last ih =>
      rcases last with ⟨owner, other, exported⟩
      rw [List.foldl_append, List.foldl_cons,
        List.foldl_nil, getElem?_indexRegistration, ih,
        List.find?_append, List.any_append]
      by_cases hType : other = type
      · subst hType
        cases hFirst :
            registrations.find? (·.2.1 == other) with
        | none =>
            have hNone :
                (registrations.any fun registration =>
                  registration.2.1 == other
                    && registration.2.2) = false := by
              rw [List.find?_eq_none] at hFirst
              rw [List.any_eq_false]
              intro registration hMember
              simp [hFirst registration hMember]
            simp [hNone]
        | some first => simp
      · have hOther : (other == type) = false := by
          simpa using hType
        simp [hType, hOther]

/- The first typekit that lists a type registers it first. -/
theorem find?_registrationsOf
    {typekits : List (Typekit × TypeList)}
    (hSound : ∀ listed ∈ typekits, listed.2.IsSound)
    (type : String) :
    ((registrationsOf typekits).find?
        (·.2.1 == type)).map (·.1) =
      (typekits.find? (·.2.all.contains type)).map
        (·.1.name) := by
  induction typekits with
  | nil => rfl
  | cons listed typekits ih =>
      have hRest :=
        ih fun other hOther =>
          hSound other (List.mem_cons_of_mem _ hOther)
      have hListed :=
        TypeList.exists_mem_registrations_iff
          (hSound listed List.mem_cons_self) type
      rw [registrationsOf, List.flatMap_cons,
        ← registrationsOf, List.find?_append]
      by_cases hType : type ∈ listed.2.all
      · rw [List.find?_cons_of_pos (by simpa using hType)]
        cases hFirst :
            (listed.2.registrations.map
              (listed.1.name, ·)).find? (·.2.1 == type) with
        | none =>
            rcases hListed.mpr hType with
              ⟨registration, hMember, hName⟩
            rw [List.find?_eq_none] at hFirst
            have hNot :=
              hFirst _ (List.mem_map_of_mem hMember)
            simp [hName] at hNot
        | some first =>
            have hMember := List.mem_of_find?_eq_some hFirst
            rcases List.mem_map.mp hMember with ⟨_, _, rfl⟩
            rfl
      · rw [List.find?_cons_of_neg (by simpa using hType),
          ← hRest]
        have hNone :
            (listed.2.registrations.map
              (listed.1.name, ·)).find? (·.2.1 == type) =
                none := by
          rw [List.find?_eq_none]
          intro found hFound
          rcases List.mem_map.mp hFound with
            ⟨registration, hMember, rfl⟩
          intro hName
          exact
            hType
              (hListed.mp
                ⟨registration, hMember, by simpa using hName⟩)
        rw [hNone, Option.none_or]

/- A type is exported where some typekit exports it. -/
theorem any_registrationsOf
    (typekits : List (Typekit × TypeList))
    (type : String) :
    ((registrationsOf typekits).any fun registration =>
        registration.2.1 == type && registration.2.2) =
      typekits.any (·.2.isExported type) := by
  rw [registrationsOf, List.any_flatMap]
  congr 1
  funext listed
  rw [List.any_map, Bool.eq_iff_iff, List.any_eq_true,
    TypeList.isExported, List.contains_iff_mem]
  constructor
  · rintro ⟨⟨other, exported⟩, hMember, hFound⟩
    simp only [Function.comp_apply, Bool.and_eq_true,
      beq_iff_eq] at hFound
    rcases hFound with ⟨rfl, rfl⟩
    rcases TypeList.mem_registrations_iff.mp hMember with
      ⟨-, hPrivate⟩ | ⟨hExported, -⟩
    · cases hPrivate
    · exact hExported
  · intro hExported
    refine ⟨(type, true), ?_, by simp⟩
    exact
      TypeList.mem_registrations_iff.mpr
        (Or.inr ⟨hExported, rfl⟩)

/-
  The table of types: the first typekit that lists a type
  owns it, and any typekit exports it.
-/
theorem getElem?_foldl_indexTypes
    {typekits : List (Typekit × TypeList)}
    (hSound : ∀ listed ∈ typekits, listed.2.IsSound)
    (type : String) :
    (typekits.foldl indexTypes ∅)[type]? =
      (typekits.find? (·.2.all.contains type)).map
        fun first =>
          ⟨first.1.name,
            typekits.any (·.2.isExported type)⟩ := by
  have hOwner := find?_registrationsOf hSound type
  rw [foldl_indexTypes, getElem?_foldl_indexRegistration,
    any_registrationsOf]
  cases hFirst :
      typekits.find? (·.2.all.contains type) with
  | none =>
      rw [hFirst, Option.map_none, Option.map_eq_none_iff]
        at hOwner
      rw [hOwner]
      rfl
  | some first =>
      rw [hFirst, Option.map_some, Option.map_eq_some_iff]
        at hOwner
      rcases hOwner with ⟨registration, hFound, hName⟩
      rw [hFound, Option.map_some, hName]
      rfl

end Componentry

------------------------------------------------------------
-- The Types of a Scan
------------------------------------------------------------

namespace Componentry

/- The type list of a typekit, empty if it cannot be read. -/
def Store.typesOf
    (store : Store)
    (typekit : Typekit) :
    TypeList :=
  (store.typeListOf typekit).toOption.getD ⟨[], []⟩

/-
  The table of types is the merge of the type lists of the
  typekits.  Each list can be read; the typekit from the least
  record that lists a type owns it; and every registration
  that does not enter a type is noted as a duplicate.
-/
structure TypesOfTypekits
    (store : Store)
    (draft : Draft) : Prop where
  readable :
    ∀ typekit ∈ draft.snapshot.typekits.values,
      store.typeListOf typekit = .ok (store.typesOf typekit)
  listed :
    ∀ type : String,
      type ∈ draft.snapshot.types ↔
        ∃ typekit ∈ draft.snapshot.typekits.values,
          type ∈ (store.typesOf typekit).all
  owned :
    ∀ (type : String) (entry : TypeEntry),
      draft.snapshot.types[type]? = some entry →
        ∃ typekit ∈ draft.snapshot.typekits.values,
          typekit.name = entry.owner ∧
            type ∈ (store.typesOf typekit).all ∧
            ∀ other ∈ draft.snapshot.typekits.values,
              type ∈ (store.typesOf other).all →
                Text.bytes typekit.record ≤
                  Text.bytes other.record
  exported :
    ∀ (type : String) (entry : TypeEntry),
      draft.snapshot.types[type]? = some entry →
        (entry.exported = true ↔
          ∃ typekit ∈ draft.snapshot.typekits.values,
            type ∈ (store.typesOf typekit).exported)
  duplicates :
    draft.diagnostics.countP (·.kind == .duplicateType)
        + draft.snapshot.types.size =
      (draft.snapshot.typekits.values.map fun typekit =>
        (store.typesOf typekit).nonExported.length
          + (store.typesOf typekit).exported.length).sum

variable {store : Store} {naming : Naming}
variable {names : List String}

namespace Survey

/- The lists of a survey are those of its typekits. -/
theorem typeListOf_of_mem_typekits
    {listed : Typekit × TypeList}
    (hListed : listed ∈ typekits store naming names) :
    store.typeListOf listed.1 = .ok listed.2 := by
  rcases List.mem_filterMap.mp hListed with
    ⟨record, -, hRecord⟩
  exact (listedTypekitOf?_eq_some_iff.mp hRecord).2

theorem typesOf_of_mem_typekits
    {listed : Typekit × TypeList}
    (hListed : listed ∈ typekits store naming names) :
    store.typesOf listed.1 = listed.2 := by
  rw [Store.typesOf, typeListOf_of_mem_typekits hListed]
  rfl

theorem isSound_of_mem_typekits
    {listed : Typekit × TypeList}
    (hListed : listed ∈ typekits store naming names) :
    listed.2.IsSound := by
  have hList := typeListOf_of_mem_typekits hListed
  rw [Store.typeListOf] at hList
  cases hText :
      store.readText (typeListPath listed.1.typeRegistry) with
  | error error =>
      rw [hText] at hList
      cases hList
  | ok text =>
      rw [hText, Except.map, Except.ok.injEq] at hList
      rw [← hList]
      exact TypeList.parse_isSound text

/- A typekit of the snapshot is one of the survey. -/
theorem exists_mem_typekits
    (hStore : store.IsOrderly)
    (hNames : store.recordNames = .ok names)
    {typekit : Typekit}
    (hTypekit :
      typekit ∈
        (snapshot store naming names).typekits.values) :
    (typekit, store.typesOf typekit) ∈
      typekits store naming names := by
  rw [(values_typekits_perm hStore hNames).mem_iff] at hTypekit
  rcases List.mem_map.mp hTypekit with
    ⟨listed, hListed, rfl⟩
  rw [typesOf_of_mem_typekits hListed]
  exact hListed

theorem mem_values_typekits
    (hStore : store.IsOrderly)
    (hNames : store.recordNames = .ok names)
    {listed : Typekit × TypeList}
    (hListed : listed ∈ typekits store naming names) :
    listed.1 ∈
      (snapshot store naming names).typekits.values := by
  rw [(values_typekits_perm hStore hNames).mem_iff]
  exact List.mem_map_of_mem hListed

/- What some typekit has is what some list of them tells. -/
theorem exists_typekit_iff
    (hStore : store.IsOrderly)
    (hNames : store.recordNames = .ok names)
    (told : TypeList → Prop) :
    (∃ typekit ∈
        (snapshot store naming names).typekits.values,
        told (store.typesOf typekit)) ↔
      ∃ listed ∈ typekits store naming names,
        told listed.2 := by
  constructor
  · rintro ⟨typekit, hTypekit, hTold⟩
    exact
      ⟨_, exists_mem_typekits hStore hNames hTypekit, hTold⟩
  · rintro ⟨listed, hListed, hTold⟩
    refine
      ⟨listed.1, mem_values_typekits hStore hNames hListed,
        ?_⟩
    rwa [typesOf_of_mem_typekits hListed]

/- The typekit of the least record that lists a type. -/
theorem find?_typekits_eq_some_iff
    (hStore : store.IsOrderly)
    (hNames : store.recordNames = .ok names)
    {type : String}
    {listed : Typekit × TypeList} :
    (typekits store naming names).find?
        (·.2.all.contains type) = some listed ↔
      listed ∈ typekits store naming names ∧
        type ∈ listed.2.all ∧
        ∀ other ∈ typekits store naming names,
          type ∈ other.2.all →
            listed.1.record ≤ other.1.record := by
  rw [find?_eq_some_iff_first
    (typekits_inOrder hStore hNames).increasing
    (fun _ _ => String.lt_asymm)]
  simp only [List.contains_iff_mem, String.not_lt]

/- The types of a survey, told by its typekits. -/
theorem getElem?_types
    (type : String) :
    (snapshot store naming names).types[type]? =
      ((typekits store naming names).find?
          (·.2.all.contains type)).map fun first =>
        ⟨first.1.name,
          (typekits store naming names).any
            (·.2.isExported type)⟩ :=
  getElem?_foldl_indexTypes
    (fun _ hListed => isSound_of_mem_typekits hListed) type

end Survey

end Componentry

------------------------------------------------------------
-- Duplicates
------------------------------------------------------------

namespace Componentry

namespace Draft

/- The types of a draft and the duplicates it has noted. -/
def typeMeasure (draft : Draft) : Nat :=
  draft.kindCount .duplicateType + draft.snapshot.types.size

/- A registration enters a type or notes a duplicate. -/
theorem registerType_measure
    (typekit : Typekit)
    (exported : Bool)
    (draft : Draft)
    (type : String) :
    (registerType typekit exported draft type).typeMeasure =
      draft.typeMeasure + 1 := by
  unfold registerType
  cases hFound : draft.snapshot.types[type]? with
  | none =>
      simp only [typeMeasure, kindCount,
        ByName.size_insert_of_none hFound]
      omega
  | some entry =>
      simp only [typeMeasure, kindCount, diagnose,
        Diagnostic.duplicateType, List.countP_append,
        List.countP_singleton,
        ByName.size_insert_of_some hFound,
        beq_self_eq_true, if_true]
      omega

theorem registerTypes_measure
    (typekit : Typekit)
    (exported : Bool)
    (draft : Draft)
    (types : List String) :
    (types.foldl (registerType typekit exported)
        draft).typeMeasure =
      draft.typeMeasure + types.length := by
  induction types generalizing draft with
  | nil => rfl
  | cons type types ih =>
      rw [List.foldl_cons, ih, registerType_measure,
        List.length_cons]
      omega

/- A typekit adds all registrations of its list. -/
theorem addTypekit_measure
    (draft : Draft)
    (typekit : Typekit)
    (list : TypeList) :
    (draft.addTypekit typekit list).typeMeasure =
      draft.typeMeasure +
        (list.nonExported.length + list.exported.length) := by
  have hTypes :=
    registerTypes_measure typekit true
      (list.nonExported.foldl (registerType typekit false)
        draft)
      list.exported
  rw [registerTypes_measure typekit false draft
    list.nonExported] at hTypes
  rw [← Nat.add_assoc, ← hTypes]
  rfl

end Draft

namespace Phases

variable {store : Store} {naming : Naming}
variable {names : List String}
variable {first second third draft : Draft}

/- Before the typekits no type is known or noted. -/
theorem third_typeMeasure
    (hPhases :
      Phases store naming names first second third draft) :
    third.typeMeasure = 0 := by
  have hKind : DiagnosticKind.duplicateType.IsOfIndex :=
    Or.inr rfl
  have hCount : third.kindCount .duplicateType = 0 := by
    rw [admits_deployment.scanClass_kindCount
        (Draft.enterDeployment_notes .missingOptionalField)
        hKind (by decide) hPhases.deployments,
      admits_taskLibrary.scanClass_kindCount
        Draft.enterTaskLibrary_notes hKind (by decide)
        hPhases.taskLibraries,
      scanClass_project_kindCount hKind hPhases.projects]
    rfl
  have hTypes : third.snapshot.types = ∅ := by
    rw [hPhases.third_snapshot, hPhases.second_snapshot,
      hPhases.first_snapshot]
    rfl
  rw [Draft.typeMeasure, hCount, hTypes]
  rfl

/- The registrations are the types and the duplicates. -/
theorem draft_typeMeasure
    (hPhases :
      Phases store naming names first second third draft) :
    draft.typeMeasure =
      ((Survey.typekits store naming names).map fun listed =>
        listed.2.nonExported.length
          + listed.2.exported.length).sum := by
  have hMeasure :=
    admits_typekit.scanClass_measure Draft.typeMeasure
      (fun listed =>
        listed.2.nonExported.length
          + listed.2.exported.length)
      ?_ (fun draft listed =>
        draft.addTypekit_measure listed.1 listed.2)
      hPhases.typekits
  · rw [hPhases.third_typeMeasure, Nat.zero_add,
      hPhases.third_projects] at hMeasure
    exact hMeasure
  · intro draft noted hRejects
    have hCount :=
      draft.kindCount_diagnoseAll_of_rejects
        (Or.inr rfl : DiagnosticKind.duplicateType.IsOfIndex)
        hRejects
    rw [Draft.typeMeasure, hCount]
    rfl

end Phases

end Componentry

------------------------------------------------------------
-- The Merge of a Scan
------------------------------------------------------------

namespace Componentry

variable {store : Store} {naming : Naming}
variable {names : List String}

namespace Survey

theorem mem_types_iff
    {type : String} :
    type ∈ (snapshot store naming names).types ↔
      ∃ listed ∈ typekits store naming names,
        type ∈ listed.2.all := by
  rw [Std.ExtTreeMap.mem_iff_isSome_getElem?,
    getElem?_types, Option.isSome_map, List.find?_isSome]
  simp only [List.contains_iff_mem]

theorem types_eq_some_iff
    (hStore : store.IsOrderly)
    (hNames : store.recordNames = .ok names)
    {type : String}
    {entry : TypeEntry} :
    (snapshot store naming names).types[type]? =
        some entry ↔
      (∃ listed ∈ typekits store naming names,
          listed.1.name = entry.owner ∧
            type ∈ listed.2.all ∧
            ∀ other ∈ typekits store naming names,
              type ∈ other.2.all →
                listed.1.record ≤ other.1.record) ∧
        (entry.exported = true ↔
          ∃ listed ∈ typekits store naming names,
            type ∈ listed.2.exported) := by
  have hExported :
      (typekits store naming names).any
          (·.2.isExported type) = true ↔
        ∃ listed ∈ typekits store naming names,
          type ∈ listed.2.exported := by
    simp only [List.any_eq_true, TypeList.isExported,
      List.contains_iff_mem]
  rw [getElem?_types, Option.map_eq_some_iff, ← hExported,
    ← Bool.eq_iff_iff]
  simp only [find?_typekits_eq_some_iff hStore hNames]
  constructor
  · rintro ⟨listed, ⟨hListed, hType, hLeast⟩, rfl⟩
    exact ⟨⟨listed, hListed, rfl, hType, hLeast⟩, rfl⟩
  · rintro ⟨⟨listed, hListed, hOwner, hType, hLeast⟩, hSame⟩
    refine ⟨listed, ⟨hListed, hType, hLeast⟩, ?_⟩
    rw [hOwner, ← hSame]

end Survey

/- A scan merges the type lists of the accepted typekits. -/
theorem scan_typesOfTypekits
    {draft : Draft}
    (hStore : store.IsOrderly)
    (hScan : scan store naming = .ok draft) :
    TypesOfTypekits store draft := by
  rcases recordNames_of_scan hScan with ⟨names, hNames⟩
  rcases scan_phases hNames hScan with ⟨_, _, _, hPhases⟩
  have hSnapshot := hPhases.draft_snapshot
  refine
    { readable := ?_
      listed := ?_
      owned := ?_
      exported := ?_
      duplicates := ?_ }
  · intro typekit hTypekit
    rw [hSnapshot] at hTypekit
    have hList :=
      Survey.typeListOf_of_mem_typekits
        (Survey.exists_mem_typekits hStore hNames hTypekit)
    exact hList
  · intro type
    rw [hSnapshot, Survey.mem_types_iff,
      Survey.exists_typekit_iff hStore hNames (type ∈ ·.all)]
  · intro type entry hFound
    rw [hSnapshot] at hFound ⊢
    rcases
      ((Survey.types_eq_some_iff hStore hNames).mp hFound).1
      with ⟨listed, hListed, hOwner, hType, hLeast⟩
    refine
      ⟨listed.1,
        Survey.mem_values_typekits hStore hNames hListed,
        hOwner, ?_, ?_⟩
    · rwa [Survey.typesOf_of_mem_typekits hListed]
    · intro other hOther hListsType
      exact
        Text.bytes_le_iff.mpr
          (hLeast _
            (Survey.exists_mem_typekits hStore hNames hOther)
            hListsType)
  · intro type entry hFound
    rw [hSnapshot] at hFound ⊢
    rw [Survey.exists_typekit_iff hStore hNames
      (type ∈ ·.exported)]
    exact
      ((Survey.types_eq_some_iff hStore hNames).mp hFound).2
  · have hMeasure := hPhases.draft_typeMeasure
    have hValues :
        draft.snapshot.typekits.values.Perm
          ((Survey.typekits store naming names).map (·.1)) := by
      rw [hSnapshot]
      exact Survey.values_typekits_perm hStore hNames
    rw [Draft.typeMeasure, Draft.kindCount] at hMeasure
    rw [hMeasure, (hValues.map _).sum_nat, List.map_map]
    congr 1
    refine List.map_congr_left ?_
    intro listed hListed
    rw [Function.comp_apply,
      Survey.typesOf_of_mem_typekits hListed]

theorem sample_typesOfTypekits :
    MemoryStore.sample.view.IsOrderly ∧
      ∃ draft,
        scan MemoryStore.sample.view .standard = .ok draft ∧
          TypesOfTypekits MemoryStore.sample.view draft ∧
          draft.snapshot.types["/base/Pose"]? =
            some ⟨"base", true⟩ ∧
          draft.snapshot.types["/more/Map"]? =
            some ⟨"more", false⟩ := by
  rcases MemoryStore.scan_sample with
    ⟨draft, hScan, -, hTypes, -⟩
  exact
    ⟨MemoryStore.sample_isOrderly, draft, hScan,
      scan_typesOfTypekits MemoryStore.sample_isOrderly hScan,
      hTypes⟩

end Componentry
