import Componentry.Proofs.Registry.Entities
import Componentry.Registry.Basic

/-
  When a rebuild fails.

  Once it knows the names of the records, a scan asks a store
  for the records of each class, class by class, and then for
  the type list of each typekit that it accepts.  The first of
  these questions that the store does not answer ends the
  scan; a record that cannot be understood counts as an
  answer.  A rebuild that fails publishes nothing.

  Main declarations:
    * `Question`, `Store.fault?`
    * `Survey.questions`
    * `faultOf_scan`
    * `Passes`
    * `FaultsOfStore`
    * `rebuild_faultsOfStore`
-/

------------------------------------------------------------
-- Questions
------------------------------------------------------------

namespace Componentry

/- What a scan asks of a store that has listed its records. -/
inductive Question where
  | load (name : String)
  | typeList (typekit : Typekit)

/-
  The fault with which a store ends a scan that asks it a
  question.
-/
def Store.fault?
    (store : Store) :
    Question → Option StoreError
  | .load name =>
      (faultOf (store.load name)).filter (!·.isParse)
  | .typeList typekit =>
      faultOf
        (store.readText (typeListPath typekit.typeRegistry))

/- A record that is loaded is an answer. -/
theorem Store.fault?_load_of_ok
    {store : Store}
    {name : String}
    {record : Descriptor}
    (hLoad : store.load name = .ok record) :
    store.fault? (.load name) = none := by
  rw [fault?, hLoad]
  rfl

/- A record that cannot be understood is an answer, too. -/
theorem Store.fault?_load_of_error
    {store : Store}
    {name : String}
    {error : StoreError}
    (hLoad : store.load name = .error error) :
    store.fault? (.load name) =
      if error.isParse then none else some error := by
  rw [fault?, hLoad, faultOf_error]
  cases hParse : error.isParse with
  | true => simp [Option.filter, hParse]
  | false => simp [Option.filter, hParse]

theorem Store.fault?_load_eq_some_iff
    {store : Store}
    {name : String}
    {fault : StoreError} :
    store.fault? (.load name) = some fault ↔
      store.load name = .error fault ∧
        fault.isParse = false := by
  rw [fault?, Option.filter_eq_some_iff,
    faultOf_eq_some_iff, Bool.not_eq_true']

theorem Store.fault?_typeList_eq_some_iff
    {store : Store}
    {typekit : Typekit}
    {fault : StoreError} :
    store.fault? (.typeList typekit) = some fault ↔
      store.readText (typeListPath typekit.typeRegistry) =
        .error fault := by
  rw [fault?, faultOf_eq_some_iff]

namespace Survey

variable (store : Store) (naming : Naming)
variable (names : List String)

/- The questions for the records of a class. -/
def loads (group : RecordClass) : List Question :=
  (names.filter (naming.selects group)).map .load

/- The typekits that pass every check, readable or not. -/
def acceptedTypekits : List Typekit :=
  (store.recordsOf naming names .typekit).filterMap
    (typekitOf? naming (projects store naming names))

/- The questions of a scan, in the order it asks them. -/
def questions : List Question :=
  RecordClass.all.flatMap (loads naming names)
    ++ (acceptedTypekits store naming names).map .typeList

end Survey

end Componentry

------------------------------------------------------------
-- Faults of a Class
------------------------------------------------------------

namespace Componentry

variable {store : Store} {naming : Naming}
variable {names : List String} {group : RecordClass}
variable {before : Draft}

/- Loading fails with the first fault of the names. -/
theorem faultOf_loadAll :
    faultOf (loadAll store names) =
      (names.map Question.load).findSome? store.fault? := by
  induction names with
  | nil => rfl
  | cons name names ih =>
      rw [List.map_cons, List.findSome?_cons]
      have hRest (keep : Loaded → Loaded) :
          faultOf
              ((loadAll store names) >>= fun loaded =>
                .ok (keep loaded)) =
            (names.map Question.load).findSome?
              store.fault? := by
        rw [← ih, faultOf_bind_of_total fun _ => rfl]
      unfold loadAll
      cases hLoad : store.load name with
      | ok record =>
          rw [Store.fault?_load_of_ok hLoad]
          exact hRest _
      | error error =>
          rw [Store.fault?_load_of_error hLoad]
          by_cases hParse : error.isParse = true
          · simp only [hParse, if_true]
            exact hRest _
          · simp only [hParse, Bool.false_eq_true, if_false,
              faultOf_error]

/-
  A class fails at the first record that cannot be loaded, or
  else at the first one that cannot be registered.
-/
theorem faultOf_scanClass
    {fault : Descriptor → Option StoreError}
    (Inv : Draft → Prop)
    (hStart :
      ∀ noted, Inv (before.diagnoseAll noted))
    (hFault :
      ∀ draft record,
        Inv draft →
        faultOf
            (registerRecord store naming group draft record) =
          fault record)
    (hKeep :
      ∀ draft record next,
        Inv draft →
        registerRecord store naming group draft record =
          .ok next →
        Inv next) :
    faultOf (scanClass store naming names before group) =
      ((Survey.loads naming names group).findSome?
          store.fault?).or
        ((store.recordsOf naming names group).findSome?
          fault) := by
  unfold scanClass Survey.loads
  rw [← faultOf_loadAll]
  apply faultOf_bind
  intro loaded hLoad
  have hRecords :
      loaded.records = store.recordsOf naming names group :=
    loadAll_records hLoad
  rw [hRecords]
  exact
    faultOf_foldlM Inv (hStart loaded.diagnostics) hFault
      hKeep

/- A class whose records always register fails in loading. -/
theorem faultOf_scanClass_of_total
    (before : Draft)
    (hTotal :
      ∀ draft record,
        faultOf
            (registerRecord store naming group draft record) =
          none) :
    faultOf (scanClass store naming names before group) =
      (Survey.loads naming names group).findSome?
        store.fault? := by
  have hClass :
      faultOf (scanClass store naming names before group) =
        ((Survey.loads naming names group).findSome?
            store.fault?).or
          ((store.recordsOf naming names group).findSome?
            fun _ => none) :=
    faultOf_scanClass (fun _ => True) (fun _ => trivial)
      (fun draft record _ => hTotal draft record)
      (fun _ _ _ _ _ => trivial)
  have hNone :
      ((store.recordsOf naming names group).findSome?
        fun _ => (none : Option StoreError)) = none := by
    rw [List.findSome?_eq_none_iff]
    intro record _
    rfl
  rw [hClass, hNone, Option.or_none]

/- A typekit that is accepted has its type list read. -/
theorem faultOf_registerTypekit
    (draft : Draft)
    (record : Descriptor) :
    faultOf
        (registerRecord store naming .typekit draft record) =
      (typekitOf? naming draft.snapshot.projects record).bind
        fun typekit => store.fault? (.typeList typekit) := by
  unfold registerRecord registerTypekit typekitOf?
  cases hRead : readTypekit naming record with
  | error diagnostic => simp [Except.toOption]
  | ok typekit =>
      rcases typekitProblem?_cases draft typekit with
        ⟨diagnostic, hProblem, -, hProject⟩ |
          ⟨hProblem, hProject⟩
      · simp [hProblem, hProject, Except.toOption,
          Option.filter]
      · have hText :
            faultOf
                (store.readText
                    (typeListPath typekit.typeRegistry) >>=
                  fun text =>
                    Except.ok
                      (draft.addTypekit typekit
                        (TypeList.parse text))) =
              store.fault? (.typeList typekit) := by
          rw [faultOf_bind_of_total fun _ => rfl]
          rfl
        simp only [hProblem]
        rw [hText]
        simp [Except.toOption, Option.filter, hProject]

/-
  The class of the typekits fails in loading, or else at the
  first type list of an accepted typekit that cannot be read.
-/
theorem faultOf_scanClass_typekit
    {projects : ByName Project}
    (hProjects : before.snapshot.projects = projects) :
    faultOf (scanClass store naming names before .typekit) =
      ((Survey.loads naming names .typekit).findSome?
          store.fault?).or
        ((((store.recordsOf naming names .typekit).filterMap
          (typekitOf? naming projects)).map
            Question.typeList).findSome? store.fault?) := by
  have hLists :
      (((store.recordsOf naming names .typekit).filterMap
          (typekitOf? naming projects)).map
            Question.typeList).findSome? store.fault? =
        (store.recordsOf naming names .typekit).findSome?
          fun record =>
            (typekitOf? naming projects record).bind
              fun typekit =>
                store.fault? (.typeList typekit) := by
    rw [List.findSome?_map, ← List.head?_filterMap,
      List.filterMap_filterMap, List.head?_filterMap]
    rfl
  rw [hLists]
  refine
    faultOf_scanClass
      (fun draft => draft.snapshot.projects = projects)
      (fun _ => hProjects) ?_ ?_
  · intro draft record hDraft
    rw [faultOf_registerTypekit, hDraft]
  · intro draft record next hDraft hNext
    exact (admits_typekit.projects_kept hNext).trans hDraft

end Componentry

------------------------------------------------------------
-- Faults of a Scan
------------------------------------------------------------

namespace Componentry

variable {store : Store} {naming : Naming}
variable {names : List String}

/- A class but that of the projects keeps the projects. -/
theorem Admits.scanClass_projects
    {α : Type}
    {group : RecordClass}
    {accept : ByName Project → Descriptor → Option α}
    {enter : Draft → α → Draft}
    {before after : Draft}
    (hAdmits : Admits store naming group accept enter)
    (hClass :
      scanClass store naming names before group =
        .ok after) :
    after.snapshot.projects = before.snapshot.projects := by
  rcases scanClass_run hClass with ⟨loaded, -, hRun⟩
  refine
    foldlM_invariant
      (fun _ draft =>
        draft.snapshot.projects = before.snapshot.projects)
      rfl ?_ hRun
  intro _ record draft next _ hDraft hNext
  exact (hAdmits.projects_kept hNext).trans hDraft

/- A scan fails with the first fault of its questions. -/
theorem faultOf_scan
    (hNames : store.recordNames = .ok names) :
    faultOf (scan store naming) =
      (Survey.questions store naming names).findSome?
        store.fault? := by
  unfold scan
  rw [hNames]
  change
    faultOf
      (RecordClass.all.foldlM (scanClass store naming names)
        (.empty naming.target)) = _
  simp only [RecordClass.all, List.foldlM_cons,
    List.foldlM_nil, Survey.questions, List.flatMap_cons,
    List.flatMap_nil, List.findSome?_append,
    List.findSome?_nil, Option.none_or, Option.or_assoc]
  rw [← faultOf_scanClass_of_total (.empty naming.target)
    (fun draft record => by
      rw [registerRecord, faultOf_ok])]
  apply faultOf_bind
  intro first hFirst
  have hProjects :
      first.snapshot.projects =
        Survey.projects store naming names := by
    rw [scanClass_project rfl hFirst]
  rw [← faultOf_scanClass_of_total first
    (fun draft record => by
      rw [registerRecord, faultOf_ok])]
  apply faultOf_bind
  intro second hSecond
  rw [← faultOf_scanClass_of_total second
    (fun draft record => by
      rw [registerRecord, faultOf_ok])]
  apply faultOf_bind
  intro third hThird
  have hThirdProjects :
      third.snapshot.projects =
        Survey.projects store naming names := by
    rw [admits_deployment.scanClass_projects hThird,
      admits_taskLibrary.scanClass_projects hSecond,
      hProjects]
  rw [Survey.acceptedTypekits,
    ← faultOf_scanClass_typekit hThirdProjects,
    faultOf_bind_of_total fun _ => rfl]

end Componentry

------------------------------------------------------------
-- Acceptance
------------------------------------------------------------

namespace Componentry

/-
  A record of a typekit passes every check: it is loaded as
  one of its class, tells an entity, an owner and a type
  registry, and the first record that declares the owner
  declares a type registry, too.
-/
structure Passes
    (store : Store)
    (naming : Naming)
    (names : List String)
    (record : Descriptor)
    (typekit : Typekit) : Prop where
  loaded :
    ∃ name ∈ names,
      naming.selects .typekit name = true ∧
        store.load name = .ok record
  named :
    naming.entityName? .typekit record.name =
      some typekit.name
  owned : record.Tells FieldName.projectName typekit.project
  registered :
    record.Tells FieldName.typeRegistry
      typekit.typeRegistry.text
  remembered : typekit.record = record.name
  declared :
    ∃ project,
      (projectsOf
          (store.recordsOf naming names .project)).find?
            (·.name == typekit.project) = some project ∧
        project.typekitRegistry ≠ none

variable {store : Store} {naming : Naming}
variable {names : List String}

/- The records of a class are loaded under selected names. -/
theorem Store.mem_recordsOf_iff_exists
    {group : RecordClass}
    {record : Descriptor} :
    record ∈ store.recordsOf naming names group ↔
      ∃ name ∈ names,
        naming.selects group name = true ∧
          store.load name = .ok record := by
  simp only [Store.recordsOf, Store.loaded,
    List.mem_filterMap, List.mem_filter,
    toOption_eq_some_iff, and_assoc]

/- A project has a typekit if its first record says so. -/
theorem Survey.any_hasTypekit_iff_find?
    {owner : String} :
    ((projects store naming names)[owner]?).any
        Project.hasTypekit = true ↔
      ∃ project,
        (projectsOf
            (store.recordsOf naming names .project)).find?
              (·.name == owner) = some project ∧
          project.typekitRegistry ≠ none := by
  rw [projects, ByName.getElem?_ofFirst, Option.any_eq_true]
  simp only [Project.hasTypekit, Option.isSome_iff_ne_none]

/- The accepted typekits are those of the passing records. -/
theorem Survey.mem_acceptedTypekits_iff
    {typekit : Typekit} :
    typekit ∈ acceptedTypekits store naming names ↔
      ∃ record, Passes store naming names record typekit := by
  simp only [acceptedTypekits, List.mem_filterMap,
    Store.mem_recordsOf_iff_exists, typekitOf?_eq_some_iff,
    readTypekit_eq_ok_iff, any_hasTypekit_iff_find?,
    Descriptor.field?_eq_some_iff]
  constructor
  · rintro ⟨record, hLoaded,
      ⟨hNamed, hOwned, hRegistered, hRecord⟩, hDeclared⟩
    exact
      ⟨record, hLoaded, hNamed, hOwned, hRegistered, hRecord,
        hDeclared⟩
  · rintro ⟨record, hPasses⟩
    exact
      ⟨record, hPasses.loaded,
        ⟨hPasses.named, hPasses.owned, hPasses.registered,
          hPasses.remembered⟩,
        hPasses.declared⟩

end Componentry

------------------------------------------------------------
-- Failing Rebuilds
------------------------------------------------------------

namespace Componentry

/-
  A store stands in the way of a scan: it has no names, it
  fails to load a record of some class, or it has no type list
  for a typekit that is accepted.
-/
inductive Obstructs
    (store : Store)
    (naming : Naming) : Prop where
  | names
      {fault : StoreError}
      (hNames : store.recordNames = .error fault)
  | load
      {names : List String}
      {group : RecordClass}
      {name : String}
      {fault : StoreError}
      (hNames : store.recordNames = .ok names)
      (hName : name ∈ names)
      (hSelected : naming.selects group name = true)
      (hLoad : store.load name = .error fault)
      (hFault : fault.isParse = false)
  | typeList
      {names : List String}
      {record : Descriptor}
      {typekit : Typekit}
      {fault : StoreError}
      (hNames : store.recordNames = .ok names)
      (hPasses : Passes store naming names record typekit)
      (hText :
        store.readText (typeListPath typekit.typeRegistry) =
          .error fault)

/-
  A rebuild fails exactly if its store stands in the way, with
  the fault of the listing or of the first question that has
  one, and leaves the registry as it was.
-/
structure FaultsOfStore
    (store : Store)
    (registry : Registry) : Prop where
  fails :
    (∃ error, (registry.rebuild store).1 = .error error) ↔
      Obstructs store registry.naming
  unlisted :
    ∀ fault,
      store.recordNames = .error fault →
        (registry.rebuild store).1 = .error (.store fault)
  first :
    ∀ names error,
      store.recordNames = .ok names →
        ((registry.rebuild store).1 = .error error ↔
          ∃ earlier question later fault,
            Survey.questions store registry.naming names =
                earlier ++ question :: later ∧
              (∀ other ∈ earlier,
                store.fault? other = none) ∧
              store.fault? question = some fault ∧
              error = .store fault)
  kept :
    ∀ error,
      (registry.rebuild store).1 = .error error →
        (registry.rebuild store).2 = registry

variable {store : Store} {naming : Naming}
variable {names : List String}

/- A rebuild fails with the fault of its scan. -/
theorem Registry.rebuild_eq_error_iff
    {registry : Registry}
    {error : RegistryError} :
    (registry.rebuild store).1 = .error error ↔
      ∃ fault,
        faultOf (scan store registry.naming) = some fault ∧
          error = .store fault := by
  unfold Registry.rebuild
  cases hScan : scan store registry.naming with
  | error fault => simp [eq_comm]
  | ok draft => simp

/- A rebuild that fails leaves the registry as it was. -/
theorem Registry.rebuild_of_error
    {registry : Registry}
    {error : RegistryError}
    (hError : (registry.rebuild store).1 = .error error) :
    (registry.rebuild store).2 = registry := by
  rcases rebuild_eq_error_iff.mp hError with ⟨fault, hScan, -⟩
  rw [faultOf_eq_some_iff] at hScan
  rw [Registry.rebuild, hScan]

/- A store that has no names has no scan. -/
theorem faultOf_scan_of_error
    {fault : StoreError}
    (hNames : store.recordNames = .error fault) :
    faultOf (scan store naming) = some fault := by
  rw [scan, hNames]
  rfl

theorem RecordClass.mem_all (group : RecordClass) :
    group ∈ RecordClass.all := by
  cases group <;> decide

/- A question of a scan asks for a record or a type list. -/
theorem Survey.mem_questions_iff
    {question : Question} :
    question ∈ questions store naming names ↔
      (∃ group, ∃ name ∈ names,
          naming.selects group name = true ∧
            question = .load name) ∨
        ∃ record typekit,
          Passes store naming names record typekit ∧
            question = .typeList typekit := by
  have hLoads (group : RecordClass) :
      question ∈ loads naming names group ↔
        ∃ name ∈ names,
          naming.selects group name = true ∧
            question = .load name := by
    simp only [loads, List.mem_map, List.mem_filter,
      and_assoc, eq_comm]
  have hLists :
      question ∈
          (acceptedTypekits store naming names).map
            Question.typeList ↔
        ∃ record typekit,
          Passes store naming names record typekit ∧
            question = .typeList typekit := by
    simp only [List.mem_map, mem_acceptedTypekits_iff]
    constructor
    · rintro ⟨typekit, ⟨record, hPasses⟩, rfl⟩
      exact ⟨record, typekit, hPasses, rfl⟩
    · rintro ⟨record, typekit, hPasses, rfl⟩
      exact ⟨typekit, ⟨record, hPasses⟩, rfl⟩
  rw [questions, List.mem_append, hLists]
  apply or_congr_left
  simp only [List.mem_flatMap, hLoads]
  constructor
  · rintro ⟨group, -, hLoad⟩
    exact ⟨group, hLoad⟩
  · rintro ⟨group, hLoad⟩
    exact ⟨group, group.mem_all, hLoad⟩

/- A scan fails if some question has a fault. -/
theorem exists_faultOf_scan_iff
    (hNames : store.recordNames = .ok names) :
    (∃ fault, faultOf (scan store naming) = some fault) ↔
      ∃ question ∈ Survey.questions store naming names,
        ∃ fault, store.fault? question = some fault := by
  rw [faultOf_scan hNames]
  simp only [← Option.isSome_iff_exists,
    List.findSome?_isSome_iff]

/- A scan fails exactly if its store stands in the way. -/
theorem exists_faultOf_scan_iff_obstructs :
    (∃ fault, faultOf (scan store naming) = some fault) ↔
      Obstructs store naming := by
  cases hNames : store.recordNames with
  | error fault =>
      constructor
      · intro _
        exact .names hNames
      · intro _
        exact ⟨fault, faultOf_scan_of_error hNames⟩
  | ok names =>
      rw [exists_faultOf_scan_iff hNames]
      constructor
      · rintro ⟨question, hQuestion, fault, hFault⟩
        rcases Survey.mem_questions_iff.mp hQuestion with
          ⟨group, name, hName, hSelected, rfl⟩ |
            ⟨record, typekit, hPasses, rfl⟩
        · rcases Store.fault?_load_eq_some_iff.mp hFault with
            ⟨hLoad, hParse⟩
          exact .load hNames hName hSelected hLoad hParse
        · exact
            .typeList hNames hPasses
              (Store.fault?_typeList_eq_some_iff.mp hFault)
      · intro hObstructs
        cases hObstructs with
        | names hError =>
            rw [hNames] at hError
            cases hError
        | load hListed hName hSelected hLoad hParse =>
            rw [hNames] at hListed
            cases hListed
            refine
              ⟨.load _, Survey.mem_questions_iff.mpr ?_, _,
                Store.fault?_load_eq_some_iff.mpr
                  ⟨hLoad, hParse⟩⟩
            exact Or.inl ⟨_, _, hName, hSelected, rfl⟩
        | typeList hListed hPasses hText =>
            rw [hNames] at hListed
            cases hListed
            refine
              ⟨.typeList _, Survey.mem_questions_iff.mpr ?_,
                _,
                Store.fault?_typeList_eq_some_iff.mpr hText⟩
            exact Or.inr ⟨_, _, hPasses, rfl⟩

theorem rebuild_faultsOfStore
    (store : Store)
    (registry : Registry) :
    FaultsOfStore store registry where
  fails := by
    rw [← exists_faultOf_scan_iff_obstructs]
    simp only [Registry.rebuild_eq_error_iff]
    constructor
    · rintro ⟨error, fault, hFault, -⟩
      exact ⟨fault, hFault⟩
    · rintro ⟨fault, hFault⟩
      exact ⟨.store fault, fault, hFault, rfl⟩
  unlisted := by
    intro fault hNames
    exact
      Registry.rebuild_eq_error_iff.mpr
        ⟨fault, faultOf_scan_of_error hNames, rfl⟩
  first := by
    intro names error hNames
    rw [Registry.rebuild_eq_error_iff, faultOf_scan hNames]
    simp only [List.findSome?_eq_some_iff]
    constructor
    · rintro ⟨fault, ⟨earlier, question, later, hSplit,
        hFault, hNone⟩, rfl⟩
      exact
        ⟨earlier, question, later, fault, hSplit, hNone,
          hFault, rfl⟩
    · rintro ⟨earlier, question, later, fault, hSplit, hNone,
        hFault, rfl⟩
      exact
        ⟨fault, ⟨earlier, question, later, hSplit, hFault,
          hNone⟩, rfl⟩
  kept := by
    intro error hError
    exact Registry.rebuild_of_error hError

end Componentry
