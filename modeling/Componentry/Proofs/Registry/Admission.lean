import Mathlib.Algebra.BigOperators.Group.List.Basic
import Mathlib.Algebra.GroupWithZero.Nat
import Componentry.Proofs.RecordNames
import Componentry.Proofs.Registry.Drafts
import Componentry.Proofs.Registry.Loading

/-
  Which records are admitted.

  Once the projects are registered, the fate of a record of
  another class depends on the record and the projects alone:
  it is rejected with one diagnostic, or the entity it
  publishes is entered.  A run over the records of a class
  therefore enters the accepted entities in order.

  Main declarations:
    * `taskLibraryOf?`, `deploymentOf?`, `typekitOf?`
    * `listedTypekitOf?`
    * `Admission`, `Admits`
    * `admits_taskLibrary`, `admits_deployment`
    * `admits_typekit`
    * `Admits.run_records`, `Admits.run_invariant`
-/

------------------------------------------------------------
-- Reading Records
------------------------------------------------------------

namespace Componentry

/- A diagnostic that rejects the record of the given name. -/
def Diagnostic.Rejects
    (diagnostic : Diagnostic)
    (record : String) : Prop :=
  diagnostic.kind.rejectsRecord = true ∧
    diagnostic.record = record

/- A reading that fails only by rejecting its record. -/
def OnlyRejects
    {α : Type}
    (reading : Except Diagnostic α)
    (record : String) : Prop :=
  ∀ diagnostic, reading = .error diagnostic →
    diagnostic.Rejects record

namespace OnlyRejects

variable {α β : Type} {record : String}

theorem ok (value : α) :
    OnlyRejects (.ok value) record := by
  intro diagnostic hError
  cases hError

theorem error
    {diagnostic : Diagnostic}
    (hRejects : diagnostic.Rejects record) :
    OnlyRejects (α := α) (.error diagnostic) record := by
  intro found hError
  cases hError
  exact hRejects

theorem bind
    {first : Except Diagnostic α}
    {next : α → Except Diagnostic β}
    (hFirst : OnlyRejects first record)
    (hNext : ∀ value, OnlyRejects (next value) record) :
    OnlyRejects (first >>= next) record := by
  intro diagnostic hError
  rcases bind_eq_error_iff.mp hError with
    hError | ⟨value, -, hError⟩
  · exact hFirst diagnostic hError
  · exact hNext value diagnostic hError

end OnlyRejects

variable {naming : Naming} {record : Descriptor}

theorem requireField_eq_ok_iff
    {field value : String} :
    requireField record field = .ok value ↔
      record.field? field = some value := by
  unfold requireField
  cases record.field? field <;> simp

theorem requireField_onlyRejects
    (field : String) :
    OnlyRejects (requireField record field) record.name := by
  unfold requireField
  cases record.field? field with
  | some value => exact OnlyRejects.ok value
  | none => exact OnlyRejects.error ⟨rfl, rfl⟩

theorem requireList_eq_ok_iff
    {field : String}
    {items : List String} :
    requireList record field = .ok items ↔
      record.hasField field = true ∧
        items = record.list field := by
  unfold requireList
  cases record.hasField field <;> simp [eq_comm]

theorem requireList_onlyRejects
    (field : String) :
    OnlyRejects (requireList record field) record.name := by
  unfold requireList
  cases record.hasField field with
  | true => exact OnlyRejects.ok (record.list field)
  | false => exact OnlyRejects.error ⟨rfl, rfl⟩

theorem requireName_eq_ok_iff
    {group : RecordClass}
    {name : String} :
    requireName naming group record = .ok name ↔
      naming.entityName? group record.name = some name := by
  unfold requireName
  cases naming.entityName? group record.name <;> simp

theorem requireName_onlyRejects
    (group : RecordClass) :
    OnlyRejects (requireName naming group record)
      record.name := by
  unfold requireName
  cases naming.entityName? group record.name with
  | some name => exact OnlyRejects.ok name
  | none => exact OnlyRejects.error ⟨rfl, rfl⟩

/- A project is read from the name of its project alone. -/
theorem readProject_eq_ok_iff
    {project : Project} :
    readProject record = .ok project ↔
      record.field? FieldName.projectName =
          some project.name ∧
        project =
          { name := project.name
            record := record.name
            specPath :=
              (record.field? FieldName.specFile).map .mk
            typekitRegistry :=
              (record.field? FieldName.typeRegistry).map
                .mk } := by
  simp only [readProject, bind_eq_ok_iff,
    requireField_eq_ok_iff, Except.ok.injEq]
  constructor
  · rintro ⟨name, hName, rfl⟩
    exact ⟨hName, rfl⟩
  · rintro ⟨hName, hProject⟩
    exact ⟨project.name, hName, hProject.symm⟩

theorem readProject_onlyRejects :
    OnlyRejects (readProject record) record.name :=
  (requireField_onlyRejects _).bind fun _ => .ok _

/- A task library needs a name, a project and a list. -/
theorem readTaskLibrary_eq_ok_iff
    {library : TaskLibrary} :
    readTaskLibrary naming record = .ok library ↔
      naming.entityName? .taskLibrary record.name =
          some library.name ∧
        record.field? FieldName.projectName =
          some library.project ∧
        record.hasField FieldName.taskModels = true ∧
        library.record = record.name ∧
        library.taskModels =
          record.list FieldName.taskModels := by
  simp only [readTaskLibrary, bind_eq_ok_iff,
    requireName_eq_ok_iff, requireField_eq_ok_iff,
    requireList_eq_ok_iff, Except.ok.injEq]
  constructor
  · rintro ⟨name, hName, project, hProject, models,
      ⟨hHas, rfl⟩, rfl⟩
    exact ⟨hName, hProject, hHas, rfl, rfl⟩
  · rintro ⟨hName, hProject, hHas, hRecord, hModels⟩
    refine
      ⟨library.name, hName, library.project, hProject,
        library.taskModels, ⟨hHas, hModels⟩, ?_⟩
    rw [← hRecord]

theorem readTaskLibrary_onlyRejects :
    OnlyRejects (readTaskLibrary naming record) record.name :=
  (requireName_onlyRejects _).bind fun _ =>
    (requireField_onlyRejects _).bind fun _ =>
      (requireList_onlyRejects _).bind fun _ => .ok _

/- A deployment needs a name, a project and a list. -/
theorem readDeployment_eq_ok_iff
    {deployment : Deployment} :
    readDeployment naming record = .ok deployment ↔
      naming.entityName? .deployment record.name =
          some deployment.name ∧
        record.field? FieldName.projectName =
          some deployment.project ∧
        record.hasField FieldName.deployedTasks = true ∧
        deployment.record = record.name ∧
        deployment.deployedTasks =
          record.list FieldName.deployedTasks := by
  simp only [readDeployment, bind_eq_ok_iff,
    requireName_eq_ok_iff, requireField_eq_ok_iff,
    requireList_eq_ok_iff, Except.ok.injEq]
  constructor
  · rintro ⟨name, hName, project, hProject, tasks,
      ⟨hHas, rfl⟩, rfl⟩
    exact ⟨hName, hProject, hHas, rfl, rfl⟩
  · rintro ⟨hName, hProject, hHas, hRecord, hTasks⟩
    refine
      ⟨deployment.name, hName, deployment.project, hProject,
        deployment.deployedTasks, ⟨hHas, hTasks⟩, ?_⟩
    rw [← hRecord]

theorem readDeployment_onlyRejects :
    OnlyRejects (readDeployment naming record) record.name :=
  (requireName_onlyRejects _).bind fun _ =>
    (requireField_onlyRejects _).bind fun _ =>
      (requireList_onlyRejects _).bind fun _ => .ok _

/- A typekit needs a name, a project and a type registry. -/
theorem readTypekit_eq_ok_iff
    {typekit : Typekit} :
    readTypekit naming record = .ok typekit ↔
      naming.entityName? .typekit record.name =
          some typekit.name ∧
        record.field? FieldName.projectName =
          some typekit.project ∧
        record.field? FieldName.typeRegistry =
          some typekit.typeRegistry.text ∧
        typekit.record = record.name := by
  simp only [readTypekit, bind_eq_ok_iff,
    requireName_eq_ok_iff, requireField_eq_ok_iff,
    Except.ok.injEq]
  constructor
  · rintro ⟨name, hName, project, hProject, path, hPath,
      rfl⟩
    exact ⟨hName, hProject, hPath, rfl⟩
  · rintro ⟨hName, hProject, hPath, hRecord⟩
    refine
      ⟨typekit.name, hName, typekit.project, hProject,
        typekit.typeRegistry.text, hPath, ?_⟩
    rw [← hRecord]

theorem readTypekit_onlyRejects :
    OnlyRejects (readTypekit naming record) record.name :=
  (requireName_onlyRejects _).bind fun _ =>
    (requireField_onlyRejects _).bind fun _ =>
      (requireField_onlyRejects _).bind fun _ => .ok _

end Componentry

------------------------------------------------------------
-- Accepted Entities
------------------------------------------------------------

namespace Componentry

/- The task library of a record whose project is registered. -/
def taskLibraryOf?
    (naming : Naming)
    (projects : ByName Project)
    (record : Descriptor) :
    Option TaskLibrary :=
  (readTaskLibrary naming record).toOption.filter
    fun library => projects.contains library.project

/- The deployment of a record whose project is registered. -/
def deploymentOf?
    (naming : Naming)
    (projects : ByName Project)
    (record : Descriptor) :
    Option Deployment :=
  (readDeployment naming record).toOption.filter
    fun deployment => projects.contains deployment.project

/- The typekit of a record whose project has a typekit. -/
def typekitOf?
    (naming : Naming)
    (projects : ByName Project)
    (record : Descriptor) :
    Option Typekit :=
  (readTypekit naming record).toOption.filter
    fun typekit =>
      (projects[typekit.project]?).any Project.hasTypekit

/- The type list that a store has for a typekit. -/
def Store.typeListOf
    (store : Store)
    (typekit : Typekit) :
    Except StoreError TypeList :=
  (store.readText (typeListPath typekit.typeRegistry)).map
    TypeList.parse

/- An accepted typekit with its type list. -/
def listedTypekitOf?
    (store : Store)
    (naming : Naming)
    (projects : ByName Project)
    (record : Descriptor) :
    Option (Typekit × TypeList) :=
  (typekitOf? naming projects record).bind fun typekit =>
    (store.typeListOf typekit).toOption.map (typekit, ·)

variable {naming : Naming} {projects : ByName Project}
variable {record : Descriptor}

/- A reading counts as an entity if it is one. -/
theorem toOption_filter_eq_some_iff
    {α : Type}
    {reading : Except Diagnostic α}
    {accepts : α → Bool}
    {entity : α} :
    reading.toOption.filter accepts = some entity ↔
      reading = .ok entity ∧ accepts entity = true := by
  rw [Option.filter_eq_some_iff, toOption_eq_some_iff]

theorem taskLibraryOf?_eq_some_iff
    {library : TaskLibrary} :
    taskLibraryOf? naming projects record = some library ↔
      readTaskLibrary naming record = .ok library ∧
        projects.contains library.project = true :=
  toOption_filter_eq_some_iff

theorem deploymentOf?_eq_some_iff
    {deployment : Deployment} :
    deploymentOf? naming projects record =
        some deployment ↔
      readDeployment naming record = .ok deployment ∧
        projects.contains deployment.project = true :=
  toOption_filter_eq_some_iff

theorem typekitOf?_eq_some_iff
    {typekit : Typekit} :
    typekitOf? naming projects record = some typekit ↔
      readTypekit naming record = .ok typekit ∧
        (projects[typekit.project]?).any
          Project.hasTypekit = true :=
  toOption_filter_eq_some_iff

theorem listedTypekitOf?_eq_some_iff
    {store : Store}
    {listed : Typekit × TypeList} :
    listedTypekitOf? store naming projects record =
        some listed ↔
      typekitOf? naming projects record = some listed.1 ∧
        store.typeListOf listed.1 = .ok listed.2 := by
  rcases listed with ⟨typekit, list⟩
  simp only [listedTypekitOf?, Option.bind_eq_some_iff,
    Option.map_eq_some_iff, toOption_eq_some_iff,
    Prod.mk.injEq]
  constructor
  · rintro ⟨found, hFound, types, hTypes, rfl, rfl⟩
    exact ⟨hFound, hTypes⟩
  · rintro ⟨hFound, hTypes⟩
    exact ⟨typekit, hFound, list, hTypes, rfl, rfl⟩

/- Accepted entities remember the record they came from. -/
theorem record_of_taskLibraryOf?
    {library : TaskLibrary}
    (hLibrary :
      taskLibraryOf? naming projects record =
        some library) :
    library.record = record.name :=
  (readTaskLibrary_eq_ok_iff.mp
    (taskLibraryOf?_eq_some_iff.mp hLibrary).1).2.2.2.1

theorem record_of_deploymentOf?
    {deployment : Deployment}
    (hDeployment :
      deploymentOf? naming projects record =
        some deployment) :
    deployment.record = record.name :=
  (readDeployment_eq_ok_iff.mp
    (deploymentOf?_eq_some_iff.mp hDeployment).1).2.2.2.1

theorem record_of_listedTypekitOf?
    {store : Store}
    {listed : Typekit × TypeList}
    (hListed :
      listedTypekitOf? store naming projects record =
        some listed) :
    listed.1.record = record.name :=
  (readTypekit_eq_ok_iff.mp
    (typekitOf?_eq_some_iff.mp
      (listedTypekitOf?_eq_some_iff.mp hListed).1).1).2.2.2

end Componentry

------------------------------------------------------------
-- Registering One Record
------------------------------------------------------------

namespace Componentry

/-
  What registering a record does to a draft: a rejection is
  noted, or the entity that was accepted is entered.
-/
inductive Admission
    {α : Type}
    (accepted : Option α)
    (enter : Draft → α → Draft)
    (record : String)
    (draft : Draft) : Draft → Prop where
  | rejected
      {diagnostic : Diagnostic}
      (hNone : accepted = none)
      (hRejects : diagnostic.Rejects record) :
      Admission accepted enter record draft
        (draft.diagnose diagnostic)
  | entered
      {entity : α}
      (hSome : accepted = some entity) :
      Admission accepted enter record draft
        (enter draft entity)

/-
  A class of records whose fate is settled by the projects:
  each is admitted as `accept` tells, and entering an entity
  leaves the projects alone.
-/
structure Admits
    {α : Type}
    (store : Store)
    (naming : Naming)
    (group : RecordClass)
    (accept : ByName Project → Descriptor → Option α)
    (enter : Draft → α → Draft) : Prop where
  admission :
    ∀ {draft record next},
      registerRecord store naming group draft record =
          .ok next →
        Admission (accept draft.snapshot.projects record)
          enter record.name draft next
  projects :
    ∀ draft entity,
      (enter draft entity).snapshot.projects =
        draft.snapshot.projects

variable {store : Store} {naming : Naming}

/-
  A record that is read is entered if its entity is accepted,
  and rejected otherwise.
-/
theorem admission_of_reading
    {α : Type}
    {reading : Except Diagnostic α}
    {record : String}
    {accepts : α → Bool}
    {enter : Draft → α → Draft}
    {draft next : Draft}
    (hReading : OnlyRejects reading record)
    (hError :
      ∀ diagnostic, reading = .error diagnostic →
        next = draft.diagnose diagnostic)
    (hAccepted :
      ∀ entity, reading = .ok entity →
        accepts entity = true →
          next = enter draft entity)
    (hRefused :
      ∀ entity, reading = .ok entity →
        accepts entity = false →
          ∃ diagnostic,
            diagnostic.Rejects record ∧
              next = draft.diagnose diagnostic) :
    Admission (reading.toOption.filter accepts) enter record
      draft next := by
  cases hRead : reading with
  | error diagnostic =>
      rw [hError diagnostic hRead]
      exact .rejected rfl (hReading diagnostic hRead)
  | ok entity =>
      cases hAccepts : accepts entity with
      | true =>
          rw [hAccepted entity hRead hAccepts]
          exact .entered
            (toOption_filter_eq_some_iff.mpr
              ⟨rfl, hAccepts⟩)
      | false =>
          rcases hRefused entity hRead hAccepts with
            ⟨diagnostic, hRejects, rfl⟩
          exact .rejected
            (by simp [Except.toOption, Option.filter,
              hAccepts])
            hRejects

theorem admits_taskLibrary :
    Admits store naming .taskLibrary (taskLibraryOf? naming)
      Draft.enterTaskLibrary where
  admission := by
    intro draft record next hNext
    simp only [registerRecord, Except.ok.injEq] at hNext
    subst hNext
    refine admission_of_reading readTaskLibrary_onlyRejects
      ?_ ?_ ?_
    · intro diagnostic hRead
      rw [registerTaskLibrary, hRead]
    · intro library hRead hOwner
      simp [registerTaskLibrary, hRead, Draft.addTaskLibrary,
        Draft.hasProject, hOwner]
    · intro library hRead hOwner
      refine
        ⟨.orphaned .taskLibrary library.name library.project
          library.record, ⟨rfl, ?_⟩, ?_⟩
      · exact (readTaskLibrary_eq_ok_iff.mp hRead).2.2.2.1
      · simp [registerTaskLibrary, hRead,
          Draft.addTaskLibrary, Draft.hasProject, hOwner]
  projects := by
    intro draft library
    rw [Draft.enterTaskLibrary_snapshot, Snapshot.withTaskLibrary]

theorem admits_deployment :
    Admits store naming .deployment (deploymentOf? naming)
      Draft.enterDeployment where
  admission := by
    intro draft record next hNext
    simp only [registerRecord, Except.ok.injEq] at hNext
    subst hNext
    refine admission_of_reading readDeployment_onlyRejects
      ?_ ?_ ?_
    · intro diagnostic hRead
      rw [registerDeployment, hRead]
    · intro deployment hRead hOwner
      simp [registerDeployment, hRead, Draft.addDeployment,
        Draft.hasProject, hOwner]
    · intro deployment hRead hOwner
      refine
        ⟨.orphaned .deployment deployment.name
          deployment.project deployment.record,
          ⟨rfl, ?_⟩, ?_⟩
      · exact (readDeployment_eq_ok_iff.mp hRead).2.2.2.1
      · simp [registerDeployment, hRead,
          Draft.addDeployment, Draft.hasProject, hOwner]
  projects := by
    intro draft deployment
    rw [Draft.enterDeployment_snapshot, Snapshot.withDeployment]

/-
  A typekit that is read has a problem with its project, or
  its project has a typekit.
-/
theorem typekitProblem?_cases
    (draft : Draft)
    (typekit : Typekit) :
    (∃ diagnostic,
        draft.typekitProblem? typekit = some diagnostic ∧
          diagnostic.Rejects typekit.record ∧
          (draft.snapshot.projects[typekit.project]?).any
            Project.hasTypekit = false) ∨
      (draft.typekitProblem? typekit = none ∧
        (draft.snapshot.projects[typekit.project]?).any
          Project.hasTypekit = true) := by
  unfold Draft.typekitProblem?
  cases draft.snapshot.projects[typekit.project]? with
  | none => exact Or.inl ⟨_, rfl, ⟨rfl, rfl⟩, rfl⟩
  | some project =>
      by_cases hTypekit : project.hasTypekit = true
      · simp [hTypekit]
      · simp only [hTypekit, Option.any_some]
        exact Or.inl ⟨_, rfl, ⟨rfl, rfl⟩, trivial⟩

theorem admits_typekit :
    Admits store naming .typekit
      (listedTypekitOf? store naming)
      (fun draft listed =>
        draft.addTypekit listed.1 listed.2) where
  admission := by
    intro draft record next hNext
    simp only [registerRecord, registerTypekit] at hNext
    cases hRead : readTypekit naming record with
    | error diagnostic =>
        simp only [hRead, Except.ok.injEq] at hNext
        subst hNext
        exact .rejected
          (by simp [listedTypekitOf?, typekitOf?, hRead,
            Except.toOption])
          (readTypekit_onlyRejects _ hRead)
    | ok typekit =>
        have hRecord : typekit.record = record.name :=
          (readTypekit_eq_ok_iff.mp hRead).2.2.2
        rcases typekitProblem?_cases draft typekit with
          ⟨diagnostic, hProblem, hRejects, hProject⟩ |
            ⟨hProblem, hProject⟩
        · simp only [hRead, hProblem,
            Except.ok.injEq] at hNext
          subst hNext
          refine .rejected ?_ (hRecord ▸ hRejects)
          simp [listedTypekitOf?, typekitOf?, hRead,
            Except.toOption, Option.filter, hProject]
        · simp only [hRead, hProblem, bind_eq_ok_iff,
            Except.ok.injEq] at hNext
          rcases hNext with ⟨text, hText, rfl⟩
          have hListed :
              listedTypekitOf? store naming
                  draft.snapshot.projects record =
                some (typekit, TypeList.parse text) := by
            refine listedTypekitOf?_eq_some_iff.mpr ⟨?_, ?_⟩
            · exact
                typekitOf?_eq_some_iff.mpr ⟨hRead, hProject⟩
            · simp [Store.typeListOf, hText, Except.map]
          exact .entered hListed
  projects := by
    intro draft listed
    rw [Draft.addTypekit_snapshot, Snapshot.withTypekit]

end Componentry

------------------------------------------------------------
-- Registering All Records of a Class
------------------------------------------------------------

namespace Componentry

namespace Admits

variable {α : Type} {store : Store} {naming : Naming}
variable {group : RecordClass}
variable {accept : ByName Project → Descriptor → Option α}
variable {enter : Draft → α → Draft}
variable {records : List Descriptor} {start finish : Draft}

/- Registering a record of the class keeps the projects. -/
theorem projects_kept
    (hAdmits : Admits store naming group accept enter)
    {record : Descriptor}
    (hNext :
      registerRecord store naming group start record =
        .ok finish) :
    finish.snapshot.projects = start.snapshot.projects := by
  cases hAdmits.admission hNext with
  | rejected hNone hRejects => rfl
  | entered hSome => exact hAdmits.projects start _

/-
  What each rejection and each entry brings about, told of
  the records done so far, holds when all are registered.
-/
theorem run_records
    (hAdmits : Admits store naming group accept enter)
    (Inv : List Descriptor → Draft → Prop)
    (hStart : Inv [] start)
    (hReject :
      ∀ done record draft diagnostic,
        accept start.snapshot.projects record = none →
        diagnostic.Rejects record.name →
        Inv done draft →
        Inv (done ++ [record]) (draft.diagnose diagnostic))
    (hEnter :
      ∀ done record draft entity,
        done ++ [record] <+: records →
        accept start.snapshot.projects record =
          some entity →
        Inv done draft →
        Inv (done ++ [record]) (enter draft entity))
    (hRun :
      records.foldlM (registerRecord store naming group)
        start = .ok finish) :
    Inv records finish := by
  -- The projects stay, so `accept` is the same all along.
  have hBoth :
      finish.snapshot.projects = start.snapshot.projects ∧
        Inv records finish := by
    refine
      foldlM_invariant
        (fun done draft =>
          draft.snapshot.projects = start.snapshot.projects ∧
            Inv done draft)
        ⟨rfl, hStart⟩ ?_ hRun
    rintro done record draft next hDone ⟨hProjects, hInv⟩ hNext
    refine
      ⟨(hAdmits.projects_kept hNext).trans hProjects, ?_⟩
    have hAdmission := hAdmits.admission hNext
    rw [hProjects] at hAdmission
    cases hAdmission with
    | rejected hNone hRejects =>
        exact hReject _ _ _ _ hNone hRejects hInv
    | entered hSome => exact hEnter _ _ _ _ hDone hSome hInv
  exact hBoth.2

/-
  What rejections keep and entering the accepted entities in
  order brings about holds when all records are registered.
-/
theorem run_invariant
    (hAdmits : Admits store naming group accept enter)
    (Inv : List α → Draft → Prop)
    (hStart : Inv [] start)
    (hReject :
      ∀ entered draft diagnostic record,
        diagnostic.Rejects record →
        Inv entered draft →
        Inv entered (draft.diagnose diagnostic))
    (hEnter :
      ∀ entered entity draft,
        entered ++ [entity] <+:
          records.filterMap (accept start.snapshot.projects) →
        Inv entered draft →
        Inv (entered ++ [entity]) (enter draft entity))
    (hRun :
      records.foldlM (registerRecord store naming group)
        start = .ok finish) :
    Inv (records.filterMap (accept start.snapshot.projects))
      finish := by
  refine
    hAdmits.run_records
      (fun done draft =>
        Inv (done.filterMap (accept start.snapshot.projects))
          draft)
      hStart ?_ ?_ hRun
  · intro done record draft diagnostic hNone hRejects hInv
    rw [List.filterMap_append,
      List.filterMap_cons_none hNone, List.filterMap_nil,
      List.append_nil]
    exact hReject _ _ _ _ hRejects hInv
  · intro done record draft entity hDone hSome hInv
    have hPrefix :=
      hDone.filterMap (accept start.snapshot.projects)
    rw [List.filterMap_append,
      List.filterMap_cons_some hSome,
      List.filterMap_nil] at hPrefix ⊢
    exact hEnter _ _ _ hPrefix hInv

/- Entering entities that move snapshots moves the snapshot. -/
theorem run_snapshot
    (hAdmits : Admits store naming group accept enter)
    {move : Snapshot → α → Snapshot}
    (hMove :
      ∀ draft entity,
        (enter draft entity).snapshot =
          move draft.snapshot entity)
    (hRun :
      records.foldlM (registerRecord store naming group)
        start = .ok finish) :
    finish.snapshot =
      (records.filterMap
          (accept start.snapshot.projects)).foldl
        move start.snapshot := by
  refine
    hAdmits.run_invariant
      (fun entered draft =>
        draft.snapshot = entered.foldl move start.snapshot)
      rfl ?_ ?_ hRun
  · intro entered draft diagnostic record _ hInv
    exact hInv
  · intro entered entity draft _ hInv
    rw [hMove, hInv, List.foldl_append, List.foldl_cons,
      List.foldl_nil]

/- Entering entities that add to a measure adds up. -/
theorem run_measure
    (hAdmits : Admits store naming group accept enter)
    {measure : Draft → Nat}
    {weight : α → Nat}
    (hReject :
      ∀ draft diagnostic record,
        diagnostic.Rejects record →
        measure (draft.diagnose diagnostic) = measure draft)
    (hEnter :
      ∀ draft entity,
        measure (enter draft entity) =
          measure draft + weight entity)
    (hRun :
      records.foldlM (registerRecord store naming group)
        start = .ok finish) :
    measure finish =
      measure start +
        ((records.filterMap
          (accept start.snapshot.projects)).map weight).sum := by
  refine
    hAdmits.run_invariant
      (fun entered draft =>
        measure draft =
          measure start + (entered.map weight).sum)
      (by simp) ?_ ?_ hRun
  · intro entered draft diagnostic record hRejects hInv
    rw [hReject draft diagnostic record hRejects, hInv]
  · intro entered entity draft _ hInv
    rw [hEnter, hInv, List.map_append, List.sum_append]
    simp [Nat.add_assoc]

end Admits

end Componentry
