import Componentry.Proofs.Registry.Admission
import Componentry.Proofs.Tables

/-
  Surveys: what a store holds, told without a scan.

  The projects of a survey are the first of each name; the
  entities of the other classes are those that these projects
  accept, and the indices are made from them.  A scan that
  succeeds gives the snapshot of the survey.

  Main declarations:
    * `Survey.projects`, `Survey.taskLibraries`
    * `Survey.deployments`, `Survey.typekits`
    * `Survey.snapshot`
    * `ProjectAdmission`, `registerProjects_invariant`
    * `Phases`, `scan_phases`
    * `scan_snapshot`
    * `InOrder`
    * `Survey.values_taskLibraries_perm`
    * `Survey.values_deployments_perm`
    * `Survey.values_typekits_perm`
    * `Survey.typekits_readable`
-/

------------------------------------------------------------
-- Surveys
------------------------------------------------------------

namespace Componentry

/- The projects of records, in their order. -/
def projectsOf
    (records : List Descriptor) :
    List Project :=
  records.filterMap fun record =>
    (readProject record).toOption

namespace Survey

variable (store : Store) (naming : Naming)
variable (names : List String)

/- The projects, each from the first record that names it. -/
def projects : ByName Project :=
  .ofFirst (·.name)
    (projectsOf (store.recordsOf naming names .project))

/- The accepted task libraries, in the order of records. -/
def taskLibraries : List TaskLibrary :=
  (store.recordsOf naming names .taskLibrary).filterMap
    (taskLibraryOf? naming (projects store naming names))

/- The accepted deployments, in the order of records. -/
def deployments : List Deployment :=
  (store.recordsOf naming names .deployment).filterMap
    (deploymentOf? naming (projects store naming names))

/- The accepted typekits with their lists, likewise. -/
def typekits : List (Typekit × TypeList) :=
  (store.recordsOf naming names .typekit).filterMap
    (listedTypekitOf? store naming
      (projects store naming names))

/- The snapshot of a survey. -/
def snapshot : Snapshot where
  target := naming.target
  projects := projects store naming names
  taskLibraries :=
    .ofValues (·.name) (taskLibraries store naming names)
  deployments :=
    .ofValues (·.name) (deployments store naming names)
  typekits :=
    .ofValues (·.name)
      ((typekits store naming names).map (·.1))
  taskModels :=
    (taskLibraries store naming names).foldl indexModels ∅
  types := (typekits store naming names).foldl indexTypes ∅
  deployedTasks :=
    (deployments store naming names).foldl indexTasks ∅

end Survey

end Componentry

------------------------------------------------------------
-- Phases of a Scan
------------------------------------------------------------

namespace Componentry

variable {store : Store} {naming : Naming}
variable {names : List String} {group : RecordClass}
variable {before after draft : Draft}

/- Scanning a class loads its records and registers them. -/
theorem scanClass_run
    (hClass :
      scanClass store naming names before group =
        .ok after) :
    ∃ loaded,
      loadAll store (names.filter (naming.selects group)) =
          .ok loaded ∧
        (store.recordsOf naming names group).foldlM
            (registerRecord store naming group)
            (before.diagnoseAll loaded.diagnostics) =
          .ok after := by
  simp only [scanClass, bind_eq_ok_iff] at hClass
  rcases hClass with ⟨loaded, hLoad, hRun⟩
  rw [loadAll_records hLoad] at hRun
  exact ⟨loaded, hLoad, hRun⟩

/- The drafts that a scan goes through, class by class. -/
structure Phases
    (store : Store)
    (naming : Naming)
    (names : List String)
    (first second third draft : Draft) : Prop where
  projects :
    scanClass store naming names (.empty naming.target)
      .project = .ok first
  taskLibraries :
    scanClass store naming names first .taskLibrary =
      .ok second
  deployments :
    scanClass store naming names second .deployment =
      .ok third
  typekits :
    scanClass store naming names third .typekit = .ok draft

theorem scan_phases
    (hNames : store.recordNames = .ok names)
    (hScan : scan store naming = .ok draft) :
    ∃ first second third,
      Phases store naming names first second third draft := by
  simp only [scan, hNames, RecordClass.all,
    List.foldlM_cons, List.foldlM_nil,
    bind_eq_ok_iff] at hScan
  rcases hScan with
    ⟨_, hNames, first, hFirst, second, hSecond, third, hThird,
      fourth, hFourth, hDraft⟩
  cases hNames
  cases hDraft
  exact
    ⟨first, second, third, hFirst, hSecond, hThird, hFourth⟩

/- A scan that succeeds has listed the records. -/
theorem recordNames_of_scan
    (hScan : scan store naming = .ok draft) :
    ∃ names, store.recordNames = .ok names := by
  simp only [scan, bind_eq_ok_iff] at hScan
  rcases hScan with ⟨names, hNames, -⟩
  exact ⟨names, hNames⟩

end Componentry

------------------------------------------------------------
-- The Phase of the Projects
------------------------------------------------------------

namespace Componentry

/-
  What registering a record does to the projects: it is
  rejected, it repeats a project or it enters a new one.  A
  missing specification may be noted first.
-/
inductive ProjectAdmission
    (record : Descriptor)
    (draft : Draft) : Draft → Prop where
  | rejected
      {diagnostic : Diagnostic}
      (hRead : readProject record = .error diagnostic)
      (hRejects : diagnostic.Rejects record.name) :
      ProjectAdmission record draft
        (draft.diagnose diagnostic)
  | duplicate
      {project existing : Project}
      {noted : List Diagnostic}
      (hRead : readProject record = .ok project)
      (hNoted :
        ∀ diagnostic ∈ noted,
          diagnostic.kind = .missingOptionalField)
      (hFound :
        draft.snapshot.projects[project.name]? =
          some existing) :
      ProjectAdmission record draft
        ((draft.diagnoseAll noted).diagnose
          (.duplicateProject project existing))
  | entered
      {project : Project}
      {noted : List Diagnostic}
      (hRead : readProject record = .ok project)
      (hNoted :
        ∀ diagnostic ∈ noted,
          diagnostic.kind = .missingOptionalField)
      (hNew :
        draft.snapshot.projects[project.name]? = none) :
      ProjectAdmission record draft
        { draft.diagnoseAll noted with
          snapshot.projects :=
            draft.snapshot.projects.insert project.name
              project }

theorem addProject_admission
    {record : Descriptor}
    {project : Project}
    (draft : Draft)
    (noted : List Diagnostic)
    (hRead : readProject record = .ok project)
    (hNoted :
      ∀ diagnostic ∈ noted,
        diagnostic.kind = .missingOptionalField) :
    ProjectAdmission record draft
      ((draft.diagnoseAll noted).addProject project) := by
  unfold Draft.addProject
  rw [Draft.diagnoseAll_snapshot]
  cases hFound : draft.snapshot.projects[project.name]? with
  | none => exact .entered hRead hNoted hFound
  | some existing => exact .duplicate hRead hNoted hFound

theorem registerProject_admission
    (draft : Draft)
    (record : Descriptor) :
    ProjectAdmission record draft
      (registerProject draft record) := by
  unfold registerProject
  cases hRead : readProject record with
  | error diagnostic =>
      exact .rejected hRead
        (readProject_onlyRejects diagnostic hRead)
  | ok project =>
      by_cases hSpec : project.specPath.isSome = true
      · simp only [hSpec, if_true]
        have hAdd :=
          addProject_admission draft [] hRead (by simp)
        simpa [Draft.diagnoseAll] using hAdd
      · simp only [hSpec, Bool.false_eq_true, if_false]
        exact
          addProject_admission draft
            [.missingField .missingOptionalField record
              FieldName.specFile]
            hRead (by simp [Diagnostic.missingField])

/-
  What each admission brings about, told of the records done
  so far, holds when all projects are registered.
-/
theorem registerProjects_invariant
    {store : Store}
    {naming : Naming}
    {records : List Descriptor}
    {start finish : Draft}
    (Inv : List Descriptor → Draft → Prop)
    (hStart : Inv [] start)
    (hStep :
      ∀ done record draft next,
        ProjectAdmission record draft next →
        Inv done draft →
        Inv (done ++ [record]) next)
    (hRun :
      records.foldlM (registerRecord store naming .project)
        start = .ok finish) :
    Inv records finish := by
  refine foldlM_invariant Inv hStart ?_ hRun
  intro done record draft next _ hInv hNext
  simp only [registerRecord, Except.ok.injEq] at hNext
  refine hStep done record draft next ?_ hInv
  rw [← hNext]
  exact registerProject_admission draft record

/- A project remembers the record it was read from. -/
theorem record_of_readProject
    {record : Descriptor}
    {project : Project}
    (hRead : readProject record = .ok project) :
    project.record = record.name := by
  rw [(readProject_eq_ok_iff.mp hRead).2]

theorem projectsOf_append_error
    {record : Descriptor}
    {diagnostic : Diagnostic}
    (done : List Descriptor)
    (hRead : readProject record = .error diagnostic) :
    projectsOf (done ++ [record]) = projectsOf done := by
  simp [projectsOf, hRead, Except.toOption]

theorem projectsOf_append_ok
    {record : Descriptor}
    {project : Project}
    (done : List Descriptor)
    (hRead : readProject record = .ok project) :
    projectsOf (done ++ [record]) =
      projectsOf done ++ [project] := by
  simp [projectsOf, hRead, Except.toOption]

variable {store : Store} {naming : Naming}
variable {names : List String} {before after : Draft}

/- The first phase registers the projects of the survey. -/
theorem scanClass_project
    (hEmpty : before.snapshot.projects = ∅)
    (hClass :
      scanClass store naming names before .project =
        .ok after) :
    after.snapshot =
      { before.snapshot with
        projects := Survey.projects store naming names } := by
  rcases scanClass_run hClass with ⟨loaded, -, hRun⟩
  refine
    registerProjects_invariant
      (fun done draft =>
        draft.snapshot =
          { before.snapshot with
            projects := .ofFirst (·.name) (projectsOf done) })
      (by simp [projectsOf, ByName.ofFirst, ← hEmpty]) ?_ hRun
  intro done record draft next hStep hInv
  have hDone :
      draft.snapshot.projects =
        .ofFirst (·.name) (projectsOf done) := by
    rw [hInv]
  cases hStep with
  | rejected hRead hRejects =>
      rw [projectsOf_append_error done hRead]
      exact hInv
  | duplicate hRead hNoted hFound =>
      rw [hDone] at hFound
      rw [projectsOf_append_ok done hRead,
        ByName.ofFirst_append_singleton,
        ByName.insertIfNew_of_some hFound]
      exact hInv
  | entered hRead hNoted hNew =>
      rw [hDone] at hNew
      rw [projectsOf_append_ok done hRead,
        ByName.ofFirst_append_singleton,
        ByName.insertIfNew_of_none hNew, ← hDone]
      simp [hInv]

end Componentry

------------------------------------------------------------
-- The Phases of the Other Classes
------------------------------------------------------------

namespace Componentry

variable {store : Store} {naming : Naming}
variable {names : List String} {before after : Draft}

/- A phase enters the accepted entities of its class. -/
theorem Admits.scanClass_snapshot
    {α : Type}
    {group : RecordClass}
    {accept : ByName Project → Descriptor → Option α}
    {enter : Draft → α → Draft}
    {move : Snapshot → α → Snapshot}
    (hAdmits : Admits store naming group accept enter)
    (hMove :
      ∀ draft entity,
        (enter draft entity).snapshot =
          move draft.snapshot entity)
    (hClass :
      scanClass store naming names before group =
        .ok after) :
    after.snapshot =
      ((store.recordsOf naming names group).filterMap
        (accept before.snapshot.projects)).foldl
        move before.snapshot := by
  rcases scanClass_run hClass with ⟨loaded, -, hRun⟩
  have hSnapshot := hAdmits.run_snapshot hMove hRun
  exact hSnapshot

namespace Phases

variable {first second third draft : Draft}

theorem first_snapshot
    (hPhases :
      Phases store naming names first second third draft) :
    first.snapshot =
      { Snapshot.empty naming.target with
        projects := Survey.projects store naming names } :=
  scanClass_project rfl hPhases.projects

theorem second_snapshot
    (hPhases :
      Phases store naming names first second third draft) :
    second.snapshot =
      { first.snapshot with
        taskModels :=
          (Survey.taskLibraries store naming names).foldl
            indexModels ∅
        taskLibraries :=
          .ofValues (·.name)
            (Survey.taskLibraries store naming names) } := by
  have hSecond :=
    admits_taskLibrary.scanClass_snapshot
      Draft.enterTaskLibrary_snapshot hPhases.taskLibraries
  rw [Snapshot.foldl_withTaskLibrary,
    hPhases.first_snapshot] at hSecond
  rw [hSecond, hPhases.first_snapshot]
  rfl

theorem third_snapshot
    (hPhases :
      Phases store naming names first second third draft) :
    third.snapshot =
      { second.snapshot with
        deployedTasks :=
          (Survey.deployments store naming names).foldl
            indexTasks ∅
        deployments :=
          .ofValues (·.name)
            (Survey.deployments store naming names) } := by
  have hThird :=
    admits_deployment.scanClass_snapshot
      Draft.enterDeployment_snapshot hPhases.deployments
  rw [Snapshot.foldl_withDeployment, hPhases.second_snapshot,
    hPhases.first_snapshot] at hThird
  rw [hThird, hPhases.second_snapshot,
    hPhases.first_snapshot]
  rfl

theorem first_projects
    (hPhases :
      Phases store naming names first second third draft) :
    first.snapshot.projects =
      Survey.projects store naming names := by
  rw [hPhases.first_snapshot]

theorem second_projects
    (hPhases :
      Phases store naming names first second third draft) :
    second.snapshot.projects =
      Survey.projects store naming names := by
  rw [hPhases.second_snapshot, hPhases.first_projects]

theorem third_projects
    (hPhases :
      Phases store naming names first second third draft) :
    third.snapshot.projects =
      Survey.projects store naming names := by
  rw [hPhases.third_snapshot, hPhases.second_projects]

/- The last phase gives the snapshot of the survey. -/
theorem draft_snapshot
    (hPhases :
      Phases store naming names first second third draft) :
    draft.snapshot = Survey.snapshot store naming names := by
  have hDraft :=
    admits_typekit.scanClass_snapshot
      (fun draft listed =>
        draft.addTypekit_snapshot listed.1 listed.2)
      hPhases.typekits
  rw [Snapshot.foldl_withTypekit, hPhases.third_snapshot,
    hPhases.second_snapshot, hPhases.first_snapshot] at hDraft
  rw [hDraft]
  rfl

end Phases

/- A scan that succeeds gives the snapshot of the survey. -/
theorem scan_snapshot
    {draft : Draft}
    (hNames : store.recordNames = .ok names)
    (hScan : scan store naming = .ok draft) :
    draft.snapshot = Survey.snapshot store naming names := by
  rcases scan_phases hNames hScan with ⟨_, _, _, hPhases⟩
  exact hPhases.draft_snapshot

end Componentry

------------------------------------------------------------
-- Readable Type Lists
------------------------------------------------------------

namespace Componentry

variable {store : Store} {naming : Naming}
variable {names : List String}

/- A typekit that is accepted has a list that can be read. -/
theorem typeListOf_of_registerTypekit
    {record : Descriptor}
    {draft next : Draft}
    {typekit : Typekit}
    (hNext :
      registerRecord store naming .typekit draft record =
        .ok next)
    (hTypekit :
      typekitOf? naming draft.snapshot.projects record =
        some typekit) :
    ∃ list, store.typeListOf typekit = .ok list := by
  rcases typekitOf?_eq_some_iff.mp hTypekit with
    ⟨hRead, hProject⟩
  have hProblem : draft.typekitProblem? typekit = none := by
    rcases typekitProblem?_cases draft typekit with
      ⟨_, -, -, hNone⟩ | ⟨hProblem, -⟩
    · rw [hProject] at hNone
      cases hNone
    · exact hProblem
  simp only [registerRecord, registerTypekit, hRead, hProblem,
    bind_eq_ok_iff, Except.ok.injEq] at hNext
  rcases hNext with ⟨text, hText, -⟩
  exact
    ⟨TypeList.parse text, by
      simp [Store.typeListOf, hText, Except.map]⟩

/- In a scan every accepted typekit has been read. -/
theorem typeListOf_of_scanClass
    {before after : Draft}
    (hClass :
      scanClass store naming names before .typekit =
        .ok after)
    {record : Descriptor}
    (hRecord :
      record ∈ store.recordsOf naming names .typekit)
    {typekit : Typekit}
    (hTypekit :
      typekitOf? naming before.snapshot.projects record =
        some typekit) :
    ∃ list, store.typeListOf typekit = .ok list := by
  rcases scanClass_run hClass with ⟨loaded, -, hRun⟩
  have hAll :
      after.snapshot.projects = before.snapshot.projects ∧
        ∀ record ∈ store.recordsOf naming names .typekit,
          ∀ typekit,
            typekitOf? naming before.snapshot.projects
                record = some typekit →
              ∃ list,
                store.typeListOf typekit = .ok list := by
    refine
      foldlM_invariant
        (fun done draft =>
          draft.snapshot.projects = before.snapshot.projects ∧
            ∀ record ∈ done, ∀ typekit,
              typekitOf? naming before.snapshot.projects
                  record = some typekit →
                ∃ list,
                  store.typeListOf typekit = .ok list)
        ⟨rfl, by simp⟩ ?_ hRun
    rintro done next draft draft' _ ⟨hProjects, hDone⟩ hNext
    constructor
    · exact
        (admits_typekit.projects_kept hNext).trans hProjects
    · intro record hMember typekit hTypekit
      rcases List.mem_append.mp hMember with hMember | hMember
      · exact hDone record hMember typekit hTypekit
      · rw [List.mem_singleton.mp hMember,
          ← hProjects] at hTypekit
        exact typeListOf_of_registerTypekit hNext hTypekit
  exact hAll.2 record hRecord typekit hTypekit

/- A survey holds every accepted typekit of a scanned store. -/
theorem Survey.typekits_readable
    {draft : Draft}
    (hNames : store.recordNames = .ok names)
    (hScan : scan store naming = .ok draft)
    {record : Descriptor}
    (hRecord :
      record ∈ store.recordsOf naming names .typekit)
    {typekit : Typekit}
    (hTypekit :
      typekitOf? naming (projects store naming names) record =
        some typekit) :
    ∃ list, store.typeListOf typekit = .ok list := by
  rcases scan_phases hNames hScan with ⟨_, _, _, hPhases⟩
  rw [← hPhases.third_projects] at hTypekit
  exact
    typeListOf_of_scanClass hPhases.typekits hRecord hTypekit

end Componentry

------------------------------------------------------------
-- Entities in the Order of Records
------------------------------------------------------------

namespace Componentry

/-
  Entities of a class in the order of their records, each
  with the name that its record tells.
-/
structure InOrder
    {α : Type}
    (naming : Naming)
    (group : RecordClass)
    (name record : α → String)
    (entities : List α) : Prop where
  increasing :
    entities.Pairwise fun first second =>
      record first < record second
  named :
    ∀ entity ∈ entities,
      naming.entityName? group (record entity) =
        some (name entity)

namespace InOrder

variable {α : Type} {naming : Naming} {group : RecordClass}
variable {name record : α → String}

/- No two entities in order have the same name. -/
theorem nodup_names
    {entities : List α}
    (hOrder : InOrder naming group name record entities) :
    (entities.map name).Nodup := by
  rw [List.nodup_iff_pairwise_ne, List.pairwise_map]
  refine hOrder.increasing.imp_of_mem ?_
  intro first second hFirst hSecond hLess hSame
  have hRecords :
      record first = record second :=
    Naming.entityName?_injective
      (hOrder.named first hFirst)
      (hSame ▸ hOrder.named second hSecond)
  rw [hRecords] at hLess
  exact String.lt_irrefl _ hLess

/- The accepted entities of a class are in order. -/
theorem of_accept
    {store : Store}
    {names : List String}
    (hStore : store.IsOrderly)
    (hNames : store.recordNames = .ok names)
    {accept : Descriptor → Option α}
    (hAccept :
      ∀ {found entity}, accept found = some entity →
        record entity = found.name ∧
          naming.entityName? group found.name =
            some (name entity)) :
    InOrder naming group name record
      ((store.recordsOf naming names group).filterMap
        accept) where
  increasing := by
    refine
      (store.recordsOf_pairwise hStore hNames).filterMap _ ?_
    intro first second hLess entity hFirst other hSecond
    rw [(hAccept hFirst).1, (hAccept hSecond).1]
    exact hLess
  named := by
    intro entity hMember
    rcases List.mem_filterMap.mp hMember with
      ⟨found, -, hFound⟩
    rw [(hAccept hFound).1]
    exact (hAccept hFound).2

end InOrder

namespace Survey

variable {store : Store} {naming : Naming}
variable {names : List String}

theorem taskLibraries_inOrder
    (hStore : store.IsOrderly)
    (hNames : store.recordNames = .ok names) :
    InOrder naming .taskLibrary TaskLibrary.name
      TaskLibrary.record
      (taskLibraries store naming names) := by
  refine InOrder.of_accept hStore hNames ?_
  intro found library hLibrary
  have hRead :=
    readTaskLibrary_eq_ok_iff.mp
      (taskLibraryOf?_eq_some_iff.mp hLibrary).1
  exact ⟨record_of_taskLibraryOf? hLibrary, hRead.1⟩

theorem deployments_inOrder
    (hStore : store.IsOrderly)
    (hNames : store.recordNames = .ok names) :
    InOrder naming .deployment Deployment.name
      Deployment.record
      (deployments store naming names) := by
  refine InOrder.of_accept hStore hNames ?_
  intro found deployment hDeployment
  have hRead :=
    readDeployment_eq_ok_iff.mp
      (deploymentOf?_eq_some_iff.mp hDeployment).1
  exact ⟨record_of_deploymentOf? hDeployment, hRead.1⟩

theorem typekits_inOrder
    (hStore : store.IsOrderly)
    (hNames : store.recordNames = .ok names) :
    InOrder naming .typekit (·.1.name) (·.1.record)
      (typekits store naming names) := by
  refine InOrder.of_accept hStore hNames ?_
  intro found listed hListed
  have hRead :=
    readTypekit_eq_ok_iff.mp
      (typekitOf?_eq_some_iff.mp
        (listedTypekitOf?_eq_some_iff.mp hListed).1).1
  exact ⟨record_of_listedTypekitOf? hListed, hRead.1⟩

theorem nodup_typekit_names
    (hStore : store.IsOrderly)
    (hNames : store.recordNames = .ok names) :
    (((typekits store naming names).map (·.1)).map
      Typekit.name).Nodup := by
  rw [List.map_map]
  exact (typekits_inOrder hStore hNames).nodup_names

/- The tables of the snapshot hold the accepted entities. -/
theorem values_taskLibraries_perm
    (hStore : store.IsOrderly)
    (hNames : store.recordNames = .ok names) :
    (snapshot store naming names).taskLibraries.values.Perm
      (taskLibraries store naming names) :=
  ByName.values_ofValues_perm
    (taskLibraries_inOrder hStore hNames).nodup_names

theorem values_deployments_perm
    (hStore : store.IsOrderly)
    (hNames : store.recordNames = .ok names) :
    (snapshot store naming names).deployments.values.Perm
      (deployments store naming names) :=
  ByName.values_ofValues_perm
    (deployments_inOrder hStore hNames).nodup_names

theorem values_typekits_perm
    (hStore : store.IsOrderly)
    (hNames : store.recordNames = .ok names) :
    (snapshot store naming names).typekits.values.Perm
      ((typekits store naming names).map (·.1)) :=
  ByName.values_ofValues_perm
    (nodup_typekit_names hStore hNames)

end Survey

end Componentry
