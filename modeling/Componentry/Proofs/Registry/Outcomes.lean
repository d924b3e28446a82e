import Componentry.Proofs.MemoryStores
import Componentry.Proofs.Registry.Survey
import Componentry.Registry.Basic

/-
  What becomes of every record.

  A scan settles each record of a class exactly once: the
  record gives one entity, one diagnostic that rejects it, or
  one diagnostic that it repeats a project.  Entities and
  diagnostics of these kinds are therefore as many as the
  records that the classes select.

  Main declarations:
    * `Outcome`
    * `Accounts`
    * `ScansClass`
    * `OutcomesOfRecords`
    * `scan_outcomesOfRecords`
-/

------------------------------------------------------------
-- Outcomes
------------------------------------------------------------

namespace Componentry

/- The rejections of chosen records. -/
def rejections
    (chosen : String → Bool)
    (noted : List Diagnostic) : Nat :=
  noted.countP fun diagnostic =>
    diagnostic.kind.rejectsRecord
      && chosen diagnostic.record

/- The chosen records that repeat a project. -/
def repetitions
    (chosen : String → Bool)
    (noted : List Diagnostic) : Nat :=
  noted.countP fun diagnostic =>
    diagnostic.kind == .duplicateProject
      && chosen diagnostic.record

/-
  A record has one outcome and no other: an entity registered
  from it, a rejection, or a note that it repeats a project.
-/
inductive Outcome
    (record : String)
    (registered : List String)
    (noted : List Diagnostic) : Prop where
  | registered
      (hEntities : registered.count record = 1)
      (hRejections : rejections (· == record) noted = 0)
      (hRepetitions : repetitions (· == record) noted = 0)
  | rejected
      (hEntities : registered.count record = 0)
      (hRejections : rejections (· == record) noted = 1)
      (hRepetitions : repetitions (· == record) noted = 0)
  | repeated
      (hEntities : registered.count record = 0)
      (hRejections : rejections (· == record) noted = 0)
      (hRepetitions : repetitions (· == record) noted = 1)

/- The records that the entities of a class come from. -/
def Snapshot.recordsOf
    (snapshot : Snapshot)
    (group : RecordClass) : List String :=
  match group with
  | .project => snapshot.projects.values.map (·.record)
  | .taskLibrary =>
      snapshot.taskLibraries.values.map (·.record)
  | .deployment => snapshot.deployments.values.map (·.record)
  | .typekit => snapshot.typekits.values.map (·.record)

/-
  A scan to a draft scans a class: it leads from the draft
  before the class to the one after it.
-/
def ScansClass
    (store : Store)
    (naming : Naming)
    (draft : Draft)
    (group : RecordClass)
    (before after : Draft) : Prop :=
  ∃ names earlier later,
    store.recordNames = .ok names ∧
      RecordClass.all = earlier ++ group :: later ∧
      earlier.foldlM (scanClass store naming names)
          (.empty naming.target) = .ok before ∧
      scanClass store naming names before group = .ok after ∧
      later.foldlM (scanClass store naming names) after =
        .ok draft

end Componentry

------------------------------------------------------------
-- Accounts
------------------------------------------------------------

namespace Componentry

section Counts

variable {chosen : String → Bool}
variable {first second : List Diagnostic}

theorem rejections_append :
    rejections chosen (first ++ second) =
      rejections chosen first + rejections chosen second :=
  List.countP_append

theorem repetitions_append :
    repetitions chosen (first ++ second) =
      repetitions chosen first + repetitions chosen second :=
  List.countP_append

/- A kind that neither rejects nor repeats is not counted. -/
def DiagnosticKind.IsRemark (kind : DiagnosticKind) : Prop :=
  kind.rejectsRecord = false ∧ kind ≠ .duplicateProject

end Counts

/-
  Entities and diagnostics account for records: whichever
  records are chosen, as many entities come from them as the
  diagnostics leave.
-/
def Accounts
    (records registered : List String)
    (noted : List Diagnostic) : Prop :=
  ∀ chosen : String → Bool,
    registered.countP chosen + rejections chosen noted
        + repetitions chosen noted =
      records.countP chosen

namespace Accounts

variable {records registered : List String}
variable {noted : List Diagnostic} {record : String}

/- The order of the entities does not count. -/
theorem of_perm
    {others : List String}
    (hAccounts : Accounts records registered noted)
    (hPerm : others.Perm registered) :
    Accounts records others noted := by
  intro chosen
  rw [hPerm.countP_eq]
  exact hAccounts chosen

/- Two accounts together are one. -/
theorem append
    {moreRecords moreRegistered : List String}
    {more : List Diagnostic}
    (hFirst : Accounts records registered noted)
    (hSecond : Accounts moreRecords moreRegistered more) :
    Accounts (records ++ moreRecords)
      (registered ++ moreRegistered) (noted ++ more) := by
  intro chosen
  have hFirst := hFirst chosen
  have hSecond := hSecond chosen
  rw [List.countP_append, List.countP_append,
    rejections_append, repetitions_append]
  omega

/- Remarks account for nothing. -/
theorem of_remarks
    (hRemarks :
      ∀ diagnostic ∈ noted, diagnostic.kind.IsRemark) :
    Accounts [] [] noted := by
  intro chosen
  have hRejections : rejections chosen noted = 0 := by
    rw [rejections, List.countP_eq_zero]
    intro diagnostic hMember
    simp [(hRemarks diagnostic hMember).1]
  have hRepetitions : repetitions chosen noted = 0 := by
    rw [repetitions, List.countP_eq_zero]
    intro diagnostic hMember
    simp [(hRemarks diagnostic hMember).2]
  rw [hRejections, hRepetitions]
  rfl

theorem of_entity (record : String) :
    Accounts [record] [record] [] := by
  intro chosen
  rfl

theorem of_rejection
    {diagnostic : Diagnostic}
    (hRejects : diagnostic.Rejects record) :
    Accounts [record] [] [diagnostic] := by
  intro chosen
  have hKind : diagnostic.kind ≠ .duplicateProject := by
    intro hKind
    have hRejects := hRejects.1
    rw [hKind] at hRejects
    cases hRejects
  simp [rejections, repetitions, List.countP_singleton,
    hRejects.1, hRejects.2, hKind]

theorem of_duplicate
    {diagnostic : Diagnostic}
    (hKind : diagnostic.kind = .duplicateProject)
    (hRecord : diagnostic.record = record) :
    Accounts [record] [] [diagnostic] := by
  intro chosen
  simp [rejections, repetitions, List.countP_singleton,
    hKind, hRecord, DiagnosticKind.rejectsRecord]

/- An account over records that none is counted twice in. -/
theorem outcome
    (hAccounts : Accounts records registered noted)
    (hOnce : records.count record = 1) :
    Outcome record registered noted := by
  have hCount := hAccounts (· == record)
  change
    registered.count record + _ + _ = records.count record
      at hCount
  rw [hOnce] at hCount
  by_cases hEntities : registered.count record = 1
  · exact .registered hEntities (by omega) (by omega)
  · by_cases hRejections :
        rejections (· == record) noted = 1
    · exact .rejected (by omega) hRejections (by omega)
    · exact .repeated (by omega) (by omega) (by omega)

/- What loading notes accounts for what it does not load. -/
theorem of_loadAll
    {store : Store}
    {names : List String}
    {loaded : Loaded}
    (hStore : store.IsOrderly)
    (hLoad : loadAll store names = .ok loaded)
    (hAccounts :
      Accounts (loaded.records.map (·.name)) registered
        noted) :
    Accounts names registered
      (loaded.diagnostics ++ noted) := by
  intro chosen
  have hCount := hAccounts chosen
  have hNames := loadAll_countP hStore hLoad chosen
  have hKinds := loadAll_diagnostics hLoad
  have hRejections :
      rejections chosen loaded.diagnostics =
        loaded.diagnostics.countP (chosen ·.record) := by
    refine List.countP_congr ?_
    intro diagnostic hMember
    simp [(hKinds diagnostic hMember).1,
      DiagnosticKind.rejectsRecord]
  have hRepetitions :
      repetitions chosen loaded.diagnostics = 0 := by
    rw [repetitions, List.countP_eq_zero]
    intro diagnostic hMember
    simp [(hKinds diagnostic hMember).1]
  rw [rejections_append, repetitions_append, hRejections,
    hRepetitions]
  rw [List.countP_map] at hCount
  change _ = loaded.records.countP (chosen ·.name) at hCount
  omega

end Accounts

end Componentry

------------------------------------------------------------
-- Accounts of Classes
------------------------------------------------------------

namespace Componentry

/- What is noted since a draft accounts for records. -/
def AccountsSince
    (start draft : Draft)
    (records registered : List String) : Prop :=
  ∃ noted,
    draft.diagnostics = start.diagnostics ++ noted ∧
      Accounts records registered noted

namespace AccountsSince

variable {start draft next : Draft}
variable {records registered : List String}
variable {record : String} {diagnostic : Diagnostic}

theorem of_perm
    {others : List String}
    (hSince :
      AccountsSince start draft records registered)
    (hPerm : others.Perm registered) :
    AccountsSince start draft records others := by
  rcases hSince with ⟨noted, hNoted, hAccounts⟩
  exact ⟨noted, hNoted, hAccounts.of_perm hPerm⟩

/- What is noted next accounts for more records. -/
theorem note
    {more : List Diagnostic}
    {moreRecords moreRegistered : List String}
    (hSince :
      AccountsSince start draft records registered)
    (hNoted :
      next.diagnostics = draft.diagnostics ++ more)
    (hAccounts : Accounts moreRecords moreRegistered more) :
    AccountsSince start next (records ++ moreRecords)
      (registered ++ moreRegistered) := by
  rcases hSince with ⟨noted, hDraft, hSince⟩
  refine ⟨noted ++ more, ?_, hSince.append hAccounts⟩
  rw [hNoted, hDraft, List.append_assoc]

theorem trans
    {moreRecords moreRegistered : List String}
    (hFirst :
      AccountsSince start draft records registered)
    (hSecond :
      AccountsSince draft next moreRecords
        moreRegistered) :
    AccountsSince start next (records ++ moreRecords)
      (registered ++ moreRegistered) := by
  rcases hSecond with ⟨more, hNoted, hAccounts⟩
  exact hFirst.note hNoted hAccounts

theorem remark
    {remarks : List Diagnostic}
    (hSince :
      AccountsSince start draft records registered)
    (hNoted :
      next.diagnostics = draft.diagnostics ++ remarks)
    (hRemarks :
      ∀ diagnostic ∈ remarks, diagnostic.kind.IsRemark) :
    AccountsSince start next records registered := by
  have hNext :=
    hSince.note hNoted (Accounts.of_remarks hRemarks)
  rwa [List.append_nil, List.append_nil] at hNext

theorem register
    (hSince :
      AccountsSince start draft records registered)
    (record : String) :
    AccountsSince start draft (records ++ [record])
      (registered ++ [record]) :=
  hSince.note (by simp) (Accounts.of_entity record)

theorem reject
    (hSince :
      AccountsSince start draft records registered)
    (hRejects : diagnostic.Rejects record) :
    AccountsSince start (draft.diagnose diagnostic)
      (records ++ [record]) registered := by
  have hNext :=
    hSince.note (draft.diagnose_diagnostics diagnostic)
      (Accounts.of_rejection hRejects)
  rwa [List.append_nil] at hNext

theorem duplicate
    (hSince :
      AccountsSince start draft records registered)
    (hKind : diagnostic.kind = .duplicateProject)
    (hRecord : diagnostic.record = record) :
    AccountsSince start (draft.diagnose diagnostic)
      (records ++ [record]) registered := by
  have hNext :=
    hSince.note (draft.diagnose_diagnostics diagnostic)
      (Accounts.of_duplicate hKind hRecord)
  rwa [List.append_nil] at hNext

end AccountsSince

variable {store : Store} {naming : Naming}
variable {names : List String} {before after : Draft}

/- The loading and the run together account for a class. -/
theorem AccountsSince.of_loadAll
    {loaded : Loaded}
    {registered : List String}
    (hStore : store.IsOrderly)
    (hLoad : loadAll store names = .ok loaded)
    (hSince :
      AccountsSince (before.diagnoseAll loaded.diagnostics)
        after ((store.loaded names).map (·.name))
        registered) :
    AccountsSince before after names registered := by
  rcases hSince with ⟨noted, hNoted, hAccounts⟩
  rw [← loadAll_records hLoad] at hAccounts
  refine
    ⟨loaded.diagnostics ++ noted, ?_,
      hAccounts.of_loadAll hStore hLoad⟩
  rw [hNoted, Draft.diagnoseAll_diagnostics,
    List.append_assoc]

/- One record more of the project class is accounted for. -/
theorem ProjectAdmission.accountsSince
    {start draft next : Draft}
    {record : Descriptor}
    {records : List String}
    (hAdmission : ProjectAdmission record draft next)
    (hSince :
      AccountsSince start draft records
        (draft.snapshot.recordsOf .project)) :
    AccountsSince start next (records ++ [record.name])
      (next.snapshot.recordsOf .project) := by
  have hRemark :
      DiagnosticKind.missingOptionalField.IsRemark :=
    ⟨rfl, by decide⟩
  cases hAdmission with
  | rejected hRead hRejects => exact hSince.reject hRejects
  | @duplicate project existing noted hRead hNoted hFound =>
      have hRemarked :
          AccountsSince start (draft.diagnoseAll noted)
            records (draft.snapshot.recordsOf .project) :=
        hSince.remark rfl fun diagnostic hMember =>
          hNoted diagnostic hMember ▸ hRemark
      exact
        hRemarked.duplicate rfl (record_of_readProject hRead)
  | @entered project noted hRead hNoted hNew =>
      rw [← record_of_readProject hRead]
      refine
        AccountsSince.of_perm
          ((hSince.remark rfl fun diagnostic hMember =>
            hNoted diagnostic hMember ▸ hRemark).register
            project.record) ?_
      exact
        ((ByName.values_insert_perm hNew).map
          Project.record).trans
          (List.perm_append_singleton _ _).symm

/- The first phase accounts for the project class. -/
theorem scanClass_project_accounts
    (hStore : store.IsOrderly)
    (hEmpty : before.snapshot.projects = ∅)
    (hClass :
      scanClass store naming names before .project =
        .ok after) :
    AccountsSince before after
      (names.filter (naming.selects .project))
      (after.snapshot.recordsOf .project) := by
  rcases scanClass_run hClass with ⟨loaded, hLoad, hRun⟩
  refine AccountsSince.of_loadAll hStore hLoad ?_
  refine
    registerProjects_invariant
      (fun done draft =>
        AccountsSince (before.diagnoseAll loaded.diagnostics)
          draft (done.map (·.name))
          (draft.snapshot.recordsOf .project))
      ?_ ?_ hRun
  · refine ⟨[], by simp, ?_⟩
    have hNone : before.snapshot.recordsOf .project = [] := by
      simp [Snapshot.recordsOf, hEmpty,
        Table.values_eq_map_toList]
    rw [Draft.diagnoseAll_snapshot, hNone]
    exact Accounts.of_remarks (by simp)
  · intro done record draft next hStep hSince
    rw [List.map_append]
    exact hStep.accountsSince hSince

/- A phase accounts for the records of its class. -/
theorem Admits.scanClass_accounts
    {α : Type}
    {group : RecordClass}
    {accept : ByName Project → Descriptor → Option α}
    {enter : Draft → α → Draft}
    {kind : DiagnosticKind}
    (hAdmits : Admits store naming group accept enter)
    (record : α → String)
    (hRecord :
      ∀ {projects found entity},
        accept projects found = some entity →
          record entity = found.name)
    (hNotes :
      ∀ draft entity,
        Draft.NotesOnly kind draft (enter draft entity))
    (hKind : kind.IsRemark)
    (hStore : store.IsOrderly)
    (hClass :
      scanClass store naming names before group =
        .ok after) :
    AccountsSince before after
      (names.filter (naming.selects group))
      (((store.recordsOf naming names group).filterMap
        (accept before.snapshot.projects)).map record) := by
  rcases scanClass_run hClass with ⟨loaded, hLoad, hRun⟩
  refine AccountsSince.of_loadAll hStore hLoad ?_
  refine
    hAdmits.run_records
      (fun done draft =>
        AccountsSince (before.diagnoseAll loaded.diagnostics)
          draft (done.map (·.name))
          ((done.filterMap
            (accept before.snapshot.projects)).map record))
      ⟨[], by simp, Accounts.of_remarks (by simp)⟩ ?_ ?_
      hRun
  · intro done found draft diagnostic hNone hRejects hSince
    rw [Draft.diagnoseAll_snapshot] at hNone
    rw [List.map_append, List.filterMap_append,
      List.filterMap_cons_none hNone, List.filterMap_nil,
      List.append_nil]
    exact hSince.reject hRejects
  · intro done found draft entity _ hSome hSince
    rw [Draft.diagnoseAll_snapshot] at hSome
    rw [List.map_append, List.filterMap_append,
      List.filterMap_cons_some hSome, List.filterMap_nil,
      List.map_append, List.map_singleton,
      List.map_singleton, hRecord hSome]
    rcases hNotes draft entity with ⟨noted, hNoted, hKinds⟩
    have hRemarked :=
      hSince.remark hNoted fun diagnostic hMember =>
        hKinds diagnostic hMember ▸ hKind
    exact hRemarked.register found.name

end Componentry

------------------------------------------------------------
-- Accounts of Scans
------------------------------------------------------------

namespace Componentry

variable {store : Store} {naming : Naming}
variable {names : List String}

namespace Phases

variable {first second third draft : Draft}

theorem project_accounts
    (hPhases :
      Phases store naming names first second third draft)
    (hStore : store.IsOrderly) :
    AccountsSince (.empty naming.target) first
      (names.filter (naming.selects .project))
      (draft.snapshot.recordsOf .project) := by
  have hAccounts :=
    scanClass_project_accounts hStore rfl hPhases.projects
  have hSame :
      draft.snapshot.recordsOf .project =
        first.snapshot.recordsOf .project := by
    simp only [Snapshot.recordsOf, hPhases.first_projects,
      hPhases.draft_snapshot, Survey.snapshot]
  rwa [hSame]

theorem taskLibrary_accounts
    (hPhases :
      Phases store naming names first second third draft)
    (hStore : store.IsOrderly)
    (hNames : store.recordNames = .ok names) :
    AccountsSince first second
      (names.filter (naming.selects .taskLibrary))
      (draft.snapshot.recordsOf .taskLibrary) := by
  have hAccounts :=
    admits_taskLibrary.scanClass_accounts TaskLibrary.record
      record_of_taskLibraryOf? Draft.enterTaskLibrary_notes
      ⟨rfl, by decide⟩ hStore hPhases.taskLibraries
  rw [hPhases.first_projects] at hAccounts
  rw [hPhases.draft_snapshot]
  exact
    hAccounts.of_perm
      ((Survey.values_taskLibraries_perm hStore hNames).map
        TaskLibrary.record)

theorem deployment_accounts
    (hPhases :
      Phases store naming names first second third draft)
    (hStore : store.IsOrderly)
    (hNames : store.recordNames = .ok names) :
    AccountsSince second third
      (names.filter (naming.selects .deployment))
      (draft.snapshot.recordsOf .deployment) := by
  have hAccounts :=
    admits_deployment.scanClass_accounts Deployment.record
      record_of_deploymentOf?
      (Draft.enterDeployment_notes .missingOptionalField)
      ⟨rfl, by decide⟩ hStore hPhases.deployments
  rw [hPhases.second_projects] at hAccounts
  rw [hPhases.draft_snapshot]
  exact
    hAccounts.of_perm
      ((Survey.values_deployments_perm hStore hNames).map
        Deployment.record)

theorem typekit_accounts
    (hPhases :
      Phases store naming names first second third draft)
    (hStore : store.IsOrderly)
    (hNames : store.recordNames = .ok names) :
    AccountsSince third draft
      (names.filter (naming.selects .typekit))
      (draft.snapshot.recordsOf .typekit) := by
  have hAccounts :=
    admits_typekit.scanClass_accounts (·.1.record)
      record_of_listedTypekitOf?
      (fun draft listed =>
        draft.addTypekit_notes listed.1 listed.2)
      ⟨rfl, by decide⟩ hStore hPhases.typekits
  rw [hPhases.third_projects] at hAccounts
  rw [hPhases.draft_snapshot]
  refine hAccounts.of_perm ?_
  have hValues :
      (Survey.snapshot store naming
        names).typekits.values.Perm _ :=
    Survey.values_typekits_perm hStore hNames
  have hRecords := hValues.map Typekit.record
  rwa [List.map_map] at hRecords

/- Each class is scanned and its records are accounted for. -/
theorem class_accounts
    (hPhases :
      Phases store naming names first second third draft)
    (hStore : store.IsOrderly)
    (hNames : store.recordNames = .ok names)
    (group : RecordClass) :
    ∃ before after,
      ScansClass store naming draft group before after ∧
        AccountsSince before after
          (names.filter (naming.selects group))
          (draft.snapshot.recordsOf group) := by
  cases group with
  | project =>
      exact
        ⟨_, first,
          ⟨names, [], [.taskLibrary, .deployment, .typekit],
            hNames, rfl, rfl, hPhases.projects,
            foldlM_cons_eq_ok hPhases.taskLibraries
              (foldlM_cons_eq_ok hPhases.deployments
                (foldlM_cons_eq_ok hPhases.typekits rfl))⟩,
          hPhases.project_accounts hStore⟩
  | taskLibrary =>
      exact
        ⟨first, second,
          ⟨names, [.project], [.deployment, .typekit],
            hNames, rfl,
            foldlM_cons_eq_ok hPhases.projects rfl,
            hPhases.taskLibraries,
            foldlM_cons_eq_ok hPhases.deployments
              (foldlM_cons_eq_ok hPhases.typekits rfl)⟩,
          hPhases.taskLibrary_accounts hStore hNames⟩
  | deployment =>
      exact
        ⟨second, third,
          ⟨names, [.project, .taskLibrary], [.typekit],
            hNames, rfl,
            foldlM_cons_eq_ok hPhases.projects
              (foldlM_cons_eq_ok hPhases.taskLibraries rfl),
            hPhases.deployments,
            foldlM_cons_eq_ok hPhases.typekits rfl⟩,
          hPhases.deployment_accounts hStore hNames⟩
  | typekit =>
      exact
        ⟨third, draft,
          ⟨names, [.project, .taskLibrary, .deployment], [],
            hNames, rfl,
            foldlM_cons_eq_ok hPhases.projects
              (foldlM_cons_eq_ok hPhases.taskLibraries
                (foldlM_cons_eq_ok hPhases.deployments rfl)),
            hPhases.typekits, rfl⟩,
          hPhases.typekit_accounts hStore hNames⟩

/- The whole scan accounts for all classes. -/
theorem accounts
    (hPhases :
      Phases store naming names first second third draft)
    (hStore : store.IsOrderly)
    (hNames : store.recordNames = .ok names) :
    Accounts
      (RecordClass.all.flatMap fun group =>
        names.filter (naming.selects group))
      (RecordClass.all.flatMap draft.snapshot.recordsOf)
      draft.diagnostics := by
  rcases
    (((hPhases.project_accounts hStore).trans
      (hPhases.taskLibrary_accounts hStore hNames)).trans
      (hPhases.deployment_accounts hStore hNames)).trans
      (hPhases.typekit_accounts hStore hNames) with
    ⟨noted, hNoted, hAccounts⟩
  rw [hNoted]
  simpa [RecordClass.all, Draft.empty] using hAccounts

end Phases

end Componentry

------------------------------------------------------------
-- The Books of a Scan
------------------------------------------------------------

namespace Componentry

/- The records that classes select, class by class. -/
def selections
    (naming : Naming)
    (names : List String) :
    List (RecordClass × String) :=
  RecordClass.all.flatMap fun group =>
    (names.filter (naming.selects group)).map (group, ·)

/- The entities of a snapshot are those of its classes. -/
theorem Snapshot.length_recordsOf
    (snapshot : Snapshot) :
    (RecordClass.all.flatMap snapshot.recordsOf).length =
      snapshot.projects.size + snapshot.taskLibraries.size
        + snapshot.deployments.size
        + snapshot.typekits.size := by
  simp [RecordClass.all, Snapshot.recordsOf,
    Table.length_values, Nat.add_assoc]

/-
  Each record of a class has exactly one outcome in the scan
  of the class, and the report of a rebuild adds up to all
  records that classes select.
-/
structure OutcomesOfRecords
    (store : Store)
    (registry : Registry)
    (names : List String)
    (draft : Draft) : Prop where
  settled :
    ∀ group, ∃ before after noted,
      ScansClass store registry.naming draft group before
          after ∧
        after.diagnostics = before.diagnostics ++ noted ∧
        ∀ record ∈ names,
          registry.naming.selects group record = true →
            Outcome record (draft.snapshot.recordsOf group)
              noted
  total :
    ∃ report,
      (registry.rebuild store).1 = .ok report ∧
        (selections registry.naming names).length =
          report.projects + report.taskLibraries
            + report.deployments + report.typekits
            + report.diagnostics.countP (·.kind.rejectsRecord)
            + report.diagnostics.countP
                (·.kind == .duplicateProject)

theorem scan_outcomesOfRecords
    {store : Store}
    (registry : Registry)
    {names : List String}
    {draft : Draft}
    (hStore : store.IsOrderly)
    (hNames : store.recordNames = .ok names)
    (hScan : scan store registry.naming = .ok draft) :
    OutcomesOfRecords store registry names draft := by
  rcases scan_phases hNames hScan with ⟨_, _, _, hPhases⟩
  refine { settled := ?_, total := ?_ }
  · intro group
    rcases hPhases.class_accounts hStore hNames group with
      ⟨before, after, hClass, noted, hNoted, hAccounts⟩
    refine ⟨before, after, noted, hClass, hNoted, ?_⟩
    intro record hMember hSelected
    refine hAccounts.outcome ?_
    exact
      List.count_eq_one_of_mem
        ((hStore.nodup_names hNames).filter _)
        (List.mem_filter.mpr ⟨hMember, hSelected⟩)
  · refine
      ⟨.ofDraft draft, by simp [Registry.rebuild, hScan], ?_⟩
    have hAll :=
      hPhases.accounts hStore hNames fun _ => true
    simp only [rejections, repetitions, List.countP_true,
      Bool.and_true, Snapshot.length_recordsOf] at hAll
    simpa [selections, RebuildReport.ofDraft,
      List.length_flatMap] using hAll.symm

theorem sample_outcomesOfRecords :
    MemoryStore.sample.view.IsOrderly ∧
      ∃ names draft,
        MemoryStore.sample.view.recordNames = .ok names ∧
          scan MemoryStore.sample.view .standard =
            .ok draft ∧
          OutcomesOfRecords MemoryStore.sample.view
            ⟨.standard, none⟩ names draft := by
  rcases MemoryStore.scan_sample with ⟨draft, hScan, -⟩
  rcases recordNames_of_scan hScan with ⟨names, hNames⟩
  exact
    ⟨MemoryStore.sample_isOrderly, names, draft, hNames,
      hScan,
      scan_outcomesOfRecords ⟨.standard, none⟩
        MemoryStore.sample_isOrderly hNames hScan⟩

end Componentry
