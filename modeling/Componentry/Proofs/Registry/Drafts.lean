import Componentry.Registry.Draft

/-
  What the operations on drafts change.

  Entering an entity changes the table of its class and the
  index of that class, whatever has been noted so far, and
  notes diagnostics of one kind only.

  Main declarations:
    * `indexModels`, `indexTasks`, `indexTypes`
    * `Snapshot.withTaskLibrary`
    * `Snapshot.withDeployment`, `Snapshot.withTypekit`
    * `Draft.enterTaskLibrary_snapshot`
    * `Draft.enterDeployment_snapshot`
    * `Draft.addTypekit_snapshot`
    * `Draft.NotesOnly`
-/

------------------------------------------------------------
-- Indices
------------------------------------------------------------

namespace Componentry

/- Let a task library own its task models. -/
def indexModels
    (owners : ByName String)
    (library : TaskLibrary) :
    ByName String :=
  library.taskModels.foldl
    (fun owners model => owners.insert model library.name)
    owners

/- Let a deployment run its tasks. -/
def indexTasks
    (tasks : ByName Names)
    (deployment : Deployment) :
    ByName Names :=
  deployment.deployedTasks.foldl
    (Draft.deployTask deployment.name) tasks

/- The types of a list as they are registered, with flags. -/
def TypeList.registrations
    (list : TypeList) :
    List (String × Bool) :=
  list.nonExported.map (·, false) ++
    list.exported.map (·, true)

/- Register a type, or export it if it is registered. -/
def indexType
    (owner : String)
    (types : ByName TypeEntry)
    (registration : String × Bool) :
    ByName TypeEntry :=
  types.insert registration.1 <|
    match types[registration.1]? with
    | none => ⟨owner, registration.2⟩
    | some entry =>
        ⟨entry.owner, entry.exported || registration.2⟩

/- Let a typekit own the types that it is first to list. -/
def indexTypes
    (types : ByName TypeEntry)
    (listed : Typekit × TypeList) :
    ByName TypeEntry :=
  listed.2.registrations.foldl (indexType listed.1.name) types

namespace Snapshot

/- A snapshot with one task library more. -/
def withTaskLibrary
    (snapshot : Snapshot)
    (library : TaskLibrary) :
    Snapshot :=
  { snapshot with
    taskModels := indexModels snapshot.taskModels library
    taskLibraries :=
      snapshot.taskLibraries.insert library.name library }

/- A snapshot with one deployment more. -/
def withDeployment
    (snapshot : Snapshot)
    (deployment : Deployment) :
    Snapshot :=
  { snapshot with
    deployedTasks :=
      indexTasks snapshot.deployedTasks deployment
    deployments :=
      snapshot.deployments.insert deployment.name
        deployment }

/- A snapshot with one typekit and its types more. -/
def withTypekit
    (snapshot : Snapshot)
    (listed : Typekit × TypeList) :
    Snapshot :=
  { snapshot with
    types := indexTypes snapshot.types listed
    typekits :=
      snapshot.typekits.insert listed.1.name listed.1 }

/- Task libraries fill their table and their index. -/
theorem foldl_withTaskLibrary
    (snapshot : Snapshot)
    (libraries : List TaskLibrary) :
    libraries.foldl withTaskLibrary snapshot =
      { snapshot with
        taskModels :=
          libraries.foldl indexModels snapshot.taskModels
        taskLibraries :=
          libraries.foldl
            (fun table library =>
              table.insert library.name library)
            snapshot.taskLibraries } := by
  induction libraries generalizing snapshot with
  | nil => rfl
  | cons library libraries ih =>
      rw [List.foldl_cons, ih]
      rfl

/- Deployments fill their table and their index. -/
theorem foldl_withDeployment
    (snapshot : Snapshot)
    (deployments : List Deployment) :
    deployments.foldl withDeployment snapshot =
      { snapshot with
        deployedTasks :=
          deployments.foldl indexTasks snapshot.deployedTasks
        deployments :=
          deployments.foldl
            (fun table deployment =>
              table.insert deployment.name deployment)
            snapshot.deployments } := by
  induction deployments generalizing snapshot with
  | nil => rfl
  | cons deployment deployments ih =>
      rw [List.foldl_cons, ih]
      rfl

/- Typekits fill their table and their index. -/
theorem foldl_withTypekit
    (snapshot : Snapshot)
    (typekits : List (Typekit × TypeList)) :
    typekits.foldl withTypekit snapshot =
      { snapshot with
        types := typekits.foldl indexTypes snapshot.types
        typekits :=
          (typekits.map (·.1)).foldl
            (fun table typekit =>
              table.insert typekit.name typekit)
            snapshot.typekits } := by
  induction typekits generalizing snapshot with
  | nil => rfl
  | cons listed typekits ih =>
      rw [List.foldl_cons, ih]
      rfl

end Snapshot

end Componentry

------------------------------------------------------------
-- Snapshots of Drafts
------------------------------------------------------------

namespace Componentry

namespace Draft

@[simp] theorem diagnose_snapshot
    (draft : Draft)
    (diagnostic : Diagnostic) :
    (draft.diagnose diagnostic).snapshot =
      draft.snapshot :=
  rfl

@[simp] theorem diagnose_diagnostics
    (draft : Draft)
    (diagnostic : Diagnostic) :
    (draft.diagnose diagnostic).diagnostics =
      draft.diagnostics ++ [diagnostic] :=
  rfl

@[simp] theorem diagnoseAll_snapshot
    (draft : Draft)
    (diagnostics : List Diagnostic) :
    (draft.diagnoseAll diagnostics).snapshot =
      draft.snapshot :=
  rfl

@[simp] theorem diagnoseAll_diagnostics
    (draft : Draft)
    (diagnostics : List Diagnostic) :
    (draft.diagnoseAll diagnostics).diagnostics =
      draft.diagnostics ++ diagnostics :=
  rfl

theorem claimModel_snapshot
    (library : TaskLibrary)
    (draft : Draft)
    (model : String) :
    (claimModel library draft model).snapshot =
      { draft.snapshot with
        taskModels :=
          draft.snapshot.taskModels.insert model
            library.name } := by
  unfold claimModel
  cases draft.snapshot.taskModels[model]? with
  | none => rfl
  | some previous =>
      by_cases hPrevious : previous = library.name
      · simp [hPrevious]
      · simp [hPrevious]

theorem claimModels_snapshot
    (library : TaskLibrary)
    (draft : Draft)
    (models : List String) :
    (models.foldl (claimModel library) draft).snapshot =
      { draft.snapshot with
        taskModels :=
          models.foldl
            (fun owners model =>
              owners.insert model library.name)
            draft.snapshot.taskModels } := by
  induction models generalizing draft with
  | nil => rfl
  | cons model models ih =>
      rw [List.foldl_cons, ih, claimModel_snapshot]
      rfl

/- A task library gets its place and its models. -/
theorem enterTaskLibrary_snapshot
    (draft : Draft)
    (library : TaskLibrary) :
    (draft.enterTaskLibrary library).snapshot =
      draft.snapshot.withTaskLibrary library := by
  simp only [enterTaskLibrary, claimModels_snapshot,
    Snapshot.withTaskLibrary, indexModels]

/- A deployment gets its place and its tasks. -/
theorem enterDeployment_snapshot
    (draft : Draft)
    (deployment : Deployment) :
    (draft.enterDeployment deployment).snapshot =
      draft.snapshot.withDeployment deployment :=
  rfl

theorem registerType_snapshot
    (typekit : Typekit)
    (exported : Bool)
    (draft : Draft)
    (type : String) :
    (registerType typekit exported draft type).snapshot =
      { draft.snapshot with
        types :=
          indexType typekit.name draft.snapshot.types
            (type, exported) } := by
  unfold registerType indexType
  cases draft.snapshot.types[type]? <;> rfl

theorem registerTypes_snapshot
    (typekit : Typekit)
    (exported : Bool)
    (draft : Draft)
    (types : List String) :
    (types.foldl (registerType typekit exported)
        draft).snapshot =
      { draft.snapshot with
        types :=
          (types.map (·, exported)).foldl
            (indexType typekit.name)
            draft.snapshot.types } := by
  induction types generalizing draft with
  | nil => rfl
  | cons type types ih =>
      rw [List.foldl_cons, ih, registerType_snapshot]
      rfl

/- A typekit gets its place and its types. -/
theorem addTypekit_snapshot
    (draft : Draft)
    (typekit : Typekit)
    (list : TypeList) :
    (draft.addTypekit typekit list).snapshot =
      draft.snapshot.withTypekit (typekit, list) := by
  simp only [addTypekit, registerTypes_snapshot,
    Snapshot.withTypekit, indexTypes,
    TypeList.registrations, List.foldl_append]

end Draft

end Componentry

------------------------------------------------------------
-- Diagnostics of Drafts
------------------------------------------------------------

namespace Componentry

namespace Draft

/- All that is noted between two drafts is of one kind. -/
def NotesOnly
    (kind : DiagnosticKind)
    (before after : Draft) : Prop :=
  ∃ noted,
    after.diagnostics = before.diagnostics ++ noted ∧
      ∀ diagnostic ∈ noted, diagnostic.kind = kind

namespace NotesOnly

variable {kind : DiagnosticKind}
variable {before middle after : Draft}

theorem of_eq
    (hSame : after.diagnostics = before.diagnostics) :
    NotesOnly kind before after :=
  ⟨[], by simp [hSame], by simp⟩

theorem of_append
    {diagnostic : Diagnostic}
    (hKind : diagnostic.kind = kind)
    (hNoted :
      after.diagnostics =
        before.diagnostics ++ [diagnostic]) :
    NotesOnly kind before after :=
  ⟨[diagnostic], hNoted, by simpa using hKind⟩

theorem trans
    (hFirst : NotesOnly kind before middle)
    (hSecond : NotesOnly kind middle after) :
    NotesOnly kind before after := by
  rcases hFirst with ⟨first, hMiddle, hFirst⟩
  rcases hSecond with ⟨second, hAfter, hSecond⟩
  refine
    ⟨first ++ second, by
      rw [hAfter, hMiddle, List.append_assoc], ?_⟩
  intro diagnostic hMember
  rcases List.mem_append.mp hMember with hMember | hMember
  · exact hFirst diagnostic hMember
  · exact hSecond diagnostic hMember

theorem foldl
    {α : Type}
    {act : Draft → α → Draft}
    (hAct : ∀ draft item, NotesOnly kind draft (act draft item))
    (draft : Draft)
    (items : List α) :
    NotesOnly kind draft (items.foldl act draft) := by
  induction items generalizing draft with
  | nil => exact of_eq rfl
  | cons item items ih =>
      exact (hAct draft item).trans (ih (act draft item))

/- Diagnostics of other kinds are as many as before. -/
theorem countP_eq
    (hNotes : NotesOnly kind before after)
    {counted : Diagnostic → Bool}
    (hOther :
      ∀ diagnostic,
        diagnostic.kind = kind → counted diagnostic = false) :
    after.diagnostics.countP counted =
      before.diagnostics.countP counted := by
  rcases hNotes with ⟨noted, hAfter, hKind⟩
  have hNone : noted.countP counted = 0 := by
    rw [List.countP_eq_zero]
    intro diagnostic hMember
    simp [hOther diagnostic (hKind diagnostic hMember)]
  rw [hAfter, List.countP_append, hNone, Nat.add_zero]

end NotesOnly

theorem claimModel_notes
    (library : TaskLibrary)
    (draft : Draft)
    (model : String) :
    NotesOnly .duplicateTaskModel draft
      (claimModel library draft model) := by
  unfold claimModel
  cases draft.snapshot.taskModels[model]? with
  | none => exact NotesOnly.of_eq rfl
  | some previous =>
      by_cases hPrevious : previous = library.name
      · simp only [hPrevious, if_true]
        exact NotesOnly.of_eq rfl
      · simp only [hPrevious, if_false]
        exact NotesOnly.of_append rfl rfl

/- A task library may only repeat task models. -/
theorem enterTaskLibrary_notes
    (draft : Draft)
    (library : TaskLibrary) :
    NotesOnly .duplicateTaskModel draft
      (draft.enterTaskLibrary library) :=
  (NotesOnly.foldl (claimModel_notes library) draft
    library.taskModels).trans (.of_eq rfl)

/- A deployment repeats nothing. -/
theorem enterDeployment_notes
    (kind : DiagnosticKind)
    (draft : Draft)
    (deployment : Deployment) :
    NotesOnly kind draft
      (draft.enterDeployment deployment) :=
  .of_eq rfl

theorem registerType_notes
    (typekit : Typekit)
    (exported : Bool)
    (draft : Draft)
    (type : String) :
    NotesOnly .duplicateType draft
      (registerType typekit exported draft type) := by
  unfold registerType
  cases draft.snapshot.types[type]? with
  | none => exact NotesOnly.of_eq rfl
  | some entry => exact NotesOnly.of_append rfl rfl

/- A typekit may only repeat types. -/
theorem addTypekit_notes
    (draft : Draft)
    (typekit : Typekit)
    (list : TypeList) :
    NotesOnly .duplicateType draft
      (draft.addTypekit typekit list) :=
  ((NotesOnly.foldl (registerType_notes typekit false) draft
    list.nonExported).trans
    (NotesOnly.foldl (registerType_notes typekit true) _
      list.exported)).trans (.of_eq rfl)

end Draft

end Componentry
