import Mathlib.Data.List.Forall2
import Componentry.Generation.Run
import Componentry.Proofs.Generation.Additions

/-
  Items of a request.

  A request asks for typekits, task contexts and deployments.
  Each item makes some files and may leave a note on how a
  deployment was resolved; it is generated if these files can
  be added.  Items are generated one after the other, so all
  of them are exactly if the files of all of them together can
  be added.

  Main declarations:
    * `Run.Item`, `Request.items`
    * `Run.Item.Makes`, `Run.Item.Makes.unique`
    * `Run.Item.step_eq_ok_iff`
    * `Run.foldlM_step_eq_ok_iff`
-/

------------------------------------------------------------
-- Paired Lists
------------------------------------------------------------

namespace Componentry

variable {α β : Type}
variable {relation : α → β → Prop}
variable {first : List α} {second : List β}

/- Everything on the left has a partner on the right. -/
theorem exists_right_of_mem
    (hEach : List.Forall₂ relation first second)
    {left : α}
    (hMember : left ∈ first) :
    ∃ right ∈ second, relation left right := by
  induction hEach with
  | nil => cases hMember
  | cons hPair hRest ih =>
      rcases List.mem_cons.mp hMember with hHere | hLater
      · subst hHere
        exact ⟨_, List.mem_cons_self, hPair⟩
      · rcases ih hLater with ⟨right, hRight, hRelated⟩
        exact
          ⟨right, List.mem_cons_of_mem _ hRight, hRelated⟩

theorem exists_left_of_mem
    (hEach : List.Forall₂ relation first second)
    {right : β}
    (hMember : right ∈ second) :
    ∃ left ∈ first, relation left right :=
  exists_right_of_mem hEach.flip hMember

end Componentry

------------------------------------------------------------
-- Items
------------------------------------------------------------

namespace Componentry

namespace Run

/- One thing that a request asks for. -/
inductive Item where
  | typekit (name : String)
  | task (context : TaskContext)
  | deployment (request : DeploymentRequest)

namespace Item

/- The directory that holds all items of a kind. -/
def kind : Item → String
  | .typekit _ => "typekits"
  | .task _ => "tasks"
  | .deployment _ => "deployments"

def name : Item → String
  | .typekit name => name
  | .task context => context.name
  | .deployment request => request.name

end Item

end Run

/- Everything that a request asks for, each typekit once. -/
def Request.items (request : Request) : List Run.Item :=
  (Run.distinct request.typekits).map .typekit
    ++ request.taskContexts.map .task
    ++ request.deployments.map .deployment

end Componentry

------------------------------------------------------------
-- One Item
------------------------------------------------------------

namespace Componentry

namespace Run

section

variable (registry : Registry)
variable (store : Store)
variable (extensions : Extensions)

/- How the task models of a deployment are resolved. -/
def resolution (request : DeploymentRequest) : Resolution :=
  request.taskModels.foldl (resolveModel registry)
    ⟨(registry.projectOwning? request.name).getD "", ∅, []⟩

namespace Item

/- Generate an item. -/
def step
    (artifacts : Artifacts) :
    Item → Except GenerateError Artifacts
  | .typekit name =>
      Run.typekit registry store extensions.plugins artifacts
        name
  | .task context =>
      Run.task extensions.capabilities artifacts context
  | .deployment request =>
      Run.deployment registry extensions.initializers
        artifacts request

/- Files that are made for an item. -/
inductive Makes : Item → List (Path × String) → Prop where
  | typekit
      {name : String}
      {entity : Typekit}
      {list : TypeList}
      {made : KitContributions}
      (hFound : registry.view.typekits[name]? = some entity)
      (hList : registry.typeList store name = .ok list)
      (hMade :
        extensions.plugins.run
            (.ofTypeList name entity.project list) =
          .ok made) :
      Makes (.typekit name) (typekitFiles name made)
  | task
      {context : TaskContext}
      {code : TaskCode}
      (hCode :
        extensions.capabilities.task context = .ok code) :
      Makes (.task context) (taskFiles context.name code)
  | deployment
      {request : DeploymentRequest}
      {composed : ComposedInitializers}
      (hComposed :
        extensions.initializers.compose request.initializers
            ⟨(registry.projectOwning? request.name).getD "",
              request.name⟩ =
          .ok composed) :
      Makes (.deployment request)
        (deploymentFiles request.name composed)

/- Note how a deployment was resolved. -/
def note
    (artifacts : Artifacts) :
    Item → Artifacts
  | .typekit _ => artifacts
  | .task _ => artifacts
  | .deployment request =>
      artifacts.resolve request.name
        (resolution registry request)

end Item

end

variable {registry : Registry}
variable {store : Store}
variable {extensions : Extensions}
variable {artifacts next : Artifacts}
variable {item : Item}

namespace Item

/- An item makes the same files at any time. -/
theorem Makes.unique
    {first second : List (Path × String)}
    (hFirst : Makes registry store extensions item first)
    (hSecond : Makes registry store extensions item second) :
    first = second := by
  cases hFirst with
  | typekit hFound hList hMade =>
      cases hSecond with
      | typekit hOtherFound hOtherList hOtherMade =>
          rw [hFound, Option.some.injEq] at hOtherFound
          rw [hList, Except.ok.injEq] at hOtherList
          subst hOtherFound
          subst hOtherList
          rw [hMade, Except.ok.injEq] at hOtherMade
          rw [hOtherMade]
  | task hCode =>
      cases hSecond with
      | task hOtherCode =>
          rw [hCode, Except.ok.injEq] at hOtherCode
          rw [hOtherCode]
  | deployment hComposed =>
      cases hSecond with
      | deployment hOtherComposed =>
          rw [hComposed, Except.ok.injEq] at hOtherComposed
          rw [hOtherComposed]

/- Notes are about deployments only. -/
@[simp] theorem files_note :
    (item.note registry artifacts).files =
      artifacts.files := by
  cases item with
  | typekit name => rfl
  | task context => rfl
  | deployment request => rfl

theorem withFiles_note
    (files : List (Path × String)) :
    (item.note registry artifacts).withFiles files =
      item.note registry (artifacts.withFiles files) := by
  cases item with
  | typekit name => rfl
  | task context => rfl
  | deployment request =>
      exact Artifacts.withFiles_resolve _ _ _ _

theorem admits_note_iff
    {files : List (Path × String)} :
    (item.note registry artifacts).Admits files ↔
      artifacts.Admits files := by
  constructor
  · intro hAdmits
    refine ⟨hAdmits.distinct, ?_⟩
    simpa using hAdmits.free
  · intro hAdmits
    refine ⟨hAdmits.distinct, ?_⟩
    simpa using hAdmits.free

/- An item is generated if its files can be added. -/
theorem step_eq_ok_iff :
    item.step registry store extensions artifacts =
        .ok next ↔
      ∃ files,
        item.Makes registry store extensions files ∧
          artifacts.Admits files ∧
          next =
            item.note registry
              (artifacts.withFiles files) := by
  cases item with
  | typekit name =>
      cases hFound : registry.view.typekits[name]? with
      | none =>
          simp only [step, Run.typekit, hFound, reduceCtorEq,
            false_iff]
          intro hMakes
          rcases hMakes with ⟨files, hMakes, -⟩
          cases hMakes with
          | typekit hOther _ _ =>
              rw [hFound] at hOther
              cases hOther
      | some entity =>
          simp only [step, Run.typekit, hFound,
            bind_eq_ok_iff, mapError_eq_ok_iff,
            Artifacts.insertAll_eq_ok_iff]
          constructor
          · intro hStep
            rcases hStep with
              ⟨list, hList, made, hMade, hAdmits, hNext⟩
            exact
              ⟨_, .typekit hFound hList hMade, hAdmits, hNext⟩
          · intro hMakes
            rcases hMakes with ⟨files, hMakes, hAdded⟩
            cases hMakes with
            | typekit hOther hList hMade =>
                rw [hFound, Option.some.injEq] at hOther
                subst hOther
                exact ⟨_, hList, _, hMade, hAdded⟩
  | task context =>
      simp only [step, Run.task, bind_eq_ok_iff,
        mapError_eq_ok_iff, Artifacts.insertAll_eq_ok_iff]
      constructor
      · intro hStep
        rcases hStep with ⟨code, hCode, hAdmits, hNext⟩
        exact ⟨_, .task hCode, hAdmits, hNext⟩
      · intro hMakes
        rcases hMakes with ⟨files, hMakes, hAdded⟩
        cases hMakes with
        | task hCode => exact ⟨_, hCode, hAdded⟩
  | deployment request =>
      simp only [step, Run.deployment, bind_eq_ok_iff,
        mapError_eq_ok_iff, Artifacts.insertAll_eq_ok_iff,
        Except.ok.injEq]
      constructor
      · intro hStep
        rcases hStep with
          ⟨composed, hComposed, added, ⟨hAdmits, hAdded⟩,
            hNext⟩
        subst hAdded
        exact
          ⟨_, .deployment hComposed, hAdmits, hNext.symm⟩
      · intro hMakes
        rcases hMakes with ⟨files, hMakes, hAdmits, hNext⟩
        cases hMakes with
        | deployment hComposed =>
            exact
              ⟨_, hComposed, _, ⟨hAdmits, rfl⟩, hNext.symm⟩

end Item

end Run

end Componentry

------------------------------------------------------------
-- Items One after the Other
------------------------------------------------------------

namespace Componentry

namespace Run

variable {registry : Registry}
variable {store : Store}
variable {extensions : Extensions}
variable {start finish : Artifacts}
variable {items : List Item}

/-
  Items are generated one after the other if the files of all
  of them can be added together.
-/
theorem foldlM_step_eq_ok_iff :
    items.foldlM (Item.step registry store extensions)
          start =
        .ok finish ↔
      ∃ made,
        List.Forall₂ (Item.Makes registry store extensions)
            items made ∧
          start.Admits made.flatten ∧
          finish =
            items.foldl (Item.note registry)
              (start.withFiles made.flatten) := by
  induction items generalizing start with
  | nil =>
      have hNone :
          ([] : List Item).foldlM
              (Item.step registry store extensions) start =
            .ok start :=
        rfl
      rw [hNone, Except.ok.injEq]
      constructor
      · intro hStart
        exact
          ⟨[], .nil, Artifacts.admits_nil, hStart.symm⟩
      · intro hMade
        rcases hMade with ⟨made, hMade, -, hFinish⟩
        cases hMade
        exact hFinish.symm
  | cons item items ih =>
      rw [List.foldlM_cons, bind_eq_ok_iff]
      constructor
      · intro hRun
        rcases hRun with ⟨next, hStep, hRest⟩
        rcases Item.step_eq_ok_iff.mp hStep with
          ⟨files, hFiles, hAdmits, hNext⟩
        rcases ih.mp hRest with
          ⟨made, hMade, hAdmitsRest, hFinish⟩
        subst hNext
        rw [Item.admits_note_iff] at hAdmitsRest
        rw [Item.withFiles_note] at hFinish
        refine ⟨files :: made, .cons hFiles hMade, ?_, ?_⟩
        · rw [List.flatten_cons, Artifacts.admits_append_iff]
          exact ⟨hAdmits, hAdmitsRest⟩
        · rw [List.flatten_cons, Artifacts.withFiles_append,
            List.foldl_cons]
          exact hFinish
      · intro hMade
        rcases hMade with ⟨made, hMade, hAdmits, hFinish⟩
        cases hMade with
        | cons hFiles hMade =>
            rw [List.flatten_cons, Artifacts.admits_append_iff]
              at hAdmits
            rw [List.flatten_cons, Artifacts.withFiles_append,
              List.foldl_cons, ← Item.withFiles_note]
              at hFinish
            refine
              ⟨_, Item.step_eq_ok_iff.mpr
                ⟨_, hFiles, hAdmits.1, rfl⟩, ?_⟩
            rw [ih]
            refine ⟨_, hMade, ?_, hFinish⟩
            rw [Item.admits_note_iff]
            exact hAdmits.2

end Run

end Componentry
