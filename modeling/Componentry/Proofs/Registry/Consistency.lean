import Componentry.Proofs.Registry.Indices

/-
  Drafts are consistent at every moment.

  Entities may be added to a draft in any order, and under
  names that are taken.  What an entity or an index refers to
  is there all the same: an entity enters only behind its
  project, projects stay as they were entered, and an index
  names only what has been entered beside it.

  Main declarations:
    * `ByName.Holds`
    * `Addition`, `Draft.add`, `Draft.addAll`
    * `Snapshot.IsLinked`
    * `Snapshot.Grows`, `Draft.add_grows`
    * `Snapshot.IsSound`
    * `Draft.addAll_isSound`
-/

------------------------------------------------------------
-- Tables with a Property
------------------------------------------------------------

namespace Componentry

namespace ByName

variable {α : Type}
variable {table : ByName α}
variable {P Q : String → α → Prop}

/- What a table has under each name has a property. -/
def Holds
    (P : String → α → Prop)
    (table : ByName α) : Prop :=
  ∀ (name : String) (value : α),
    table[name]? = some value → P name value

namespace Holds

theorem empty : Holds P (∅ : ByName α) := by
  intro name value hFound
  rw [Std.ExtTreeMap.getElem?_empty] at hFound
  cases hFound

theorem imp
    (hTable : table.Holds P)
    (hImp : ∀ name value, P name value → Q name value) :
    table.Holds Q := by
  intro name value hFound
  exact hImp name value (hTable name value hFound)

/- A value that has the property may be put into a table. -/
theorem insert
    {name : String}
    {value : α}
    (hTable : table.Holds P)
    (hValue : P name value) :
    Holds P (table.insert name value) := by
  intro key found hFound
  rw [getElem?_insert] at hFound
  by_cases hKey : name = key
  · rw [if_pos hKey] at hFound
    cases hFound
    exact hKey ▸ hValue
  · rw [if_neg hKey] at hFound
    exact hTable key found hFound

/- The values of such a table have the property. -/
theorem of_mem_values
    {R : α → Prop}
    {value : α}
    (hTable : table.Holds fun _ => R)
    (hValue : value ∈ table.values) :
    R value := by
  rcases Table.mem_values_iff.mp hValue with ⟨name, hFound⟩
  exact hTable name value hFound

end Holds

/- A name stays in a table that gets another value. -/
theorem mem_insert_of_mem
    {key : String}
    (hKey : key ∈ table)
    (name : String)
    (value : α) :
    key ∈ table.insert name value :=
  Std.ExtTreeMap.mem_insert.mpr (Or.inr hKey)

end ByName

end Componentry

------------------------------------------------------------
-- Additions
------------------------------------------------------------

namespace Componentry

/- What may be added to a draft. -/
inductive Addition where
  | project (project : Project)
  | taskLibrary (library : TaskLibrary)
  | deployment (deployment : Deployment)
  | typekit (typekit : Typekit) (list : TypeList)

namespace Draft

/-
  The draft with an addition more.  A typekit is added if it
  is accepted; else the problem is noted.
-/
def add (draft : Draft) : Addition → Draft
  | .project project => draft.addProject project
  | .taskLibrary library => draft.addTaskLibrary library
  | .deployment deployment => draft.addDeployment deployment
  | .typekit typekit list =>
      match draft.typekitProblem? typekit with
      | some diagnostic => draft.diagnose diagnostic
      | none => draft.addTypekit typekit list

/- The draft with some additions more, in order. -/
def addAll
    (draft : Draft)
    (additions : List Addition) :
    Draft :=
  additions.foldl add draft

end Draft

end Componentry

------------------------------------------------------------
-- Linked Snapshots
------------------------------------------------------------

namespace Componentry

namespace Snapshot

/- Is a project registered that has a typekit? -/
def IsEquipped
    (snapshot : Snapshot)
    (project : String) : Prop :=
  (snapshot.projects[project]?).any Project.hasTypekit = true

/-
  Each table has its entities under their names, and what the
  entities and the indices refer to is registered.
-/
structure IsLinked (snapshot : Snapshot) : Prop where
  projects :
    snapshot.projects.Holds fun name project =>
      project.name = name
  taskLibraries :
    snapshot.taskLibraries.Holds fun name library =>
      library.name = name ∧
        library.project ∈ snapshot.projects
  deployments :
    snapshot.deployments.Holds fun name deployment =>
      deployment.name = name ∧
        deployment.project ∈ snapshot.projects
  typekits :
    snapshot.typekits.Holds fun name typekit =>
      typekit.name = name ∧
        snapshot.IsEquipped typekit.project
  taskModels :
    snapshot.taskModels.Holds fun _ library =>
      library ∈ snapshot.taskLibraries
  types :
    snapshot.types.Holds fun _ entry =>
      entry.owner ∈ snapshot.typekits
  deployedTasks :
    ∀ task deployment : String,
      RunsIn snapshot.deployedTasks task deployment →
        deployment ∈ snapshot.deployments

variable {snapshot : Snapshot}

/- A project that has a typekit is registered. -/
theorem IsEquipped.mem
    {project : String}
    (hEquipped : snapshot.IsEquipped project) :
    project ∈ snapshot.projects := by
  rw [Std.ExtTreeMap.mem_iff_isSome_getElem?]
  unfold IsEquipped at hEquipped
  cases hFound : snapshot.projects[project]? with
  | none =>
      rw [hFound] at hEquipped
      cases hEquipped
  | some found => rfl

/- A project under a new name leaves the others in place. -/
theorem IsEquipped.insert
    {name : String}
    {project : Project}
    (hEquipped : snapshot.IsEquipped name)
    (hNew : snapshot.projects[project.name]? = none) :
    IsEquipped
      { snapshot with
        projects :=
          snapshot.projects.insert project.name project }
      name := by
  have hOther : project.name ≠ name := by
    rintro rfl
    unfold IsEquipped at hEquipped
    rw [hNew] at hEquipped
    cases hEquipped
  unfold IsEquipped
  rw [ByName.getElem?_insert, if_neg hOther]
  exact hEquipped

/- Nothing is installed: there is nothing to refer to. -/
theorem isLinked_empty (target : String) :
    (empty target).IsLinked where
  projects := .empty
  taskLibraries := .empty
  deployments := .empty
  typekits := .empty
  taskModels := .empty
  types := .empty
  deployedTasks := by
    rintro task deployment ⟨names, hFound, -⟩
    rw [empty, Std.ExtTreeMap.getElem?_empty] at hFound
    cases hFound

namespace IsLinked

variable (hLinked : snapshot.IsLinked)

include hLinked

/- A project may enter under a new name. -/
theorem withProject
    {project : Project}
    (hNew : snapshot.projects[project.name]? = none) :
    IsLinked
      { snapshot with
        projects :=
          snapshot.projects.insert project.name project } where
  projects := hLinked.projects.insert rfl
  taskLibraries :=
    hLinked.taskLibraries.imp fun _ _ hLibrary =>
      ⟨hLibrary.1, ByName.mem_insert_of_mem hLibrary.2 _ _⟩
  deployments :=
    hLinked.deployments.imp fun _ _ hDeployment =>
      ⟨hDeployment.1,
        ByName.mem_insert_of_mem hDeployment.2 _ _⟩
  typekits :=
    hLinked.typekits.imp fun _ _ hTypekit =>
      ⟨hTypekit.1, hTypekit.2.insert hNew⟩
  taskModels := hLinked.taskModels
  types := hLinked.types
  deployedTasks := hLinked.deployedTasks

/- A task library may enter behind its project. -/
theorem withTaskLibrary
    {library : TaskLibrary}
    (hProject : library.project ∈ snapshot.projects) :
    (snapshot.withTaskLibrary library).IsLinked where
  projects := hLinked.projects
  taskLibraries :=
    hLinked.taskLibraries.insert ⟨rfl, hProject⟩
  deployments := hLinked.deployments
  typekits := hLinked.typekits
  taskModels := by
    intro model owner hOwner
    change
      (indexModels snapshot.taskModels library)[model]? =
        some owner at hOwner
    rw [getElem?_indexModels] at hOwner
    by_cases hModel : model ∈ library.taskModels
    · rw [if_pos hModel] at hOwner
      cases hOwner
      exact Std.ExtTreeMap.mem_insert_self
    · rw [if_neg hModel] at hOwner
      exact
        ByName.mem_insert_of_mem
          (hLinked.taskModels model owner hOwner) _ _
  types := hLinked.types
  deployedTasks := hLinked.deployedTasks

/- A deployment may enter behind its project. -/
theorem withDeployment
    {deployment : Deployment}
    (hProject : deployment.project ∈ snapshot.projects) :
    (snapshot.withDeployment deployment).IsLinked where
  projects := hLinked.projects
  taskLibraries := hLinked.taskLibraries
  deployments :=
    hLinked.deployments.insert ⟨rfl, hProject⟩
  typekits := hLinked.typekits
  taskModels := hLinked.taskModels
  types := hLinked.types
  deployedTasks := by
    intro task name hRuns
    rcases runsIn_foldl_deployTask_iff.mp hRuns with
      hBefore | ⟨-, hName⟩
    · exact
        ByName.mem_insert_of_mem
          (hLinked.deployedTasks task name hBefore) _ _
    · subst hName
      exact Std.ExtTreeMap.mem_insert_self

/-
  A typekit may enter behind a project that has one.  The
  types keep owners that are registered, for the typekit is.
-/
theorem withTypekit
    {typekit : Typekit}
    (hProject : snapshot.IsEquipped typekit.project)
    (list : TypeList) :
    (snapshot.withTypekit (typekit, list)).IsLinked where
  projects := hLinked.projects
  taskLibraries := hLinked.taskLibraries
  deployments := hLinked.deployments
  typekits := hLinked.typekits.insert ⟨rfl, hProject⟩
  taskModels := hLinked.taskModels
  types := by
    let typekits :=
      snapshot.typekits.insert typekit.name typekit
    change
      ByName.Holds (fun _ entry => entry.owner ∈ typekits)
        (list.registrations.foldl (indexType typekit.name)
          snapshot.types)
    have hStart :
        snapshot.types.Holds fun _ entry =>
          entry.owner ∈ typekits :=
      hLinked.types.imp fun _ _ hOwner =>
        ByName.mem_insert_of_mem hOwner _ _
    refine
      List.foldlRecOn list.registrations
        (indexType typekit.name) hStart ?_
    intro types hTypes registration _
    apply hTypes.insert
    cases hFound : types[registration.1]? with
    | none => exact Std.ExtTreeMap.mem_insert_self
    | some entry => exact hTypes _ entry hFound
  deployedTasks := hLinked.deployedTasks

end IsLinked

end Snapshot

end Componentry

------------------------------------------------------------
-- One Addition
------------------------------------------------------------

namespace Componentry

/-
  What an addition makes of a snapshot: nothing, if it is
  refused, or the entity enters under its conditions.
-/
inductive Snapshot.Grows
    (snapshot : Snapshot) : Snapshot → Prop where
  | kept : Grows snapshot snapshot
  | project
      (project : Project)
      (hNew : snapshot.projects[project.name]? = none) :
      Grows snapshot
        { snapshot with
          projects :=
            snapshot.projects.insert project.name project }
  | taskLibrary
      (library : TaskLibrary)
      (hProject : library.project ∈ snapshot.projects) :
      Grows snapshot (snapshot.withTaskLibrary library)
  | deployment
      (deployment : Deployment)
      (hProject : deployment.project ∈ snapshot.projects) :
      Grows snapshot (snapshot.withDeployment deployment)
  | typekit
      (typekit : Typekit)
      (list : TypeList)
      (hProject : snapshot.IsEquipped typekit.project) :
      Grows snapshot (snapshot.withTypekit (typekit, list))

theorem Draft.addProject_grows
    (draft : Draft)
    (project : Project) :
    draft.snapshot.Grows
      (draft.addProject project).snapshot := by
  unfold addProject
  cases hFound : draft.snapshot.projects[project.name]? with
  | some existing => exact .kept
  | none => exact .project project hFound

theorem Draft.addTaskLibrary_grows
    (draft : Draft)
    (library : TaskLibrary) :
    draft.snapshot.Grows
      (draft.addTaskLibrary library).snapshot := by
  unfold addTaskLibrary
  by_cases hOwner : draft.hasProject library.project = true
  · rw [if_pos hOwner, enterTaskLibrary_snapshot]
    exact
      .taskLibrary library
        (Std.ExtTreeMap.contains_iff_mem.mp hOwner)
  · rw [if_neg hOwner]
    exact .kept

theorem Draft.addDeployment_grows
    (draft : Draft)
    (deployment : Deployment) :
    draft.snapshot.Grows
      (draft.addDeployment deployment).snapshot := by
  unfold addDeployment
  by_cases hOwner :
      draft.hasProject deployment.project = true
  · rw [if_pos hOwner, enterDeployment_snapshot]
    exact
      .deployment deployment
        (Std.ExtTreeMap.contains_iff_mem.mp hOwner)
  · rw [if_neg hOwner]
    exact .kept

theorem Draft.addTypekit_grows
    (draft : Draft)
    (typekit : Typekit)
    (list : TypeList) :
    draft.snapshot.Grows
      (draft.add (.typekit typekit list)).snapshot := by
  unfold add
  rcases typekitProblem?_cases draft typekit with
    ⟨diagnostic, hProblem, -, -⟩ | ⟨hProblem, hEquipped⟩
  · simp only [hProblem]
    exact .kept
  · simp only [hProblem, addTypekit_snapshot]
    exact .typekit typekit list hEquipped

theorem Draft.add_grows
    (draft : Draft)
    (addition : Addition) :
    draft.snapshot.Grows (draft.add addition).snapshot := by
  cases addition with
  | project project => exact draft.addProject_grows project
  | taskLibrary library =>
      exact draft.addTaskLibrary_grows library
  | deployment deployment =>
      exact draft.addDeployment_grows deployment
  | typekit typekit list =>
      exact draft.addTypekit_grows typekit list

namespace Snapshot.Grows

variable {snapshot next : Snapshot}

/- An addition to a linked snapshot leaves it linked. -/
theorem isLinked
    (hGrows : snapshot.Grows next)
    (hLinked : snapshot.IsLinked) :
    next.IsLinked := by
  cases hGrows with
  | kept => exact hLinked
  | project project hNew => exact hLinked.withProject hNew
  | taskLibrary library hProject =>
      exact hLinked.withTaskLibrary hProject
  | deployment deployment hProject =>
      exact hLinked.withDeployment hProject
  | typekit typekit list hProject =>
      exact hLinked.withTypekit hProject list

/- A project stays as it was entered. -/
theorem getElem?_projects
    {name : String}
    {project : Project}
    (hGrows : snapshot.Grows next)
    (hProject : snapshot.projects[name]? = some project) :
    next.projects[name]? = some project := by
  cases hGrows with
  | project other hNew =>
      have hOther : other.name ≠ name := by
        rintro rfl
        rw [hNew] at hProject
        cases hProject
      dsimp only
      rw [ByName.getElem?_insert, if_neg hOther, hProject]
  | kept => exact hProject
  | taskLibrary library hOwner => exact hProject
  | deployment deployment hOwner => exact hProject
  | typekit typekit list hOwner => exact hProject

end Snapshot.Grows

end Componentry

------------------------------------------------------------
-- Additions One after the Other
------------------------------------------------------------

namespace Componentry

/-
  What the entities and the indices of a snapshot refer to is
  there: it is consistent, the deployments that run a task are
  registered, and the project of a typekit has a type
  registry.  Each table has its entities under their names.
-/
structure Snapshot.IsSound (snapshot : Snapshot) : Prop where
  consistent : snapshot.isConsistent = true
  deployed :
    ∀ (task name : String) (names : Names),
      snapshot.deployedTasks[task]? = some names →
        name ∈ names →
          snapshot.deployments.contains name = true
  equipped :
    ∀ (name : String) (typekit : Typekit),
      snapshot.typekits[name]? = some typekit →
        ∃ project,
          snapshot.projects[typekit.project]? =
              some project ∧
            project.hasTypekit = true
  projectNames :
    ∀ (name : String) (project : Project),
      snapshot.projects[name]? = some project →
        project.name = name
  libraryNames :
    ∀ (name : String) (library : TaskLibrary),
      snapshot.taskLibraries[name]? = some library →
        library.name = name
  deploymentNames :
    ∀ (name : String) (deployment : Deployment),
      snapshot.deployments[name]? = some deployment →
        deployment.name = name
  typekitNames :
    ∀ (name : String) (typekit : Typekit),
      snapshot.typekits[name]? = some typekit →
        typekit.name = name

/- A linked snapshot is consistent. -/
theorem Snapshot.IsLinked.isConsistent
    {snapshot : Snapshot}
    (hLinked : snapshot.IsLinked) :
    snapshot.isConsistent = true := by
  unfold Snapshot.isConsistent
  simp only [Bool.and_eq_true, List.all_eq_true,
    Std.ExtTreeMap.contains_iff_mem]
  refine ⟨⟨⟨⟨?_, ?_⟩, ?_⟩, ?_⟩, ?_⟩
  · intro library hLibrary
    exact
      (hLinked.taskLibraries.imp fun _ _ hFound =>
        hFound.2).of_mem_values hLibrary
  · intro deployment hDeployment
    exact
      (hLinked.deployments.imp fun _ _ hFound =>
        hFound.2).of_mem_values hDeployment
  · intro typekit hTypekit
    exact
      (hLinked.typekits.imp fun _ _ hFound =>
        hFound.2.mem).of_mem_values hTypekit
  · intro library hLibrary
    exact hLinked.taskModels.of_mem_values hLibrary
  · intro entry hEntry
    exact hLinked.types.of_mem_values hEntry

theorem Snapshot.IsLinked.isSound
    {snapshot : Snapshot}
    (hLinked : snapshot.IsLinked) :
    snapshot.IsSound where
  consistent := hLinked.isConsistent
  deployed := by
    intro task name names hFound hName
    exact
      Std.ExtTreeMap.contains_iff_mem.mpr
        (hLinked.deployedTasks task name
          ⟨names, hFound, hName⟩)
  equipped := by
    intro name typekit hFound
    have hEquipped := (hLinked.typekits name typekit hFound).2
    rwa [Snapshot.IsEquipped, Option.any_eq_true] at hEquipped
  projectNames := hLinked.projects
  libraryNames :=
    hLinked.taskLibraries.imp fun _ _ hFound => hFound.1
  deploymentNames :=
    hLinked.deployments.imp fun _ _ hFound => hFound.1
  typekitNames :=
    hLinked.typekits.imp fun _ _ hFound => hFound.1

/- Additions to a linked draft leave it linked. -/
theorem Snapshot.IsLinked.addAll
    {draft : Draft}
    (hLinked : draft.snapshot.IsLinked)
    (additions : List Addition) :
    (draft.addAll additions).snapshot.IsLinked := by
  induction additions generalizing draft with
  | nil => exact hLinked
  | cons addition additions ih =>
      have hNext := (draft.add_grows addition).isLinked hLinked
      exact ih hNext

theorem Draft.getElem?_projects_addAll
    {draft : Draft}
    {name : String}
    {project : Project}
    (hProject :
      draft.snapshot.projects[name]? = some project)
    (additions : List Addition) :
    (draft.addAll additions).snapshot.projects[name]? =
      some project := by
  induction additions generalizing draft with
  | nil => exact hProject
  | cons addition additions ih =>
      have hNext :=
        (draft.add_grows addition).getElem?_projects hProject
      exact ih hNext

/-
  Whatever has been added to a draft, in whatever order, the
  snapshot is sound, and whatever is added later, its projects
  stay as they are.
-/
theorem Draft.addAll_isSound
    (target : String)
    (additions : List Addition) :
    ((empty target).addAll additions).snapshot.IsSound ∧
      ∀ (later : List Addition) (name : String)
        (project : Project),
        ((empty target).addAll additions).snapshot.projects[name]? =
            some project →
          (((empty target).addAll additions).addAll
              later).snapshot.projects[name]? =
            some project := by
  constructor
  · have hStart : (empty target).snapshot.IsLinked :=
      Snapshot.isLinked_empty target
    exact (hStart.addAll additions).isSound
  · intro later name project hProject
    exact getElem?_projects_addAll hProject later

end Componentry
