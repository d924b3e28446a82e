import Componentry.Diagnostic
import Componentry.Naming
import Componentry.Registry.Snapshot
import Componentry.TypeList

/-
  Drafts of snapshots.

  A draft is a snapshot in the making, with the diagnostics so
  far.  Entities are added one at a time and checked against
  the projects that are there already:

    * the first record of a project wins;
    * the last task library that claims a task model has it;
    * the first typekit that lists a type owns it, and a type
      is exported if any typekit exports it.

  Key definitions:
    * `Draft`
    * `Draft.addProject`, `Draft.addTaskLibrary`
    * `Draft.addDeployment`
    * `Draft.typekitProblem?`, `Draft.addTypekit`
-/

------------------------------------------------------------
-- Drafts
------------------------------------------------------------

namespace Componentry

/- A snapshot in the making. -/
structure Draft where
  snapshot : Snapshot
  -- In the order of their occurrence.
  diagnostics : List Diagnostic

namespace Draft

/- The draft for a target. -/
def empty (target : String) : Draft :=
  ⟨.empty target, []⟩

/- Note a problem. -/
def diagnose
    (draft : Draft)
    (diagnostic : Diagnostic) :
    Draft :=
  { draft with
    diagnostics := draft.diagnostics ++ [diagnostic] }

/- Note several problems. -/
def diagnoseAll
    (draft : Draft)
    (diagnostics : List Diagnostic) :
    Draft :=
  { draft with
    diagnostics := draft.diagnostics ++ diagnostics }

end Draft

end Componentry

------------------------------------------------------------
-- Diagnostics
------------------------------------------------------------

namespace Componentry

namespace Diagnostic

/- A record of a project that is registered already. -/
def duplicateProject
    (project : Project)
    (existing : Project) :
    Diagnostic :=
  ⟨.duplicateProject, project.record,
    "project " ++ project.name
      ++ " is already registered from " ++ existing.record⟩

/- An entity whose project is missing. -/
def orphaned
    (group : RecordClass)
    (name : String)
    (project : String)
    (record : String) :
    Diagnostic :=
  ⟨.orphanedRecord, record,
    "found " ++ group.title ++ " " ++ name
      ++ ", but the corresponding project " ++ project
      ++ " could not be found"⟩

/- A typekit whose project declares none. -/
def withoutTypekit (typekit : Typekit) : Diagnostic :=
  ⟨.projectWithoutTypekit, typekit.record,
    "found typekit " ++ typekit.name
      ++ ", but the corresponding project " ++ typekit.project
      ++ " does not have a typekit"⟩

/- A task model that another library had. -/
def duplicateTaskModel
    (library : TaskLibrary)
    (model : String)
    (previous : String) :
    Diagnostic :=
  ⟨.duplicateTaskModel, library.record,
    "task model " ++ model ++ " is defined by both "
      ++ previous ++ " and " ++ library.name ++ "; using "
      ++ library.name⟩

/- A type that was registered before. -/
def duplicateType
    (typekit : Typekit)
    (type : String)
    (owner : String) :
    Diagnostic :=
  ⟨.duplicateType, typekit.record,
    type ++ " is defined by both " ++ owner ++ " and "
      ++ typekit.name⟩

end Diagnostic

end Componentry

------------------------------------------------------------
-- Projects
------------------------------------------------------------

namespace Componentry

namespace Draft

/- Add a project unless its name is taken. -/
def addProject
    (draft : Draft)
    (project : Project) :
    Draft :=
  match draft.snapshot.projects[project.name]? with
  | some existing =>
      draft.diagnose (.duplicateProject project existing)
  | none =>
      { draft with
        snapshot.projects :=
          draft.snapshot.projects.insert project.name project }

/- Is a project registered? -/
def hasProject
    (draft : Draft)
    (project : String) :
    Bool :=
  draft.snapshot.projects.contains project

end Draft

end Componentry

------------------------------------------------------------
-- Task Libraries
------------------------------------------------------------

namespace Componentry

namespace Draft

/- Let a library have a task model. -/
def claimModel
    (library : TaskLibrary)
    (draft : Draft)
    (model : String) :
    Draft :=
  let previous := draft.snapshot.taskModels[model]?
  let draft :=
    { draft with
      snapshot.taskModels :=
        draft.snapshot.taskModels.insert model library.name }
  match previous with
  | none => draft
  | some previous =>
      if previous = library.name then draft
      else
        draft.diagnose
          (.duplicateTaskModel library model previous)

/- Enter a task library and let it have its task models. -/
def enterTaskLibrary
    (draft : Draft)
    (library : TaskLibrary) :
    Draft :=
  let draft :=
    library.taskModels.foldl (claimModel library) draft
  { draft with
    snapshot.taskLibraries :=
      draft.snapshot.taskLibraries.insert
        library.name library }

/- Add a task library whose project is registered. -/
def addTaskLibrary
    (draft : Draft)
    (library : TaskLibrary) :
    Draft :=
  if draft.hasProject library.project then
    draft.enterTaskLibrary library
  else
    draft.diagnose
      (.orphaned .taskLibrary library.name library.project
        library.record)

end Draft

end Componentry

------------------------------------------------------------
-- Deployments
------------------------------------------------------------

namespace Componentry

namespace Draft

/- Note that a deployment runs a task. -/
def deployTask
    (deployment : String)
    (tasks : ByName Names)
    (task : String) :
    ByName Names :=
  tasks.alter task fun names =>
    some ((names.getD ∅).insert deployment)

/- Enter a deployment with the tasks that it runs. -/
def enterDeployment
    (draft : Draft)
    (deployment : Deployment) :
    Draft :=
  { draft with
    snapshot.deployedTasks :=
      deployment.deployedTasks.foldl
        (deployTask deployment.name)
        draft.snapshot.deployedTasks
    snapshot.deployments :=
      draft.snapshot.deployments.insert
        deployment.name deployment }

/- Add a deployment whose project is registered. -/
def addDeployment
    (draft : Draft)
    (deployment : Deployment) :
    Draft :=
  if draft.hasProject deployment.project then
    draft.enterDeployment deployment
  else
    draft.diagnose
      (.orphaned .deployment deployment.name
        deployment.project deployment.record)

end Draft

end Componentry

------------------------------------------------------------
-- Typekits
------------------------------------------------------------

namespace Componentry

namespace Draft

/- Why a typekit may not be added, if it may not. -/
def typekitProblem?
    (draft : Draft)
    (typekit : Typekit) :
    Option Diagnostic :=
  match draft.snapshot.projects[typekit.project]? with
  | none =>
      some
        (.orphaned .typekit typekit.name typekit.project
          typekit.record)
  | some project =>
      if project.hasTypekit then none
      else some (.withoutTypekit typekit)

/- Register a type of a typekit. -/
def registerType
    (typekit : Typekit)
    (exported : Bool)
    (draft : Draft)
    (type : String) :
    Draft :=
  match draft.snapshot.types[type]? with
  | none =>
      { draft with
        snapshot.types :=
          draft.snapshot.types.insert type
            ⟨typekit.name, exported⟩ }
  | some entry =>
      let draft :=
        { draft with
          snapshot.types :=
            draft.snapshot.types.insert type
              ⟨entry.owner, entry.exported || exported⟩ }
      draft.diagnose
        (.duplicateType typekit type entry.owner)

/-
  Add a typekit with its types, the private ones first.  The
  typekit must have been accepted.
-/
def addTypekit
    (draft : Draft)
    (typekit : Typekit)
    (list : TypeList) :
    Draft :=
  let draft :=
    list.nonExported.foldl (registerType typekit false) draft
  let draft :=
    list.exported.foldl (registerType typekit true) draft
  { draft with
    snapshot.typekits :=
      draft.snapshot.typekits.insert typekit.name typekit }

end Draft

end Componentry
