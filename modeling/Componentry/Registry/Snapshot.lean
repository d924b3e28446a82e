import Std.Data.ExtTreeMap
import Std.Data.ExtTreeSet
import Componentry.Entity
import Componentry.Fingerprint

/-
  Snapshots of the installed components.

  A snapshot holds the entities of every class by name, and
  three indices: who defines a task model, who owns a type,
  and which deployments run a task.

  Key definitions:
    * `Snapshot`
    * `Snapshot.isConsistent`
    * `Snapshot.toJson`, `Snapshot.fingerprint`
-/

------------------------------------------------------------
-- Snapshots
------------------------------------------------------------

namespace Componentry

/- Values by name, in byte order of the names. -/
abbrev ByName (α : Type) := Std.ExtTreeMap String α

/- A set of names. -/
abbrev Names := Std.ExtTreeSet String

/- All installed components for one target. -/
structure Snapshot where
  target : String
  projects : ByName Project
  taskLibraries : ByName TaskLibrary
  deployments : ByName Deployment
  typekits : ByName Typekit
  -- The task library that defines a task model.
  taskModels : ByName String
  -- The typekit that owns a type.
  types : ByName TypeEntry
  -- The deployments that run a task.
  deployedTasks : ByName Names

namespace Snapshot

/- The snapshot of a target with nothing installed. -/
def empty (target : String) : Snapshot :=
  ⟨target, ∅, ∅, ∅, ∅, ∅, ∅, ∅⟩

/- Does every entity refer to entities that exist? -/
def isConsistent (snapshot : Snapshot) : Bool :=
  (snapshot.taskLibraries.values.all fun library =>
      snapshot.projects.contains library.project)
    && (snapshot.deployments.values.all fun deployment =>
      snapshot.projects.contains deployment.project)
    && (snapshot.typekits.values.all fun typekit =>
      snapshot.projects.contains typekit.project)
    && (snapshot.taskModels.values.all fun library =>
      snapshot.taskLibraries.contains library)
    && (snapshot.types.values.all fun entry =>
      snapshot.typekits.contains entry.owner)

end Snapshot

end Componentry

------------------------------------------------------------
-- Documents
------------------------------------------------------------

namespace Componentry

/- An object with a field for every name. -/
def ByName.toJson
    {α : Type}
    (values : ByName α)
    (encode : α → Json) :
    Json :=
  .object (values.toList.map fun (name, value) =>
    (name, encode value))

/- An array of names, in order. -/
def Names.toJson (names : Names) : Json :=
  .ofStrings names.toList

namespace Snapshot

/- A snapshot as a document. -/
def toJson (snapshot : Snapshot) : Json :=
  .object
    [("target", .string snapshot.target),
     ("projects",
       ByName.toJson snapshot.projects Project.toJson),
     ("task_libraries",
       ByName.toJson snapshot.taskLibraries
         TaskLibrary.toJson),
     ("deployments",
       ByName.toJson snapshot.deployments Deployment.toJson),
     ("typekits",
       ByName.toJson snapshot.typekits Typekit.toJson),
     ("task_models", ByName.toJson snapshot.taskModels .string),
     ("types", ByName.toJson snapshot.types TypeEntry.toJson),
     ("deployed_tasks",
       ByName.toJson snapshot.deployedTasks Names.toJson)]

/- The fingerprint of a snapshot's document. -/
def fingerprint (snapshot : Snapshot) : Fingerprint :=
  .ofJson snapshot.toJson

end Snapshot

end Componentry
