import Componentry.Json.Basic
import Componentry.Path

/-
  The entities that descriptors publish.

  Each entity remembers the record it was registered from, and
  every entity but a project names the project that owns it.

  Key definitions:
    * `Project`, `TaskLibrary`, `Deployment`, `Typekit`
    * `TypeEntry`
-/

------------------------------------------------------------
-- Entities
------------------------------------------------------------

namespace Componentry

/- A unit of ownership. -/
structure Project where
  name : String
  record : String
  -- The specification file, if the record names one.
  specPath : Option Path
  -- The type registry, if the project has a typekit.
  typekitRegistry : Option Path
deriving DecidableEq, Repr

/- A library of task models built for one target. -/
structure TaskLibrary where
  name : String
  project : String
  record : String
  taskModels : List String
deriving DecidableEq, Repr

/- A configuration that runs tasks under fixed names. -/
structure Deployment where
  name : String
  project : String
  record : String
  deployedTasks : List String
deriving DecidableEq, Repr

/- The data types that a project exports. -/
structure Typekit where
  name : String
  project : String
  record : String
  typeRegistry : Path
deriving DecidableEq, Repr

/- Who owns a type, and whether it is exported. -/
structure TypeEntry where
  owner : String
  exported : Bool
deriving DecidableEq, Repr

/- Does a project declare a typekit? -/
def Project.hasTypekit (project : Project) : Bool :=
  project.typekitRegistry.isSome

end Componentry

------------------------------------------------------------
-- Documents
------------------------------------------------------------

namespace Componentry

/- A project as a document. -/
def Project.toJson (project : Project) : Json :=
  .object
    [("name", .string project.name),
     ("record", .string project.record),
     ("spec_path", .ofOption (project.specPath.map (·.text))),
     ("typekit_registry",
       .ofOption (project.typekitRegistry.map (·.text)))]

/- A task library as a document. -/
def TaskLibrary.toJson (library : TaskLibrary) : Json :=
  .object
    [("name", .string library.name),
     ("project", .string library.project),
     ("record", .string library.record),
     ("task_models", .ofStrings library.taskModels)]

/- A deployment as a document. -/
def Deployment.toJson (deployment : Deployment) : Json :=
  .object
    [("name", .string deployment.name),
     ("project", .string deployment.project),
     ("record", .string deployment.record),
     ("deployed_tasks", .ofStrings deployment.deployedTasks)]

/- A typekit as a document. -/
def Typekit.toJson (typekit : Typekit) : Json :=
  .object
    [("name", .string typekit.name),
     ("project", .string typekit.project),
     ("record", .string typekit.record),
     ("type_registry", .string typekit.typeRegistry.text)]

/- A type's entry as a document. -/
def TypeEntry.toJson (entry : TypeEntry) : Json :=
  .object
    [("owner", .string entry.owner),
     ("exported", .bool entry.exported)]

end Componentry
