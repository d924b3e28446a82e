import Componentry.Composition.Element
import Componentry.Json.Fields
import Componentry.Json.Parser

/-
  Requests for generated files.

  In a document every list and the name of a deployment may be
  left out; the name of a task context and the fields of its
  elements may not.  Fields that are not known are ignored, a
  known field that is repeated is not admitted.  An array may
  stand for an object: it holds the values of the known fields
  in their order.

  Key definitions:
    * `DeploymentRequest`, `Request`
    * `Request.toJson`
    * `Request.ofJson?`, `Request.parse`
-/

------------------------------------------------------------
-- Requests
------------------------------------------------------------

namespace Componentry

/- A deployment to generate. -/
structure DeploymentRequest where
  name : String
  initializers : List String
  taskModels : List String
deriving DecidableEq, Repr

/- All that is to be generated. -/
structure Request where
  typekits : List String
  deployments : List DeploymentRequest
  taskContexts : List TaskContext
deriving DecidableEq, Repr

namespace Request

/- The request for nothing. -/
def empty : Request :=
  ⟨[], [], []⟩

/- Is nothing requested? -/
def isEmpty (request : Request) : Bool :=
  request.typekits.isEmpty
    && request.deployments.isEmpty
    && request.taskContexts.isEmpty

end Request

end Componentry

------------------------------------------------------------
-- Writing Requests
------------------------------------------------------------

namespace Componentry

/- An element as a document. -/
def Element.toJson (element : Element) : Json :=
  .object
    [("kind", .string element.kind.key),
     ("name", .string element.name),
     ("type_name", .string element.typeName)]

/- A task context as a document. -/
def TaskContext.toJson (task : TaskContext) : Json :=
  .object
    [("name", .string task.name),
     ("elements", .array (task.elements.map Element.toJson))]

/- A requested deployment as a document. -/
def DeploymentRequest.toJson
    (deployment : DeploymentRequest) :
    Json :=
  .object
    [("name", .string deployment.name),
     ("initializers", .ofStrings deployment.initializers),
     ("task_models", .ofStrings deployment.taskModels)]

/- A request as a document. -/
def Request.toJson (request : Request) : Json :=
  .object
    [("typekits", .ofStrings request.typekits),
     ("deployments",
       .array
         (request.deployments.map DeploymentRequest.toJson)),
     ("task_contexts",
       .array (request.taskContexts.map TaskContext.toJson))]

end Componentry

------------------------------------------------------------
-- Reading Requests
------------------------------------------------------------

namespace Componentry

/-
  A kind of element: its name, or an object whose only field
  has that name and the value null.
-/
def ElementKind.ofJson? : Json → Option ElementKind
  | .string key => ofKey? key
  | .object [(key, .null)] => ofKey? key
  | _ => none

/- The element in a document. -/
def Element.ofJson? (document : Json) : Option Element := do
  let fields ←
    document.knownFields? ["kind", "name", "type_name"]
  let kind ← Json.required? ElementKind.ofJson? fields "kind"
  let name ← Json.required? Json.text? fields "name"
  let typeName ← Json.required? Json.text? fields "type_name"
  some ⟨kind, name, typeName⟩

/- The task context in a document. -/
def TaskContext.ofJson?
    (document : Json) :
    Option TaskContext := do
  let fields ← document.knownFields? ["name", "elements"]
  let name ← Json.required? Json.text? fields "name"
  let elements ←
    Json.optional? (Json.list? Element.ofJson?) [] fields
      "elements"
  some ⟨name, elements⟩

/- The requested deployment in a document. -/
def DeploymentRequest.ofJson?
    (document : Json) :
    Option DeploymentRequest := do
  let fields ←
    document.knownFields? ["name", "initializers", "task_models"]
  let name ← Json.optional? Json.text? "" fields "name"
  let initializers ←
    Json.optional? Json.texts? [] fields "initializers"
  let taskModels ←
    Json.optional? Json.texts? [] fields "task_models"
  some ⟨name, initializers, taskModels⟩

namespace Request

/- The request in a document. -/
def ofJson? (document : Json) : Option Request := do
  let fields ←
    document.knownFields?
      ["typekits", "deployments", "task_contexts"]
  let typekits ← Json.optional? Json.texts? [] fields "typekits"
  let deployments ←
    Json.optional? (Json.list? DeploymentRequest.ofJson?) []
      fields "deployments"
  let taskContexts ←
    Json.optional? (Json.list? TaskContext.ofJson?) [] fields
      "task_contexts"
  some ⟨typekits, deployments, taskContexts⟩

/- The request in a text. -/
def parse (text : String) : Option Request :=
  (Json.parse text).bind ofJson?

end Request

end Componentry
