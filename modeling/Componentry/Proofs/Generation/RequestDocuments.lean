import Componentry.Generation.Request
import Componentry.Proofs.Json.Records
import Componentry.Proofs.Json.RoundTrips

/-
  Documents that tell a request.

  A request is told by the document that it is written as.  It
  is told as well by one that leaves out any of its empty
  lists, those of its deployments and task contexts or the
  empty name of a deployment, and that has other fields beside
  the known ones.  From the text of each of these documents
  the request is read back.

  Main declarations:
    * `Element.IsToldBy`, `TaskContext.IsToldBy`
    * `DeploymentRequest.IsToldBy`, `Request.IsToldBy`
    * `Request.isToldBy_toJson`
    * `Request.ofJson?_of_isToldBy`
    * `Request.isReadBack`
-/

------------------------------------------------------------
-- Documents of Requests
------------------------------------------------------------

namespace Componentry

/- The parts that tell an element; none may be left out. -/
def Element.parts (element : Element) : List Json.Part :=
  [⟨"kind", (· = .string element.kind.key), False⟩,
   ⟨"name", (· = .string element.name), False⟩,
   ⟨"type_name", (· = .string element.typeName), False⟩]

/- A document tells an element. -/
def Element.IsToldBy
    (element : Element)
    (document : Json) :
    Prop :=
  Json.IsRecord element.parts document

/-
  The parts that tell a task context; the elements may be left
  out if there are none.
-/
def TaskContext.parts (task : TaskContext) : List Json.Part :=
  [⟨"name", (· = .string task.name), False⟩,
   ⟨"elements",
     Json.IsArrayOf Element.IsToldBy task.elements,
     task.elements = []⟩]

/- A document tells a task context. -/
def TaskContext.IsToldBy
    (task : TaskContext)
    (document : Json) :
    Prop :=
  Json.IsRecord task.parts document

/-
  The parts that tell a requested deployment; what is empty
  may be left out.
-/
def DeploymentRequest.parts
    (deployment : DeploymentRequest) :
    List Json.Part :=
  [⟨"name", (· = .string deployment.name),
     deployment.name = ""⟩,
   ⟨"initializers", (· = .ofStrings deployment.initializers),
     deployment.initializers = []⟩,
   ⟨"task_models", (· = .ofStrings deployment.taskModels),
     deployment.taskModels = []⟩]

/- A document tells a requested deployment. -/
def DeploymentRequest.IsToldBy
    (deployment : DeploymentRequest)
    (document : Json) :
    Prop :=
  Json.IsRecord deployment.parts document

/- The parts that tell a request; empty ones may be left out. -/
def Request.parts (request : Request) : List Json.Part :=
  [⟨"typekits", (· = .ofStrings request.typekits),
     request.typekits = []⟩,
   ⟨"deployments",
     Json.IsArrayOf DeploymentRequest.IsToldBy
       request.deployments,
     request.deployments = []⟩,
   ⟨"task_contexts",
     Json.IsArrayOf TaskContext.IsToldBy request.taskContexts,
     request.taskContexts = []⟩]

/- A document tells a request. -/
def Request.IsToldBy
    (request : Request)
    (document : Json) :
    Prop :=
  Json.IsRecord request.parts document

end Componentry

------------------------------------------------------------
-- Written Documents
------------------------------------------------------------

namespace Componentry

/- Values are told by an array of documents that tell them. -/
theorem Json.isArrayOf_map
    {α : Type}
    {told : α → Json → Prop}
    {write : α → Json}
    (hTold : ∀ value, told value (write value))
    (values : List α) :
    IsArrayOf told values (.array (values.map write)) := by
  refine ⟨_, rfl, ?_⟩
  induction values with
  | nil => exact .nil
  | cons value values ih => exact .cons (hTold value) ih

/- An element is told by the document it is written as. -/
theorem Element.isToldBy_toJson (element : Element) :
    element.IsToldBy element.toJson :=
  ⟨_, rfl, .part rfl (.part rfl (.part rfl .nothing))⟩

theorem TaskContext.isToldBy_toJson (task : TaskContext) :
    task.IsToldBy task.toJson := by
  have hElements :=
    Json.isArrayOf_map Element.isToldBy_toJson task.elements
  exact ⟨_, rfl, .part rfl (.part hElements .nothing)⟩

theorem DeploymentRequest.isToldBy_toJson
    (deployment : DeploymentRequest) :
    deployment.IsToldBy deployment.toJson :=
  ⟨_, rfl, .part rfl (.part rfl (.part rfl .nothing))⟩

theorem Request.isToldBy_toJson (request : Request) :
    request.IsToldBy request.toJson := by
  have hDeployments :=
    Json.isArrayOf_map DeploymentRequest.isToldBy_toJson
      request.deployments
  have hTasks :=
    Json.isArrayOf_map TaskContext.isToldBy_toJson
      request.taskContexts
  exact
    ⟨_, rfl,
      .part rfl (.part hDeployments (.part hTasks .nothing))⟩

/- Written documents hold no numbers, so they are proper. -/
theorem Element.isProper_toJson (element : Element) :
    element.toJson.IsProper := by
  rw [toJson, Json.isProper_object_iff]
  simp [Json.isProper_string]

theorem TaskContext.isProper_toJson (task : TaskContext) :
    task.toJson.IsProper := by
  rw [toJson, Json.isProper_object_iff]
  simp [Json.isProper_string, Json.isProper_array_iff,
    Element.isProper_toJson]

theorem DeploymentRequest.isProper_toJson
    (deployment : DeploymentRequest) :
    deployment.toJson.IsProper := by
  rw [toJson, Json.isProper_object_iff]
  simp [Json.isProper_string, Json.isProper_ofStrings]

theorem Request.isProper_toJson (request : Request) :
    request.toJson.IsProper := by
  rw [toJson, Json.isProper_object_iff]
  simp [Json.isProper_ofStrings, Json.isProper_array_iff,
    DeploymentRequest.isProper_toJson,
    TaskContext.isProper_toJson]

end Componentry

------------------------------------------------------------
-- Documents That Are Read
------------------------------------------------------------

namespace Componentry

variable {document : Json}

/- A kind is read from its name. -/
theorem ElementKind.ofJson?_key (kind : ElementKind) :
    ofJson? (.string kind.key) = some kind := by
  cases kind <;> decide

/- An element is read from a document that tells it. -/
theorem Element.ofJson?_of_isToldBy
    {element : Element}
    (hTold : element.IsToldBy document) :
    ofJson? document = some element := by
  have hNames : (element.parts.map (·.name)).Nodup := by
    change ["kind", "name", "type_name"].Nodup
    decide
  rcases hTold.exists_knownFields hNames with
    ⟨fields, hFields, hFound⟩
  change
    document.knownFields? ["kind", "name", "type_name"] =
      some fields at hFields
  simp only [parts, List.forall_mem_cons] at hFound
  rcases hFound with ⟨hKind, hName, hType, -⟩
  have hKind :
      Json.required? ElementKind.ofJson? fields "kind" =
        some element.kind := by
    refine Json.required?_of_isFound hKind id ?_
    rintro _ rfl
    exact element.kind.ofJson?_key
  have hName :
      Json.required? Json.text? fields "name" =
        some element.name := by
    refine Json.required?_of_isFound hName id ?_
    rintro _ rfl
    rfl
  have hType :
      Json.required? Json.text? fields "type_name" =
        some element.typeName := by
    refine Json.required?_of_isFound hType id ?_
    rintro _ rfl
    rfl
  simp only [ofJson?, hFields, hKind, hName, hType,
    Option.bind_eq_bind, Option.bind_some]

theorem TaskContext.ofJson?_of_isToldBy
    {task : TaskContext}
    (hTold : task.IsToldBy document) :
    ofJson? document = some task := by
  have hNames : (task.parts.map (·.name)).Nodup := by
    change ["name", "elements"].Nodup
    decide
  rcases hTold.exists_knownFields hNames with
    ⟨fields, hFields, hFound⟩
  change
    document.knownFields? ["name", "elements"] =
      some fields at hFields
  simp only [parts, List.forall_mem_cons] at hFound
  rcases hFound with ⟨hName, hElements, -⟩
  have hName :
      Json.required? Json.text? fields "name" =
        some task.name := by
    refine Json.required?_of_isFound hName id ?_
    rintro _ rfl
    rfl
  have hElements :
      Json.optional? (Json.list? Element.ofJson?) [] fields
          "elements" =
        some task.elements := by
    refine Json.optional?_of_isFound hElements Eq.symm ?_
    intro value hValue
    refine Json.list?_of_isArrayOf hValue ?_
    intro element item hItem
    exact Element.ofJson?_of_isToldBy hItem
  simp only [ofJson?, hFields, hName, hElements,
    Option.bind_eq_bind, Option.bind_some]

/- A field of texts that may be left out is read. -/
theorem Json.optional?_texts
    {part : Part}
    {texts : List String}
    {fields : List (String × Json)}
    (hFound : part.IsFound fields)
    (hAbsent : part.mayMiss → texts = [])
    (hTold :
      ∀ value, part.told value → value = .ofStrings texts) :
    optional? texts? [] fields part.name = some texts := by
  refine
    optional?_of_isFound hFound (fun h => (hAbsent h).symm) ?_
  intro value hValue
  rw [hTold value hValue, texts?_ofStrings]

theorem DeploymentRequest.ofJson?_of_isToldBy
    {deployment : DeploymentRequest}
    (hTold : deployment.IsToldBy document) :
    ofJson? document = some deployment := by
  have hNames : (deployment.parts.map (·.name)).Nodup := by
    change ["name", "initializers", "task_models"].Nodup
    decide
  rcases hTold.exists_knownFields hNames with
    ⟨fields, hFields, hFound⟩
  change
    document.knownFields?
        ["name", "initializers", "task_models"] =
      some fields at hFields
  simp only [parts, List.forall_mem_cons] at hFound
  rcases hFound with ⟨hName, hInitializers, hModels, -⟩
  have hName :
      Json.optional? Json.text? "" fields "name" =
        some deployment.name := by
    refine Json.optional?_of_isFound hName Eq.symm ?_
    rintro _ rfl
    rfl
  have hInitializers :
      Json.optional? Json.texts? [] fields "initializers" =
        some deployment.initializers :=
    Json.optional?_texts hInitializers id fun _ => id
  have hModels :
      Json.optional? Json.texts? [] fields "task_models" =
        some deployment.taskModels :=
    Json.optional?_texts hModels id fun _ => id
  simp only [ofJson?, hFields, hName, hInitializers, hModels,
    Option.bind_eq_bind, Option.bind_some]

theorem Request.ofJson?_of_isToldBy
    {request : Request}
    (hTold : request.IsToldBy document) :
    ofJson? document = some request := by
  have hNames : (request.parts.map (·.name)).Nodup := by
    change ["typekits", "deployments", "task_contexts"].Nodup
    decide
  rcases hTold.exists_knownFields hNames with
    ⟨fields, hFields, hFound⟩
  change
    document.knownFields?
        ["typekits", "deployments", "task_contexts"] =
      some fields at hFields
  simp only [parts, List.forall_mem_cons] at hFound
  rcases hFound with ⟨hTypekits, hDeployments, hTasks, -⟩
  have hTypekits :
      Json.optional? Json.texts? [] fields "typekits" =
        some request.typekits :=
    Json.optional?_texts hTypekits id fun _ => id
  have hDeployments :
      Json.optional? (Json.list? DeploymentRequest.ofJson?) []
          fields "deployments" =
        some request.deployments := by
    refine Json.optional?_of_isFound hDeployments Eq.symm ?_
    intro value hValue
    refine Json.list?_of_isArrayOf hValue ?_
    intro deployment item hItem
    exact DeploymentRequest.ofJson?_of_isToldBy hItem
  have hTasks :
      Json.optional? (Json.list? TaskContext.ofJson?) [] fields
          "task_contexts" =
        some request.taskContexts := by
    refine Json.optional?_of_isFound hTasks Eq.symm ?_
    intro value hValue
    refine Json.list?_of_isArrayOf hValue ?_
    intro task item hItem
    exact TaskContext.ofJson?_of_isToldBy hItem
  simp only [ofJson?, hFields, hTypekits, hDeployments, hTasks,
    Option.bind_eq_bind, Option.bind_some]

end Componentry

------------------------------------------------------------
-- Requests That Are Read Back
------------------------------------------------------------

namespace Componentry

namespace Request

theorem parse_of_isToldBy
    {request : Request}
    {text : String}
    {document : Json}
    (hTold : request.IsToldBy document)
    (hText : Json.parse text = some document) :
    parse text = some request := by
  rw [parse, hText, Option.bind_some,
    ofJson?_of_isToldBy hTold]

/-
  A request is read back from the text that it is written as.
  It is read as well from the compact form of every proper
  document that tells it, and from any text of such a document
  with white space and escapes of its own.
-/
structure IsReadBack (request : Request) : Prop where
  written : parse request.toJson.compact = some request
  compact :
    ∀ document, request.IsToldBy document →
      document.IsProper →
        parse document.compact = some request
  spelled :
    ∀ text document, request.IsToldBy document →
      Json.parse text = some document →
        parse text = some request

/- Every request is read back. -/
theorem isReadBack (request : Request) :
    request.IsReadBack where
  written :=
    parse_of_isToldBy request.isToldBy_toJson
      (Json.parse_compact request.isProper_toJson)
  compact := by
    intro document hTold hProper
    exact parse_of_isToldBy hTold (Json.parse_compact hProper)
  spelled := by
    intro text document hTold hText
    exact parse_of_isToldBy hTold hText

/- A request with little in it. -/
def sparse : Request :=
  ⟨[], [⟨"", ["qt5"], []⟩], [⟨"Driver", []⟩]⟩

/- It is told with what is empty left out and more beside it. -/
def sparseDocument : Json :=
  .object
    [("version", .number "1.5e3"),
     ("deployments",
       .array
         [.object
           [("initializers", .ofStrings ["qt5"]),
            ("kind", .null)]]),
     ("task_contexts",
       .array
         [.object
           [("name", .string "Driver"),
            ("typekits", .array [.bool true])]])]

theorem sparse_isToldBy : sparse.IsToldBy sparseDocument := by
  have hDeployment :
      DeploymentRequest.IsToldBy ⟨"", ["qt5"], []⟩
        (.object
          [("initializers", .ofStrings ["qt5"]),
           ("kind", .null)]) :=
    ⟨_, rfl,
      .leftOut rfl
        (.part rfl
          (.leftOut rfl (.unknown (by decide) .nothing)))⟩
  have hTask :
      TaskContext.IsToldBy ⟨"Driver", []⟩
        (.object
          [("name", .string "Driver"),
           ("typekits", .array [.bool true])]) :=
    ⟨_, rfl,
      .part rfl
        (.leftOut rfl (.unknown (by decide) .nothing))⟩
  exact
    ⟨_, rfl,
      .unknown (by decide)
        (.leftOut rfl
          (.part ⟨_, rfl, .cons hDeployment .nil⟩
            (.part ⟨_, rfl, .cons hTask .nil⟩ .nothing)))⟩

theorem parse_sparseDocument :
    sparse.IsToldBy sparseDocument ∧
      sparseDocument.IsProper ∧
        parse sparseDocument.compact = some sparse := by
  have hProper : sparseDocument.IsProper := by
    decide
  exact
    ⟨sparse_isToldBy, hProper,
      sparse.isReadBack.compact _ sparse_isToldBy hProper⟩

end Request

end Componentry
