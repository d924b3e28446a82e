import Componentry.Composition.Extensions
import Componentry.Generation.Artifacts
import Componentry.Generation.Request

/-
  Generation runs.

  A run first sees to it that the registry has a snapshot and
  then checks the whole request before anything is generated.
  Typekits are generated in byte order of their names, each
  once; task contexts and deployments as they are requested.

  Key definitions:
    * `Run.validate`
    * `Run.typekit`, `Run.task`, `Run.deployment`
    * `Run.generate`, `Run.execute`
-/

------------------------------------------------------------
-- Validation
------------------------------------------------------------

namespace Componentry

namespace Run

/- Check deployments: their names differ and are installed. -/
def validateDeployments
    (registry : Registry)
    (initializers : InitializerRegistry)
    (seen : List String) :
    List DeploymentRequest → Except GenerateError Unit
  | [] => .ok ()
  | deployment :: rest =>
      if seen.contains deployment.name then
        .error (.request (.repeatedDeployment deployment.name))
      else
        match initializers.resolve deployment.initializers with
        | .error error => .error (.compose error)
        | .ok _ =>
            match registry.projectOwning? deployment.name with
            | none =>
                .error <| .registry <|
                  .notFound .deployment deployment.name
            | some _ =>
                validateDeployments registry initializers
                  (deployment.name :: seen) rest

/- Check typekits: they are installed. -/
def validateTypekits
    (registry : Registry) :
    List String → Except GenerateError Unit
  | [] => .ok ()
  | name :: rest =>
      if registry.hasTypekit name then
        validateTypekits registry rest
      else .error (.registry (.notFound .typekit name))

/- Check task contexts: their names differ. -/
def validateTasks
    (seen : List String) :
    List TaskContext → Except GenerateError Unit
  | [] => .ok ()
  | task :: rest =>
      if seen.contains task.name then
        .error (.request (.repeatedTask task.name))
      else validateTasks (task.name :: seen) rest

/- Check a request. -/
def validate
    (registry : Registry)
    (initializers : InitializerRegistry)
    (request : Request) :
    Except GenerateError Unit := do
  validateDeployments registry initializers [] request.deployments
  validateTypekits registry request.typekits
  validateTasks [] request.taskContexts

end Run

end Componentry

------------------------------------------------------------
-- Items
------------------------------------------------------------

namespace Componentry

namespace Run

/- The path of a fragment below an item's directory. -/
def fragmentPath
    (directory : Path)
    (name : String) :
    Path :=
  directory.join ⟨name ++ ".fragment"⟩

/- The files of a typekit. -/
def typekitFiles
    (name : String)
    (made : KitContributions) :
    List (Path × String) :=
  let directory := (Path.mk "typekits").join ⟨name⟩
  (made.sources.map fun (path, text) =>
      (directory.join path, text))
    ++ [(fragmentPath directory "build", made.buildFragment)]

/- Generate the files of a typekit. -/
def typekit
    (registry : Registry)
    (store : Store)
    (plugins : PluginRegistry)
    (artifacts : Artifacts)
    (name : String) :
    Except GenerateError Artifacts :=
  match registry.view.typekits[name]? with
  | none => .error (.registry (.notFound .typekit name))
  | some typekit => do
      let list ←
        (registry.typeList store name).mapError .registry
      let kit := Kit.ofTypeList name typekit.project list
      let made ← (plugins.run kit).mapError .compose
      artifacts.insertAll (typekitFiles name made)

/- The files of a task context. -/
def taskFiles
    (name : String)
    (code : TaskCode) :
    List (Path × String) :=
  let directory := (Path.mk "tasks").join ⟨name⟩
  [(fragmentPath directory "declarations", code.declarations),
   (fragmentPath directory "initializers", code.initializers),
   (fragmentPath directory "registrations",
     code.registrations)]

/- Generate the files of a task context. -/
def task
    (capabilities : Capabilities)
    (artifacts : Artifacts)
    (task : TaskContext) :
    Except GenerateError Artifacts := do
  let code ← (capabilities.task task).mapError .compose
  artifacts.insertAll (taskFiles task.name code)

/- The files of a deployment. -/
def deploymentFiles
    (name : String)
    (composed : ComposedInitializers) :
    List (Path × String) :=
  let directory := (Path.mk "deployments").join ⟨name⟩
  [(fragmentPath directory "global_scope",
      composed.globalScope),
   (fragmentPath directory "init", composed.init),
   (fragmentPath directory "exit", composed.exit)]
    ++ composed.buildTexts.map fun (target, text) =>
      (fragmentPath (directory.join ⟨"build"⟩) target.key, text)

/- Resolve one more task model. -/
def resolveModel
    (registry : Registry)
    (resolution : Resolution)
    (model : String) :
    Resolution :=
  match registry.taskLibraryOwning? model with
  | some library =>
      { resolution with
        taskLibraries :=
          resolution.taskLibraries.insert model library }
  | none =>
      { resolution with
        unresolvedModels :=
          resolution.unresolvedModels ++ [model] }

/- Generate the files of a deployment. -/
def deployment
    (registry : Registry)
    (initializers : InitializerRegistry)
    (artifacts : Artifacts)
    (request : DeploymentRequest) :
    Except GenerateError Artifacts := do
  let project :=
    (registry.projectOwning? request.name).getD ""
  let composed ←
    (initializers.compose request.initializers
      ⟨project, request.name⟩).mapError .compose
  let artifacts ←
    artifacts.insertAll (deploymentFiles request.name composed)
  let resolution :=
    request.taskModels.foldl (resolveModel registry)
      ⟨project, ∅, []⟩
  .ok (artifacts.resolve request.name resolution)

end Run

end Componentry

------------------------------------------------------------
-- Runs
------------------------------------------------------------

namespace Componentry

namespace Run

/- Names in byte order, each once. -/
def distinct (names : List String) : List String :=
  (Std.ExtTreeSet.ofList names).toList

/- Generate everything that a valid request asks for. -/
def generate
    (registry : Registry)
    (store : Store)
    (extensions : Extensions)
    (request : Request) :
    Except GenerateError Artifacts := do
  validate registry extensions.initializers request
  let artifacts ←
    (distinct request.typekits).foldlM
      (typekit registry store extensions.plugins) .empty
  let artifacts ←
    request.taskContexts.foldlM
      (task extensions.capabilities) artifacts
  request.deployments.foldlM
    (deployment registry extensions.initializers) artifacts

/-
  Execute a request.  A registry without a snapshot is rebuilt
  first and stays built, even if the run fails then.
-/
def execute
    (registry : Registry)
    (store : Store)
    (extensions : Extensions)
    (request : Request) :
    Except GenerateError Artifacts × Registry :=
  if registry.isBuilt then
    (generate registry store extensions request, registry)
  else
    match registry.rebuild store with
    | (.error error, registry) =>
        (.error (.registry error), registry)
    | (.ok _, registry) =>
        (generate registry store extensions request, registry)

end Run

end Componentry
