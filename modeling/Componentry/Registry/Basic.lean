import Componentry.Json.Fields
import Componentry.Registry.Scan

/-
  The registry of the installed components.

  A registry starts without a snapshot.  A rebuild scans the
  store; if it succeeds its snapshot is published, if it fails
  the one before stays.  Queries look at the published
  snapshot and find nothing while there is none.  Texts are
  read from the store at the time of the query.

  Key definitions:
    * `Configuration`
    * `RegistryError`
    * `Registry`, `Registry.create`, `Registry.rebuild`
    * `RebuildReport`
    * `Registry.projectModel`, `Registry.typekitModel`
-/

------------------------------------------------------------
-- Configuration
------------------------------------------------------------

namespace Componentry

/- The names that a registry is set up with. -/
structure Configuration where
  target : String
  space : String
deriving DecidableEq, Repr

namespace Configuration

/- The names used unless others are chosen. -/
def default : Configuration :=
  ⟨Naming.defaultTarget, Naming.defaultSpace⟩

/- The configuration in a document. -/
def ofJson? (document : Json) : Option Configuration := do
  let fields ← document.knownFields? ["target", "namespace"]
  let target ←
    Json.optional? Json.text? default.target fields "target"
  let space ←
    Json.optional? Json.text? default.space fields "namespace"
  some ⟨target, space⟩

/- The naming of a configuration. -/
def naming
    (configuration : Configuration) :
    Except NamingError Naming :=
  Naming.ofNames configuration.space configuration.target

end Configuration

end Componentry

------------------------------------------------------------
-- Errors
------------------------------------------------------------

namespace Componentry

/- What may be wrong with the configuration of a registry. -/
inductive RegistryFault where
  | naming (error : NamingError)
  | noSpecification (project : String) (record : String)
deriving DecidableEq, Repr

/- The text of a fault. -/
def RegistryFault.message : RegistryFault → String
  | .naming error => error.message
  | .noSpecification project record =>
      "project " ++ project ++ " (record " ++ record
        ++ ") has no specification file"

/- Why a registry has no answer. -/
inductive RegistryError where
  | notFound (group : RecordClass) (name : String)
  | config (fault : RegistryFault)
  | store (error : StoreError)
deriving DecidableEq, Repr

/- The text of an error. -/
def RegistryError.message : RegistryError → String
  | .notFound group name =>
      "cannot find an installed " ++ group.title
        ++ " called " ++ name
  | .config fault => "configuration error: " ++ fault.message
  | .store error => "store error: " ++ error.message

end Componentry

------------------------------------------------------------
-- Registries
------------------------------------------------------------

namespace Componentry

/- A registry and the snapshot that it has published. -/
structure Registry where
  naming : Naming
  current : Option Snapshot

/- What a rebuild found. -/
structure RebuildReport where
  projects : Nat
  taskLibraries : Nat
  deployments : Nat
  typekits : Nat
  types : Nat
  fingerprint : Fingerprint
  diagnostics : List Diagnostic

namespace RebuildReport

/- The report of a scan. -/
def ofDraft (draft : Draft) : RebuildReport where
  projects := draft.snapshot.projects.size
  taskLibraries := draft.snapshot.taskLibraries.size
  deployments := draft.snapshot.deployments.size
  typekits := draft.snapshot.typekits.size
  types := draft.snapshot.types.size
  fingerprint := draft.snapshot.fingerprint
  diagnostics := draft.diagnostics

/- A report as a document. -/
def toJson (report : RebuildReport) : Json :=
  .object
    [("projects", .ofNat report.projects),
     ("task_libraries", .ofNat report.taskLibraries),
     ("deployments", .ofNat report.deployments),
     ("typekits", .ofNat report.typekits),
     ("types", .ofNat report.types),
     ("fingerprint", report.fingerprint.toJson),
     ("diagnostics",
       .array (report.diagnostics.map Diagnostic.toJson))]

end RebuildReport

namespace Registry

/- A registry that has published nothing. -/
def create
    (configuration : Configuration) :
    Except RegistryError Registry :=
  match configuration.naming with
  | .error error => .error (.config (.naming error))
  | .ok naming => .ok ⟨naming, none⟩

/- Has a snapshot been published? -/
def isBuilt (registry : Registry) : Bool :=
  registry.current.isSome

/- Scan a store and publish the snapshot. -/
def rebuild
    (registry : Registry)
    (store : Store) :
    Except RegistryError RebuildReport × Registry :=
  match scan store registry.naming with
  | .error error => (.error (.store error), registry)
  | .ok draft =>
      (.ok (.ofDraft draft),
        { registry with current := some draft.snapshot })

/- The published snapshot, or one with nothing installed. -/
def view (registry : Registry) : Snapshot :=
  registry.current.getD (.empty "")

end Registry

end Componentry

------------------------------------------------------------
-- Queries
------------------------------------------------------------

namespace Componentry

namespace Registry

/- Is a typekit installed? -/
def hasTypekit
    (registry : Registry)
    (name : String) :
    Bool :=
  registry.view.typekits.contains name

/- The task library that defines a task model. -/
def taskLibraryOwning?
    (registry : Registry)
    (model : String) :
    Option String :=
  registry.view.taskModels[model]?

/- The project that a deployment belongs to. -/
def projectOwning?
    (registry : Registry)
    (deployment : String) :
    Option String :=
  registry.view.deployments[deployment]?.map (·.project)

/- The deployments that run a task. -/
def deploymentsContaining
    (registry : Registry)
    (task : String) :
    Names :=
  registry.view.deployedTasks[task]?.getD ∅

/- Turn an error of the store into one of the registry. -/
def reading
    {α : Type}
    (answer : Except StoreError α) :
    Except RegistryError α :=
  answer.mapError .store

/- The specification of a project and its path. -/
def projectModel
    (registry : Registry)
    (store : Store)
    (name : String) :
    Except RegistryError (String × Path) :=
  match registry.view.projects[name]? with
  | none => .error (.notFound .project name)
  | some project =>
      match project.specPath with
      | none =>
          .error
            (.config (.noSpecification name project.record))
      | some path => do
          let text ← reading (store.readText path)
          .ok (text, path)

/- The type registry and the type list of a typekit. -/
def typekitModel
    (registry : Registry)
    (store : Store)
    (name : String) :
    Except RegistryError (String × String) :=
  match registry.view.typekits[name]? with
  | none => .error (.notFound .typekit name)
  | some typekit => do
      let types ← reading (store.readText typekit.typeRegistry)
      let list ←
        reading
          (store.readText (typeListPath typekit.typeRegistry))
      .ok (types, list)

/- The types of a typekit. -/
def typeList
    (registry : Registry)
    (store : Store)
    (name : String) :
    Except RegistryError TypeList := do
  let (_, list) ← registry.typekitModel store name
  .ok (TypeList.parse list)

end Registry

end Componentry
