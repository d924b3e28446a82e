import Componentry.Registry.Draft
import Componentry.Store.Basic

/-
  Scanning a store into a snapshot.

  The classes are scanned in order, projects first.  All
  records of a class are loaded before the first of them is
  registered.  Records that cannot be understood, lack a field
  or have no place give diagnostics; a store that does not
  answer ends the scan.

  Key definitions:
    * `FieldName`
    * `readProject`, `readTaskLibrary`, `readDeployment`
    * `readTypekit`
    * `scan`
-/

------------------------------------------------------------
-- Reading Records
------------------------------------------------------------

namespace Componentry

/- The names of the fields of records. -/
namespace FieldName

def projectName : String := "project_name"
def specFile : String := "deffile"
def typeRegistry : String := "type_registry"
def taskModels : String := "task_models"
def deployedTasks : String := "deployed_tasks"

end FieldName

namespace Diagnostic

/- A record that lacks a field. -/
def missingField
    (kind : DiagnosticKind)
    (record : Descriptor)
    (field : String) :
    Diagnostic :=
  ⟨kind, record.name,
    record.path.text ++ " does not have a " ++ field
      ++ " field"⟩

/- A record whose name tells no entity. -/
def nameless
    (group : RecordClass)
    (record : Descriptor) :
    Diagnostic :=
  ⟨.malformedRecord, record.name,
    "cannot derive a " ++ group.title
      ++ " name from the record name"⟩

/- A record that could not be understood. -/
def unreadable
    (name : String)
    (error : StoreError) :
    Diagnostic :=
  ⟨.malformedRecord, name, error.message⟩

end Diagnostic

/- A field that a record must have. -/
def requireField
    (record : Descriptor)
    (field : String) :
    Except Diagnostic String :=
  match record.field? field with
  | some value => .ok value
  | none => .error (.missingField .malformedRecord record field)

/- A list that a record must have, be it empty. -/
def requireList
    (record : Descriptor)
    (field : String) :
    Except Diagnostic (List String) :=
  if record.hasField field then .ok (record.list field)
  else .error (.missingField .malformedRecord record field)

/- The entity that a record's name must tell. -/
def requireName
    (naming : Naming)
    (group : RecordClass)
    (record : Descriptor) :
    Except Diagnostic String :=
  match naming.entityName? group record.name with
  | some name => .ok name
  | none => .error (.nameless group record)

/- The project of a record. -/
def readProject
    (record : Descriptor) :
    Except Diagnostic Project := do
  let name ← requireField record FieldName.projectName
  .ok
    { name
      record := record.name
      specPath := (record.field? FieldName.specFile).map .mk
      typekitRegistry :=
        (record.field? FieldName.typeRegistry).map .mk }

/- The task library of a record. -/
def readTaskLibrary
    (naming : Naming)
    (record : Descriptor) :
    Except Diagnostic TaskLibrary := do
  let name ← requireName naming .taskLibrary record
  let project ← requireField record FieldName.projectName
  let taskModels ← requireList record FieldName.taskModels
  .ok { name, project, record := record.name, taskModels }

/- The deployment of a record. -/
def readDeployment
    (naming : Naming)
    (record : Descriptor) :
    Except Diagnostic Deployment := do
  let name ← requireName naming .deployment record
  let project ← requireField record FieldName.projectName
  let deployedTasks ←
    requireList record FieldName.deployedTasks
  .ok { name, project, record := record.name, deployedTasks }

/- The typekit of a record. -/
def readTypekit
    (naming : Naming)
    (record : Descriptor) :
    Except Diagnostic Typekit := do
  let name ← requireName naming .typekit record
  let project ← requireField record FieldName.projectName
  let typeRegistry ← requireField record FieldName.typeRegistry
  .ok
    { name, project
      record := record.name
      typeRegistry := ⟨typeRegistry⟩ }

end Componentry

------------------------------------------------------------
-- Registering Records
------------------------------------------------------------

namespace Componentry

/- Register a project; a missing specification is noted. -/
def registerProject
    (draft : Draft)
    (record : Descriptor) :
    Draft :=
  match readProject record with
  | .error diagnostic => draft.diagnose diagnostic
  | .ok project =>
      let draft :=
        if project.specPath.isSome then draft
        else
          draft.diagnose <|
            .missingField .missingOptionalField record
              FieldName.specFile
      draft.addProject project

/- Register a task library. -/
def registerTaskLibrary
    (naming : Naming)
    (draft : Draft)
    (record : Descriptor) :
    Draft :=
  match readTaskLibrary naming record with
  | .error diagnostic => draft.diagnose diagnostic
  | .ok library => draft.addTaskLibrary library

/- Register a deployment. -/
def registerDeployment
    (naming : Naming)
    (draft : Draft)
    (record : Descriptor) :
    Draft :=
  match readDeployment naming record with
  | .error diagnostic => draft.diagnose diagnostic
  | .ok deployment => draft.addDeployment deployment

/- Register a typekit; its type list is read if it is accepted. -/
def registerTypekit
    (store : Store)
    (naming : Naming)
    (draft : Draft)
    (record : Descriptor) :
    Except StoreError Draft :=
  match readTypekit naming record with
  | .error diagnostic => .ok (draft.diagnose diagnostic)
  | .ok typekit =>
      match draft.typekitProblem? typekit with
      | some diagnostic => .ok (draft.diagnose diagnostic)
      | none => do
          let text ←
            store.readText (typeListPath typekit.typeRegistry)
          .ok (draft.addTypekit typekit (TypeList.parse text))

/- Register a record of a class. -/
def registerRecord
    (store : Store)
    (naming : Naming)
    (group : RecordClass)
    (draft : Draft)
    (record : Descriptor) :
    Except StoreError Draft :=
  match group with
  | .project => .ok (registerProject draft record)
  | .taskLibrary =>
      .ok (registerTaskLibrary naming draft record)
  | .deployment =>
      .ok (registerDeployment naming draft record)
  | .typekit => registerTypekit store naming draft record

end Componentry

------------------------------------------------------------
-- Scanning
------------------------------------------------------------

namespace Componentry

/- What loading the records of a class gave. -/
structure Loaded where
  records : List Descriptor
  diagnostics : List Diagnostic

/- Load records by name; those not understood are noted. -/
def loadAll
    (store : Store) :
    List String → Except StoreError Loaded
  | [] => .ok ⟨[], []⟩
  | name :: rest =>
      match store.load name with
      | .ok record => do
          let loaded ← loadAll store rest
          .ok { loaded with records := record :: loaded.records }
      | .error error =>
          if error.isParse then do
            let loaded ← loadAll store rest
            .ok
              { loaded with
                diagnostics :=
                  .unreadable name error :: loaded.diagnostics }
          else .error error

/- Scan the records of a class. -/
def scanClass
    (store : Store)
    (naming : Naming)
    (names : List String)
    (draft : Draft)
    (group : RecordClass) :
    Except StoreError Draft := do
  let loaded ← loadAll store (names.filter (naming.selects group))
  loaded.records.foldlM (registerRecord store naming group)
    (draft.diagnoseAll loaded.diagnostics)

/- The snapshot of a store, with all diagnostics. -/
def scan
    (store : Store)
    (naming : Naming) :
    Except StoreError Draft := do
  let names ← store.recordNames
  RecordClass.all.foldlM (scanClass store naming names)
    (.empty naming.target)

end Componentry
