import Componentry.Json.Basic

/-
  Diagnostics: the problems that do not stop a scan.

  Three kinds tell that a record was rejected; the others tell
  of something left out or defined twice.

  Key definitions:
    * `DiagnosticKind`, `DiagnosticKind.rejectsRecord`
    * `Diagnostic`
-/

------------------------------------------------------------
-- Kinds
------------------------------------------------------------

namespace Componentry

/- The kinds of problems. -/
inductive DiagnosticKind where
  | orphanedRecord
  | malformedRecord
  | missingOptionalField
  | projectWithoutTypekit
  | duplicateProject
  | duplicateTaskModel
  | duplicateType
deriving DecidableEq, Repr

namespace DiagnosticKind

/- All kinds. -/
def all : List DiagnosticKind :=
  [.orphanedRecord, .malformedRecord, .missingOptionalField,
   .projectWithoutTypekit, .duplicateProject,
   .duplicateTaskModel, .duplicateType]

/- Was the record dropped? -/
def rejectsRecord : DiagnosticKind → Bool
  | .orphanedRecord => true
  | .malformedRecord => true
  | .projectWithoutTypekit => true
  | _ => false

/- The words of a kind's name. -/
def words : DiagnosticKind → List String
  | .orphanedRecord => ["orphaned", "record"]
  | .malformedRecord => ["malformed", "record"]
  | .missingOptionalField => ["missing", "optional", "field"]
  | .projectWithoutTypekit => ["project", "without", "typekit"]
  | .duplicateProject => ["duplicate", "project"]
  | .duplicateTaskModel => ["duplicate", "task", "model"]
  | .duplicateType => ["duplicate", "type"]

/- The name of a kind as it is shown. -/
def label (kind : DiagnosticKind) : String :=
  "-".intercalate kind.words

/- The name of a kind in documents. -/
def key (kind : DiagnosticKind) : String :=
  "_".intercalate kind.words

/- The kind with a given name in documents. -/
def ofKey? (key : String) : Option DiagnosticKind :=
  all.find? (·.key == key)

end DiagnosticKind

end Componentry

------------------------------------------------------------
-- Diagnostics
------------------------------------------------------------

namespace Componentry

/- A problem with a record. -/
structure Diagnostic where
  kind : DiagnosticKind
  record : String
  message : String
deriving DecidableEq, Repr

namespace Diagnostic

/- A diagnostic on one line. -/
def line (diagnostic : Diagnostic) : String :=
  "[" ++ diagnostic.kind.label ++ "] "
    ++ diagnostic.record ++ ": " ++ diagnostic.message

/- A diagnostic as a document. -/
def toJson (diagnostic : Diagnostic) : Json :=
  .object
    [("kind", .string diagnostic.kind.key),
     ("record", .string diagnostic.record),
     ("message", .string diagnostic.message)]

end Diagnostic

end Componentry
