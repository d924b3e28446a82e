import Componentry.Text.Letters

/-
  The elements of task contexts.

  Key definitions:
    * `ElementKind`
    * `Element`
    * `TaskContext`
-/

------------------------------------------------------------
-- Kinds
------------------------------------------------------------

namespace Componentry

/- The kinds of elements. -/
inductive ElementKind where
  | attribute
  | property
  | operation
  | inputPort
  | outputPort
deriving DecidableEq, Repr

namespace ElementKind

/- All kinds, in order. -/
def all : List ElementKind :=
  [.attribute, .property, .operation, .inputPort, .outputPort]

/- The kind in words. -/
def title : ElementKind → String
  | .attribute => "attribute"
  | .property => "property"
  | .operation => "operation"
  | .inputPort => "input port"
  | .outputPort => "output port"

/- The name of a kind in documents. -/
def key : ElementKind → String
  | .attribute => "attribute"
  | .property => "property"
  | .operation => "operation"
  | .inputPort => "input_port"
  | .outputPort => "output_port"

/- The kind with a given name in documents. -/
def ofKey? (key : String) : Option ElementKind :=
  all.find? (·.key == key)

end ElementKind

end Componentry

------------------------------------------------------------
-- Task Contexts
------------------------------------------------------------

namespace Componentry

/-
  An element of a task context.  The type is a name of the
  type registry, or the signature of an operation.
-/
structure Element where
  kind : ElementKind
  name : String
  typeName : String
deriving DecidableEq, Repr

/- A task context: a name and elements in order. -/
structure TaskContext where
  name : String
  elements : List Element
deriving DecidableEq, Repr

end Componentry
