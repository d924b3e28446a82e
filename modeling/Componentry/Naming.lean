import Componentry.Text.Blank
import Componentry.Text.Letters
import Componentry.Text.Pieces
import Componentry.Text.Quoted
import Componentry.Path

/-
  How installed descriptors are named.

  Every entity is published by one descriptor, and the name of
  the descriptor tells the entity's class:

    project        namespace-project-NAME
    task library   NAME-tasks-target
    deployment     namespace-NAME, NAME a word
    typekit        NAME-typekit-target

  A `Naming` fixes namespace and target.  The record name of a
  class is the entity's name between two affixes, so reading a
  name is cutting the affixes off.

  Key definitions:
    * `RecordClass`
    * `Naming`, `Naming.ofNames`
    * `Naming.recordName`
    * `Naming.selects`, `Naming.entityName?`
    * `typeListPath`
-/

------------------------------------------------------------
-- Classes
------------------------------------------------------------

namespace Componentry

/- The classes of descriptors. -/
inductive RecordClass where
  | project
  | taskLibrary
  | deployment
  | typekit
deriving DecidableEq, Repr

namespace RecordClass

/- All classes, in the order in which they are registered. -/
def all : List RecordClass :=
  [.project, .taskLibrary, .deployment, .typekit]

/- The class in words. -/
def title : RecordClass → String
  | .project => "project"
  | .taskLibrary => "task library"
  | .deployment => "deployment"
  | .typekit => "typekit"

end RecordClass

end Componentry

------------------------------------------------------------
-- Namings
------------------------------------------------------------

namespace Componentry

/- Why a namespace and a target make no naming. -/
inductive NamingError where
  | invalidTarget (target : String)
  | invalidNamespace (space : String)
deriving DecidableEq, Repr

/- The text of an error. -/
def NamingError.message : NamingError → String
  | .invalidTarget target =>
      "invalid target identifier " ++ Text.quote target
        ++ ": must be non-empty and contain no whitespace"
  | .invalidNamespace space =>
      "invalid namespace " ++ Text.quote space
        ++ ": must be a non-empty identifier"

/- A target is not empty and free of white space. -/
def isTarget (target : String) : Bool :=
  !target.toList.isEmpty
    && !target.toList.any Text.isBlank

/- A namespace is a word of alphanumerics and underscores. -/
def isNamespace (space : String) : Bool :=
  !space.toList.isEmpty
    && space.toList.all fun c =>
      Text.isAlphanumeric c || c == '_'

/- A namespace and a target that names are made with. -/
structure Naming where
  space : String
  target : String
  space_valid : isNamespace space = true
  target_valid : isTarget target = true

namespace Naming

/- The namespace used unless another one is chosen. -/
def defaultSpace : String := "orogen"

/- The target used unless another one is chosen. -/
def defaultTarget : String := "gnulinux"

/- The naming of a namespace and a target, if they are valid. -/
def ofNames
    (space : String)
    (target : String) :
    Except NamingError Naming :=
  if hTarget : isTarget target = true then
    if hSpace : isNamespace space = true then
      .ok ⟨space, target, hSpace, hTarget⟩
    else .error (.invalidNamespace space)
  else .error (.invalidTarget target)

end Naming

end Componentry

------------------------------------------------------------
-- Record Names
------------------------------------------------------------

namespace Componentry

namespace Naming

/- What stands before the entity's name. -/
def lead
    (naming : Naming)
    (group : RecordClass) :
    List Char :=
  match group with
  | .project => naming.space.toList ++ "-project-".toList
  | .deployment => naming.space.toList ++ ['-']
  | .taskLibrary => []
  | .typekit => []

/- What stands behind the entity's name. -/
def ending
    (naming : Naming)
    (group : RecordClass) :
    List Char :=
  match group with
  | .project => []
  | .deployment => []
  | .taskLibrary => "-tasks-".toList ++ naming.target.toList
  | .typekit => "-typekit-".toList ++ naming.target.toList

/- The name of the descriptor that publishes an entity. -/
def recordName
    (naming : Naming)
    (group : RecordClass)
    (entity : String) :
    String :=
  String.ofList
    (naming.lead group ++ entity.toList ++ naming.ending group)

/- What stands between the affixes of a class. -/
def entityPart?
    (naming : Naming)
    (group : RecordClass)
    (record : String) :
    Option (List Char) :=
  (Text.stripPrefix? (naming.lead group) record.toList).bind
    (Text.stripSuffix? (naming.ending group))

/- The names that a class admits: for deployments words only. -/
def admits
    (group : RecordClass)
    (part : List Char) :
    Bool :=
  match group with
  | .deployment => !part.isEmpty && part.all Text.isWordChar
  | _ => true

/- Is a record name one of a class? -/
def selects
    (naming : Naming)
    (group : RecordClass)
    (record : String) :
    Bool :=
  (naming.entityPart? group record).any (admits group)

/- The entity that a record name of a class tells. -/
def entityName?
    (naming : Naming)
    (group : RecordClass)
    (record : String) :
    Option String :=
  match naming.entityPart? group record with
  | none => none
  | some part =>
      if admits group part && !part.isEmpty then
        some (String.ofList part)
      else none

end Naming

/- The type list that belongs to a type registry. -/
def typeListPath (registry : Path) : Path :=
  registry.withExtension "typelist"

end Componentry
