import Std.Data.ExtTreeMap
import Componentry.Path
import Componentry.Text.Blank
import Componentry.Text.Pieces

/-
  Descriptors: named bundles of text fields.

  A field that is blank counts as missing where a value is
  asked for.  Several values may stand in one field, separated
  by commas.

  Key definitions:
    * `Descriptor`
    * `Descriptor.withField`
    * `Descriptor.field?`, `Descriptor.hasField`
    * `Descriptor.list`
-/

------------------------------------------------------------
-- Descriptors
------------------------------------------------------------

namespace Componentry

/- The fields of a descriptor, by key. -/
abbrev Fields := Std.ExtTreeMap String String

/- A descriptor and where it was read from. -/
structure Descriptor where
  name : String
  path : Path
  fields : Fields
deriving DecidableEq

namespace Descriptor

/- A record with the value of a field put in. -/
def withField
    (record : Descriptor)
    (key value : String) :
    Descriptor :=
  { record with fields := record.fields.insert key value }

/- Does a field exist, be it blank? -/
def hasField
    (record : Descriptor)
    (key : String) :
    Bool :=
  record.fields.contains key

/- The value of a field without the white space at its ends. -/
def field?
    (record : Descriptor)
    (key : String) :
    Option String :=
  match record.fields[key]? with
  | none => none
  | some value =>
      if Text.isBlankText value then none
      else some (Text.trimmed value)

/- The items of a text that are not blank. -/
def items (value : String) : List String :=
  ((Text.pieces (· == ',') value.toList).map Text.trim).filter
      (!·.isEmpty)
    |>.map String.ofList

/- The items of a field; a missing field has none. -/
def list
    (record : Descriptor)
    (key : String) :
    List String :=
  match record.field? key with
  | none => []
  | some value => items value

end Descriptor

end Componentry
