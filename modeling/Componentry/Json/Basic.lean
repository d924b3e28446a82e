/-
  JSON documents.

  An object keeps its fields in the order they are written.  A
  number keeps the text it is written with.

  Key definitions:
    * `Json`
    * `Json.ofNat`, `Json.ofOption`, `Json.ofStrings`
    * `Json.field?`
    * `Json.canonical`
-/

------------------------------------------------------------
-- Documents
------------------------------------------------------------

namespace Componentry

/- A JSON document. -/
inductive Json where
  | null
  | bool (value : Bool)
  | number (digits : String)
  | string (text : String)
  | array (items : List Json)
  | object (fields : List (String × Json))
deriving Inhabited

end Componentry

------------------------------------------------------------
-- Building Documents
------------------------------------------------------------

namespace Componentry

namespace Json

/- A natural number, in decimal. -/
def ofNat (n : Nat) : Json :=
  .number (toString n)

/- A text, or null where there is none. -/
def ofOption : Option String → Json
  | none => .null
  | some text => .string text

/- An array of texts. -/
def ofStrings (texts : List String) : Json :=
  .array (texts.map .string)

end Json

end Componentry

------------------------------------------------------------
-- Reading Documents
------------------------------------------------------------

namespace Componentry

namespace Json

/- The fields of an object, none of anything else. -/
def fields : Json → List (String × Json)
  | .object fields => fields
  | _ => []

/- The first field of an object with a given name. -/
def field?
    (document : Json)
    (name : String) :
    Option Json :=
  document.fields.lookup name

/- The text of a string. -/
def text? : Json → Option String
  | .string text => some text
  | _ => none

/- The items of an array. -/
def items? : Json → Option (List Json)
  | .array items => some items
  | _ => none

/- The texts of an array of strings. -/
def texts? (document : Json) : Option (List String) :=
  document.items?.bind (·.mapM text?)

end Json

end Componentry

------------------------------------------------------------
-- Canonical Order
------------------------------------------------------------

namespace Componentry

namespace Json

/- Fields in the byte order of their names. -/
def sortFields
    (fields : List (String × Json)) :
    List (String × Json) :=
  fields.mergeSort fun a b => decide (a.1 ≤ b.1)

mutual

/- A document with the fields of every object in order. -/
def canonical : Json → Json
  | .array items => .array (canonicalItems items)
  | .object fields =>
      .object (sortFields (canonicalFields fields))
  | .null => .null
  | .bool value => .bool value
  | .number digits => .number digits
  | .string text => .string text

/- Every item of an array in canonical form. -/
def canonicalItems : List Json → List Json
  | [] => []
  | item :: rest => canonical item :: canonicalItems rest

/- Every field of an object in canonical form. -/
def canonicalFields :
    List (String × Json) → List (String × Json)
  | [] => []
  | (name, value) :: rest =>
      (name, canonical value) :: canonicalFields rest

end

end Json

end Componentry
