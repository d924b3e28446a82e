import Componentry.Json.Basic

/-
  Reading records from documents.

  The fields of a record are known by name.  Fields that are
  not known are ignored, a known field that is repeated is not
  admitted.  An array may stand for an object: it holds the
  values of the known fields in their order.

  Key definitions:
    * `Json.knownFields?`
    * `Json.required?`, `Json.optional?`
-/

------------------------------------------------------------
-- Reading Fields
------------------------------------------------------------

namespace Componentry

namespace Json

/-
  The known fields of a document: those of an object, none of
  which may be repeated, or the values in an array, which may
  not be more than there are fields.
-/
def knownFields?
    (known : List String) :
    Json → Option (List (String × Json))
  | .object fields =>
      let found := fields.filter (known.contains ·.1)
      if (found.map (·.1)).Nodup then some found else none
  | .array values =>
      if values.length ≤ known.length then
        some (known.zip values)
      else none
  | _ => none

/- Read a field that must be there. -/
def required?
    {α : Type}
    (read : Json → Option α)
    (fields : List (String × Json))
    (name : String) :
    Option α :=
  (fields.lookup name).bind read

/- Read a field, or take a default if it is not there. -/
def optional?
    {α : Type}
    (read : Json → Option α)
    (absent : α)
    (fields : List (String × Json))
    (name : String) :
    Option α :=
  match fields.lookup name with
  | none => some absent
  | some value => read value

/- Read every item of an array. -/
def list?
    {α : Type}
    (read : Json → Option α)
    (document : Json) :
    Option (List α) :=
  document.items?.bind (·.mapM read)

end Json

end Componentry
