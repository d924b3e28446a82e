import Componentry.Json.Lexer

/-
  Reading JSON documents.

  The parser goes through the tokens once and keeps the open
  arrays and objects on a stack, so nesting may be of any
  depth.  Nothing but white space may follow the document.

  Key definitions:
    * `Json.parseTokens`
    * `Json.parse`
-/

------------------------------------------------------------
-- Open Containers
------------------------------------------------------------

namespace Componentry

namespace Json

/- A container being read, its last item or field first. -/
inductive Frame where
  | array (items : List Json)
  | object (fields : List (String × Json)) (name : String)

/- What has to come next. -/
inductive Goal where
  -- A document.
  | value
  -- An item of a new array, or its end.
  | firstItem
  -- A field of a new object, or its end.
  | firstField
  -- A field after a comma.
  | field (fields : List (String × Json))
  -- The colon after a name.
  | colon (fields : List (String × Json)) (name : String)
  -- A comma or the end of the innermost container, after a
  -- whole document.
  | rest (document : Json)

end Json

end Componentry

------------------------------------------------------------
-- Tokens to Documents
------------------------------------------------------------

namespace Componentry

namespace Json

/- The document of a token that is one by itself. -/
def Token.scalar? : Token → Option Json
  | .null => some .null
  | .bool value => some (.bool value)
  | .number digits => some (.number digits)
  | .string text => some (.string text)
  | _ => none

/- A token where a document has to start. -/
def openValue
    (stack : List Frame)
    (token : Token) :
    Option (Goal × List Frame) :=
  match token with
  | .beginArray => some (.firstItem, .array [] :: stack)
  | .beginObject => some (.firstField, stack)
  | token =>
      token.scalar?.map fun document => (.rest document, stack)

/- Take one token. -/
def takeToken
    (goal : Goal)
    (stack : List Frame)
    (token : Token) :
    Option (Goal × List Frame) :=
  match goal with
  | .value => openValue stack token
  | .firstItem =>
      match token, stack with
      | .endArray, .array items :: stack =>
          some (.rest (.array items.reverse), stack)
      | token, stack => openValue stack token
  | .firstField =>
      match token with
      | .endObject => some (.rest (.object []), stack)
      | .string name => some (.colon [] name, stack)
      | _ => none
  | .field fields =>
      match token with
      | .string name => some (.colon fields name, stack)
      | _ => none
  | .colon fields name =>
      match token with
      | .colon => some (.value, .object fields name :: stack)
      | _ => none
  | .rest document =>
      match token, stack with
      | .comma, .array items :: stack =>
          some (.value, .array (document :: items) :: stack)
      | .endArray, .array items :: stack =>
          some (.rest (.array (document :: items).reverse),
            stack)
      | .comma, .object fields name :: stack =>
          some (.field ((name, document) :: fields), stack)
      | .endObject, .object fields name :: stack =>
          some
            (.rest
              (.object ((name, document) :: fields).reverse),
            stack)
      | _, _ => none

/- Read tokens to their end. -/
def parseFrom
    (goal : Goal)
    (stack : List Frame) :
    List Token → Option Json
  | [] =>
      match goal, stack with
      | .rest document, [] => some document
      | _, _ => none
  | token :: tokens =>
      match takeToken goal stack token with
      | none => none
      | some (goal, stack) => parseFrom goal stack tokens

/- The document that a list of tokens spells. -/
def parseTokens (tokens : List Token) : Option Json :=
  parseFrom .value [] tokens

end Json

end Componentry

------------------------------------------------------------
-- Texts to Documents
------------------------------------------------------------

namespace Componentry

namespace Json

/- The document that a text holds. -/
def parse (text : String) : Option Json :=
  (lex text.toList).bind parseTokens

end Json

end Componentry
