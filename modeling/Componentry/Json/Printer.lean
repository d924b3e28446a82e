import Componentry.Json.Basic
import Componentry.Text.Quoted

/-
  Writing JSON documents.

  The compact form is the spelling of a document's tokens, one
  after the other.  The pretty form gives every item and every
  field a line of its own, indented by two spaces a level;
  empty arrays and objects stay on one line.

  In strings the quote, the backslash and the control
  characters are escaped; every other character stands for
  itself.

  Key definitions:
    * `Json.Token`, `Json.tokens`
    * `Json.compact`
    * `Json.pretty`
-/

------------------------------------------------------------
-- Tokens
------------------------------------------------------------

namespace Componentry

namespace Json

/- The smallest parts of a written document. -/
inductive Token where
  | beginArray
  | endArray
  | beginObject
  | endObject
  | colon
  | comma
  | null
  | bool (value : Bool)
  | number (digits : String)
  | string (text : String)
deriving DecidableEq, Repr

mutual

/- The tokens of a document. -/
def tokens : Json → List Token
  | .null => [.null]
  | .bool value => [.bool value]
  | .number digits => [.number digits]
  | .string text => [.string text]
  | .array items =>
      .beginArray :: (itemTokens items ++ [.endArray])
  | .object fields =>
      .beginObject :: (fieldTokens fields ++ [.endObject])

/- The tokens between the brackets of an array. -/
def itemTokens : List Json → List Token
  | [] => []
  | [item] => tokens item
  | item :: next :: rest =>
      tokens item ++ .comma :: itemTokens (next :: rest)

/- The tokens between the braces of an object. -/
def fieldTokens : List (String × Json) → List Token
  | [] => []
  | [(name, value)] =>
      .string name :: .colon :: tokens value
  | (name, value) :: next :: rest =>
      .string name :: .colon ::
        (tokens value ++ .comma :: fieldTokens (next :: rest))

end

end Json

end Componentry

------------------------------------------------------------
-- Strings
------------------------------------------------------------

namespace Componentry

namespace Json

/- How a character is written inside a string. -/
def spellChar (c : Char) : List Char :=
  match c with
  | '"' => ['\\', '"']
  | '\\' => ['\\', '\\']
  | '\x08' => ['\\', 'b']
  | '\x0c' => ['\\', 'f']
  | '\n' => ['\\', 'n']
  | '\r' => ['\\', 'r']
  | '\t' => ['\\', 't']
  | c =>
      if c.toNat < 0x20 then
        ['\\', 'u', '0', '0',
          Text.hexDigit (c.toNat / 16),
          Text.hexDigit (c.toNat % 16)]
      else [c]

/- A string with its quotes and escapes. -/
def spellString (text : String) : List Char :=
  '"' :: (text.toList.flatMap spellChar ++ ['"'])

end Json

end Componentry

------------------------------------------------------------
-- Compact Form
------------------------------------------------------------

namespace Componentry

namespace Json

/- How a token is written. -/
def Token.spell : Token → List Char
  | .beginArray => ['[']
  | .endArray => [']']
  | .beginObject => ['\x7b']
  | .endObject => ['\x7d']
  | .colon => [':']
  | .comma => [',']
  | .null => "null".toList
  | .bool true => "true".toList
  | .bool false => "false".toList
  | .number digits => digits.toList
  | .string text => spellString text

/- A document without any white space. -/
def compact (document : Json) : String :=
  String.ofList (document.tokens.flatMap Token.spell)

end Json

end Componentry

------------------------------------------------------------
-- Pretty Form
------------------------------------------------------------

namespace Componentry

namespace Json

/- A line feed and the indentation of a level. -/
def newLine (level : Nat) : List Char :=
  '\n' :: List.replicate (2 * level) ' '

mutual

/- A document over several lines, at a level of nesting. -/
def layout (level : Nat) : Json → List Char
  | .null => Token.null.spell
  | .bool value => (Token.bool value).spell
  | .number digits => (Token.number digits).spell
  | .string text => spellString text
  | .array [] => ['[', ']']
  | .array (item :: rest) =>
      '[' :: (layoutItems (level + 1) (item :: rest)
        ++ newLine level ++ [']'])
  | .object [] => ['\x7b', '\x7d']
  | .object (field :: rest) =>
      '\x7b' :: (layoutFields (level + 1) (field :: rest)
        ++ newLine level ++ ['\x7d'])

/- The items of an array, a line each. -/
def layoutItems
    (level : Nat) :
    List Json → List Char
  | [] => []
  | [item] => newLine level ++ layout level item
  | item :: next :: rest =>
      newLine level ++ layout level item ++
        ',' :: layoutItems level (next :: rest)

/- The fields of an object, a line each. -/
def layoutFields
    (level : Nat) :
    List (String × Json) → List Char
  | [] => []
  | [(name, value)] =>
      newLine level ++ spellString name ++
        ':' :: ' ' :: layout level value
  | (name, value) :: next :: rest =>
      newLine level ++ spellString name ++
        ':' :: ' ' :: (layout level value ++
          ',' :: layoutFields level (next :: rest))

end

/- A document indented by two spaces a level. -/
def pretty (document : Json) : String :=
  String.ofList (layout 0 document)

end Json

end Componentry
