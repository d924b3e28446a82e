import Componentry.Json.Printer

/-
  Cutting the text of a JSON document into tokens.

  The lexer is a machine that takes one character at a time.
  It refuses control characters in strings, unknown escapes,
  halves of surrogate pairs that stand alone, and words that
  are neither a literal nor a number.

  Key definitions:
    * `Json.Mode`, `Json.Mode.step`
    * `Json.isNumber`
    * `Json.lex`
-/

------------------------------------------------------------
-- Numbers
------------------------------------------------------------

namespace Componentry

namespace Json

/- Digits and nothing else, at least one. -/
def isDigits (cs : List Char) : Bool :=
  !cs.isEmpty && cs.all Char.isDigit

/- Digits without a leading zero. -/
def isWhole (cs : List Char) : Bool :=
  isDigits cs && (cs == ['0'] || cs.head? != some '0')

/- An exponent: an optional sign and digits. -/
def isExponent : List Char → Bool
  | '+' :: cs => isDigits cs
  | '-' :: cs => isDigits cs
  | cs => isDigits cs

/- What may stand after the sign and before the exponent. -/
def isMantissa (cs : List Char) : Bool :=
  let whole := cs.takeWhile Char.isDigit
  match cs.dropWhile Char.isDigit with
  | [] => isWhole whole
  | '.' :: fraction => isWhole whole && isDigits fraction
  | _ => false

/- What may stand after the sign of a number. -/
def isUnsigned (cs : List Char) : Bool :=
  let mantissa := cs.takeWhile fun c => c != 'e' && c != 'E'
  match cs.dropWhile fun c => c != 'e' && c != 'E' with
  | [] => isMantissa mantissa
  | _ :: exponent => isMantissa mantissa && isExponent exponent

/- Is this the text of a number? -/
def isNumber : List Char → Bool
  | '-' :: cs => isUnsigned cs
  | cs => isUnsigned cs

/- The token of a word: a literal or a number. -/
def wordToken? (cs : List Char) : Option Token :=
  if cs == "null".toList then some .null
  else if cs == "true".toList then some (.bool true)
  else if cs == "false".toList then some (.bool false)
  else if isNumber cs then some (.number (String.ofList cs))
  else none

end Json

end Componentry

------------------------------------------------------------
-- The Machine
------------------------------------------------------------

namespace Componentry

namespace Json

/-
  Where the lexer stands.  What has been read of a string or
  of a word is kept with the last character first.
-/
inductive Mode where
  -- Between two tokens.
  | between
  -- In a literal or a number.
  | word (read : List Char)
  -- In a string.
  | text (read : List Char)
  -- After the backslash of an escape.
  | escape (read : List Char)
  -- In a hexadecimal escape, some digits still missing; the
  -- first half of a surrogate pair may stand before it.
  | unit (read : List Char) (high : Option Nat)
      (missing : Nat) (value : Nat)
  -- After the first half of a surrogate pair.
  | half (read : List Char) (high : Nat)
  -- After that and a backslash.
  | halfEscape (read : List Char) (high : Nat)

/- The value of a hexadecimal digit. -/
def hexValue? (c : Char) : Option Nat :=
  if c.isDigit then some (c.toNat - '0'.toNat)
  else if 'a' ≤ c && c ≤ 'f' then
    some (c.toNat - 'a'.toNat + 10)
  else if 'A' ≤ c && c ≤ 'F' then
    some (c.toNat - 'A'.toNat + 10)
  else none

/- The character of a short escape. -/
def escaped? : Char → Option Char
  | '"' => some '"'
  | '\\' => some '\\'
  | '/' => some '/'
  | 'b' => some '\x08'
  | 'f' => some '\x0c'
  | 'n' => some '\n'
  | 'r' => some '\r'
  | 't' => some '\t'
  | _ => none

/- The token of a single character. -/
def markToken? : Char → Option Token
  | '[' => some .beginArray
  | ']' => some .endArray
  | '\x7b' => some .beginObject
  | '\x7d' => some .endObject
  | ':' => some .colon
  | ',' => some .comma
  | _ => none

/- The white space between tokens. -/
def isSpace (c : Char) : Bool :=
  c == ' ' || c == '\t' || c == '\n' || c == '\r'

/- A character between two tokens. -/
def start (c : Char) : Mode × List Token :=
  match markToken? c with
  | some token => (.between, [token])
  | none =>
      if isSpace c then (.between, [])
      else if c == '"' then (.text [], [])
      else (.word [c], [])

/- The mode after the last digit of an escape. -/
def closeUnit
    (read : List Char)
    (high : Option Nat)
    (value : Nat) :
    Option Mode :=
  match high with
  | some high =>
      if 0xdc00 ≤ value && value ≤ 0xdfff then
        let code :=
          0x10000 + (high - 0xd800) * 0x400 + (value - 0xdc00)
        some (.text (Char.ofNat code :: read))
      else none
  | none =>
      if 0xd800 ≤ value && value ≤ 0xdbff then
        some (.half read value)
      else if 0xdc00 ≤ value && value ≤ 0xdfff then none
      else some (.text (Char.ofNat value :: read))

/- Take one character; tokens that end with it come out. -/
def Mode.step
    (mode : Mode)
    (c : Char) :
    Option (Mode × List Token) :=
  match mode with
  | .between => some (start c)
  | .word read =>
      if isSpace c || (markToken? c).isSome || c == '"' then
        (wordToken? read.reverse).map fun token =>
          let (mode, tokens) := start c
          (mode, token :: tokens)
      else some (.word (c :: read), [])
  | .text read =>
      if c == '"' then
        some (.between, [.string (String.ofList read.reverse)])
      else if c == '\\' then some (.escape read, [])
      else if c.toNat < 0x20 then none
      else some (.text (c :: read), [])
  | .escape read =>
      if c == 'u' then some (.unit read none 4 0, [])
      else (escaped? c).map fun d => (.text (d :: read), [])
  | .unit read high missing value =>
      match hexValue? c with
      | none => none
      | some digit =>
          if missing ≤ 1 then
            (closeUnit read high (value * 16 + digit)).map
              fun mode => (mode, [])
          else
            some (.unit read high (missing - 1)
              (value * 16 + digit), [])
  | .half read high =>
      if c == '\\' then some (.halfEscape read high, [])
      else none
  | .halfEscape read high =>
      if c == 'u' then some (.unit read (some high) 4 0, [])
      else none

/- What is still to come out at the end of the text. -/
def Mode.finish : Mode → Option (List Token)
  | .between => some []
  | .word read =>
      (wordToken? read.reverse).map fun token => [token]
  | _ => none

end Json

end Componentry

------------------------------------------------------------
-- Texts
------------------------------------------------------------

namespace Componentry

namespace Json

/- The tokens of a text, the lexer standing in a mode. -/
def lexFrom
    (mode : Mode) :
    List Char → Option (List Token)
  | [] => mode.finish
  | c :: cs =>
      match mode.step c with
      | none => none
      | some (next, tokens) =>
          (lexFrom next cs).map (tokens ++ ·)

/- The tokens of a text. -/
def lex (cs : List Char) : Option (List Token) :=
  lexFrom .between cs

end Json

end Componentry
