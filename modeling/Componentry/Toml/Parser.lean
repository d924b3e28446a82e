import Componentry.Toml.Lexer
import Componentry.Toml.Scalar

/-
  Reading configuration files.

  The parser goes through the tokens once.  It keeps the
  document as far as it is read, the path of the table that
  keys are added to, and the arrays and tables in braces that
  are still open.  These may be nested seventy-nine deep, and
  a key may have as many parts.

  Key definitions:
    * `Toml.Goal`, `Toml.Frame`, `Toml.Reading`
    * `Toml.Reading.step`
    * `Toml.parse`
-/

------------------------------------------------------------
-- Where the Parser Stands
------------------------------------------------------------

namespace Componentry

namespace Toml

/- What a key names. -/
inductive Role where
  -- A value of the current table.
  | entry
  -- A value of a table in braces.
  | inner
  -- The table of a header.
  | header
  -- The table of a header in double brackets.
  | item
deriving DecidableEq, Repr

/- A value being read that holds the next one. -/
inductive Frame where
  -- The value of a key of the current table.
  | entry (key : List String)
  -- An array, its last item first.
  | array (items : List Toml)
  -- A table in braces, and the key of the next value.
  | inner (entries : Entries) (key : List String)

/- What has to come next. -/
inductive Goal where
  -- A line.
  | line
  -- What follows the bracket that a line starts with.
  | bracket
  -- A part of a key; the parts before it, the last one first.
  | part (role : Role) (read : List String)
  -- What follows a part.
  | afterPart (role : Role) (read : List String)
  -- The second closing bracket of a header.
  | secondBracket (read : List String)
  -- Nothing more on the line.
  | lineEnd
  -- A value on the same line.
  | value
  -- An item of an array, or its end.
  | item
  -- A comma or the end of an array.
  | afterItem
  -- A key of a new table in braces, or its end.
  | firstEntry
  -- A comma or the end of a table in braces.
  | afterEntry
  -- More of a value without quotes.
  | scalar (read : List Char)
  -- A time behind the date that has been read and a space.
  | time (date : List Char)

/- How far a document has been read. -/
structure Reading where
  entries : Entries
  -- The path of the current table.
  current : List String
  stack : List Frame
  goal : Goal

/- Nothing has been read. -/
def Reading.start : Reading :=
  ⟨[], [], [], .line⟩

/- Arrays, tables in braces and keys may not be this deep. -/
def depthLimit : Nat := 80

end Toml

end Componentry

------------------------------------------------------------
-- Keys
------------------------------------------------------------

namespace Componentry

namespace Toml

/- The part of a key that a token spells. -/
def keyPart? : Token → Option String
  | .word read =>
      if read.all isKeyChar then some (String.ofList read)
      else none
  | .quoted false content => some content
  | _ => none

/- The parts of a key in order, the last one apart. -/
def cutKey? (read : List String) : Option (List String × String) :=
  match read with
  | [] => none
  | last :: before => some (before.reverse, last)

/-
  Change the current table of a document: the table of a
  header, or the last one of a header in double brackets.
-/
def inCurrent
    (current : List String)
    (change : Entries → Option Entries)
    (entries : Entries) :
    Option Entries :=
  descend .passed (fun _ inner => change inner)
    current .header entries

namespace Reading

/- Go on with another goal. -/
def goOn
    (reading : Reading)
    (goal : Goal) :
    Reading :=
  { reading with goal }

/- Open the table that a header names. -/
def openHeader
    (reading : Reading)
    (role : Role)
    (read : List String) :
    Option Reading := do
  let (path, name) ← cutKey? read
  let entries ←
    if role = .item then openItem path name reading.entries
    else openTable path name reading.entries
  some
    { reading with
      entries
      current := read.reverse
      goal := .lineEnd }

/- The key of a value is complete. -/
def openValue
    (reading : Reading)
    (role : Role)
    (read : List String) :
    Option Reading :=
  match role, reading.stack with
  | .entry, [] =>
      some
        { reading with stack := [.entry read], goal := .value }
  | .inner, .inner entries _ :: stack =>
      some
        { reading with
          stack := .inner entries read :: stack
          goal := .value }
  | _, _ => none

/- A part of a key. -/
def takePart
    (reading : Reading)
    (role : Role)
    (read : List String)
    (token : Token) :
    Option Reading := do
  let part ← keyPart? token
  if read.length + 1 < depthLimit then
    some (reading.goOn (.afterPart role (part :: read)))
  else none

/- What follows a part of a key. -/
def takeAfterPart
    (reading : Reading)
    (role : Role)
    (read : List String) :
    Token → Option Reading
  | .mark '.' => some (reading.goOn (.part role read))
  | .mark '=' => reading.openValue role read
  | .mark ']' =>
      match role with
      | .header => reading.openHeader role read
      | .item => some (reading.goOn (.secondBracket read))
      | _ => none
  | _ => none

end Reading

end Toml

end Componentry

------------------------------------------------------------
-- Values
------------------------------------------------------------

namespace Componentry

namespace Toml

namespace Reading

/- A value is complete. -/
def close
    (reading : Reading)
    (value : Toml) :
    Option Reading :=
  match reading.stack with
  | [] => none
  | .entry read :: stack => do
      let (path, name) ← cutKey? read
      let entries ←
        inCurrent reading.current (addValue path name value)
          reading.entries
      some { reading with entries, stack, goal := .lineEnd }
  | .array items :: stack =>
      some
        { reading with
          stack := .array (value :: items) :: stack
          goal := .afterItem }
  | .inner entries read :: stack => do
      let (path, name) ← cutKey? read
      let entries ← addValue path name value entries
      some
        { reading with
          stack := .inner entries [] :: stack
          goal := .afterEntry }

/- An array is complete. -/
def closeArray (reading : Reading) : Option Reading :=
  match reading.stack with
  | .array items :: stack =>
      { reading with stack }.close (.array items.reverse)
  | _ => none

/- A table in braces is complete. -/
def closeTable (reading : Reading) : Option Reading :=
  match reading.stack with
  | .inner entries _ :: stack =>
      { reading with stack }.close (.table .closed entries)
  | _ => none

/- An array or a table in braces begins. -/
def push
    (reading : Reading)
    (frame : Frame)
    (goal : Goal) :
    Option Reading :=
  if reading.stack.length < depthLimit then
    some { reading with stack := frame :: reading.stack, goal }
  else none

/- A token that a value begins with. -/
def takeValue
    (reading : Reading) :
    Token → Option Reading
  | .quoted _ content => reading.close (.text content)
  | .word read => some (reading.goOn (.scalar read))
  | .mark '[' => reading.push (.array []) .item
  | .mark '\x7b' => reading.push (.inner [] []) .firstEntry
  | _ => none

end Reading

end Toml

end Componentry

------------------------------------------------------------
-- Tokens to Documents
------------------------------------------------------------

namespace Componentry

namespace Toml

/- Is a token white space within a line? -/
def Token.isBlank (token : Token) : Bool :=
  token == .mark ' ' || token == .mark '\t'

/- Do line ends not count before what has to come? -/
def Goal.spansLines : Goal → Bool
  | .line => true
  | .item => true
  | .afterItem => true
  | _ => false

/- Does white space not count before what has to come? -/
def Goal.skips : Goal → Token → Bool
  | .bracket, _ => false
  | .secondBracket _, _ => false
  | goal, token =>
      token.isBlank || goal.spansLines && token == .mark '\n'

namespace Reading

/- Take a token that counts, not within a scalar. -/
def take
    (reading : Reading)
    (token : Token) :
    Option Reading :=
  match reading.goal with
  | .line =>
      if token = .mark '[' then some (reading.goOn .bracket)
      else reading.takePart .entry [] token
  | .bracket =>
      if token = .mark '[' then
        some (reading.goOn (.part .item []))
      else if token.isBlank then
        some (reading.goOn (.part .header []))
      else reading.takePart .header [] token
  | .part role read => reading.takePart role read token
  | .afterPart role read =>
      reading.takeAfterPart role read token
  | .secondBracket read =>
      if token = .mark ']' then reading.openHeader .item read
      else none
  | .lineEnd =>
      if token = .mark '\n' then some (reading.goOn .line)
      else none
  | .value => reading.takeValue token
  | .item =>
      if token = .mark ']' then reading.closeArray
      else reading.takeValue token
  | .afterItem =>
      if token = .mark ']' then reading.closeArray
      else if token = .mark ',' then some (reading.goOn .item)
      else none
  | .firstEntry =>
      if token = .mark '\x7d' then reading.closeTable
      else reading.takePart .inner [] token
  | .afterEntry =>
      if token = .mark '\x7d' then reading.closeTable
      else if token = .mark ',' then
        some (reading.goOn (.part .inner []))
      else none
  | .scalar _ => none
  | .time _ => none

/- Take a token unless it is white space that is skipped. -/
def skipOrTake
    (reading : Reading)
    (token : Token) :
    Option Reading :=
  if reading.goal.skips token then some reading
  else reading.take token

/- A scalar is complete, and a token follows it. -/
def endScalar
    (reading : Reading)
    (read : List Char)
    (token : Token) :
    Option Reading := do
  let value ← scalar? read
  let reading ← reading.close value
  reading.skipOrTake token

/- Take one token. -/
def step
    (reading : Reading)
    (token : Token) :
    Option Reading :=
  match reading.goal with
  | .scalar read =>
      match token with
      | .word more => some (reading.goOn (.scalar (read ++ more)))
      | .mark '.' =>
          some (reading.goOn (.scalar (read ++ ['.'])))
      | .mark ' ' =>
          if isDate read then some (reading.goOn (.time read))
          else reading.endScalar read token
      | token => reading.endScalar read token
  | .time date =>
      match token with
      | .word more =>
          some (reading.goOn (.scalar (date ++ ' ' :: more)))
      | token => reading.endScalar date token
  | _ => reading.skipOrTake token

/- The document of a file that has been read to its end. -/
def result? (reading : Reading) : Option Entries :=
  match reading.goal with
  | .line => some reading.entries
  | _ => none

end Reading

/- The document that a list of tokens spells. -/
def parseTokens (tokens : List Token) : Option Entries := do
  let reading ←
    (tokens ++ [Token.mark '\n']).foldlM Reading.step
      Reading.start
  reading.result?

end Toml

end Componentry

------------------------------------------------------------
-- Texts to Documents
------------------------------------------------------------

namespace Componentry

namespace Toml

/- The document that a text holds. -/
def parse (text : String) : Option Entries :=
  (lex text.toList).bind parseTokens

end Toml

end Componentry
