import Componentry.Descriptor.Basic
import Componentry.Text.Letters
import Componentry.Text.Lines
import Componentry.Text.Quoted

/-
  The language of descriptor files.

  A line is cut at the first `#` and trimmed; what is left is
  empty, a definition `key=value` or a field `Key: value`.
  Both give the record a field, and a definition also gives
  the lines below it a variable.  In a value `$$` stands for a
  dollar sign and `$` with a name in braces for the value of a
  variable; substituted text is not looked at again.

  Expansion takes three passes: doubled dollar signs become a
  mark, references are substituted, marks become dollar signs.
  The mark is the character U+0000.

  Key definitions:
    * `ParseFault`
    * `expand`
    * `Descriptor.parse`
-/

------------------------------------------------------------
-- Faults
------------------------------------------------------------

namespace Componentry

/- What may be wrong with a line of a descriptor file. -/
inductive ParseFault where
  | noSeparator (line : String)
  | invalidKey (key : String)
  | undefinedVariable (name : String)
  | notText
deriving DecidableEq, Repr

/- The text of a fault. -/
def ParseFault.reason : ParseFault → String
  | .noSeparator line =>
      "expected `key=value` or `Key: value`, got "
        ++ Text.quote line
  | .invalidKey key => "invalid key " ++ Text.quote key
  | .undefinedVariable name =>
      "undefined variable `" ++ name ++ "`"
  | .notText => "not valid UTF-8"

end Componentry

------------------------------------------------------------
-- Expansion
------------------------------------------------------------

namespace Componentry

namespace Descriptor

/- The character that a doubled dollar sign becomes. -/
def mark : Char := '\x00'

/- Turn every doubled dollar sign into a mark. -/
def markDollars : List Char → List Char
  | '$' :: '$' :: rest => mark :: markDollars rest
  | c :: rest => c :: markDollars rest
  | [] => []

/- Turn every mark into a dollar sign. -/
def restoreDollars (cs : List Char) : List Char :=
  cs.map fun c => if c = mark then '$' else c

/- May this character stand in a reference? -/
def isReferenceChar (c : Char) : Bool :=
  c.isAlphanum || c == '_' || c == '.'

/-
  The name in front of a closing brace, and what follows.  An
  empty name is none.
-/
def reference?
    (cs : List Char) :
    Option (List Char × List Char) :=
  match cs.takeWhile isReferenceChar,
      cs.dropWhile isReferenceChar with
  | c :: name, '\x7d' :: rest => some (c :: name, rest)
  | _, _ => none

/- A reference takes characters away. -/
theorem reference?_length
    {cs name rest : List Char}
    (h : reference? cs = some (name, rest)) :
    rest.length < cs.length := by
  unfold reference? at h
  split at h
  · next c found tail hName hRest =>
      have hSplit :
          cs.takeWhile isReferenceChar
            ++ cs.dropWhile isReferenceChar = cs :=
        List.takeWhile_append_dropWhile
      rw [hName, hRest] at hSplit
      simp only [Option.some.injEq, Prod.mk.injEq] at h
      rw [← hSplit, ← h.2]
      simp only [List.length_append, List.length_cons]
      omega
  · simp at h

/-
  Put the values of variables in the place of references.  The
  first name without a value is the error.
-/
def substitute
    (defined : Fields)
    (cs : List Char) :
    Except String (List Char) :=
  match cs with
  | [] => .ok []
  | '$' :: '\x7b' :: rest =>
      match h : reference? rest with
      | some (name, after) =>
          have := reference?_length h
          match defined[String.ofList name]? with
          | none => .error (String.ofList name)
          | some value => do
              let tail ← substitute defined after
              .ok (value.toList ++ tail)
      | none => do
          let tail ← substitute defined rest
          .ok ('$' :: '\x7b' :: tail)
  | c :: rest => do
      let tail ← substitute defined rest
      .ok (c :: tail)
termination_by cs.length
decreasing_by
  all_goals
    simp only [List.length_cons]
    omega

/- The value that a text stands for. -/
def expand
    (defined : Fields)
    (value : List Char) :
    Except String String := do
  let substituted ← substitute defined (markDollars value)
  .ok (String.ofList (restoreDollars substituted))

end Descriptor

end Componentry

------------------------------------------------------------
-- Lines
------------------------------------------------------------

namespace Componentry

namespace Descriptor

/- A line that is not blank, before expansion. -/
structure Line where
  key : List Char
  -- Does the line define a variable?
  defines : Bool
  value : List Char

/- May this character stand in a key? -/
def isKeyChar (c : Char) : Bool :=
  Text.isAlphanumeric c || c == '_' || c == '.'

/- A key is a word of key characters. -/
def isKey (key : List Char) : Bool :=
  !key.isEmpty && key.all isKeyChar

/- A line without its comment and the space around it. -/
def content (line : List Char) : List Char :=
  Text.trim (line.takeWhile (· != '#'))

/- Read a line that is not blank. -/
def readLine (content : List Char) : Except ParseFault Line :=
  match Text.cutFirst (fun c => c == '=' || c == ':') content with
  | none => .error (.noSeparator (String.ofList content))
  | some (before, separator, after) =>
      let key := Text.trim before
      if isKey key then
        .ok ⟨key, separator == '=', Text.trim after⟩
      else .error (.invalidKey (String.ofList key))

end Descriptor

end Componentry

------------------------------------------------------------
-- Texts
------------------------------------------------------------

namespace Componentry

namespace Descriptor

/- What has been read so far. -/
structure Reading where
  defined : Fields
  fields : Fields

/- Read one more line. -/
def Reading.add
    (reading : Reading)
    (line : List Char) :
    Except ParseFault Reading :=
  match content line with
  | [] => .ok reading
  | content => do
      let line ← readLine content
      match expand reading.defined line.value with
      | .error name => .error (.undefinedVariable name)
      | .ok value =>
          let key := String.ofList line.key
          .ok
            { defined :=
                if line.defines then
                  reading.defined.insert key value
                else reading.defined
              fields := reading.fields.insert key value }

/- Read lines, the first being numbered, to the first fault. -/
def Reading.addAll
    (reading : Reading)
    (number : Nat) :
    List (List Char) → Except (Nat × ParseFault) Reading
  | [] => .ok reading
  | line :: rest =>
      match reading.add line with
      | .error fault => .error (number, fault)
      | .ok reading => reading.addAll (number + 1) rest

/-
  Read the text of a descriptor file, or tell the first line
  that is at fault.
-/
def parse
    (name : String)
    (path : Path)
    (text : String) :
    Except (Nat × ParseFault) Descriptor :=
  match Reading.addAll ⟨∅, ∅⟩ 1 (Text.lines text.toList) with
  | .error fault => .error fault
  | .ok reading => .ok ⟨name, path, reading.fields⟩

end Descriptor

end Componentry
