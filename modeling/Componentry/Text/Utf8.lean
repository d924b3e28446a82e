/-
  Bytes read as text.

  `decodeUtf8` accepts exactly the valid encodings.  For other
  bytes it tells the line of the first fault: one more than
  the line feeds in the longest valid beginning.

  Key definitions:
    * `decodeUtf8`
    * `faultLine`
-/

------------------------------------------------------------
-- The First Fault
------------------------------------------------------------

namespace Componentry

namespace Text

/-
  Count lines from an offset on, until a character cannot be
  read.  The first argument bounds the number of characters.
-/
def faultLineFrom
    (bytes : ByteArray)
    (limit : Nat)
    (offset : Nat)
    (line : Nat) :
    Nat :=
  match limit with
  | 0 => line
  | limit + 1 =>
      match bytes.utf8DecodeChar? offset with
      | none => line
      | some c =>
          faultLineFrom bytes limit (offset + c.utf8Size)
            (if c = '\n' then line + 1 else line)

/- The line on which bytes stop being text. -/
def faultLine (bytes : ByteArray) : Nat :=
  faultLineFrom bytes bytes.size 0 1

end Text

end Componentry

------------------------------------------------------------
-- Decoding
------------------------------------------------------------

namespace Componentry

namespace Text

/- Bytes as text, or the line of the first fault. -/
def decodeUtf8 (bytes : ByteArray) : Except Nat String :=
  match String.fromUTF8? bytes with
  | some text => .ok text
  | none => .error (faultLine bytes)

end Text

end Componentry
