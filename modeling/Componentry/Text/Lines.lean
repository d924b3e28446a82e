import Componentry.Text.Pieces

/-
  The lines of a text.

  A line ends at a line feed; a carriage return right before
  the line feed belongs to the line end.  What follows the
  last line feed is a line of its own unless it is empty, and
  keeps a final carriage return.

  Key definitions:
    * `lines`
    * `numbered`
-/

------------------------------------------------------------
-- Lines
------------------------------------------------------------

namespace Componentry

namespace Text

/- Drop one carriage return at the end of a line. -/
def dropReturn : List Char → List Char
  | [] => []
  | [c] => if c = '\r' then [] else [c]
  | c :: d :: cs => c :: dropReturn (d :: cs)

/- Turn the pieces between line feeds into lines. -/
def closeLines : List (List Char) → List (List Char)
  | [] => []
  | [last] => if last.isEmpty then [] else [last]
  | line :: next :: rest =>
      dropReturn line :: closeLines (next :: rest)

/- The lines of a text, without their line ends. -/
def lines (cs : List Char) : List (List Char) :=
  closeLines (pieces (· == '\n') cs)

/- Number a list of lines, counting from a given number. -/
def numbered
    {α : Type}
    (start : Nat) :
    List α → List (Nat × α)
  | [] => []
  | line :: rest => (start, line) :: numbered (start + 1) rest

end Text

end Componentry
