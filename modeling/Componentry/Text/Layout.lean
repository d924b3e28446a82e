/-
  Texts put together from lines.

  `unlines` ends every line with a line feed.  `closed` gives
  a text its last line feed if it lacks one.

  Key definitions:
    * `unlines`
    * `closed`
-/

------------------------------------------------------------
-- Lines
------------------------------------------------------------

namespace Componentry

namespace Text

/- The text of some lines, each ended by a line feed. -/
def unlines : List String → String
  | [] => ""
  | line :: rest => line ++ "\n" ++ unlines rest

/- Does a text end with a line feed? -/
def endsLine (text : String) : Bool :=
  text.toList.getLast? == some '\n'

/- A text, its last line ended. -/
def closed (text : String) : String :=
  if endsLine text then text else text ++ "\n"

end Text

end Componentry
