/-
  Sets of characters given by a table of ranges.

  A table lists closed ranges of code points in ascending
  order, so a search may stop at the first range that starts
  above the character sought.

  Key definitions:
    * `RangeTable`
    * `RangeTable.contains`
-/

------------------------------------------------------------
-- Range Tables
------------------------------------------------------------

namespace Componentry

namespace Text

/- Closed ranges of code points, in ascending order. -/
abbrev RangeTable := List (Nat × Nat)

namespace RangeTable

/- Is a code point inside one of the ranges? -/
def containsCode
    (table : RangeTable)
    (code : Nat) :
    Bool :=
  match table with
  | [] => false
  | (first, last) :: rest =>
      if code < first then false
      else if code ≤ last then true
      else containsCode rest code

/- Is a character inside one of the ranges? -/
def contains
    (table : RangeTable)
    (c : Char) :
    Bool :=
  table.containsCode c.toNat

end RangeTable

end Text

end Componentry
