import Componentry.Text.Ranges

/-
  White space, and cutting it off a text.

  `isBlank` is the White_Space property of characters.  The
  three trimming functions work on lists of characters;
  `trimmed` is the same on strings.

  Key definitions:
    * `isBlank`
    * `trimStart`, `trimEnd`, `trim`
    * `trimmed`, `isBlankText`
-/

------------------------------------------------------------
-- White Space
------------------------------------------------------------

namespace Componentry

namespace Text

/- The characters with the White_Space property. -/
def blankTable : RangeTable :=
  [(0x9, 0xd), (0x20, 0x20), (0x85, 0x85), (0xa0, 0xa0),
   (0x1680, 0x1680), (0x2000, 0x200a), (0x2028, 0x2029),
   (0x202f, 0x202f), (0x205f, 0x205f), (0x3000, 0x3000)]

/- Is this a white-space character? -/
def isBlank (c : Char) : Bool :=
  blankTable.contains c

end Text

end Componentry

------------------------------------------------------------
-- Trimming
------------------------------------------------------------

namespace Componentry

namespace Text

/- Drop the white space a text starts with. -/
def trimStart (cs : List Char) : List Char :=
  cs.dropWhile isBlank

/- Trimming does not lengthen a text. -/
theorem length_trimStart_le
    (cs : List Char) :
    (trimStart cs).length ≤ cs.length :=
  (List.dropWhile_sublist isBlank).length_le

/- Drop the white space a text ends with. -/
def trimEnd : List Char → List Char
  | [] => []
  | c :: cs =>
      match trimEnd cs with
      | [] => if isBlank c then [] else [c]
      | kept => c :: kept

/- Drop the white space at both ends of a text. -/
def trim (cs : List Char) : List Char :=
  trimEnd (trimStart cs)

/- Only white space is trimmed to nothing. -/
theorem trimEnd_eq_nil_iff
    (cs : List Char) :
    trimEnd cs = [] ↔ cs.all isBlank = true := by
  induction cs with
  | nil => simp [trimEnd]
  | cons c cs ih =>
      rw [trimEnd, List.all_cons, Bool.and_eq_true, ← ih]
      cases trimEnd cs <;> simp

theorem trim_eq_nil_iff
    (cs : List Char) :
    trim cs = [] ↔ cs.all isBlank = true := by
  rw [trim, trimEnd_eq_nil_iff, trimStart]
  induction cs with
  | nil => simp
  | cons c cs ih =>
      cases hBlank : isBlank c <;> simp [hBlank, ← ih]

/- A string without the white space at its ends. -/
def trimmed (text : String) : String :=
  String.ofList (trim text.toList)

/- Does a string hold nothing but white space? -/
def isBlankText (text : String) : Bool :=
  text.toList.all isBlank

theorem isBlankText_iff
    (text : String) :
    isBlankText text = true ↔ trimmed text = "" := by
  rw [isBlankText, ← trim_eq_nil_iff, trimmed,
    ← String.toList_inj, String.toList_ofList,
    String.toList_empty]

end Text

end Componentry
