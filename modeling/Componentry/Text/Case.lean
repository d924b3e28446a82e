import Componentry.Text.CaseTable

/-
  Full upper-casing and lower-casing of a text.

  A character may become a word of several characters.  The
  only rule that looks at the neighbours is that of the Greek
  sigma, whose lower case is `ς` at the end of a word: after a
  cased character and not before one, case-ignorable
  characters on either side being looked past.

  Key definitions:
    * `upper`
    * `lower`
-/

------------------------------------------------------------
-- One Character
------------------------------------------------------------

namespace Componentry

namespace Text

/- The other case of a code point, if the run holds it. -/
def CaseRun.map?
    (run : CaseRun)
    (code : Nat) :
    Option Nat :=
  if run.first ≤ code && code ≤ run.last
      && (code - run.first) % run.stride == 0 then
    some (Int.toNat (code + run.offset))
  else none

/- The other case of a character, itself if it has none. -/
def otherCase
    (runs : List CaseRun)
    (words : List (Nat × List Nat))
    (c : Char) :
    List Char :=
  match words.lookup c.toNat with
  | some codes => codes.map Char.ofNat
  | none =>
      match runs.findSome? (·.map? c.toNat) with
      | some code => [Char.ofNat code]
      | none => [c]

end Text

end Componentry

------------------------------------------------------------
-- Texts
------------------------------------------------------------

namespace Componentry

namespace Text

/- A text in upper case. -/
def upper (cs : List Char) : List Char :=
  cs.flatMap (otherCase upperRuns upperWords)

/-
  Is the first character that is not case-ignorable a cased
  one?
-/
def meetsCased : List Char → Bool
  | [] => false
  | c :: cs =>
      if caseIgnorableTable.contains c then meetsCased cs
      else casedTable.contains c

/-
  A text in lower case, given what stands before it, nearest
  character first.
-/
def lowerAfter
    (before : List Char) :
    List Char → List Char
  | [] => []
  | c :: cs =>
      let here :=
        if c = 'Σ' then
          if meetsCased before && !meetsCased cs then ['ς']
          else ['σ']
        else otherCase lowerRuns lowerWords c
      here ++ lowerAfter (c :: before) cs

/- A text in lower case. -/
def lower (cs : List Char) : List Char :=
  lowerAfter [] cs

end Text

end Componentry
