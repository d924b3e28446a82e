/-
  Cutting a text into pieces at separators.

  `pieces` cuts at every separator character and always gives
  at least one piece.  `cutFirst` and `cutLast` cut once, at
  the first or at the last character of a kind.

  Key definitions:
    * `pieces`
    * `cutFirst`, `cutLast`
    * `stripPrefix?`, `stripSuffix?`
-/

------------------------------------------------------------
-- All Pieces
------------------------------------------------------------

namespace Componentry

namespace Text

/- Put a character in front of the first piece. -/
def extendFirst
    (c : Char)
    (found : List (List Char)) :
    List (List Char) :=
  match found with
  | [] => [[c]]
  | piece :: rest => (c :: piece) :: rest

/- The pieces of a text between its separators. -/
def pieces
    (isSeparator : Char → Bool) :
    List Char → List (List Char)
  | [] => [[]]
  | c :: cs =>
      if isSeparator c then [] :: pieces isSeparator cs
      else extendFirst c (pieces isSeparator cs)

/- The pieces of a string between separators. -/
def splitAt
    (separator : Char)
    (text : String) :
    List String :=
  (pieces (· == separator) text.toList).map String.ofList

end Text

end Componentry

------------------------------------------------------------
-- One Cut
------------------------------------------------------------

namespace Componentry

namespace Text

/-
  Cut at the first separator: what stands before it, the
  separator itself and what stands after it.
-/
def cutFirst
    (isSeparator : Char → Bool) :
    List Char → Option (List Char × Char × List Char)
  | [] => none
  | c :: cs =>
      if isSeparator c then some ([], c, cs)
      else
        (cutFirst isSeparator cs).map
          fun (before, found, after) =>
            (c :: before, found, after)

/- Cut at the last separator. -/
def cutLast
    (isSeparator : Char → Bool) :
    List Char → Option (List Char × Char × List Char)
  | [] => none
  | c :: cs =>
      match cutLast isSeparator cs with
      | some (before, found, after) =>
          some (c :: before, found, after)
      | none =>
          if isSeparator c then some ([], c, cs) else none

/- What follows a given beginning, if the text has it. -/
def stripPrefix?
    (start : List Char)
    (cs : List Char) :
    Option (List Char) :=
  match start, cs with
  | [], rest => some rest
  | _ :: _, [] => none
  | a :: start, c :: rest =>
      if a = c then stripPrefix? start rest else none

/- What precedes a given ending, if the text has it. -/
def stripSuffix?
    (ending : List Char)
    (cs : List Char) :
    Option (List Char) :=
  (stripPrefix? ending.reverse cs.reverse).map List.reverse

/- A beginning and what follows it make up the text. -/
theorem stripPrefix?_eq_some_iff
    {start cs rest : List Char} :
    stripPrefix? start cs = some rest ↔
      cs = start ++ rest := by
  induction start generalizing cs with
  | nil => simp [stripPrefix?]
  | cons a start ih =>
      cases cs with
      | nil => simp [stripPrefix?]
      | cons c cs =>
          by_cases hFirst : a = c
          · subst hFirst
            simp [stripPrefix?, ih]
          · have hOther : ¬ c = a := fun h => hFirst h.symm
            simp [stripPrefix?, hFirst, hOther]

/- An ending and what precedes it make up the text. -/
theorem stripSuffix?_eq_some_iff
    {ending cs before : List Char} :
    stripSuffix? ending cs = some before ↔
      cs = before ++ ending := by
  simp only [stripSuffix?, Option.map_eq_some_iff,
    stripPrefix?_eq_some_iff]
  constructor
  · rintro ⟨found, hFound, rfl⟩
    simpa using congrArg List.reverse hFound
  · intro hText
    exact ⟨before.reverse, by simp [hText], by simp⟩

end Text

end Componentry
