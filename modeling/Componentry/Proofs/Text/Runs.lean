import Mathlib.Data.List.TakeDrop
import Mathlib.Data.List.TakeWhile
import Componentry.Text.Blank
import Componentry.Text.Letters
import Componentry.Text.Pieces

/-
  Runs of characters of one kind.

  A run ends where a text stops to be of its kind; so where it
  ends is told by the text, and white space, names and what
  stands between them are cut apart in one way only.

  Main declarations:
    * `Text.StopsAt`
    * `Text.takeWhile_run`, `Text.dropWhile_run`
    * `Text.trimStart_append`, `Text.run_inj`
    * `Text.cutFirst_eq_span`, `Text.cutFirst_eq_some_iff`
    * `Text.cutLast_eq_none_iff`, `Text.cutLast_eq_some_iff`
    * `Text.isBlank_of_isNameChar`
    * `Text.isAlphanumeric_of_isBlank`
-/

------------------------------------------------------------
-- Where a Run Ends
------------------------------------------------------------

namespace Componentry

namespace Text

variable {p : Char → Bool}
variable {run rest : List Char}

/- A text does not start with a character of a kind. -/
def StopsAt
    (p : Char → Bool)
    (rest : List Char) :
    Prop :=
  ∀ c ∈ rest.head?, p c = false

theorem stopsAt_cons
    {c : Char}
    (hChar : p c = false) :
    StopsAt p (c :: rest) := by
  intro d hHead
  rw [List.head?_cons, Option.mem_some_iff] at hHead
  rwa [← hHead]

theorem stopsAt_append
    (hRun : ∀ c ∈ run, p c = false)
    (hRest : StopsAt p rest) :
    StopsAt p (run ++ rest) := by
  cases run with
  | nil => exact hRest
  | cons c run => exact stopsAt_cons (hRun c List.mem_cons_self)

/- A run is all that is taken in front of its end. -/
theorem takeWhile_run
    (hRun : ∀ c ∈ run, p c = true)
    (hRest : StopsAt p rest) :
    (run ++ rest).takeWhile p = run := by
  rw [List.takeWhile_append_of_pos hRun]
  cases rest with
  | nil => simp
  | cons c rest =>
      have hChar : p c = false := hRest c rfl
      rw [List.takeWhile_cons_of_neg (by simp [hChar]),
        List.append_nil]

/- What follows a run is what is left. -/
theorem dropWhile_run
    (hRun : ∀ c ∈ run, p c = true)
    (hRest : StopsAt p rest) :
    (run ++ rest).dropWhile p = rest := by
  rw [List.dropWhile_append_of_pos hRun]
  cases rest with
  | nil => rfl
  | cons c rest =>
      have hChar : p c = false := hRest c rfl
      rw [List.dropWhile_cons_of_neg (by simp [hChar])]

/- White space in front of a text is passed over. -/
theorem trimStart_append
    {blank : List Char}
    (hBlank : ∀ c ∈ blank, isBlank c = true)
    (hRest : StopsAt isBlank rest) :
    trimStart (blank ++ rest) = rest :=
  dropWhile_run hBlank hRest

/- What is passed over is white space. -/
theorem exists_of_trimStart
    (cs : List Char) :
    ∃ blank,
      (∀ c ∈ blank, isBlank c = true) ∧
        cs = blank ++ trimStart cs :=
  ⟨cs.takeWhile isBlank, fun _ => List.mem_takeWhile_imp,
    List.takeWhile_append_dropWhile.symm⟩

/- A text is cut behind a run in one way only. -/
theorem run_inj
    {otherRun otherRest : List Char}
    (hText : run ++ rest = otherRun ++ otherRest)
    (hRun : ∀ c ∈ run, p c = true)
    (hRest : StopsAt p rest)
    (hOtherRun : ∀ c ∈ otherRun, p c = true)
    (hOtherRest : StopsAt p otherRest) :
    run = otherRun ∧ rest = otherRest := by
  have hTaken := congrArg (List.takeWhile p) hText
  have hLeft := congrArg (List.dropWhile p) hText
  rw [takeWhile_run hRun hRest,
    takeWhile_run hOtherRun hOtherRest] at hTaken
  rw [dropWhile_run hRun hRest,
    dropWhile_run hOtherRun hOtherRest] at hLeft
  exact ⟨hTaken, hLeft⟩

/- A text is cut where what stands before a cut ends. -/
theorem cutFirst_eq_span
    (isSeparator : Char → Bool)
    (cs : List Char) :
    cutFirst isSeparator cs =
      match cs.span (!isSeparator ·) with
      | (_, []) => none
      | (before, separator :: after) =>
          some (before, separator, after) := by
  rw [List.span_eq_takeWhile_dropWhile]
  induction cs with
  | nil => rfl
  | cons c cs ih =>
      rw [cutFirst, List.takeWhile_cons, List.dropWhile_cons,
        ih]
      cases isSeparator c with
      | true => rfl
      | false =>
          simp only [Bool.false_eq_true, if_false,
            Bool.not_false, if_true]
          cases cs.dropWhile (!isSeparator ·) with
          | nil => rfl
          | cons separator after => rfl

/-
  A text is cut at a separator if no separator stands before
  it.
-/
theorem cutFirst_eq_some_iff
    {isSeparator : Char → Bool}
    {cs before after : List Char}
    {separator : Char} :
    cutFirst isSeparator cs =
        some (before, separator, after) ↔
      cs = before ++ separator :: after ∧
        isSeparator separator = true ∧
        ∀ c ∈ before, isSeparator c = false := by
  induction cs generalizing before with
  | nil => simp [cutFirst]
  | cons c cs ih =>
      rw [cutFirst]
      cases hHere : isSeparator c with
      | true =>
          simp only [if_true, Option.some.injEq,
            Prod.mk.injEq]
          constructor
          · rintro ⟨rfl, rfl, rfl⟩
            exact ⟨rfl, hHere, by simp⟩
          · rintro ⟨hText, -, hBefore⟩
            cases before with
            | nil =>
                cases hText
                exact ⟨rfl, rfl, rfl⟩
            | cons d before =>
                cases hText
                have hNot := hBefore c List.mem_cons_self
                rw [hHere] at hNot
                cases hNot
      | false =>
          simp only [Bool.false_eq_true, if_false,
            Option.map_eq_some_iff, Prod.exists,
            Prod.mk.injEq]
          constructor
          · rintro ⟨front, found, rest, hCut, rfl, rfl, rfl⟩
            rcases ih.mp hCut with ⟨rfl, hFound, hFront⟩
            refine ⟨rfl, hFound, ?_⟩
            rw [List.forall_mem_cons]
            exact ⟨hHere, hFront⟩
          · rintro ⟨hText, hFound, hBefore⟩
            cases before with
            | nil =>
                cases hText
                rw [hHere] at hFound
                cases hFound
            | cons d front =>
                cases hText
                rw [List.forall_mem_cons] at hBefore
                exact
                  ⟨front, separator, after,
                    ih.mpr ⟨rfl, hFound, hBefore.2⟩,
                    rfl, rfl, rfl⟩

end Text

end Componentry

------------------------------------------------------------
-- The Last Separator
------------------------------------------------------------

namespace Componentry

namespace Text

variable {isSeparator : Char → Bool}
variable {cs before after : List Char}
variable {separator : Char}

theorem cutLast_eq_none_iff :
    cutLast isSeparator cs = none ↔
      ∀ c ∈ cs, isSeparator c = false := by
  induction cs with
  | nil => simp [cutLast]
  | cons c cs ih =>
      rw [cutLast, List.forall_mem_cons, ← ih]
      cases cutLast isSeparator cs with
      | none => simp
      | some cut => simp

/- A separator that none follows is the last one. -/
theorem cutLast_append
    (hSeparator : isSeparator separator = true)
    (hAfter : ∀ c ∈ after, isSeparator c = false) :
    cutLast isSeparator (before ++ separator :: after) =
      some (before, separator, after) := by
  induction before with
  | nil =>
      rw [List.nil_append, cutLast,
        cutLast_eq_none_iff.mpr hAfter]
      simp [hSeparator]
  | cons c before ih => rw [List.cons_append, cutLast, ih]

/-
  A text is cut at a separator if no separator stands behind
  it.
-/
theorem cutLast_eq_some_iff :
    cutLast isSeparator cs =
        some (before, separator, after) ↔
      cs = before ++ separator :: after ∧
        isSeparator separator = true ∧
        ∀ c ∈ after, isSeparator c = false := by
  constructor
  · intro hCut
    induction cs generalizing before with
    | nil => cases hCut
    | cons c cs ih =>
        rw [cutLast] at hCut
        cases hRest : cutLast isSeparator cs with
        | none =>
            simp only [hRest, Option.ite_none_right_eq_some,
              Option.some.injEq, Prod.mk.injEq] at hCut
            rcases hCut with ⟨hSeparator, rfl, rfl, rfl⟩
            exact
              ⟨rfl, hSeparator, cutLast_eq_none_iff.mp hRest⟩
        | some cut =>
            rcases cut with ⟨first, last, rest⟩
            simp only [hRest, Option.some.injEq,
              Prod.mk.injEq] at hCut
            rcases hCut with ⟨rfl, rfl, rfl⟩
            rcases ih hRest with ⟨hText, hLast⟩
            exact ⟨by rw [hText]; rfl, hLast⟩
  · rintro ⟨rfl, hSeparator, hAfter⟩
    exact cutLast_append hSeparator hAfter

end Text

end Componentry

------------------------------------------------------------
-- Names and White Space
------------------------------------------------------------

namespace Componentry

namespace Text

/- The code points of names are between these. -/
theorem toNat_of_isNameChar
    {c : Char}
    (hName : isNameChar c = true) :
    48 ≤ c.toNat ∧ c.toNat ≤ 122 := by
  have hRanges :
      c.isAlphanum =
        (decide (c.val ≥ 65 ∧ c.val ≤ 90) ||
          (decide (c.val ≥ 97) && decide (c.val ≤ 122)) ||
          (decide (c.val ≥ 48) && decide (c.val ≤ 57))) :=
    rfl
  rw [isNameChar, Bool.or_eq_true, beq_iff_eq] at hName
  rcases hName with hAlphanum | rfl
  · simp only [hRanges, Bool.or_eq_true, Bool.and_eq_true,
      decide_eq_true_eq, ge_iff_le, UInt32.le_iff_toNat_le,
      UInt32.reduceToNat] at hAlphanum
    unfold Char.toNat
    omega
  · decide

/- No white space has a code point there. -/
theorem isBlank_of_isNameChar
    {c : Char}
    (hName : isNameChar c = true) :
    isBlank c = false := by
  rcases toNat_of_isNameChar hName with ⟨hFrom, hTo⟩
  unfold isBlank blankTable RangeTable.contains
  repeat rw [RangeTable.containsCode]
  grind

theorem isNameChar_of_isBlank
    {c : Char}
    (hBlank : isBlank c = true) :
    isNameChar c = false := by
  cases hName : isNameChar c with
  | false => rfl
  | true =>
      rw [isBlank_of_isNameChar hName] at hBlank
      cases hBlank

/- The code points of a table. -/
def RangeTable.codes (table : RangeTable) : List Nat :=
  table.flatMap fun range =>
    List.range' range.1 (range.2 + 1 - range.1)

theorem RangeTable.mem_codes
    {table : RangeTable}
    {code : Nat}
    (hFound : table.containsCode code = true) :
    code ∈ table.codes := by
  induction table with
  | nil => cases hFound
  | cons range table ih =>
      rcases range with ⟨first, last⟩
      rw [containsCode] at hFound
      rw [codes, List.flatMap_cons, List.mem_append]
      split at hFound
      · cases hFound
      · split at hFound
        · refine Or.inl (List.mem_range'_1.mpr ?_)
          dsimp only
          omega
        · exact Or.inr (ih hFound)

/- White space is neither a letter nor a number. -/
theorem isAlphanumeric_of_isBlank
    {c : Char}
    (hBlank : isBlank c = true) :
    isAlphanumeric c = false := by
  have hAll :
      ∀ code ∈ blankTable.codes,
        (letterTable.containsCode code
            || decimalTable.containsCode code
            || otherNumberTable.containsCode code) =
          false := by
    decide +kernel
  exact hAll c.toNat (RangeTable.mem_codes hBlank)

/- The first character of a name may stand in it. -/
theorem isNameChar_of_isNameStart
    {c : Char}
    (hStart : isNameStart c = true) :
    isNameChar c = true := by
  rw [isNameStart, Bool.or_eq_true] at hStart
  rw [isNameChar, Char.isAlphanum, Bool.or_eq_true,
    Bool.or_eq_true]
  rcases hStart with hAlpha | hLow
  · exact Or.inl (Or.inl hAlpha)
  · exact Or.inr hLow

end Text

end Componentry
