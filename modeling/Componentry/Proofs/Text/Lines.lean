import Mathlib.Data.List.Induction
import Mathlib.Data.List.TakeWhile
import Componentry.Proofs.Paths
import Componentry.Proofs.Text.Runs
import Componentry.Text.Lines

/-
  Lines, pieces and trimmed texts.

  Trimming and cutting leave no characters but those of the
  text.  White space behind a text is trimmed away.  The lines
  of a text are those of its pieces between line feeds, so
  that the lines of two texts with a line feed between them
  are told by the two texts.

  Main declarations:
    * `Text.trim_sublist`, `Text.trim_append_blank`
    * `Text.IsTrimmed`, `Text.isTrimmed_trim`
    * `Text.IsTrimmed.trim_eq`, `Text.IsTrimmed.trim_spaced`
    * `Text.exists_of_trimEnd`, `Text.exists_of_trim`
    * `Text.sublist_of_mem_lines`
    * `Text.lines_append`, `Text.lines_of_pieces`
-/

------------------------------------------------------------
-- Trimming
------------------------------------------------------------

namespace Componentry

namespace Text

theorem trimEnd_sublist
    (cs : List Char) :
    (trimEnd cs).Sublist cs := by
  induction cs with
  | nil => exact .slnil
  | cons c cs ih =>
      rw [trimEnd]
      cases hRest : trimEnd cs with
      | nil =>
          dsimp only
          split
          · exact List.nil_sublist _
          · exact (List.nil_sublist cs).cons_cons c
      | cons d rest =>
          rw [hRest] at ih
          exact ih.cons_cons c

theorem trim_sublist
    (cs : List Char) :
    (trim cs).Sublist cs :=
  (trimEnd_sublist _).trans (List.dropWhile_sublist isBlank)

/- White space at the end is dropped. -/
theorem trimEnd_append_blank
    {blank : Char}
    (hBlank : isBlank blank = true)
    (cs : List Char) :
    trimEnd (cs ++ [blank]) = trimEnd cs := by
  induction cs with
  | nil => simp [trimEnd, hBlank]
  | cons c cs ih =>
      rw [List.cons_append, trimEnd, ih]
      rfl

/- So is any amount of white space. -/
theorem trimEnd_append_of_blank
    {blank : List Char}
    (hBlank : ∀ c ∈ blank, isBlank c = true)
    (cs : List Char) :
    trimEnd (cs ++ blank) = trimEnd cs := by
  induction blank using List.reverseRecOn with
  | nil => rw [List.append_nil]
  | append_singleton blank last ih =>
      rw [List.forall_mem_append, List.forall_mem_singleton]
        at hBlank
      rw [← List.append_assoc, trimEnd_append_blank hBlank.2]
      exact ih hBlank.1

/- White space behind a text is trimmed away. -/
theorem trim_append_blank
    {blank : Char}
    (hBlank : isBlank blank = true)
    (cs : List Char) :
    trim (cs ++ [blank]) = trim cs := by
  by_cases hAll : cs.all isBlank = true
  · have hBoth : (cs ++ [blank]).all isBlank = true := by
      rw [List.all_append, hAll, List.all_cons, hBlank]
      rfl
    rw [(trim_eq_nil_iff cs).mpr hAll,
      (trim_eq_nil_iff _).mpr hBoth]
  · have hStart :
        trimStart (cs ++ [blank]) =
          trimStart cs ++ [blank] := by
      unfold trimStart
      rw [List.dropWhile_append, if_neg]
      intro hEmpty
      apply hAll
      rw [List.all_eq_true]
      intro c hMember
      exact
        List.dropWhile_eq_nil_iff.mp
          (List.isEmpty_iff.mp hEmpty) c hMember
    rw [trim, hStart, trimEnd_append_blank hBlank, ← trim]

/- A text has no white space at its ends. -/
structure IsTrimmed (cs : List Char) : Prop where
  head : ∀ c ∈ cs.head?, isBlank c = false
  last : ∀ c ∈ cs.getLast?, isBlank c = false

/- Only the ends of the text are looked at. -/
instance
    (cs : List Char) :
    Decidable (IsTrimmed cs) :=
  decidable_of_iff
    (cs.head?.all (!isBlank ·) = true ∧
      cs.getLast?.all (!isBlank ·) = true)
    (by
      simp only [Option.all_eq_true, Bool.not_eq_true']
      exact
        ⟨fun h => ⟨h.1, h.2⟩, fun h => ⟨h.head, h.last⟩⟩)

theorem isTrimmed_of_forall
    {cs : List Char}
    (hNone : ∀ c ∈ cs, isBlank c = false) :
    IsTrimmed cs where
  head := by
    intro c hHead
    exact hNone c (List.mem_of_mem_head? hHead)
  last := by
    intro c hLast
    exact hNone c (List.mem_of_mem_getLast? hLast)

theorem trimEnd_append_singleton
    {last : Char}
    (hLast : isBlank last = false)
    (cs : List Char) :
    trimEnd (cs ++ [last]) = cs ++ [last] := by
  induction cs with
  | nil => simp [trimEnd, hLast]
  | cons c cs ih =>
      rw [List.cons_append, trimEnd, ih]
      cases cs with
      | nil => rfl
      | cons d cs => rfl

/- Nothing is trimmed away where there is no white space. -/
theorem trimEnd_eq_self
    {cs : List Char}
    (hLast : ∀ c ∈ cs.getLast?, isBlank c = false) :
    trimEnd cs = cs := by
  rcases List.eq_nil_or_concat' cs with
    rfl | ⟨before, last, rfl⟩
  · rfl
  · apply trimEnd_append_singleton
    exact hLast last List.getLast?_concat

theorem IsTrimmed.trim_eq
    {cs : List Char}
    (hTrimmed : IsTrimmed cs) :
    trim cs = cs := by
  have hStart : trimStart cs = cs := by
    cases cs with
    | nil => rfl
    | cons c cs =>
        have hBlank := hTrimmed.head c rfl
        rw [trimStart, List.dropWhile_cons_of_neg]
        simp [hBlank]
  rw [trim, hStart, trimEnd_eq_self hTrimmed.last]

/- A text is what is left of it, and white space behind. -/
theorem exists_of_trimEnd
    (cs : List Char) :
    ∃ blank,
      (∀ c ∈ blank, isBlank c = true) ∧
        cs = trimEnd cs ++ blank := by
  induction cs with
  | nil => exact ⟨[], by simp, rfl⟩
  | cons c cs ih =>
      rcases ih with ⟨blank, hBlank, hText⟩
      rw [trimEnd]
      cases hRest : trimEnd cs with
      | nil =>
          rw [hRest, List.nil_append] at hText
          subst hText
          cases hHere : isBlank c with
          | true =>
              refine ⟨c :: cs, ?_, rfl⟩
              rw [List.forall_mem_cons]
              exact ⟨hHere, hBlank⟩
          | false => exact ⟨cs, hBlank, rfl⟩
      | cons d kept =>
          rw [hRest] at hText
          exact ⟨blank, hBlank, congrArg (c :: ·) hText⟩

/- What is left does not end with white space. -/
theorem last_trimEnd
    (cs : List Char) :
    ∀ c ∈ (trimEnd cs).getLast?, isBlank c = false := by
  induction cs with
  | nil => simp [trimEnd]
  | cons c cs ih =>
      rw [trimEnd]
      cases hRest : trimEnd cs with
      | nil => cases hHere : isBlank c <;> simp [hHere]
      | cons d kept =>
          rw [hRest] at ih
          intro last hLast
          rw [List.getLast?_cons_cons] at hLast
          exact ih last hLast

/- A trimmed text starts as the text behind its white space. -/
theorem head_trim
    (cs : List Char) :
    ∀ c ∈ (trim cs).head?, isBlank c = false := by
  intro c hHead
  rcases exists_of_trimEnd (trimStart cs) with
    ⟨blank, -, hText⟩
  have hFirst : (trimStart cs).head? = some c := by
    rw [hText, ← trim, List.head?_append,
      Option.mem_def.mp hHead]
    rfl
  have hNot := List.head?_dropWhile_not isBlank cs
  rw [← trimStart, hFirst] at hNot
  exact hNot

theorem isTrimmed_trim
    (cs : List Char) :
    IsTrimmed (trim cs) where
  head := head_trim cs
  last := last_trimEnd (trimStart cs)

/- A text is what is left of it, and white space around. -/
theorem exists_of_trim
    (cs : List Char) :
    ∃ before behind,
      (∀ c ∈ before, isBlank c = true) ∧
        (∀ c ∈ behind, isBlank c = true) ∧
        cs = before ++ trim cs ++ behind := by
  rcases exists_of_trimStart cs with
    ⟨before, hBefore, hText⟩
  rcases exists_of_trimEnd (trimStart cs) with
    ⟨behind, hBehind, hRest⟩
  refine ⟨before, behind, hBefore, hBehind, ?_⟩
  rw [List.append_assoc, trim, ← hRest, ← hText]

/- White space in front of a text is trimmed away as well. -/
theorem trim_blank_append
    {blank : List Char}
    (hBlank : ∀ c ∈ blank, isBlank c = true)
    (cs : List Char) :
    trim (blank ++ cs) = trim cs := by
  rw [trim, trimStart, List.dropWhile_append_of_pos hBlank]
  rfl

theorem IsTrimmed.trim_spaced
    {before cs behind : List Char}
    (hTrimmed : IsTrimmed cs)
    (hBefore : ∀ c ∈ before, isBlank c = true)
    (hBehind : ∀ c ∈ behind, isBlank c = true) :
    trim (before ++ cs ++ behind) = cs := by
  induction behind using List.reverseRecOn with
  | nil =>
      rw [List.append_nil, trim_blank_append hBefore,
        hTrimmed.trim_eq]
  | append_singleton behind blank ih =>
      rw [List.forall_mem_append, List.forall_mem_singleton]
        at hBehind
      rw [← List.append_assoc, trim_append_blank hBehind.2]
      exact ih hBehind.1

end Text

end Componentry

------------------------------------------------------------
-- Lines
------------------------------------------------------------

namespace Componentry

namespace Text

variable {isSeparator : Char → Bool}

/- A piece of a text is part of it. -/
theorem sublist_of_mem_pieces
    {cs piece : List Char}
    (hPiece : piece ∈ pieces isSeparator cs) :
    piece.Sublist cs := by
  induction cs generalizing piece with
  | nil =>
      rw [pieces, List.mem_singleton] at hPiece
      rw [hPiece]
  | cons c cs ih =>
      rw [pieces] at hPiece
      split at hPiece
      · rcases List.mem_cons.mp hPiece with hEmpty | hRest
        · rw [hEmpty]
          exact List.nil_sublist _
        · exact (ih hRest).cons c
      · rcases List.exists_cons_of_ne_nil
            (pieces_ne_nil isSeparator cs) with
          ⟨first, rest, hPieces⟩
        rw [hPieces] at ih
        rw [hPieces, extendFirst] at hPiece
        rcases List.mem_cons.mp hPiece with hFirst | hRest
        · rw [hFirst]
          exact (ih List.mem_cons_self).cons_cons c
        · exact (ih (List.mem_cons_of_mem _ hRest)).cons c

/- A line end has at most a carriage return. -/
theorem dropReturn_cases
    (line : List Char) :
    dropReturn line = line ∨
      line = dropReturn line ++ ['\r'] := by
  induction line using dropReturn.induct with
  | case1 => exact Or.inl rfl
  | case2 => exact Or.inr rfl
  | case3 c hReturn =>
      exact Or.inl (by rw [dropReturn, if_neg hReturn])
  | case4 c d cs ih =>
      rw [dropReturn]
      rcases ih with hSame | hLast
      · exact Or.inl (by rw [hSame])
      · refine Or.inr ?_
        rw [List.cons_append, ← hLast]

theorem dropReturn_sublist
    (line : List Char) :
    (dropReturn line).Sublist line := by
  rcases dropReturn_cases line with hSame | hLast
  · rw [hSame]
  · have hPart :=
      List.sublist_append_left (dropReturn line) ['\r']
    rwa [← hLast] at hPart

/-
  The lines of pieces: all but the last one end in a line
  feed, and the last one counts unless it is empty.
-/
theorem closeLines_append_singleton
    (before : List (List Char))
    (last : List Char) :
    closeLines (before ++ [last]) =
      before.map dropReturn ++
        if last.isEmpty then [] else [last] := by
  induction before with
  | nil => rfl
  | cons line before ih =>
      cases before with
      | nil => rfl
      | cons next rest =>
          rw [List.cons_append, List.cons_append, closeLines,
            ← List.cons_append, ih]
          rfl

/- Pieces in front of others end in line feeds. -/
theorem closeLines_append
    (before : List (List Char))
    {rest : List (List Char)}
    (hRest : rest ≠ []) :
    closeLines (before ++ rest) =
      before.map dropReturn ++ closeLines rest := by
  induction before with
  | nil => rfl
  | cons line before ih =>
      have hSome : before ++ rest ≠ [] := by
        simp [hRest]
      rcases List.exists_cons_of_ne_nil hSome with
        ⟨next, others, hNext⟩
      rw [List.cons_append, hNext, closeLines, ← hNext, ih]
      rfl

/- The lines of texts with a line feed between them. -/
theorem lines_append
    (first second : List Char) :
    lines (first ++ '\n' :: second) =
      (pieces (· == '\n') first).map dropReturn ++
        lines second := by
  unfold lines
  rw [pieces_append rfl,
    closeLines_append _ (pieces_ne_nil _ second)]

/- The lines of a text by its last piece. -/
theorem lines_of_pieces
    {cs last : List Char}
    {before : List (List Char)}
    (hPieces : pieces (· == '\n') cs = before ++ [last]) :
    lines cs =
      before.map dropReturn ++
        if last.isEmpty then [] else [last] := by
  rw [lines, hPieces, closeLines_append_singleton]

/- A line of a text is part of it. -/
theorem sublist_of_mem_lines
    {cs line : List Char}
    (hLine : line ∈ lines cs) :
    line.Sublist cs := by
  rcases List.eq_nil_or_concat' (pieces (· == '\n') cs) with
    hNone | ⟨before, last, hPieces⟩
  · exact absurd hNone (pieces_ne_nil _ cs)
  · rw [lines_of_pieces hPieces, List.mem_append,
      List.mem_map] at hLine
    rcases hLine with ⟨piece, hPiece, hReturn⟩ | hLast
    · have hMember : piece ∈ pieces (· == '\n') cs := by
        rw [hPieces]
        exact List.mem_append_left _ hPiece
      rw [← hReturn]
      exact
        (dropReturn_sublist piece).trans
          (sublist_of_mem_pieces hMember)
    · have hMember : last ∈ pieces (· == '\n') cs := by
        rw [hPieces]
        exact List.mem_append_right _ (by simp)
      split at hLast
      · cases hLast
      · rw [List.mem_singleton.mp hLast]
        exact sublist_of_mem_pieces hMember

end Text

end Componentry
