import Componentry.Proofs.Text.Lines
import Componentry.Text.Layout

/-
  Texts whose lines are all ended.

  A text that is empty or ends with a line feed is put
  together from lines that each end with one.  What stands
  behind such a text starts a line of its own, so the lines of
  both are told apart.  Lines of a kind are told by how they
  start.

  Main declarations:
    * `Text.IsEnded`, `Text.IsEnded.append`
    * `Text.Terminates`, `Text.terminates_closed`
    * `Text.lines_append_of_isEnded`
    * `Text.unlines_append`, `Text.isEnded_unlines`
    * `Text.lines_unlines`, `Text.IsEnded.exists_unlines`
    * `Text.eq_of_pieces`, `Text.pieces_flatMap`
    * `Text.IsLine`, `Text.linesBehind`
    * `Text.linesBehind_unlines`, `Text.linesBehind_items`
-/

------------------------------------------------------------
-- Ended Texts
------------------------------------------------------------

namespace Componentry

namespace Text

/- A text is empty or ends with a line feed. -/
def IsEnded (text : String) : Prop :=
  text = "" ∨ ∃ before, text = before ++ "\n"

theorem isEnded_empty : IsEnded "" :=
  Or.inl rfl

/- Ended texts behind each other are one ended text. -/
theorem IsEnded.append
    {first second : String}
    (hFirst : IsEnded first)
    (hSecond : IsEnded second) :
    IsEnded (first ++ second) := by
  rcases hSecond with rfl | ⟨before, rfl⟩
  · rwa [String.append_empty]
  · exact Or.inr ⟨first ++ before, by rw [String.append_assoc]⟩

/- A text, and the same text with its last line ended. -/
inductive Terminates : String → String → Prop where
  | ended (before : String) :
      Terminates (before ++ "\n") (before ++ "\n")
  | added
      {text : String}
      (hOpen : ∀ before, text ≠ before ++ "\n") :
      Terminates text (text ++ "\n")

theorem terminates_closed
    (text : String) :
    Terminates text (closed text) := by
  have hEnds :
      endsLine text = true ↔
        ∃ before, text = before ++ "\n" := by
    rw [endsLine, beq_iff_eq, List.getLast?_eq_some_iff]
    constructor
    · rintro ⟨before, hText⟩
      refine ⟨String.ofList before, ?_⟩
      rw [← String.toList_inj, hText, String.toList_append,
        String.toList_ofList]
      rfl
    · rintro ⟨before, rfl⟩
      exact ⟨before.toList, String.toList_append⟩
  unfold closed
  split
  · next hClosed =>
      rcases hEnds.mp hClosed with ⟨before, rfl⟩
      exact .ended before
  · next hOpen =>
      rw [hEnds, not_exists] at hOpen
      exact .added hOpen

/- A text whose last line is ended is an ended text. -/
theorem isEnded_closed
    (text : String) :
    IsEnded (closed text) := by
  have hClosed := terminates_closed text
  generalize closed text = whole at hClosed
  cases hClosed with
  | ended before => exact Or.inr ⟨before, rfl⟩
  | added _ => exact Or.inr ⟨text, rfl⟩

end Text

end Componentry

------------------------------------------------------------
-- Lines of Ended Texts
------------------------------------------------------------

namespace Componentry

namespace Text

/- What stands behind an ended text starts a line. -/
theorem lines_append_of_isEnded
    {text : String}
    (hText : IsEnded text)
    (rest : List Char) :
    lines (text.toList ++ rest) =
      lines text.toList ++ lines rest := by
  rcases hText with rfl | ⟨before, rfl⟩
  · rfl
  · have hAll :
        ∀ behind : List Char,
          (before ++ "\n").toList ++ behind =
            before.toList ++ '\n' :: behind := by
      intro behind
      rw [String.toList_append, List.append_assoc]
      rfl
    have hLast := hAll []
    rw [List.append_nil] at hLast
    rw [hAll, hLast, lines_append, lines_append]
    simp [lines, pieces, closeLines]

/- The characters of lines, each ended by a line feed. -/
theorem toList_unlines
    (lines : List String) :
    (unlines lines).toList =
      lines.flatMap fun line => line.toList ++ ['\n'] := by
  induction lines with
  | nil => rfl
  | cons line lines ih =>
      rw [unlines, String.toList_append,
        String.toList_append, ih, List.flatMap_cons]
      rfl

theorem unlines_append
    (before after : List String) :
    unlines (before ++ after) =
      unlines before ++ unlines after := by
  induction before with
  | nil => exact String.empty_append.symm
  | cons line before ih =>
      rw [List.cons_append, unlines, unlines, ih,
        String.append_assoc, String.append_assoc,
        String.append_assoc]

theorem isEnded_unlines
    (lines : List String) :
    IsEnded (unlines lines) := by
  induction lines with
  | nil => exact isEnded_empty
  | cons line lines ih =>
      have hLine : IsEnded (line ++ "\n") := Or.inr ⟨line, rfl⟩
      exact hLine.append ih

/- Lines that are put together are found again. -/
theorem lines_unlines
    {found : List String}
    (hFound : ∀ line ∈ found, '\n' ∉ line.toList) :
    lines (unlines found).toList =
      found.map fun line => dropReturn line.toList := by
  induction found with
  | nil => rfl
  | cons line found ih =>
      rw [List.forall_mem_cons] at hFound
      have hText :
          (unlines (line :: found)).toList =
            line.toList ++ '\n' :: (unlines found).toList := by
        rw [toList_unlines, toList_unlines, List.flatMap_cons,
          List.append_assoc]
        rfl
      rw [hText, lines_append, pieces_of_not_mem hFound.1,
        ih hFound.2]
      rfl

/- The pieces of a text, ended, are the text ended. -/
theorem flatMap_pieces
    (cs : List Char) :
    (pieces (· == '\n') cs).flatMap (· ++ ['\n']) =
      cs ++ ['\n'] := by
  induction cs with
  | nil => rfl
  | cons c cs ih =>
      rw [pieces]
      split
      · next hBreak =>
          rw [List.flatMap_cons, ih, eq_of_beq hBreak]
          rfl
      · rcases List.exists_cons_of_ne_nil
            (pieces_ne_nil (· == '\n') cs) with
          ⟨first, rest, hPieces⟩
        rw [hPieces, List.flatMap_cons] at ih
        rw [hPieces, extendFirst, List.flatMap_cons,
          List.cons_append, List.cons_append, ih]
        rfl

/- So a text is its pieces, all but the last one ended. -/
theorem eq_of_pieces
    {cs last : List Char}
    {before : List (List Char)}
    (hPieces : pieces (· == '\n') cs = before ++ [last]) :
    cs = before.flatMap (· ++ ['\n']) ++ last := by
  have hText := flatMap_pieces cs
  rw [hPieces, List.flatMap_append, List.flatMap_singleton,
    ← List.append_assoc] at hText
  exact (List.append_cancel_right hText).symm

/- Lines are the pieces of the text that they make up. -/
theorem pieces_flatMap
    {before : List (List Char)}
    {last : List Char}
    (hLines : ∀ line ∈ before ++ [last], '\n' ∉ line) :
    pieces (· == '\n')
        (before.flatMap (· ++ ['\n']) ++ last) =
      before ++ [last] := by
  induction before with
  | nil => exact pieces_of_not_mem (hLines last (by simp))
  | cons line before ih =>
      rw [List.cons_append, List.forall_mem_cons] at hLines
      rw [List.flatMap_cons, List.append_assoc,
        List.append_assoc, List.singleton_append,
        pieces_append rfl, pieces_of_not_mem hLines.1,
        ih hLines.2]
      rfl

/- An ended text is put together from lines. -/
theorem IsEnded.exists_unlines
    {text : String}
    (hText : IsEnded text) :
    ∃ found : List String,
      text = unlines found ∧
        ∀ line ∈ found, '\n' ∉ line.toList := by
  rcases hText with rfl | ⟨before, rfl⟩
  · exact ⟨[], rfl, by simp⟩
  · refine
      ⟨(pieces (· == '\n') before.toList).map String.ofList,
        ?_, ?_⟩
    · rw [← String.toList_inj, toList_unlines,
        List.flatMap_map, String.toList_append]
      simp only [String.toList_ofList]
      exact (flatMap_pieces before.toList).symm
    · intro line hLine
      rcases List.mem_map.mp hLine with ⟨piece, hPiece, rfl⟩
      rw [String.toList_ofList]
      intro hBreak
      have hNot := not_separator_of_mem_pieces hPiece _ hBreak
      simp at hNot

end Text

end Componentry

------------------------------------------------------------
-- Lines by their Beginning
------------------------------------------------------------

namespace Componentry

namespace Text

/- A text that is read back as a line as it stands. -/
structure IsLine (line : String) : Prop where
  no_break : '\n' ∉ line.toList
  no_return : line.toList.getLast? ≠ some '\r'

theorem isLine_iff
    {line : String} :
    IsLine line ↔
      '\n' ∉ line.toList ∧
        line.toList.getLast? ≠ some '\r' :=
  ⟨fun hLine => ⟨hLine.no_break, hLine.no_return⟩,
    fun hLine => ⟨hLine.1, hLine.2⟩⟩

instance (line : String) : Decidable (IsLine line) :=
  decidable_of_iff _ isLine_iff.symm

/- A text may be put in front of a line that is not empty. -/
theorem IsLine.append
    {front line : String}
    (hFront : '\n' ∉ front.toList)
    (hLine : IsLine line ∧ line ≠ "") :
    IsLine (front ++ line) := by
  constructor
  · rw [String.toList_append, List.mem_append, not_or]
    exact ⟨hFront, hLine.1.no_break⟩
  · rw [String.toList_append,
      List.getLast?_append_of_ne_nil _
        (mt String.toList_eq_nil_iff.mp hLine.2)]
    exact hLine.1.no_return

/- Such a line has no carriage return to drop. -/
theorem IsLine.dropReturn_eq
    {line : String}
    (hLine : IsLine line) :
    dropReturn line.toList = line.toList := by
  rcases dropReturn_cases line.toList with hSame | hReturn
  · exact hSame
  · exfalso
    apply hLine.no_return
    rw [hReturn, List.getLast?_concat]

/- What stands behind a beginning, if a line has it. -/
def behind? (start line : String) : Option String :=
  (stripPrefix? start.toList line.toList).map String.ofList

/- The rests of the lines that have a given beginning. -/
def linesBehind (start text : String) : List String :=
  ((lines text.toList).map String.ofList).filterMap
    (behind? start)

theorem behind?_append
    (start rest : String) :
    behind? start (start ++ rest) = some rest := by
  have hStrip :
      stripPrefix? start.toList (start ++ rest).toList =
        some rest.toList := by
    rw [stripPrefix?_eq_some_iff, String.toList_append]
  rw [behind?, hStrip, Option.map_some, String.ofList_toList]

/- A line that starts with another character is not found. -/
theorem behind?_eq_none
    {start line : String}
    (hStart : start ≠ "")
    (hFirst : line.toList.head? ≠ start.toList.head?) :
    behind? start line = none := by
  rw [behind?, Option.map_eq_none_iff,
    Option.eq_none_iff_forall_ne_some]
  intro rest hRest
  apply hFirst
  rw [stripPrefix?_eq_some_iff.mp hRest]
  apply List.head?_append_of_ne_nil
  exact mt String.toList_eq_nil_iff.mp hStart

/- All lines with the same beginning are found. -/
theorem filterMap_behind?_map
    (start : String)
    (rests : List String) :
    (rests.map (start ++ ·)).filterMap (behind? start) =
      rests := by
  rw [List.filterMap_map]
  simp only [Function.comp_def, behind?_append,
    List.filterMap_some]

/- Lines that are put together are looked at one by one. -/
theorem linesBehind_unlines
    (start : String)
    {found : List String}
    (hFound : ∀ line ∈ found, IsLine line) :
    linesBehind start (unlines found) =
      found.filterMap (behind? start) := by
  have hLines :
      lines (unlines found).toList =
        found.map String.toList := by
    rw [lines_unlines fun line hLine =>
      (hFound line hLine).no_break]
    apply List.map_congr_left
    intro line hLine
    exact (hFound line hLine).dropReturn_eq
  rw [linesBehind, hLines, List.map_map]
  simp only [Function.comp_def, String.ofList_toList,
    List.map_id']

/- A line that does not have a given beginning. -/
structure IsOther (start line : String) : Prop where
  is_line : IsLine line
  not_found : behind? start line = none

instance (start line : String) :
    Decidable (IsOther start line) :=
  decidable_of_iff
    (IsLine line ∧ behind? start line = none)
    ⟨fun hOther => ⟨hOther.1, hOther.2⟩,
      fun hOther => ⟨hOther.is_line, hOther.not_found⟩⟩

/- A line that is not indented has no indented beginning. -/
theorem IsOther.of_indented
    {start line : String}
    (hStart : start.toList.head? = some ' ')
    (hLine : IsLine line)
    (hFirst : line.toList.head? ≠ some ' ') :
    IsOther start line where
  is_line := hLine
  not_found := by
    apply behind?_eq_none
    · rintro rfl
      cases hStart
    · rwa [hStart]

/-
  Between other lines, what is found are the lines that are
  written for some items, one item after the other.
-/
theorem linesBehind_items
    {α : Type}
    {start : String}
    {before after : List String}
    {items : List α}
    {written : α → List String}
    (found : α → List String)
    (hBefore : ∀ line ∈ before, IsOther start line)
    (hAfter : ∀ line ∈ after, IsOther start line)
    (hLines :
      ∀ item ∈ items, ∀ line ∈ written item, IsLine line)
    (hFound :
      ∀ item ∈ items,
        (written item).filterMap (behind? start) =
          found item) :
    linesBehind start
        (unlines (before ++ items.flatMap written ++ after)) =
      items.flatMap found := by
  have hNone :
      ∀ others : List String,
        (∀ line ∈ others, IsOther start line) →
          others.filterMap (behind? start) = [] := by
    intro others hOthers
    rw [List.filterMap_eq_nil_iff]
    intro line hLine
    exact (hOthers line hLine).not_found
  rw [linesBehind_unlines]
  · rw [List.filterMap_append, List.filterMap_append,
      hNone before hBefore, hNone after hAfter,
      List.nil_append, List.append_nil,
      List.filterMap_flatMap]
    exact List.flatMap_congr hFound
  · simp only [List.forall_mem_append,
      List.forall_mem_flatMap]
    refine ⟨⟨?_, hLines⟩, ?_⟩
    · intro line hLine
      exact (hBefore line hLine).is_line
    · intro line hLine
      exact (hAfter line hLine).is_line

end Text

end Componentry
