import Componentry.Composition.Template
import Componentry.Proofs.Text.Runs

/-
  Slots: how placeholders are written.

  A slot is a name between double braces with white space
  around it, and behind a bar the name of a filter.  What is
  found at the start of a text is a placeholder just if the
  text starts with a slot, and there is one such slot at most.

  Main declarations:
    * `Slot`, `Slot.written`, `Slot.IsWritten`
    * `placeholder?_eq_some_iff`
    * `Slot.written_append_inj`
-/

------------------------------------------------------------
-- Slots
------------------------------------------------------------

namespace Componentry

namespace Template

/- A bar with the name of a filter and the space around it. -/
structure Bar where
  before : List Char
  word : String
  behind : List Char
deriving DecidableEq, Repr

namespace Bar

/- A bar as it is written. -/
def written (bar : Bar) : List Char :=
  '|' :: (bar.before ++ (bar.word.toList ++ bar.behind))

/- White space, a word and white space. -/
structure IsWritten (bar : Bar) : Prop where
  before : ∀ c ∈ bar.before, Text.isBlank c = true
  some : bar.word.toList ≠ []
  word : ∀ c ∈ bar.word.toList, isFilterChar c = true
  behind : ∀ c ∈ bar.behind, Text.isBlank c = true

end Bar

/- What stands behind a name and its space. -/
def endingOf : Option Bar → List Char
  | none => ['\x7d', '\x7d']
  | some bar => bar.written ++ ['\x7d', '\x7d']

/- A name with the space around it, and a bar or none. -/
structure Slot where
  before : List Char
  name : String
  behind : List Char
  bar : Option Bar
deriving DecidableEq, Repr

namespace Slot

/- A slot as it is written. -/
def written (slot : Slot) : List Char :=
  '\x7b' :: '\x7b' ::
    (slot.before ++
      (slot.name.toList ++
        (slot.behind ++ endingOf slot.bar)))

/- White space, an identifier and white space. -/
structure IsWritten (slot : Slot) : Prop where
  before : ∀ c ∈ slot.before, Text.isBlank c = true
  name : Text.isIdentifier slot.name = true
  behind : ∀ c ∈ slot.behind, Text.isBlank c = true
  bar : ∀ bar ∈ slot.bar, bar.IsWritten

/- The placeholder that a slot stands for. -/
def placeholder (slot : Slot) : Placeholder :=
  ⟨slot.name, slot.bar.map (·.word)⟩

end Slot

end Template

end Componentry

------------------------------------------------------------
-- Where Parts of a Slot End
------------------------------------------------------------

namespace Componentry

namespace Template

variable {slot : Slot} {bar : Bar}
variable (rest : List Char)

/- The letters of a filter's name are those of names. -/
theorem isNameChar_of_isFilterChar
    {c : Char}
    (hChar : isFilterChar c = true) :
    Text.isNameChar c = true :=
  Text.isNameChar_of_isNameStart hChar

theorem isFilterChar_of_isBlank
    {c : Char}
    (hBlank : Text.isBlank c = true) :
    isFilterChar c = false := by
  cases hChar : isFilterChar c with
  | false => rfl
  | true =>
      have hName := isNameChar_of_isFilterChar hChar
      rw [Text.isNameChar_of_isBlank hBlank] at hName
      cases hName

namespace Bar

/- A bar as it is written, with braces and a text behind. -/
theorem written_append
    (bar : Bar) :
    bar.written ++ ['\x7d', '\x7d'] ++ rest =
      '|' ::
        (bar.before ++
          (bar.word.toList ++
            (bar.behind ++ '\x7d' :: '\x7d' :: rest))) := by
  simp [written]

/- The space in front of a word ends with it. -/
theorem IsWritten.stopsAt_word
    (hBar : bar.IsWritten) :
    Text.StopsAt Text.isBlank (bar.word.toList ++ rest) := by
  rcases List.exists_cons_of_ne_nil hBar.some with
    ⟨c, word, hWord⟩
  have hChar := hBar.word c (by rw [hWord]; simp)
  rw [hWord]
  exact
    Text.stopsAt_cons
      (Text.isBlank_of_isNameChar
        (isNameChar_of_isFilterChar hChar))

/- A word ends with the space or the braces behind it. -/
theorem IsWritten.stopsAt_behind
    (hBar : bar.IsWritten) :
    Text.StopsAt isFilterChar
      (bar.behind ++ '\x7d' :: '\x7d' :: rest) :=
  Text.stopsAt_append
    (fun c hBlank =>
      isFilterChar_of_isBlank (hBar.behind c hBlank))
    (Text.stopsAt_cons (by decide))

end Bar

/- White space ends with closing braces. -/
theorem stopsAt_braces :
    Text.StopsAt Text.isBlank ('\x7d' :: '\x7d' :: rest) :=
  Text.stopsAt_cons (by decide)

/- An ending starts with a bar or a brace. -/
theorem stopsAt_ending
    {p : Char → Bool}
    (hBar : p '|' = false)
    (hBrace : p '\x7d' = false)
    (bar : Option Bar) :
    Text.StopsAt p (endingOf bar ++ rest) := by
  cases bar with
  | none => exact Text.stopsAt_cons hBrace
  | some bar => exact Text.stopsAt_cons hBar

/- The space in front of an ending ends with it. -/
theorem stopsAt_ending_blank
    (bar : Option Bar) :
    Text.StopsAt Text.isBlank (endingOf bar ++ rest) :=
  stopsAt_ending rest (by decide) (by decide) bar

namespace Slot

/- A slot as it is written, with a text behind it. -/
theorem written_append
    (slot : Slot) :
    slot.written ++ rest =
      '\x7b' :: '\x7b' ::
        (slot.before ++
          (slot.name.toList ++
            (slot.behind ++ (endingOf slot.bar ++ rest)))) := by
  simp [written]

/- Every character of an identifier may stand in it. -/
theorem IsWritten.isNameChar
    (hSlot : slot.IsWritten) :
    ∀ c ∈ slot.name.toList, Text.isNameChar c = true := by
  have hName := hSlot.name
  unfold Text.isIdentifier at hName
  split at hName
  · cases hName
  · next c cs hChars =>
      rw [Bool.and_eq_true, List.all_eq_true] at hName
      rw [hChars, List.forall_mem_cons]
      exact
        ⟨Text.isNameChar_of_isNameStart hName.1, hName.2⟩

/- The space in front of a name ends with it. -/
theorem IsWritten.stopsAt_name
    (hSlot : slot.IsWritten) :
    Text.StopsAt Text.isBlank (slot.name.toList ++ rest) := by
  have hName := hSlot.name
  unfold Text.isIdentifier at hName
  split at hName
  · cases hName
  · next c cs hChars =>
      have hChar :=
        hSlot.isNameChar c (by rw [hChars]; simp)
      rw [hChars]
      exact
        Text.stopsAt_cons (Text.isBlank_of_isNameChar hChar)

/- A name ends with the space or the ending behind it. -/
theorem IsWritten.stopsAt_behind
    (hSlot : slot.IsWritten) :
    Text.StopsAt Text.isNameChar
      (slot.behind ++ (endingOf slot.bar ++ rest)) :=
  Text.stopsAt_append
    (fun c hBlank =>
      Text.isNameChar_of_isBlank (hSlot.behind c hBlank))
    (stopsAt_ending rest (by decide) (by decide) slot.bar)

end Slot

end Template

end Componentry

------------------------------------------------------------
-- One Slot at Most
------------------------------------------------------------

namespace Componentry

namespace Template

variable {rest otherRest : List Char}

theorem Bar.written_append_inj
    {bar other : Bar}
    (hBar : bar.IsWritten)
    (hOther : other.IsWritten)
    (hText :
      bar.written ++ ['\x7d', '\x7d'] ++ rest =
        other.written ++ ['\x7d', '\x7d'] ++ otherRest) :
    bar = other ∧ rest = otherRest := by
  rw [written_append, written_append, List.cons.injEq]
    at hText
  rcases
      Text.run_inj hText.2 hBar.before
        (hBar.stopsAt_word _) hOther.before
        (hOther.stopsAt_word _) with
    ⟨hBefore, hText⟩
  rcases
      Text.run_inj hText hBar.word (hBar.stopsAt_behind _)
        hOther.word (hOther.stopsAt_behind _) with
    ⟨hWord, hText⟩
  rcases
      Text.run_inj hText hBar.behind (stopsAt_braces _)
        hOther.behind (stopsAt_braces _) with
    ⟨hBehind, hText⟩
  rw [List.cons.injEq, List.cons.injEq] at hText
  refine ⟨?_, hText.2.2⟩
  cases bar
  cases other
  rw [String.toList_inj] at hWord
  dsimp only at hBefore hWord hBehind
  rw [hBefore, hWord, hBehind]

theorem ending_append_inj
    {bar other : Option Bar}
    (hBar : ∀ b ∈ bar, b.IsWritten)
    (hOther : ∀ b ∈ other, b.IsWritten)
    (hText :
      endingOf bar ++ rest = endingOf other ++ otherRest) :
    bar = other ∧ rest = otherRest := by
  cases bar with
  | none =>
      cases other with
      | none => simpa [endingOf] using hText
      | some other =>
          simp [endingOf, Bar.written] at hText
  | some bar =>
      cases other with
      | none => simp [endingOf, Bar.written] at hText
      | some other =>
          rcases
              Bar.written_append_inj (hBar bar rfl)
                (hOther other rfl) hText with
            ⟨hSame, hRest⟩
          exact ⟨congrArg some hSame, hRest⟩

/- A text starts with one slot at most. -/
theorem Slot.written_append_inj
    {slot other : Slot}
    (hSlot : slot.IsWritten)
    (hOther : other.IsWritten)
    (hText : slot.written ++ rest = other.written ++ otherRest) :
    slot = other ∧ rest = otherRest := by
  rw [written_append, written_append, List.cons.injEq,
    List.cons.injEq] at hText
  rcases
      Text.run_inj hText.2.2 hSlot.before
        (hSlot.stopsAt_name _) hOther.before
        (hOther.stopsAt_name _) with
    ⟨hBefore, hText⟩
  rcases
      Text.run_inj hText hSlot.isNameChar
        (hSlot.stopsAt_behind _) hOther.isNameChar
        (hOther.stopsAt_behind _) with
    ⟨hName, hText⟩
  rcases
      Text.run_inj hText hSlot.behind
        (stopsAt_ending_blank _ _) hOther.behind
        (stopsAt_ending_blank _ _) with
    ⟨hBehind, hText⟩
  rcases ending_append_inj hSlot.bar hOther.bar hText with
    ⟨hBar, hRest⟩
  refine ⟨?_, hRest⟩
  cases slot
  cases other
  rw [String.toList_inj] at hName
  dsimp only at hBefore hName hBehind hBar
  rw [hBefore, hName, hBehind, hBar]

end Template

end Componentry

------------------------------------------------------------
-- Slots Are Found
------------------------------------------------------------

namespace Componentry

namespace Template

variable {cs rest : List Char}

/- A name is found where it stands. -/
theorem name?_append
    {name : String}
    (hName : Text.isIdentifier name = true)
    (hRest : Text.StopsAt Text.isNameChar rest) :
    name? (name.toList ++ rest) =
      some (name.toList, rest) := by
  unfold Text.isIdentifier at hName
  split at hName
  · cases hName
  · next c tail hChars =>
      rw [Bool.and_eq_true, List.all_eq_true] at hName
      rw [hChars, List.cons_append, name?, if_pos hName.1,
        Text.takeWhile_run hName.2 hRest,
        Text.dropWhile_run hName.2 hRest]

/- What is found is a name in front of a rest. -/
theorem exists_of_name?_eq_some
    {found : List Char}
    (hFound : name? cs = some (found, rest)) :
    Text.isIdentifier (String.ofList found) = true ∧
      cs = found ++ rest := by
  cases cs with
  | nil => cases hFound
  | cons c tail =>
      rw [name?] at hFound
      split at hFound
      · next hStart =>
          cases hFound
          constructor
          · rw [Text.isIdentifier, String.toList_ofList]
            dsimp only
            rw [hStart, List.all_takeWhile]
            rfl
          · rw [List.cons_append,
              List.takeWhile_append_dropWhile]
      · cases hFound

theorem close?_eq_some_iff :
    close? cs = some rest ↔
      cs = '\x7d' :: '\x7d' :: rest := by
  constructor
  · intro hClose
    unfold close? at hClose
    split at hClose
    · cases hClose
      rfl
    · cases hClose
  · rintro rfl
    rfl

/- An ending is found behind white space. -/
theorem filter?_append
    {behind : List Char}
    {bar : Option Bar}
    (hBehind : ∀ c ∈ behind, Text.isBlank c = true)
    (hBar : ∀ b ∈ bar, b.IsWritten) :
    filter? (behind ++ (endingOf bar ++ rest)) =
      some (bar.map (·.word), rest) := by
  rw [filter?,
    Text.trimStart_append hBehind (stopsAt_ending_blank _ _)]
  cases bar with
  | none => rfl
  | some bar =>
      have hWritten := hBar bar rfl
      rw [endingOf, Bar.written_append]
      split
      · next tail hTail =>
          cases hTail
          rw [Text.trimStart_append hWritten.before
            (hWritten.stopsAt_word _)]
          dsimp only
          rw [Text.takeWhile_run hWritten.word
              (hWritten.stopsAt_behind _),
            Text.dropWhile_run hWritten.word
              (hWritten.stopsAt_behind _),
            Text.trimStart_append hWritten.behind
              (stopsAt_braces _),
            close?_eq_some_iff.mpr rfl, String.ofList_toList]
          exact if_neg (by simpa using hWritten.some)
      · next hOther => exact absurd rfl (hOther _)

/- What is found is an ending behind white space. -/
theorem exists_of_filter?_eq_some
    {filter : Option String}
    (hFound : filter? cs = some (filter, rest)) :
    ∃ behind bar,
      (∀ c ∈ behind, Text.isBlank c = true) ∧
        (∀ b ∈ bar, b.IsWritten) ∧
        cs = behind ++ (endingOf bar ++ rest) ∧
        filter = bar.map (·.word) := by
  rcases Text.exists_of_trimStart cs with ⟨behind, hBehind, hText⟩
  rw [filter?] at hFound
  split at hFound
  · next tail hTail =>
      dsimp only at hFound
      split at hFound
      · cases hFound
      · next hSome =>
          rcases Option.map_eq_some_iff.mp hFound with
            ⟨left, hClose, hSame⟩
          cases hSame
          rw [close?_eq_some_iff] at hClose
          rcases Text.exists_of_trimStart tail with
            ⟨before, hBefore, hWord⟩
          rcases
              Text.exists_of_trimStart
                ((Text.trimStart tail).dropWhile isFilterChar)
            with ⟨after, hAfter, hBraces⟩
          rw [hClose] at hBraces
          refine
            ⟨behind,
              some
                ⟨before,
                  String.ofList
                    ((Text.trimStart tail).takeWhile
                      isFilterChar),
                  after⟩,
              hBehind, ?_, ?_, rfl⟩
          · rintro b ⟨⟩
            refine ⟨hBefore, ?_, ?_, hAfter⟩
            · rwa [String.toList_ofList, ne_eq,
                ← List.isEmpty_iff]
            · rw [String.toList_ofList]
              exact fun _ => List.mem_takeWhile_imp
          · rw [endingOf, Bar.written_append,
              String.toList_ofList, ← hBraces,
              List.takeWhile_append_dropWhile, ← hWord,
              ← hTail, ← hText]
  · rcases Option.map_eq_some_iff.mp hFound with
      ⟨left, hClose, hSame⟩
    cases hSame
    rw [close?_eq_some_iff] at hClose
    refine ⟨behind, none, hBehind, ?_, ?_, rfl⟩
    · rintro b ⟨⟩
    · rw [hText, hClose]
      rfl

/- A text starts with a placeholder if it does with a slot. -/
theorem placeholder?_eq_some_iff
    {placeholder : Placeholder} :
    placeholder? cs = some (placeholder, rest) ↔
      ∃ slot : Slot,
        slot.IsWritten ∧
          cs = slot.written ++ rest ∧
          placeholder = slot.placeholder := by
  constructor
  · intro hFound
    unfold placeholder? at hFound
    split at hFound
    · next tail =>
        rcases Text.exists_of_trimStart tail with
          ⟨before, hBefore, hText⟩
        split at hFound
        · cases hFound
        · next name afterName hName =>
            rcases exists_of_name?_eq_some hName with
              ⟨hIdentifier, hTail⟩
            rcases Option.map_eq_some_iff.mp hFound with
              ⟨⟨filter, left⟩, hFilter, hSame⟩
            cases hSame
            rcases exists_of_filter?_eq_some hFilter with
              ⟨behind, bar, hBehind, hBar, hAfter, rfl⟩
            refine
              ⟨⟨before, String.ofList name, behind, bar⟩,
                ⟨hBefore, hIdentifier, hBehind, hBar⟩, ?_, rfl⟩
            rw [Slot.written_append, String.toList_ofList,
              ← hAfter, ← hTail, ← hText]
    · cases hFound
  · rintro ⟨slot, hSlot, rfl, rfl⟩
    rw [Slot.written_append, placeholder?,
      Text.trimStart_append hSlot.before (hSlot.stopsAt_name _),
      name?_append hSlot.name (hSlot.stopsAt_behind _)]
    dsimp only
    rw [filter?_append hSlot.behind hSlot.bar,
      String.ofList_toList]
    rfl

end Template

end Componentry
