import Componentry.Proofs.Composition.Slots

/-
  Templates: how texts with slots are read and filled in.

  A page is a literal text and slots with literal texts behind
  them.  A text makes a template just if a page is written
  like it, and only one page is.  The template has the names
  of that page, and it is filled in as the page is, unless one
  of the names has no value.

  Main declarations:
    * `Page`, `Page.source`, `Page.IsOver`
    * `split_page`, `exists_slots`, `page_inj`
    * `exists_ofText_iff_page`
    * `renderHoles_eq`
    * `IsRead`, `ofText_isRead`
-/

------------------------------------------------------------
-- Pages
------------------------------------------------------------

namespace Componentry

namespace Template

/- A text that does not hold two opening braces. -/
def IsLiteral (cs : List Char) : Prop :=
  ¬ ['\x7b', '\x7b'] <:+: cs

/- The filter that a slot names. -/
def Slot.filter? (slot : Slot) : Option Filter :=
  slot.bar.bind (Filter.ofName? ·.word)

/- A literal text, and slots with the texts behind them. -/
structure Page where
  lead : List Char
  slots : List (Slot × List Char)
deriving DecidableEq, Repr

/- Slots as they are written, with the texts behind them. -/
def textOf : List (Slot × List Char) → List Char
  | [] => []
  | (slot, text) :: rest =>
      slot.written ++ (text ++ textOf rest)

namespace Page

/- A page as it is written. -/
def source (page : Page) : String :=
  String.ofList (page.lead ++ textOf page.slots)

/- The names in the slots, in order. -/
def names (page : Page) : List String :=
  page.slots.map (·.1.name)

/- The texts of a page are literal, and its slots are slots. -/
structure IsWritten (page : Page) : Prop where
  lead : IsLiteral page.lead
  slots : ∀ part ∈ page.slots, part.1.IsWritten
  texts : ∀ part ∈ page.slots, IsLiteral part.2

/- The slots have declared names and known filters. -/
structure IsOver
    (parameters : List String)
    (page : Page) : Prop extends page.IsWritten where
  declared : ∀ part ∈ page.slots, part.1.name ∈ parameters
  known :
    ∀ part ∈ page.slots,
      ∀ bar ∈ part.1.bar,
        bar.word = "upper" ∨ bar.word = "lower"

/- What stands behind a slot is a page of its own. -/
theorem isWritten_cons_iff
    {lead text : List Char}
    {slot : Slot}
    {slots : List (Slot × List Char)} :
    IsWritten ⟨lead, (slot, text) :: slots⟩ ↔
      IsLiteral lead ∧
        slot.IsWritten ∧ IsWritten ⟨text, slots⟩ := by
  constructor
  · rintro ⟨hLead, hSlots, hTexts⟩
    rw [List.forall_mem_cons] at hSlots hTexts
    exact
      ⟨hLead, hSlots.1, ⟨hTexts.1, hSlots.2, hTexts.2⟩⟩
  · rintro ⟨hLead, hSlot, hText, hSlots, hTexts⟩
    exact
      ⟨hLead, List.forall_mem_cons.mpr ⟨hSlot, hSlots⟩,
        List.forall_mem_cons.mpr ⟨hText, hTexts⟩⟩

end Page

/- Values in the place of slots, with the texts behind them. -/
def filledSlots
    (values : String → Option String) :
    List (Slot × List Char) → String
  | [] => ""
  | (slot, text) :: rest =>
      Filter.apply slot.filter? ((values slot.name).getD "")
        ++ String.ofList text ++ filledSlots values rest

/- A page with values in the place of its slots. -/
def Page.filledIn
    (values : String → Option String)
    (page : Page) :
    String :=
  String.ofList page.lead ++ filledSlots values page.slots

end Template

end Componentry

------------------------------------------------------------
-- Literal Texts
------------------------------------------------------------

namespace Componentry

namespace Template

/- Two opening braces start a text or stand in its rest. -/
theorem isLiteral_cons_iff
    {c : Char}
    {cs : List Char} :
    IsLiteral (c :: cs) ↔
      ¬ (c = '\x7b' ∧ ∃ rest, cs = '\x7b' :: rest) ∧
        IsLiteral cs := by
  have hStart :
      ['\x7b', '\x7b'] <+: c :: cs ↔
        c = '\x7b' ∧ ∃ rest, cs = '\x7b' :: rest := by
    rw [List.cons_prefix_cons, eq_comm]
    apply and_congr_right
    intro _
    constructor
    · rintro ⟨rest, rfl⟩
      exact ⟨rest, rfl⟩
    · rintro ⟨rest, rfl⟩
      exact ⟨rest, rfl⟩
  unfold IsLiteral
  rw [List.infix_cons_iff, hStart, not_or]

theorem opening?_eq_none_iff
    {cs : List Char} :
    opening? cs = none ↔ IsLiteral cs := by
  induction cs using opening?.induct with
  | case1 rest =>
      rw [opening?, isLiteral_cons_iff]
      simp
  | case2 c rest hNot ih =>
      have hOther :
          ¬ (c = '\x7b' ∧ ∃ tail, rest = '\x7b' :: tail) := by
        rintro ⟨hBrace, tail, hTail⟩
        exact hNot tail hBrace hTail
      rw [opening?, ih, isLiteral_cons_iff]
      · exact (and_iff_right hOther).symm
      · exact hNot
  | case3 =>
      rw [opening?]
      simp [IsLiteral]

/- Literal texts pass the check. -/
theorem checkLiteral_eq_ok_iff
    {cs : List Char}
    {text : String} :
    checkLiteral cs = .ok text ↔
      IsLiteral cs ∧ text = String.ofList cs := by
  rw [checkLiteral, ← opening?_eq_none_iff]
  cases opening? cs with
  | none => simp [eq_comm]
  | some rest => simp

/-
  No placeholder starts in a literal text: not even at its
  last character, where it is a brace in front of a slot.
-/
theorem placeholder?_of_isLiteral
    {c : Char}
    {lead : List Char}
    (hLiteral : IsLiteral (c :: lead))
    (slots : List (Slot × List Char)) :
    placeholder? (c :: (lead ++ textOf slots)) = none := by
  rw [isLiteral_cons_iff] at hLiteral
  unfold placeholder?
  split
  · next rest hText =>
      rw [List.cons.injEq] at hText
      cases lead with
      | cons d lead =>
          rw [List.cons_append, List.cons.injEq] at hText
          exact
            absurd ⟨hText.1, lead, by rw [hText.2.1]⟩
              hLiteral.1
      | nil =>
          cases slots with
          | nil => cases hText.2
          | cons part slots =>
              rcases part with ⟨slot, text⟩
              rw [List.nil_append, textOf,
                Slot.written_append, List.cons.injEq] at hText
              rw [← hText.2.2, Text.trimStart,
                List.dropWhile_cons_of_neg (by decide), name?,
                if_neg (by decide)]
  · rfl

end Template

end Componentry

------------------------------------------------------------
-- Splitting
------------------------------------------------------------

namespace Componentry

namespace Template

variable {cs : List Char}

theorem split_nil : split [] = ⟨[], []⟩ := by
  rw [split]

/- A placeholder is cut off. -/
theorem split_of_some
    {placeholder : Placeholder}
    {after : List Char}
    (hFound : placeholder? cs = some (placeholder, after)) :
    split cs =
      ⟨[], (placeholder, (split after).lead) ::
        (split after).holes⟩ := by
  cases cs with
  | nil => cases hFound
  | cons c rest =>
      rw [split]
      split
      · next found behind hOther =>
          rw [hFound] at hOther
          cases hOther
          rfl
      · next hNone =>
          rw [hFound] at hNone
          cases hNone

/- Where there is none a character is copied. -/
theorem split_of_none
    {c : Char}
    (hNone : placeholder? (c :: cs) = none) :
    split (c :: cs) =
      ⟨c :: (split cs).lead, (split cs).holes⟩ := by
  rw [split]
  split
  · next found behind hOther =>
      rw [hNone] at hOther
      cases hOther
  · rfl

/- What a split text has of a slot and the text behind it. -/
def partOf
    (part : Slot × List Char) :
    Placeholder × List Char :=
  (part.1.placeholder, part.2)

/- A literal text is not split. -/
theorem split_append
    {lead : List Char}
    (hLead : IsLiteral lead)
    (slots : List (Slot × List Char)) :
    split (lead ++ textOf slots) =
      ⟨lead ++ (split (textOf slots)).lead,
        (split (textOf slots)).holes⟩ := by
  induction lead with
  | nil => rfl
  | cons c lead ih =>
      rw [List.cons_append,
        split_of_none (placeholder?_of_isLiteral hLead slots),
        ih (isLiteral_cons_iff.mp hLead).2]
      rfl

/- A page is split into what it is made of. -/
theorem split_page
    {lead : List Char}
    {slots : List (Slot × List Char)}
    (hPage : Page.IsWritten ⟨lead, slots⟩) :
    split (lead ++ textOf slots) =
      ⟨lead, slots.map partOf⟩ := by
  induction slots generalizing lead with
  | nil =>
      rw [split_append hPage.lead, textOf, split_nil,
        List.append_nil]
      rfl
  | cons part slots ih =>
      rcases part with ⟨slot, text⟩
      rcases Page.isWritten_cons_iff.mp hPage with
        ⟨hLead, hSlot, hRest⟩
      have hFound :
          placeholder? (textOf ((slot, text) :: slots)) =
            some (slot.placeholder, text ++ textOf slots) :=
        placeholder?_eq_some_iff.mpr ⟨slot, hSlot, rfl, rfl⟩
      rw [split_append hLead, split_of_some hFound, ih hRest,
        List.append_nil]
      rfl

/- A literal text may end in a brace in front of a slot. -/
example :
    split "$\x7b\x7b\x7bproject | upper\x7d\x7d_X\x7d".toList =
      ⟨['$', '\x7b'],
        [(⟨"project", some "upper"⟩, ['_', 'X', '\x7d'])]⟩ := by
  cbv

/- Every text is made of slots and what is between them. -/
theorem exists_slots
    (cs : List Char) :
    ∃ slots : List (Slot × List Char),
      (∀ part ∈ slots, part.1.IsWritten) ∧
        cs = (split cs).lead ++ textOf slots ∧
        (split cs).holes = slots.map partOf := by
  induction cs using split.induct with
  | case1 => exact ⟨[], by simp, by simp [split_nil, textOf]⟩
  | case2 c rest placeholder after hFound hLess ih =>
      rcases ih with ⟨slots, hWritten, hText, hHoles⟩
      rcases placeholder?_eq_some_iff.mp hFound with
        ⟨slot, hSlot, hStart, rfl⟩
      refine
        ⟨(slot, (split after).lead) :: slots, ?_, ?_, ?_⟩
      · rw [List.forall_mem_cons]
        exact ⟨hSlot, hWritten⟩
      · rw [split_of_some hFound, textOf, List.nil_append,
          ← hText, hStart]
      · rw [split_of_some hFound, List.map_cons, ← hHoles]
        rfl
  | case3 c rest hNone ih =>
      rcases ih with ⟨slots, hWritten, hText, hHoles⟩
      refine ⟨slots, hWritten, ?_, ?_⟩
      · rw [split_of_none hNone, List.cons_append, ← hText]
      · rw [split_of_none hNone, hHoles]

end Template

end Componentry

------------------------------------------------------------
-- One Page at Most
------------------------------------------------------------

namespace Componentry

namespace Template

/- No slot is written in an empty text. -/
theorem textOf_eq_nil_iff
    {slots : List (Slot × List Char)} :
    textOf slots = [] ↔ slots = [] := by
  cases slots with
  | nil => simp [textOf]
  | cons part slots => simp [textOf, Slot.written]

/- A text has one literal text at its start. -/
theorem lead_inj
    {lead otherLead : List Char}
    {slots others : List (Slot × List Char)}
    (hPage : Page.IsWritten ⟨lead, slots⟩)
    (hOther : Page.IsWritten ⟨otherLead, others⟩)
    (hText : lead ++ textOf slots = otherLead ++ textOf others) :
    lead = otherLead := by
  have hSplit := congrArg split hText
  rw [split_page hPage, split_page hOther, Split.mk.injEq]
    at hSplit
  exact hSplit.1

/- A text is cut into literal texts and slots in one way. -/
theorem page_inj
    {lead otherLead : List Char}
    {slots others : List (Slot × List Char)}
    (hPage : Page.IsWritten ⟨lead, slots⟩)
    (hOther : Page.IsWritten ⟨otherLead, others⟩)
    (hText : lead ++ textOf slots = otherLead ++ textOf others) :
    lead = otherLead ∧ slots = others := by
  induction slots generalizing lead otherLead others with
  | nil =>
      have hLead := lead_inj hPage hOther hText
      rw [hLead, List.append_cancel_left_eq, textOf, eq_comm,
        textOf_eq_nil_iff] at hText
      exact ⟨hLead, hText.symm⟩
  | cons part slots ih =>
      have hLead := lead_inj hPage hOther hText
      rw [hLead, List.append_cancel_left_eq] at hText
      cases others with
      | nil => cases textOf_eq_nil_iff.mp hText
      | cons other others =>
          rcases part with ⟨slot, text⟩
          rcases other with ⟨otherSlot, otherText⟩
          rcases Page.isWritten_cons_iff.mp hPage with
            ⟨-, hSlot, hRest⟩
          rcases Page.isWritten_cons_iff.mp hOther with
            ⟨-, hOtherSlot, hOtherRest⟩
          have hStart :
              slot = otherSlot ∧
                text ++ textOf slots =
                  otherText ++ textOf others :=
            Slot.written_append_inj hSlot hOtherSlot hText
          rcases ih hRest hOtherRest hStart.2 with
            ⟨hSame, hSlots⟩
          rw [hLead, hStart.1, hSame, hSlots]
          exact ⟨rfl, rfl⟩

/- Two pages are not written alike. -/
theorem Page.source_inj
    {page other : Page}
    (hPage : page.IsWritten)
    (hOther : other.IsWritten)
    (hSource : page.source = other.source) :
    page = other := by
  rw [source, source, String.ofList_inj] at hSource
  rcases page_inj hPage hOther hSource with ⟨hLead, hSlots⟩
  cases page
  cases other
  dsimp only at hLead hSlots
  rw [hLead, hSlots]

end Template

end Componentry

------------------------------------------------------------
-- Checking
------------------------------------------------------------

namespace Componentry

namespace Template

variable {parameters : List String}

/-
  A placeholder has a declared name and a known filter, and a
  literal text stands behind it.
-/
structure IsSound
    (parameters : List String)
    (part : Placeholder × List Char) : Prop where
  declared : part.1.name ∈ parameters
  known :
    ∀ word ∈ part.1.filter, word = "upper" ∨ word = "lower"
  literal : IsLiteral part.2

/- The hole that a placeholder makes. -/
def holeOf (part : Placeholder × List Char) : Hole :=
  ⟨part.1.name, part.1.filter.bind Filter.ofName?,
    String.ofList part.2⟩

/- The filters that are known. -/
theorem isSome_ofName?_iff
    {word : String} :
    (Filter.ofName? word).isSome ↔
      word = "upper" ∨ word = "lower" := by
  unfold Filter.ofName?
  split
  · simp
  · simp
  · next hUpper hLower =>
      simp only [Option.isSome_none, Bool.false_eq_true,
        false_iff, not_or]
      exact ⟨hUpper, hLower⟩

theorem checkFilter_eq_ok_iff
    {name : Option String}
    {filter : Option Filter} :
    checkFilter name = .ok filter ↔
      (∀ word ∈ name, word = "upper" ∨ word = "lower") ∧
        filter = name.bind Filter.ofName? := by
  cases name with
  | none => simp [checkFilter, eq_comm]
  | some word =>
      simp only [Option.mem_def, Option.some.injEq, forall_eq',
        Option.bind_some, ← isSome_ofName?_iff,
        checkFilter]
      cases Filter.ofName? word with
      | none => simp
      | some filter => simp [eq_comm]

/- Holes are made of placeholders that are sound. -/
theorem isSound_of_checkHoles
    {found : List (Placeholder × List Char)}
    {holes :
      { holes : List Hole //
        ∀ hole ∈ holes, hole.name ∈ parameters }}
    (hHoles : checkHoles parameters found = .ok holes) :
    (∀ part ∈ found, IsSound parameters part) ∧
      holes.val = found.map holeOf := by
  induction found generalizing holes with
  | nil =>
      rw [checkHoles] at hHoles
      cases hHoles
      exact ⟨by simp, rfl⟩
  | cons part found ih =>
      rcases part with ⟨placeholder, text⟩
      rw [checkHoles] at hHoles
      split at hHoles
      · next hName =>
          split at hHoles
          · cases hHoles
          · next filter hFilter =>
              split at hHoles
              · cases hHoles
              · next literal hText =>
                  split at hHoles
                  · cases hHoles
                  · next rest hNames hRest =>
                      cases hHoles
                      rw [checkFilter_eq_ok_iff] at hFilter
                      rw [checkLiteral_eq_ok_iff] at hText
                      rcases ih hRest with ⟨hSound, hSame⟩
                      dsimp only at hSame
                      refine ⟨?_, ?_⟩
                      · rw [List.forall_mem_cons]
                        exact
                          ⟨⟨hName, hFilter.1, hText.1⟩,
                            hSound⟩
                      · dsimp only
                        rw [hFilter.2, hText.2, hSame]
                        rfl
      · cases hHoles

/- Sound placeholders make holes. -/
theorem exists_checkHoles
    {found : List (Placeholder × List Char)}
    (hSound : ∀ part ∈ found, IsSound parameters part) :
    ∃ holes, checkHoles parameters found = .ok holes := by
  induction found with
  | nil => exact ⟨_, rfl⟩
  | cons part found ih =>
      rcases part with ⟨placeholder, text⟩
      rw [List.forall_mem_cons] at hSound
      rcases hSound with ⟨hPart, hFound⟩
      rcases ih hFound with ⟨holes, hHoles⟩
      rw [checkHoles, dif_pos hPart.declared,
        checkFilter_eq_ok_iff.mpr ⟨hPart.known, rfl⟩,
        checkLiteral_eq_ok_iff.mpr ⟨hPart.literal, rfl⟩,
        hHoles]
      exact ⟨_, rfl⟩

end Template

end Componentry

------------------------------------------------------------
-- Texts That Make Templates
------------------------------------------------------------

namespace Componentry

namespace Template

variable {parameters : List String}

/- A template is made of what its text is split into. -/
theorem isSound_of_ofText
    {source : String}
    {template : Template}
    (hTemplate : ofText source parameters = .ok template) :
    IsLiteral (split source.toList).lead ∧
      (∀ part ∈ (split source.toList).holes,
        IsSound parameters part) ∧
      template.lead =
        String.ofList (split source.toList).lead ∧
      template.holes =
        (split source.toList).holes.map holeOf := by
  unfold ofText at hTemplate
  dsimp only at hTemplate
  split at hTemplate
  · cases hTemplate
  · next lead hLead =>
      split at hTemplate
      · cases hTemplate
      · next holes hNames hHoles =>
          cases hTemplate
          rw [checkLiteral_eq_ok_iff] at hLead
          rcases isSound_of_checkHoles hHoles with
            ⟨hSound, hSame⟩
          exact ⟨hLead.1, hSound, hLead.2, hSame⟩

theorem exists_ofText_of_isSound
    {source : String}
    (hLead : IsLiteral (split source.toList).lead)
    (hSound :
      ∀ part ∈ (split source.toList).holes,
        IsSound parameters part) :
    ∃ template, ofText source parameters = .ok template := by
  rcases exists_checkHoles hSound with ⟨holes, hHoles⟩
  unfold ofText
  dsimp only
  rw [checkLiteral_eq_ok_iff.mpr ⟨hLead, rfl⟩, hHoles]
  exact ⟨_, rfl⟩

/- A slot with a text behind it is sound as it is read. -/
theorem isSound_partOf_iff
    {part : Slot × List Char} :
    IsSound parameters (partOf part) ↔
      part.1.name ∈ parameters ∧
        (∀ bar ∈ part.1.bar,
          bar.word = "upper" ∨ bar.word = "lower") ∧
        IsLiteral part.2 := by
  rcases part with ⟨slot, text⟩
  have hKnown :
      (∀ word ∈ slot.placeholder.filter,
          word = "upper" ∨ word = "lower") ↔
        ∀ bar ∈ slot.bar,
          bar.word = "upper" ∨ bar.word = "lower" := by
    unfold Slot.placeholder
    cases slot.bar with
    | none => simp
    | some bar => simp
  constructor
  · intro hSound
    exact
      ⟨hSound.declared, hKnown.mp hSound.known,
        hSound.literal⟩
  · rintro ⟨hDeclared, hBars, hLiteral⟩
    exact ⟨hDeclared, hKnown.mpr hBars, hLiteral⟩

/- A page is split into what it is made of. -/
theorem Page.IsOver.split_source
    {page : Page}
    (hPage : page.IsOver parameters) :
    split page.source.toList =
      ⟨page.lead, page.slots.map partOf⟩ := by
  rw [source, String.toList_ofList]
  exact split_page hPage.toIsWritten

/- Texts make templates if pages are written like them. -/
theorem exists_ofText_iff_page
    {source : String} :
    (∃ template, ofText source parameters = .ok template) ↔
      ∃ page : Page,
        page.IsOver parameters ∧ page.source = source := by
  constructor
  · rintro ⟨template, hTemplate⟩
    rcases isSound_of_ofText hTemplate with
      ⟨hLead, hSound, -, -⟩
    rcases exists_slots source.toList with
      ⟨slots, hWritten, hText, hHoles⟩
    have hParts :
        ∀ part ∈ slots, IsSound parameters (partOf part) := by
      rw [hHoles, List.forall_mem_map] at hSound
      exact hSound
    refine ⟨⟨(split source.toList).lead, slots⟩, ?_, ?_⟩
    · exact
        { lead := hLead
          slots := hWritten
          texts := fun part hPart =>
            (isSound_partOf_iff.mp (hParts part hPart)).2.2
          declared := fun part hPart =>
            (isSound_partOf_iff.mp (hParts part hPart)).1
          known := fun part hPart =>
            (isSound_partOf_iff.mp (hParts part hPart)).2.1 }
    · rw [Page.source, ← hText, String.ofList_toList]
  · rintro ⟨page, hPage, rfl⟩
    apply exists_ofText_of_isSound
    · rw [hPage.split_source]
      exact hPage.lead
    · rw [hPage.split_source, List.forall_mem_map]
      intro part hPart
      exact
        isSound_partOf_iff.mpr
          ⟨hPage.declared part hPart, hPage.known part hPart,
            hPage.texts part hPart⟩

end Template

end Componentry

------------------------------------------------------------
-- Filling In
------------------------------------------------------------

namespace Componentry

namespace Template

variable (values : String → Option String)

/- The first of some names that has no value. -/
def missing? (names : List String) : Option String :=
  names.find? fun name => (values name).isNone

theorem missing?_eq_none_iff
    {names : List String} :
    missing? values names = none ↔
      ∀ name ∈ names, (values name).isSome = true := by
  rw [missing?, List.find?_eq_none]
  simp [Option.isSome_iff_ne_none]

theorem missing?_cons
    (name : String)
    (names : List String) :
    missing? values (name :: names) =
      match values name with
      | none => some name
      | some _ => missing? values names := by
  rw [missing?, List.find?_cons]
  cases values name with
  | none => rfl
  | some value => rfl

/- The hole that a slot makes. -/
theorem holeOf_partOf
    (slot : Slot)
    (text : List Char) :
    holeOf (partOf (slot, text)) =
      ⟨slot.name, slot.filter?, String.ofList text⟩ := by
  unfold holeOf partOf Slot.placeholder Slot.filter?
  cases slot.bar with
  | none => rfl
  | some bar => rfl

/-
  The holes of slots are filled in as the slots are, unless
  one of the names has no value.
-/
theorem renderHoles_eq
    (slots : List (Slot × List Char)) :
    renderHoles values ((slots.map partOf).map holeOf) =
      match missing? values (slots.map (·.1.name)) with
      | some name => .error (.missingValue name)
      | none => .ok (filledSlots values slots) := by
  induction slots with
  | nil => rfl
  | cons part slots ih =>
      rcases part with ⟨slot, text⟩
      rw [List.map_cons, List.map_cons, List.map_cons,
        renderHoles, ih, holeOf_partOf, filledSlots,
        missing?_cons]
      dsimp only
      cases values slot.name with
      | none => rfl
      | some value =>
          dsimp only
          cases missing? values (slots.map (·.1.name)) with
          | some name => rfl
          | none => rfl

/- A template is made of the page that is written alike. -/
theorem Page.IsOver.render_eq
    {parameters : List String}
    {page : Page}
    {template : Template}
    (hPage : page.IsOver parameters)
    (hTemplate :
      ofText page.source parameters = .ok template) :
    template.render values =
      match missing? values page.names with
      | some name => .error (.missingValue name)
      | none => .ok (page.filledIn values) := by
  rcases isSound_of_ofText hTemplate with
    ⟨-, -, hLead, hHoles⟩
  rw [hPage.split_source] at hLead hHoles
  rw [render, hHoles, hLead, renderHoles_eq, names, filledIn]
  cases missing? values (page.slots.map (·.1.name)) with
  | some name => rfl
  | none => rfl

theorem Page.IsOver.placeholders_eq
    {parameters : List String}
    {page : Page}
    {template : Template}
    (hPage : page.IsOver parameters)
    (hTemplate :
      ofText page.source parameters = .ok template) :
    template.placeholders = page.names := by
  rcases isSound_of_ofText hTemplate with ⟨-, -, -, hHoles⟩
  rw [hPage.split_source] at hHoles
  rw [placeholders, hHoles, names, List.map_map, List.map_map]
  rfl

end Template

end Componentry

------------------------------------------------------------
-- The Language
------------------------------------------------------------

namespace Componentry

namespace Template

/-
  A template has the names of a page.  It is filled in if all
  of them have values, as the page is; else the first one that
  has none is at fault.
-/
structure Page.IsRenderedBy
    (page : Page)
    (template : Template) : Prop where
  names : template.placeholders = page.names
  filled :
    ∀ values text,
      template.render values = .ok text ↔
        (∀ name ∈ page.names, (values name).isSome = true) ∧
          text = page.filledIn values
  missing :
    ∀ values fault,
      template.render values = .error fault ↔
        ∃ name,
          missing? values page.names = some name ∧
            fault = .missingValue name

/-
  A text makes a template just if a page over the parameters
  is written like it.  There is only one such page, and the
  template is rendered as the page is filled in.
-/
structure IsRead
    (source : String)
    (parameters : List String) : Prop where
  accepted :
    (∃ template, ofText source parameters = .ok template) ↔
      ∃ page : Page,
        page.IsOver parameters ∧ page.source = source
  unique :
    ∀ page other : Page,
      page.IsOver parameters → page.source = source →
        other.IsOver parameters → other.source = source →
          page = other
  rendered :
    ∀ (page : Page) (template : Template),
      page.IsOver parameters → page.source = source →
        ofText source parameters = .ok template →
          page.IsRenderedBy template

theorem Page.IsOver.isRenderedBy
    {parameters : List String}
    {page : Page}
    {template : Template}
    (hPage : page.IsOver parameters)
    (hTemplate :
      ofText page.source parameters = .ok template) :
    page.IsRenderedBy template where
  names := hPage.placeholders_eq hTemplate
  filled := by
    intro values text
    rw [hPage.render_eq values hTemplate,
      ← missing?_eq_none_iff]
    cases missing? values page.names with
    | some name => simp
    | none => simp [eq_comm]
  missing := by
    intro values fault
    rw [hPage.render_eq values hTemplate]
    cases missing? values page.names with
    | some name => simp [eq_comm]
    | none => simp

/- Every text is read as a page is written. -/
theorem ofText_isRead
    (source : String)
    (parameters : List String) :
    IsRead source parameters where
  accepted := exists_ofText_iff_page
  unique := by
    intro page other hPage hSource hOther hOtherSource
    exact
      Page.source_inj hPage.toIsWritten hOther.toIsWritten
        (hSource.trans hOtherSource.symm)
  rendered := by
    rintro page template hPage rfl hTemplate
    exact hPage.isRenderedBy hTemplate

end Template

end Componentry
