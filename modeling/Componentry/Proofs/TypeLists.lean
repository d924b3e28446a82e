import Componentry.Proofs.Text.Layouts
import Componentry.TypeList

/-
  Type lists written out and read back.

  A line spells an entry if it is the name and the flag with
  white space around both; the flag of an exported type may be
  left out where the name does not end like a flag.  Reading a
  text gives exactly the entries that its lines spell.  Every
  text spells some, so what is read is always well-formed.

  Main declarations:
    * `TypeList.IsEntryName`, `TypeList.EndsInFlag`
    * `TypeList.SpellsEntry`, `TypeList.SpellsLines`
    * `TypeList.Spells`, `TypeList.written`
    * `TypeList.entry?_eq_some_iff`
    * `TypeList.spells_iff`
    * `TypeList.ReadsBack`, `TypeList.readsBack`
-/

------------------------------------------------------------
-- Spellings
------------------------------------------------------------

namespace Componentry

namespace TypeList

/- The names that entries may have. -/
structure IsEntryName (name : String) : Prop where
  some : name ≠ ""
  oneLine : '\n' ∉ name.toList
  trimmed : Text.IsTrimmed name.toList

instance
    (name : String) :
    Decidable (IsEntryName name) :=
  decidable_of_iff
    (name ≠ "" ∧ '\n' ∉ name.toList ∧
      Text.IsTrimmed name.toList)
    ⟨fun h => ⟨h.1, h.2.1, h.2.2⟩,
      fun h => ⟨h.some, h.oneLine, h.trimmed⟩⟩

/- White space within a line. -/
def IsPadding (cs : List Char) : Prop :=
  ∀ c ∈ cs, Text.isBlank c = true ∧ c ≠ '\n'

/- The flag of an entry. -/
def flag (exported : Bool) : Char :=
  if exported then '1' else '0'

/- The last word of a text, and not the only one, is a flag. -/
def EndsInFlag (cs : List Char) : Prop :=
  ∃ before blank exported,
    Text.isBlank blank = true ∧
      cs = before ++ [blank, flag exported]

/- A line spells an entry, with its flag or without. -/
inductive SpellsEntry : List Char → String × Bool → Prop where
  | flagged
      {before between behind : List Char}
      {name : String}
      (exported : Bool)
      (hName : IsEntryName name)
      (hBefore : IsPadding before)
      (hBetween : IsPadding between)
      (hApart : between ≠ [])
      (hBehind : IsPadding behind) :
      SpellsEntry
        (before ++ (name.toList ++ between ++ [flag exported])
          ++ behind)
        (name, exported)
  | bare
      {before behind : List Char}
      {name : String}
      (hName : IsEntryName name)
      (hPlain : ¬ EndsInFlag name.toList)
      (hBefore : IsPadding before)
      (hBehind : IsPadding behind) :
      SpellsEntry (before ++ name.toList ++ behind) (name, true)

/- Lines spell entries in order; blank lines spell none. -/
inductive SpellsLines :
    List (List Char) → List (String × Bool) → Prop where
  | nil : SpellsLines [] []
  | blank
      {line : List Char}
      {lines : List (List Char)}
      {entries : List (String × Bool)}
      (hLine : IsPadding line)
      (hLines : SpellsLines lines entries) :
      SpellsLines (line :: lines) entries
  | entry
      {line : List Char}
      {lines : List (List Char)}
      {entry : String × Bool}
      {entries : List (String × Bool)}
      (hLine : SpellsEntry line entry)
      (hLines : SpellsLines lines entries) :
      SpellsLines (line :: lines) (entry :: entries)

/-
  A text spells the entries of its lines.  All lines but the
  last one are ended by line feeds; a text whose lines are all
  ended has an empty one behind them.
-/
def Spells
    (text : String)
    (entries : List (String × Bool)) : Prop :=
  ∃ lines last,
    text.toList = lines.flatMap (· ++ ['\n']) ++ last ∧
      SpellsLines (lines ++ [last]) entries

/- The line of an entry, with its flag. -/
def entryLine (entry : String × Bool) : String :=
  entry.1 ++ " " ++ (flag entry.2).toString

/- The text with the line of every entry. -/
def written (entries : List (String × Bool)) : String :=
  Text.unlines (entries.map entryLine)

end TypeList

end Componentry

------------------------------------------------------------
-- Reading an Entry
------------------------------------------------------------

namespace Componentry

namespace TypeList

variable {cs line : List Char}
variable {entry : String × Bool}

theorem IsPadding.isBlank
    (hPadding : IsPadding cs) :
    ∀ c ∈ cs, Text.isBlank c = true :=
  fun c hMember => (hPadding c hMember).1

theorem isBlank_flag
    (exported : Bool) :
    Text.isBlank (flag exported) = false := by
  cases exported <;> decide

/- A text that ends in a flag is read as a name with it. -/
theorem readEntry_flagged
    {c : Char}
    (hBlank : Text.isBlank c = true)
    (before : List Char)
    (exported : Bool) :
    readEntry (before ++ [c, flag exported]) =
      (Text.trimEnd before, exported) := by
  have hCut :
      Text.cutLast Text.isBlank
          (before ++ [c, flag exported]) =
        some (before, c, [flag exported]) := by
    apply Text.cutLast_append hBlank
    rw [List.forall_mem_singleton]
    exact isBlank_flag exported
  unfold readEntry
  rw [hCut]
  cases exported <;> rfl

/- Any other text is a name that is exported. -/
theorem readEntry_bare
    (hPlain : ¬ EndsInFlag cs) :
    readEntry cs = (cs, true) := by
  unfold readEntry
  split
  · next before c hCut =>
      rcases Text.cutLast_eq_some_iff.mp hCut with
        ⟨hText, hBlank, -⟩
      exact absurd ⟨before, c, true, hBlank, hText⟩ hPlain
  · next before c hCut =>
      rcases Text.cutLast_eq_some_iff.mp hCut with
        ⟨hText, hBlank, -⟩
      exact absurd ⟨before, c, false, hBlank, hText⟩ hPlain
  · rfl

/- A line is read without the white space around it. -/
theorem entry?_of_trim
    (hTrim : Text.trim line = cs)
    (hSome : cs ≠ []) :
    entry? line =
      some
        (String.ofList (readEntry cs).1, (readEntry cs).2) := by
  unfold entry?
  rw [hTrim]
  cases cs with
  | nil => exact absurd rfl hSome
  | cons c cs => rfl

theorem entry?_eq_none_iff :
    entry? line = none ↔ ∀ c ∈ line, Text.isBlank c = true := by
  rw [← List.all_eq_true, ← Text.trim_eq_nil_iff]
  cases hTrim : Text.trim line with
  | nil => simp [hTrim, entry?]
  | cons c cs =>
      rw [entry?_of_trim hTrim (by simp)]
      simp

/- A name and a flag have no white space around them. -/
theorem isTrimmed_flagged
    {name : List Char}
    (hSome : name ≠ [])
    (hTrimmed : Text.IsTrimmed name)
    (between : List Char)
    (exported : Bool) :
    Text.IsTrimmed (name ++ between ++ [flag exported]) where
  head := by
    intro c hHead
    rw [List.append_assoc, List.head?_append_of_ne_nil _ hSome]
      at hHead
    exact hTrimmed.head c hHead
  last := by
    intro c hLast
    rw [List.getLast?_concat, Option.mem_some_iff] at hLast
    rw [← hLast]
    exact isBlank_flag exported

/- What a line spells is read from it. -/
theorem entry?_of_spellsEntry
    (hSpells : SpellsEntry line entry) :
    entry? line = some entry := by
  cases hSpells with
  | @flagged before between behind name exported hName hBefore
      hBetween hApart hBehind =>
      have hSome : name.toList ≠ [] := by
        rw [ne_eq, String.toList_eq_nil_iff]
        exact hName.some
      have hTrim :=
        (isTrimmed_flagged hSome hName.trimmed between
            exported).trim_spaced
          hBefore.isBlank hBehind.isBlank
      rw [entry?_of_trim hTrim (by simp)]
      -- The last white space in front of the flag is the cut.
      rcases List.eq_nil_or_concat' between with
        rfl | ⟨space, last, rfl⟩
      · exact absurd rfl hApart
      · have hSpace := hBetween.isBlank
        rw [List.forall_mem_append, List.forall_mem_singleton]
          at hSpace
        have hText :
            name.toList ++ (space ++ [last])
                ++ [flag exported] =
              name.toList ++ space ++ [last, flag exported] := by
          simp
        rw [hText, readEntry_flagged hSpace.2,
          Text.trimEnd_append_of_blank hSpace.1,
          Text.trimEnd_eq_self hName.trimmed.last,
          String.ofList_toList]
  | @bare before behind name hName hPlain hBefore hBehind =>
      have hSome : name.toList ≠ [] := by
        rw [ne_eq, String.toList_eq_nil_iff]
        exact hName.some
      have hTrim :=
        hName.trimmed.trim_spaced hBefore.isBlank
          hBehind.isBlank
      rw [entry?_of_trim hTrim hSome, readEntry_bare hPlain,
        String.ofList_toList]

/- White space without a line break is within a line. -/
theorem isPadding_of_oneLine
    (hLine : '\n' ∉ cs)
    (hBlank : ∀ c ∈ cs, Text.isBlank c = true) :
    IsPadding cs := by
  intro c hMember
  refine ⟨hBlank c hMember, ?_⟩
  rintro rfl
  exact hLine hMember

/- A part of a line without white space around is a name. -/
theorem isEntryName_of_oneLine
    (hLine : '\n' ∉ cs)
    (hSome : cs ≠ [])
    (hTrimmed : Text.IsTrimmed cs) :
    IsEntryName (String.ofList cs) where
  some := by
    rwa [ne_eq, ← String.toList_eq_nil_iff,
      String.toList_ofList]
  oneLine := by rwa [String.toList_ofList]
  trimmed := by rwa [String.toList_ofList]

/- The name in front of a flag, and the white space between. -/
theorem exists_name_of_flagged
    {before : List Char}
    {c : Char}
    {exported : Bool}
    (hBlank : Text.isBlank c = true)
    (hTrimmed :
      Text.IsTrimmed (before ++ [c, flag exported])) :
    ∃ space,
      (∀ d ∈ space, Text.isBlank d = true) ∧
        before = Text.trimEnd before ++ space ∧
        Text.trimEnd before ≠ [] ∧
        Text.IsTrimmed (Text.trimEnd before) := by
  rcases Text.exists_of_trimEnd before with
    ⟨space, hSpace, hBefore⟩
  have hHead :
      ∀ d ∈ before.head?, Text.isBlank d = false := by
    intro d hHead
    apply hTrimmed.head
    rw [List.head?_append, Option.mem_def.mp hHead]
    rfl
  have hSome : Text.trimEnd before ≠ [] := by
    intro hNone
    rw [hNone, List.nil_append] at hBefore
    subst hBefore
    cases before with
    | nil =>
        have hFirst := hTrimmed.head c rfl
        rw [hBlank] at hFirst
        cases hFirst
    | cons d before =>
        have hFirst := hHead d rfl
        rw [hSpace d List.mem_cons_self] at hFirst
        cases hFirst
  refine
    ⟨space, hSpace, hBefore, hSome, ?_,
      Text.last_trimEnd before⟩
  intro d hFirst
  apply hHead
  rw [hBefore, List.head?_append, Option.mem_def.mp hFirst]
  rfl

/- A text without white space around is spelled in a line. -/
theorem spellsEntry_readEntry
    {before behind : List Char}
    (hLine : '\n' ∉ cs)
    (hSome : cs ≠ [])
    (hTrimmed : Text.IsTrimmed cs)
    (hBefore : IsPadding before)
    (hBehind : IsPadding behind) :
    SpellsEntry (before ++ cs ++ behind)
      (String.ofList (readEntry cs).1, (readEntry cs).2) := by
  by_cases hFlag : EndsInFlag cs
  · rcases hFlag with ⟨named, c, exported, hBlank, rfl⟩
    rcases exists_name_of_flagged hBlank hTrimmed with
      ⟨space, hSpace, hNamed, hName, hNameTrimmed⟩
    rw [readEntry_flagged hBlank]
    generalize Text.trimEnd named = name at *
    subst hNamed
    have hText :
        name ++ space ++ [c, flag exported] =
          name ++ (space ++ [c]) ++ [flag exported] := by
      simp
    rw [hText] at hLine ⊢
    rw [List.mem_append, List.mem_append, not_or, not_or]
      at hLine
    have hBetween : IsPadding (space ++ [c]) := by
      apply isPadding_of_oneLine hLine.1.2
      rw [List.forall_mem_append, List.forall_mem_singleton]
      exact ⟨hSpace, hBlank⟩
    have hSpelled :=
      SpellsEntry.flagged exported
        (isEntryName_of_oneLine hLine.1.1 hName hNameTrimmed)
        hBefore hBetween (by simp) hBehind
    rwa [String.toList_ofList] at hSpelled
  · rw [readEntry_bare hFlag]
    have hSpelled :=
      SpellsEntry.bare
        (isEntryName_of_oneLine hLine hSome hTrimmed)
        (by rwa [String.toList_ofList]) hBefore hBehind
    rwa [String.toList_ofList] at hSpelled

/- What is read from a line is spelled there. -/
theorem spellsEntry_of_read
    (hLine : '\n' ∉ line)
    (hEntry : entry? line = some entry) :
    SpellsEntry line entry := by
  have hSome : Text.trim line ≠ [] := by
    intro hNone
    rw [Text.trim_eq_nil_iff, List.all_eq_true,
      ← entry?_eq_none_iff, hEntry] at hNone
    cases hNone
  rw [entry?_of_trim rfl hSome] at hEntry
  cases hEntry
  rcases Text.exists_of_trim line with
    ⟨before, behind, hBefore, hBehind, hText⟩
  have hParts := hLine
  rw [hText, List.mem_append, List.mem_append, not_or, not_or]
    at hParts
  have hSpelled :=
    spellsEntry_readEntry hParts.1.2 hSome
      (Text.isTrimmed_trim line)
      (isPadding_of_oneLine hParts.1.1 hBefore)
      (isPadding_of_oneLine hParts.2 hBehind)
  rwa [← hText] at hSpelled

/- So exactly what a line spells is read from it. -/
theorem entry?_eq_some_iff
    (hLine : '\n' ∉ line) :
    entry? line = some entry ↔ SpellsEntry line entry :=
  ⟨spellsEntry_of_read hLine, entry?_of_spellsEntry⟩

end TypeList

end Componentry

------------------------------------------------------------
-- Reading Lines
------------------------------------------------------------

namespace Componentry

namespace TypeList

variable {line : List Char}
variable {lines : List (List Char)}
variable {entry : String × Bool}
variable {entries : List (String × Bool)}

/- A line break is part of no line. -/
theorem IsPadding.oneLine
    (hPadding : IsPadding line) :
    '\n' ∉ line :=
  fun hBreak => (hPadding _ hBreak).2 rfl

theorem SpellsEntry.oneLine
    (hSpells : SpellsEntry line entry) :
    '\n' ∉ line := by
  cases hSpells with
  | @flagged before between behind name exported hName hBefore
      hBetween hApart hBehind =>
      have hFlag : '\n' ≠ flag exported := by
        cases exported <;> decide
      simp [hBefore.oneLine, hName.oneLine, hBetween.oneLine,
        hBehind.oneLine, hFlag]
  | @bare before behind name hName hPlain hBefore hBehind =>
      simp [hBefore.oneLine, hName.oneLine, hBehind.oneLine]

theorem SpellsLines.oneLine
    (hSpells : SpellsLines lines entries) :
    ∀ line ∈ lines, '\n' ∉ line := by
  induction hSpells with
  | nil => simp
  | blank hLine _ ih =>
      rw [List.forall_mem_cons]
      exact ⟨hLine.oneLine, ih⟩
  | entry hLine _ ih =>
      rw [List.forall_mem_cons]
      exact ⟨hLine.oneLine, ih⟩

/- Exactly what lines spell is read from them, in order. -/
theorem filterMap_entry?_iff
    (hLines : ∀ line ∈ lines, '\n' ∉ line) :
    lines.filterMap entry? = entries ↔
      SpellsLines lines entries := by
  constructor
  · rintro rfl
    induction lines with
    | nil => exact .nil
    | cons line lines ih =>
        rw [List.forall_mem_cons] at hLines
        cases hEntry : entry? line with
        | none =>
            rw [List.filterMap_cons_none hEntry]
            refine .blank ?_ (ih hLines.2)
            rw [entry?_eq_none_iff] at hEntry
            exact isPadding_of_oneLine hLines.1 hEntry
        | some entry =>
            rw [List.filterMap_cons_some hEntry]
            refine .entry ?_ (ih hLines.2)
            exact (entry?_eq_some_iff hLines.1).mp hEntry
  · intro hSpells
    clear hLines
    induction hSpells with
    | nil => rfl
    | blank hLine _ ih =>
        rw [List.filterMap_cons_none
          (entry?_eq_none_iff.mpr hLine.isBlank)]
        exact ih
    | entry hLine _ ih =>
        rw [List.filterMap_cons_some
          (entry?_of_spellsEntry hLine), ih]

/- A carriage return at the end of a line is trimmed away. -/
theorem entry?_dropReturn
    (line : List Char) :
    entry? (Text.dropReturn line) = entry? line := by
  rcases Text.dropReturn_cases line with hSame | hReturn
  · rw [hSame]
  · unfold entry?
    rw [hReturn, Text.trim_append_blank (by decide),
      ← hReturn]

/- So the entries are those of all pieces of a text. -/
theorem entries_eq_filterMap_pieces
    (text : String) :
    TypeList.entries text =
      (Text.pieces (· == '\n') text.toList).filterMap
        entry? := by
  rcases List.eq_nil_or_concat'
      (Text.pieces (· == '\n') text.toList) with
    hNone | ⟨before, last, hPieces⟩
  · exact absurd hNone (Text.pieces_ne_nil _ _)
  · have hReturn : entry? ∘ Text.dropReturn = entry? :=
      funext entry?_dropReturn
    rw [TypeList.entries, Text.lines_of_pieces hPieces,
      hPieces, List.filterMap_append, List.filterMap_append,
      List.filterMap_map, hReturn]
    cases last with
    | nil => rfl
    | cons c last => rfl

/- So exactly what a text spells is read from it. -/
theorem spells_iff
    {text : String} :
    Spells text entries ↔ TypeList.entries text = entries := by
  rw [entries_eq_filterMap_pieces]
  constructor
  · rintro ⟨lines, last, hText, hSpells⟩
    have hLines := hSpells.oneLine
    rw [hText, Text.pieces_flatMap hLines]
    exact (filterMap_entry?_iff hLines).mpr hSpells
  · intro hEntries
    have hLines :
        ∀ line ∈ Text.pieces (· == '\n') text.toList,
          '\n' ∉ line := by
      intro line hLine hBreak
      have hNot :=
        Text.not_separator_of_mem_pieces hLine _ hBreak
      simp at hNot
    have hSpells := (filterMap_entry?_iff hLines).mp hEntries
    rcases List.eq_nil_or_concat'
        (Text.pieces (· == '\n') text.toList) with
      hNone | ⟨before, last, hPieces⟩
    · exact absurd hNone (Text.pieces_ne_nil _ _)
    · rw [hPieces] at hSpells
      exact ⟨before, last, Text.eq_of_pieces hPieces, hSpells⟩

/- What lines spell are names that entries may have. -/
theorem SpellsLines.isEntryName
    (hSpells : SpellsLines lines entries) :
    ∀ entry ∈ entries, IsEntryName entry.1 := by
  induction hSpells with
  | nil => simp
  | blank _ _ ih => exact ih
  | entry hLine _ ih =>
      rw [List.forall_mem_cons]
      refine ⟨?_, ih⟩
      cases hLine with
      | flagged exported hName => exact hName
      | bare hName => exact hName

end TypeList

end Componentry

------------------------------------------------------------
-- Round Trips
------------------------------------------------------------

namespace Componentry

namespace TypeList

variable {entries : List (String × Bool)}

/- The line of an entry spells it. -/
theorem spellsEntry_entryLine
    {entry : String × Bool}
    (hName : IsEntryName entry.1) :
    SpellsEntry (entryLine entry).toList entry := by
  have hSpace : IsPadding [' '] := by
    rw [IsPadding, List.forall_mem_singleton]
    exact ⟨by decide, by decide⟩
  have hNone : IsPadding [] := by simp [IsPadding]
  have hSpells :=
    SpellsEntry.flagged entry.2 hName hNone hSpace (by simp)
      hNone
  simpa [entryLine] using hSpells

/- So the lines of entries spell them. -/
theorem spells_written
    (hNames : ∀ entry ∈ entries, IsEntryName entry.1) :
    Spells (written entries) entries := by
  refine
    ⟨entries.map fun entry => (entryLine entry).toList, [],
      ?_, ?_⟩
  · rw [written, Text.toList_unlines, List.flatMap_map,
      List.flatMap_map, List.append_nil]
  · -- Behind the last line feed is a blank line.
    have hNone : IsPadding [] := by simp [IsPadding]
    induction entries with
    | nil => exact .blank hNone .nil
    | cons entry entries ih =>
        rw [List.forall_mem_cons] at hNames
        exact
          .entry (spellsEntry_entryLine hNames.1)
            (ih hNames.2)

/- A type list is a text of its entries, and back. -/
structure ReadsBack
    (text : String)
    (entries : List (String × Bool)) : Prop where
  -- What a text spells is read: all names and the exported.
  read :
    Spells text entries →
      (parse text).all = entries.map (·.1) ∧
        (parse text).exported =
          (entries.filter (·.2)).map (·.1)
  -- Entries are spelled by their lines.
  written :
    (∀ entry ∈ entries, IsEntryName entry.1) →
      Spells (written entries) entries
  -- Every text spells some entries; their lines read alike.
  found :
    ∃ found,
      Spells text found ∧
        (∀ entry ∈ found, IsEntryName entry.1) ∧
        parse (TypeList.written found) = parse text
  named : ∀ name ∈ (parse text).all, IsEntryName name
  exported : (parse text).exported.Sublist (parse text).all

/- Type lists are read back, whatever the text. -/
theorem readsBack
    (text : String)
    (entries : List (String × Bool)) :
    ReadsBack text entries := by
  have hSpells : Spells text (TypeList.entries text) :=
    spells_iff.mpr rfl
  have hNames :
      ∀ entry ∈ TypeList.entries text,
        IsEntryName entry.1 := by
    rcases hSpells with ⟨lines, last, -, hLines⟩
    exact hLines.isEntryName
  refine ⟨?_, spells_written, ?_, ?_, ?_⟩
  · intro hEntries
    rw [parse, spells_iff.mp hEntries]
    exact ⟨rfl, rfl⟩
  · refine ⟨TypeList.entries text, hSpells, hNames, ?_⟩
    rw [parse, spells_iff.mp (spells_written hNames), parse]
  · intro name hName
    rcases List.mem_map.mp hName with ⟨entry, hEntry, rfl⟩
    exact hNames entry hEntry
  · exact List.filter_sublist.map _

end TypeList

end Componentry
