import Componentry.Proofs.Descriptor.Definitions

/-
  References to variables.

  A key in braces behind a dollar sign stands for what the
  last line that defines the key gives it, and is a fault if
  no line does.  But fewer characters may stand in a reference
  than in a key: a key with another one, a letter outside of
  ASCII, is defined and cannot be referred to.  Its reference
  is copied as it stands.

  Main declarations:
    * `referenceTo`
    * `expand_reference`, `expand_unreferable`
    * `IsLastDefinition`, `exists_isLastDefinition`
    * `defined_of_isLastDefinition`
    * `IsReferable`, `parse_isReferable`
-/

------------------------------------------------------------
-- Values That Are References
------------------------------------------------------------

namespace Componentry

namespace Descriptor

/- The value that refers to a variable. -/
def referenceTo (key : String) : String :=
  "$\x7b" ++ key ++ "\x7d"

/- A key that may stand in a reference. -/
def IsReferenceName (key : String) : Prop :=
  ∀ c ∈ key.toList, isReferenceChar c = true

variable {key : String}
variable {defined : Fields}

theorem toList_referenceTo
    (key : String) :
    (referenceTo key).toList =
      '$' :: '\x7b' :: (key.toList ++ ['\x7d']) := by
  rw [referenceTo, String.toList_append,
    String.toList_append]
  rfl

/- A line can hold a reference as it is. -/
theorem isPlainValue_referenceTo
    (hKey : isKey key.toList = true) :
    IsPlainValue (referenceTo key).toList := by
  have hComment : '#' ∉ key.toList :=
    not_mem_of_isKey hKey (by decide +kernel)
  have hNewline : '\n' ∉ key.toList :=
    not_mem_of_isKey hKey (by decide +kernel)
  rw [toList_referenceTo]
  constructor
  case uncommented => simp [hComment]
  case oneLine => simp [hNewline]
  case trimmed =>
    constructor
    case head =>
      intro c hHead
      cases hHead
      decide
    case last =>
      intro c hLast
      rw [← List.cons_append, ← List.cons_append,
        List.getLast?_concat] at hLast
      cases hLast
      decide

/- No dollar sign of a reference is doubled. -/
theorem markDollars_referenceTo
    (hKey : isKey key.toList = true) :
    markDollars (referenceTo key).toList =
      (referenceTo key).toList := by
  have hPlain : '$' ∉ key.toList :=
    not_mem_of_isKey hKey (by decide +kernel)
  rw [toList_referenceTo, markDollars_copied (by simp),
    markDollars_copied (by simp), markDollars_append]
  · rfl
  · rintro c hMember rfl
    exact hPlain hMember

/- The name that stands in braces is the key. -/
theorem isReference_braced_iff
    {name after : List Char}
    (hKey : isKey key.toList = true) :
    IsReference (key.toList ++ ['\x7d']) name after ↔
      name = key.toList ∧ after = [] ∧
        IsReferenceName key := by
  constructor
  · rintro ⟨hText, -, hName⟩
    have hKeyRun : ∀ c ∈ key.toList, (c != '\x7d') = true := by
      intro c hMember
      rw [bne_iff_ne]
      rintro rfl
      exact not_mem_of_isKey hKey (by decide +kernel) hMember
    have hNameRun : ∀ c ∈ name, (c != '\x7d') = true := by
      intro c hMember
      rw [bne_iff_ne]
      exact ne_of_isReferenceChar (hName c hMember) (by decide)
    rcases Text.run_inj hText hKeyRun
        (Text.stopsAt_cons (by decide)) hNameRun
        (Text.stopsAt_cons (by decide)) with
      ⟨rfl, hAfter⟩
    cases hAfter
    exact ⟨rfl, rfl, hName⟩
  · rintro ⟨rfl, rfl, hName⟩
    exact ⟨rfl, (isKey_iff.mp hKey).1, hName⟩

/- A reference stands for the value of its variable. -/
theorem expand_reference
    (hKey : isKey key.toList = true)
    (hName : IsReferenceName key)
    (hUnmarked :
      ∀ value : String,
        defined[key]? = some value → mark ∉ value.toList) :
    expand defined (referenceTo key).toList =
      match defined[key]? with
      | none => .error key
      | some value => .ok value := by
  have hReference :
      IsReference (key.toList ++ ['\x7d']) key.toList [] :=
    (isReference_braced_iff hKey).mpr ⟨rfl, rfl, hName⟩
  rw [expand, markDollars_referenceTo hKey,
    toList_referenceTo, substitute_reference hReference,
    String.ofList_toList]
  cases hValue : defined[key]? with
  | none => rfl
  | some value =>
      dsimp only
      rw [substitute_nil]
      dsimp only [Except.map, bind, Except.bind]
      rw [List.append_nil,
        restoreDollars_unmarked (hUnmarked value hValue),
        String.ofList_toList]

/- A key with another character is no reference. -/
theorem expand_unreferable
    (hKey : isKey key.toList = true)
    (hName : ¬ IsReferenceName key) :
    expand defined (referenceTo key).toList =
      .ok (referenceTo key) := by
  have hPlain : '$' ∉ '\x7b' :: (key.toList ++ ['\x7d']) := by
    have hDollar : '$' ∉ key.toList :=
      not_mem_of_isKey hKey (by decide +kernel)
    simp [hDollar]
  have hUnmarked : mark ∉ (referenceTo key).toList := by
    have hMark : mark ∉ key.toList :=
      not_mem_of_isKey hKey (by decide +kernel)
    rw [toList_referenceTo]
    simp only [List.mem_cons, List.mem_append, hMark,
      List.not_mem_nil, false_or, or_false]
    decide
  have hCopied :
      substitute defined (referenceTo key).toList =
        .ok (referenceTo key).toList := by
    rw [toList_referenceTo, substitute_copied,
      substitute_plain hPlain]
    · rfl
    · rintro ⟨-, tail, name, after, hTail, hReference⟩
      cases hTail
      exact hName ((isReference_braced_iff hKey).mp hReference).2.2
  rw [expand, markDollars_referenceTo hKey, hCopied]
  dsimp only [bind, Except.bind]
  rw [restoreDollars_unmarked hUnmarked, String.ofList_toList]

end Descriptor

end Componentry

------------------------------------------------------------
-- The Last Definition
------------------------------------------------------------

namespace Componentry

namespace Descriptor

/- A text is cut around the last line that defines a key. -/
structure IsLastDefinition
    (text key before line after : String) : Prop where
  text_eq : text = before ++ line ++ "\n" ++ after
  ended : Text.IsEnded before
  oneLine : '\n' ∉ line.toList
  defines : Defines line.toList key.toList
  last :
    ∀ later ∈ Text.lines after.toList,
      ¬ Defines later key.toList

/- If some item is of a kind, one of them is the last. -/
theorem exists_last
    {α : Type}
    {P : α → Prop}
    {items : List α}
    (hSome : ∃ item ∈ items, P item) :
    ∃ before item after,
      items = before ++ item :: after ∧
        P item ∧ ∀ later ∈ after, ¬ P later := by
  induction items with
  | nil => simp at hSome
  | cons first items ih =>
      by_cases hLater : ∃ item ∈ items, P item
      · rcases ih hLater with
          ⟨before, item, after, rfl, hItem, hLast⟩
        exact ⟨first :: before, item, after, rfl, hItem, hLast⟩
      · rcases hSome with ⟨item, hMember, hItem⟩
        rcases List.mem_cons.mp hMember with rfl | hMember
        · refine ⟨[], item, items, rfl, hItem, ?_⟩
          intro later hMember hOther
          exact hLater ⟨later, hMember, hOther⟩
        · exact absurd ⟨item, hMember, hItem⟩ hLater

variable {text key before line after : String}

/- A key that is defined has a last definition. -/
theorem exists_isLastDefinition
    (hText : Text.IsEnded text)
    (hDefined :
      ∃ line ∈ Text.lines text.toList,
        Defines line key.toList) :
    ∃ before line after,
      IsLastDefinition text key before line after := by
  rcases hText.exists_unlines with ⟨found, rfl, hFound⟩
  rw [Text.lines_unlines hFound] at hDefined
  have hSome :
      ∃ line ∈ found, Defines line.toList key.toList := by
    rcases hDefined with ⟨_, hShown, hLine⟩
    rcases List.mem_map.mp hShown with ⟨line, hMember, rfl⟩
    exact ⟨line, hMember, defines_dropReturn.mp hLine⟩
  rcases exists_last hSome with
    ⟨before, line, after, rfl, hLine, hLast⟩
  rw [List.forall_mem_append, List.forall_mem_cons] at hFound
  refine
    ⟨Text.unlines before, line, Text.unlines after, ?_,
      Text.isEnded_unlines before, hFound.2.1, hLine, ?_⟩
  · rw [Text.unlines_append, Text.unlines,
      String.append_assoc, String.append_assoc,
      String.append_assoc]
  · rw [Text.lines_unlines hFound.2.2, List.forall_mem_map]
    intro later hMember
    rw [defines_dropReturn]
    exact hLast later hMember

/-
  A key that is defined is one, and at the end of a text it is
  worth what its field is behind the last line that defines
  it.
-/
theorem defined_of_isLastDefinition
    {reading : Reading}
    (hLast : IsLastDefinition text key before line after)
    (hRun :
      foldNumbered Reading.add ⟨∅, ∅⟩ 1
          (Text.lines text.toList) =
        .ok reading) :
    ∃ reached value,
      foldNumbered Reading.add ⟨∅, ∅⟩ 1
          (Text.lines (before ++ line ++ "\n").toList) =
        .ok reached ∧
      isKey key.toList = true ∧
      reached.fields[key]? = some value ∧
      reading.defined[key]? = some value := by
  have hEnded : Text.IsEnded (before ++ line ++ "\n") :=
    Or.inr ⟨before ++ line, rfl⟩
  rw [hLast.text_eq, String.toList_append,
    Text.lines_append_of_isEnded hEnded,
    foldNumbered_append] at hRun
  -- What is read up to the definition, and what behind it.
  rcases bind_eq_ok_iff.mp hRun with ⟨reached, hUpTo, hAfter⟩
  have hSome : line ≠ "" := by
    rintro rfl
    exact not_defines_of_blank rfl hLast.defines
  -- The definition itself is the last line of the first part.
  have hLine := hUpTo
  rw [String.append_assoc,
    run_append_line hLast.ended hSome hLast.oneLine
      (Or.inr rfl)]
    at hLine
  rcases bind_eq_ok_iff.mp hLine with ⟨start, -, hStep⟩
  rw [mapError_eq_ok_iff] at hStep
  rcases defined_of_defines hStep hLast.defines with
    ⟨value, hDefined, hField⟩
  have hKept := defined_of_run hAfter hLast.last
  rw [String.ofList_toList] at hDefined hField hKept
  exact
    ⟨reached, value, hUpTo,
      isKey_of_defines hStep hLast.defines, hField,
      hKept.trans hDefined⟩

end Descriptor

end Componentry

------------------------------------------------------------
-- References behind a Text
------------------------------------------------------------

namespace Componentry

namespace Descriptor

/- A text with a line more whose value is a reference. -/
def probed (text probe key ending : String) : String :=
  text ++ (definition probe (referenceTo key) ++ ending)

variable {text probe key ending : String}
variable {reading : Reading}
variable {record : Descriptor}
variable (name : String) (path : Path)

/- The line is read with the variables of the text. -/
theorem parse_probed
    (hText : Text.IsEnded text)
    (hRun :
      foldNumbered Reading.add ⟨∅, ∅⟩ 1
          (Text.lines text.toList) =
        .ok reading)
    (hProbe : isKey probe.toList = true)
    (hKey : isKey key.toList = true)
    (hEnding : ending = "" ∨ ending = "\n") :
    parse name path (probed text probe key ending) =
      match
          expand reading.defined (referenceTo key).toList with
      | .error missing =>
          .error
            ((Text.lines text.toList).length + 1,
              .undefinedVariable missing)
      | .ok value =>
          .ok ⟨name, path, reading.fields.insert probe value⟩ := by
  have hValue := isPlainValue_referenceTo hKey
  have hSome : definition probe (referenceTo key) ≠ "" := by
    intro hNone
    have hChars := toList_definition probe (referenceTo key)
    rw [hNone] at hChars
    simp at hChars
  rw [probed,
    parse_append_line hText hRun hSome
      (newline_not_mem_definition hProbe hValue) hEnding,
    add_definition hProbe hValue, Nat.add_comm]
  cases expand reading.defined (referenceTo key).toList with
  | error missing => rfl
  | ok value => rfl

/-
  What a reference on a line behind a text stands for.  A key
  that may stand in a reference is worth what the last line
  that defines it gave it, and is a fault of the new line if
  there is none.  The reference to any other key is the value
  itself, whether or not the key is defined.
-/
structure IsReferable
    (text : String)
    (record : Descriptor)
    (probe ending : String) : Prop where
  defined :
    ∀ key : String,
      IsReferenceName key →
        (∃ line ∈ Text.lines text.toList,
          Defines line key.toList) →
          ∃ before line after upTo value,
            IsLastDefinition text key before line after ∧
              parse name path (before ++ line ++ "\n") =
                .ok upTo ∧
              upTo.fields[key]? = some value ∧
              parse name path (probed text probe key ending) =
                .ok
                  { record with
                    fields := record.fields.insert probe value }
  undefined :
    ∀ key : String,
      isKey key.toList = true →
        IsReferenceName key →
          (∀ line ∈ Text.lines text.toList,
            ¬ Defines line key.toList) →
            parse name path (probed text probe key ending) =
              .error
                ((Text.lines text.toList).length + 1,
                  .undefinedVariable key)
  unreferable :
    ∀ key : String,
      isKey key.toList = true →
        ¬ IsReferenceName key →
          parse name path (probed text probe key ending) =
            .ok
              { record with
                fields :=
                  record.fields.insert probe
                    (referenceTo key) }

/- A reference may stand behind any text that is parsed. -/
theorem parse_isReferable
    (hText : Text.IsEnded text)
    (hParsed : parse name path text = .ok record)
    (hProbe : isKey probe.toList = true)
    (hEnding : ending = "" ∨ ending = "\n") :
    IsReferable name path text record probe ending := by
  rcases parse_eq_ok_iff.mp hParsed with ⟨reading, hRun, rfl⟩
  have hUnmarked : reading.IsUnmarked := by
    apply isUnmarked_of_run hRun
    intro key value hValue
    simp at hValue
  constructor
  case defined =>
    intro key hName hDefined
    rcases exists_isLastDefinition hText hDefined with
      ⟨before, line, after, hLast⟩
    rcases defined_of_isLastDefinition hLast hRun with
      ⟨reached, value, hUpTo, hKey, hField, hValue⟩
    refine
      ⟨before, line, after, ⟨name, path, reached.fields⟩,
        value, hLast, ?_, hField, ?_⟩
    · exact parse_eq_ok_iff.mpr ⟨reached, hUpTo, rfl⟩
    · rw [parse_probed name path hText hRun hProbe hKey
          hEnding,
        expand_reference hKey hName (hUnmarked key), hValue]
  case undefined =>
    intro key hKey hName hNone
    have hValue := defined_of_run hRun hNone
    rw [String.ofList_toList] at hValue
    rw [parse_probed name path hText hRun hProbe hKey hEnding,
      expand_reference hKey hName (hUnmarked key), hValue]
    simp
  case unreferable =>
    intro key hKey hName
    rw [parse_probed name path hText hRun hProbe hKey hEnding,
      expand_unreferable hKey hName]

/- A variable that is defined twice, and a field. -/
def sampleText : String :=
  "a.1=$$\nName: c\na.1=$\x7ba.1\x7d5\né=\n"

theorem sampleText_isReferable :
    let record : Descriptor :=
      ⟨"rec", ⟨"rec.pc"⟩,
        Std.ExtTreeMap.ofList
          [("a.1", "$5"), ("Name", "c"), ("é", "")]⟩
    Text.IsEnded sampleText ∧
      parse "rec" ⟨"rec.pc"⟩ sampleText = .ok record ∧
      isKey "probe".toList = true ∧
      IsReferable "rec" ⟨"rec.pc"⟩ sampleText record "probe"
        "\n" := by
  have hText : Text.IsEnded sampleText :=
    Or.inr ⟨"a.1=$$\nName: c\na.1=$\x7ba.1\x7d5\né=", rfl⟩
  have hParsed :
      parse "rec" ⟨"rec.pc"⟩ sampleText =
        .ok
          ⟨"rec", ⟨"rec.pc"⟩,
            Std.ExtTreeMap.ofList
              [("a.1", "$5"), ("Name", "c"), ("é", "")]⟩ := by
    decide +kernel
  have hProbe : isKey "probe".toList = true := by
    decide +kernel
  exact
    ⟨hText, hParsed, hProbe,
      parse_isReferable "rec" ⟨"rec.pc"⟩ hText hParsed hProbe
        (Or.inr rfl)⟩

/-
  A letter outside of ASCII is defined as a variable, but what
  refers to it is copied, and is no fault where it is not
  defined.
-/
theorem letter_not_referable :
    (∃ line ∈ Text.lines "é=1\n".toList,
        Defines line "é".toList) ∧
      parse "rec" ⟨"rec.pc"⟩ "é=1\n" =
        .ok
          ⟨"rec", ⟨"rec.pc"⟩,
            Std.ExtTreeMap.ofList [("é", "1")]⟩ ∧
      probed "é=1\n" "probe" "é" "\n" =
        "é=1\nprobe=$\x7bé\x7d\n" ∧
      parse "rec" ⟨"rec.pc"⟩
          (probed "é=1\n" "probe" "é" "\n") ≠
        .ok
          ⟨"rec", ⟨"rec.pc"⟩,
            Std.ExtTreeMap.ofList
              [("é", "1"), ("probe", "1")]⟩ ∧
      parse "rec" ⟨"rec.pc"⟩
          (probed "é=1\n" "probe" "é" "\n") =
        .ok
          ⟨"rec", ⟨"rec.pc"⟩,
            Std.ExtTreeMap.ofList
              [("é", "1"), ("probe", "$\x7bé\x7d")]⟩ ∧
      parse "rec" ⟨"rec.pc"⟩ (probed "" "probe" "é" "\n") =
        .ok
          ⟨"rec", ⟨"rec.pc"⟩,
            Std.ExtTreeMap.ofList
              [("probe", "$\x7bé\x7d")]⟩ := by
  have hDefines :
      Defines (definition "é" "1").toList "é".toList :=
    defines_definition (by decide +kernel) (by decide +kernel)
  refine ⟨⟨(definition "é" "1").toList, ?_, hDefines⟩, ?_⟩
  · decide +kernel
  · decide +kernel

end Descriptor

end Componentry
