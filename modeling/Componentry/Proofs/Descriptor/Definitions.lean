import Componentry.Proofs.Answers
import Componentry.Proofs.Descriptor.Parsing
import Componentry.Proofs.Text.Layouts

/-
  Lines that give keys values.

  A line with a key, an equals sign and a value that neither
  comments nor white space touch is read as it stands.  Any
  line that is read sets its own key and leaves the others,
  and only lines with an equals sign define variables; so what
  a variable is worth at the end of a text is told by the last
  line that defines it.

  Main declarations:
    * `IsPlainValue`, `readLine_eq_ok_iff`
    * `definition`, `add_definition`
    * `Defines`, `defines_iff`
    * `add_cases`, `defined_of_defines`
    * `foldNumbered_invariant`, `defined_of_run`
    * `parse_eq_ok_iff`
    * `run_append_line`, `parse_append_line`
-/

------------------------------------------------------------
-- Characters of Keys
------------------------------------------------------------

namespace Componentry

namespace Descriptor

/- White space may not stand in a key. -/
theorem isBlank_of_isKeyChar
    {c : Char}
    (hChar : isKeyChar c = true) :
    Text.isBlank c = false := by
  cases hBlank : Text.isBlank c with
  | false => rfl
  | true =>
      rw [isKeyChar, Text.isAlphanumeric_of_isBlank hBlank,
        Bool.false_or, Bool.or_eq_true, beq_iff_eq,
        beq_iff_eq] at hChar
      rcases hChar with rfl | rfl
      · revert hBlank
        decide
      · revert hBlank
        decide

/- Neither may what ends keys, values or lines. -/
theorem ne_of_isKeyChar
    {c other : Char}
    (hChar : isKeyChar c = true)
    (hOther : isKeyChar other = false) :
    c ≠ other := by
  rintro rfl
  rw [hChar] at hOther
  cases hOther

theorem isKey_iff
    {key : List Char} :
    isKey key = true ↔
      key ≠ [] ∧ ∀ c ∈ key, isKeyChar c = true := by
  rw [isKey, Bool.and_eq_true, List.all_eq_true]
  cases key with
  | nil => simp
  | cons c key => simp

/- A key has none of the characters of another kind. -/
theorem not_mem_of_isKey
    {key : List Char}
    {other : Char}
    (hKey : isKey key = true)
    (hOther : isKeyChar other = false) :
    other ∉ key := by
  intro hMember
  rw [(isKey_iff.mp hKey).2 other hMember] at hOther
  cases hOther

end Descriptor

end Componentry

------------------------------------------------------------
-- Lines as They Stand
------------------------------------------------------------

namespace Componentry

namespace Descriptor

/- A value that a line can hold as it is. -/
structure IsPlainValue (value : List Char) : Prop where
  uncommented : '#' ∉ value
  oneLine : '\n' ∉ value
  trimmed : Text.IsTrimmed value

instance
    (value : List Char) :
    Decidable (IsPlainValue value) :=
  decidable_of_iff
    ('#' ∉ value ∧ '\n' ∉ value ∧ Text.IsTrimmed value)
    ⟨fun h => ⟨h.1, h.2.1, h.2.2⟩,
      fun h => ⟨h.uncommented, h.oneLine, h.trimmed⟩⟩

variable {key value : List Char}
variable {read : Line}

/- A key and a value make a line without white space around. -/
theorem isTrimmed_definition
    (hKey : isKey key = true)
    (hValue : Text.IsTrimmed value) :
    Text.IsTrimmed (key ++ '=' :: value) := by
  rcases isKey_iff.mp hKey with ⟨hSome, hChars⟩
  rcases List.exists_cons_of_ne_nil hSome with
    ⟨first, rest, rfl⟩
  constructor
  case head =>
    intro c hHead
    cases hHead
    exact isBlank_of_isKeyChar (hChars first List.mem_cons_self)
  case last =>
    intro c hLast
    rw [List.getLast?_append_of_ne_nil _ (by simp)] at hLast
    cases value with
    | nil =>
        cases hLast
        decide
    | cons d value =>
        rw [List.getLast?_cons_cons] at hLast
        exact hValue.last c hLast

theorem content_definition
    (hKey : isKey key = true)
    (hValue : IsPlainValue value) :
    content (key ++ '=' :: value) = key ++ '=' :: value := by
  have hKeyPlain : '#' ∉ key :=
    not_mem_of_isKey hKey (by decide +kernel)
  have hUncommented :
      ∀ c ∈ key ++ '=' :: value, (c != '#') = true := by
    intro c hMember
    rw [bne_iff_ne]
    rintro rfl
    rw [List.mem_append, List.mem_cons] at hMember
    rcases hMember with hFront | hSign | hBehind
    · exact hKeyPlain hFront
    · revert hSign
      decide
    · exact hValue.uncommented hBehind
  rw [content, List.takeWhile_eq_self_iff.mpr hUncommented]
  exact (isTrimmed_definition hKey hValue.trimmed).trim_eq

/- A line is read by its first separator. -/
theorem readLine_eq_ok_iff
    {content : List Char} :
    readLine content = .ok read ↔
      ∃ before separator after,
        Text.cutFirst (fun c => c == '=' || c == ':')
              content =
            some (before, separator, after) ∧
          isKey (Text.trim before) = true ∧
          read =
            ⟨Text.trim before, separator == '=',
              Text.trim after⟩ := by
  unfold readLine
  cases Text.cutFirst (fun c => c == '=' || c == ':')
      content with
  | none => simp
  | some cut =>
      rcases cut with ⟨before, separator, after⟩
      simp only [Option.some.injEq, Prod.mk.injEq]
      constructor
      · intro hRead
        split at hRead
        · next hKey =>
            cases hRead
            exact
              ⟨before, separator, after, ⟨rfl, rfl, rfl⟩,
                hKey, rfl⟩
        · cases hRead
      · rintro ⟨_, _, _, ⟨rfl, rfl, rfl⟩, hKey, rfl⟩
        rw [if_pos hKey]

/- What is in front of an equals sign is the key. -/
theorem readLine_definition
    (hKey : isKey key = true)
    (hValue : Text.IsTrimmed value) :
    readLine (key ++ '=' :: value) = .ok ⟨key, true, value⟩ := by
  have hChars := (isKey_iff.mp hKey).2
  have hTrim : Text.trim key = key := by
    apply Text.IsTrimmed.trim_eq
    apply Text.isTrimmed_of_forall
    intro c hMember
    exact isBlank_of_isKeyChar (hChars c hMember)
  rw [readLine_eq_ok_iff]
  refine ⟨key, '=', value, ?_, ?_, ?_⟩
  · rw [Text.cutFirst_eq_some_iff]
    refine ⟨rfl, rfl, ?_⟩
    intro c hMember
    rw [Bool.or_eq_false_iff, beq_eq_false_iff_ne,
      beq_eq_false_iff_ne]
    exact
      ⟨ne_of_isKeyChar (hChars c hMember) (by decide +kernel),
        ne_of_isKeyChar (hChars c hMember)
          (by decide +kernel)⟩
  · rwa [hTrim]
  · rw [hTrim, hValue.trim_eq]
    rfl

end Descriptor

end Componentry

------------------------------------------------------------
-- Definitions
------------------------------------------------------------

namespace Componentry

namespace Descriptor

/- The line that defines a variable. -/
def definition (key value : String) : String :=
  key ++ "=" ++ value

variable {key value : String}

theorem toList_definition
    (key value : String) :
    (definition key value).toList =
      key.toList ++ '=' :: value.toList := by
  rw [definition, String.toList_append, String.toList_append,
    List.append_assoc]
  rfl

theorem newline_not_mem_definition
    (hKey : isKey key.toList = true)
    (hValue : IsPlainValue value.toList) :
    '\n' ∉ (definition key value).toList := by
  rw [toList_definition, List.mem_append, List.mem_cons]
  rintro (hFront | hSign | hBehind)
  · exact not_mem_of_isKey hKey (by decide +kernel) hFront
  · revert hSign
    decide
  · exact hValue.oneLine hBehind

/- The key gets what the value is expanded to. -/
theorem add_definition
    (hKey : isKey key.toList = true)
    (hValue : IsPlainValue value.toList)
    (reading : Reading) :
    reading.add (definition key value).toList =
      match expand reading.defined value.toList with
      | .error name => .error (.undefinedVariable name)
      | .ok result =>
          .ok
            ⟨reading.defined.insert key result,
              reading.fields.insert key result⟩ := by
  rw [toList_definition, Reading.add,
    content_definition hKey hValue]
  split
  · next hNone => simp at hNone
  · rw [readLine_definition hKey hValue.trimmed]
    dsimp only [bind, Except.bind]
    rw [String.ofList_toList]
    rfl

end Descriptor

end Componentry

------------------------------------------------------------
-- Lines That Define
------------------------------------------------------------

namespace Componentry

namespace Descriptor

/-
  A line `key=value` of a given key: its first separator is an
  equals sign, and in front of it stands the key.
-/
def Defines (line key : List Char) : Prop :=
  ∃ before after,
    content line = before ++ '=' :: after ∧
      (∀ c ∈ before, c ≠ '=' ∧ c ≠ ':') ∧
      Text.trim before = key

variable {line key : List Char}
variable {read : Line}

/- A line that is read defines the key it is read with. -/
theorem defines_iff
    (hRead : readLine (content line) = .ok read) :
    Defines line key ↔
      read.defines = true ∧ read.key = key := by
  rcases readLine_eq_ok_iff.mp hRead with
    ⟨before, separator, after, hCut, -, rfl⟩
  rw [beq_iff_eq]
  constructor
  · rintro ⟨front, rest, hContent, hFront, hKey⟩
    have hOther :
        Text.cutFirst (fun c => c == '=' || c == ':')
            (content line) =
          some (front, '=', rest) := by
      rw [Text.cutFirst_eq_some_iff]
      refine ⟨hContent, rfl, ?_⟩
      intro c hMember
      simp [hFront c hMember]
    rw [hCut] at hOther
    cases hOther
    exact ⟨rfl, hKey⟩
  · rintro ⟨rfl, rfl⟩
    rcases Text.cutFirst_eq_some_iff.mp hCut with
      ⟨hContent, -, hBefore⟩
    refine ⟨before, after, hContent, ?_, rfl⟩
    intro c hMember
    have hNot := hBefore c hMember
    rw [Bool.or_eq_false_iff, beq_eq_false_iff_ne,
      beq_eq_false_iff_ne] at hNot
    exact hNot

theorem defines_definition
    {key value : String}
    (hKey : isKey key.toList = true)
    (hValue : IsPlainValue value.toList) :
    Defines (definition key value).toList key.toList := by
  have hRead :
      readLine (content (definition key value).toList) =
        .ok ⟨key.toList, true, value.toList⟩ := by
    rw [toList_definition, content_definition hKey hValue,
      readLine_definition hKey hValue.trimmed]
  exact (defines_iff hRead).mpr ⟨rfl, rfl⟩

/- A blank line defines nothing. -/
theorem not_defines_of_blank
    (hBlank : content line = []) :
    ¬ Defines line key := by
  rintro ⟨before, after, hContent, -⟩
  rw [hBlank] at hContent
  simp at hContent

/- Either line end is told alike. -/
theorem defines_dropReturn :
    Defines (Text.dropReturn line) key ↔
      Defines line key := by
  rw [Defines, Defines, content_dropReturn]

end Descriptor

end Componentry

------------------------------------------------------------
-- One Line
------------------------------------------------------------

namespace Componentry

namespace Descriptor

variable {reading next : Reading}
variable {line key : List Char}

/- A line is blank or gives its key what it stands for. -/
theorem add_cases
    (hNext : reading.add line = .ok next) :
    (content line = [] ∧ next = reading) ∨
      ∃ read value,
        readLine (content line) = .ok read ∧
          expand reading.defined read.value = .ok value ∧
          next =
            ⟨if read.defines then
                reading.defined.insert
                  (String.ofList read.key) value
              else reading.defined,
              reading.fields.insert
                (String.ofList read.key) value⟩ := by
  unfold Reading.add at hNext
  split at hNext
  · next hBlank =>
      cases hNext
      exact Or.inl ⟨hBlank, rfl⟩
  · rcases bind_eq_ok_iff.mp hNext with
      ⟨read, hRead, hExpand⟩
    cases hValue : expand reading.defined read.value with
    | error name =>
        rw [hValue] at hExpand
        cases hExpand
    | ok value =>
        rw [hValue] at hExpand
        cases hExpand
        exact Or.inr ⟨read, value, hRead, hValue, rfl⟩

/- A variable is worth what its field is when defined. -/
theorem defined_of_defines
    (hNext : reading.add line = .ok next)
    (hDefines : Defines line key) :
    ∃ value,
      next.defined[String.ofList key]? = some value ∧
        next.fields[String.ofList key]? = some value := by
  rcases add_cases hNext with
    ⟨hBlank, -⟩ | ⟨read, value, hRead, -, rfl⟩
  · exact absurd hDefines (not_defines_of_blank hBlank)
  · rcases (defines_iff hRead).mp hDefines with
      ⟨hVariable, rfl⟩
    refine ⟨value, ?_, ?_⟩
    · dsimp only
      rw [if_pos hVariable, ByName.getElem?_insert,
        if_pos rfl]
    · exact
        (ByName.getElem?_insert _ _ _ _).trans (if_pos rfl)

/- Only keys are defined. -/
theorem isKey_of_defines
    (hNext : reading.add line = .ok next)
    (hDefines : Defines line key) :
    isKey key = true := by
  rcases add_cases hNext with
    ⟨hBlank, -⟩ | ⟨read, value, hRead, -, -⟩
  · exact absurd hDefines (not_defines_of_blank hBlank)
  · rcases (defines_iff hRead).mp hDefines with ⟨-, rfl⟩
    rcases readLine_eq_ok_iff.mp hRead with
      ⟨before, separator, after, -, hKey, rfl⟩
    exact hKey

/- Other lines leave it as it was. -/
theorem defined_of_not_defines
    (hNext : reading.add line = .ok next)
    (hNot : ¬ Defines line key) :
    next.defined[String.ofList key]? =
      reading.defined[String.ofList key]? := by
  rcases add_cases hNext with
    ⟨-, rfl⟩ | ⟨read, value, hRead, -, rfl⟩
  · rfl
  · rw [defines_iff hRead, not_and] at hNot
    dsimp only
    split
    · next hVariable =>
        rw [ByName.getElem?_insert, if_neg]
        intro hSame
        exact hNot hVariable (String.ofList_injective hSame)
    · rfl

/- No variable is worth a text with the mark. -/
def Reading.IsUnmarked (reading : Reading) : Prop :=
  ∀ name value : String,
    reading.defined[name]? = some value →
      mark ∉ value.toList

/- What a value is expanded to has no mark. -/
theorem mark_not_mem_expand
    {defined : Fields}
    {cs : List Char}
    {value : String}
    (hValue : expand defined cs = .ok value) :
    mark ∉ value.toList := by
  rcases bind_eq_ok_iff.mp hValue with ⟨found, -, hSame⟩
  cases hSame
  rw [String.toList_ofList]
  exact mark_not_mem_restoreDollars found

theorem isUnmarked_of_add
    (hNext : reading.add line = .ok next)
    (hUnmarked : reading.IsUnmarked) :
    next.IsUnmarked := by
  rcases add_cases hNext with
    ⟨-, rfl⟩ | ⟨read, value, -, hValue, rfl⟩
  · exact hUnmarked
  · intro name found hFound
    dsimp only at hFound
    split at hFound
    · rw [ByName.getElem?_insert] at hFound
      split at hFound
      · cases hFound
        exact mark_not_mem_expand hValue
      · exact hUnmarked name found hFound
    · exact hUnmarked name found hFound

end Descriptor

end Componentry

------------------------------------------------------------
-- Lines One after the Other
------------------------------------------------------------

namespace Componentry

namespace Descriptor

variable {reading reached : Reading}
variable {number : Nat}
variable {lines : List (List Char)}

/- What each line keeps is kept by all lines. -/
theorem foldNumbered_invariant
    (Inv : Reading → Prop)
    (hStart : Inv reading)
    (hStep :
      ∀ line ∈ lines, ∀ before after : Reading,
        before.add line = .ok after →
          Inv before → Inv after)
    (hRun :
      foldNumbered Reading.add reading number lines =
        .ok reached) :
    Inv reached := by
  induction lines generalizing reading number with
  | nil =>
      cases hRun
      exact hStart
  | cons line lines ih =>
      rw [List.forall_mem_cons] at hStep
      rw [foldNumbered] at hRun
      cases hNext : reading.add line with
      | error fault =>
          rw [hNext] at hRun
          cases hRun
      | ok next =>
          rw [hNext] at hRun
          exact
            ih (hStep.1 reading next hNext hStart) hStep.2
              hRun

/- A variable is kept by lines that do not define it. -/
theorem defined_of_run
    {key : List Char}
    (hRun :
      foldNumbered Reading.add reading number lines =
        .ok reached)
    (hNone : ∀ line ∈ lines, ¬ Defines line key) :
    reached.defined[String.ofList key]? =
      reading.defined[String.ofList key]? := by
  refine
    foldNumbered_invariant
      (fun other =>
        other.defined[String.ofList key]? =
          reading.defined[String.ofList key]?)
      rfl ?_ hRun
  intro line hLine before after hNext hBefore
  rw [defined_of_not_defines hNext (hNone line hLine)]
  exact hBefore

theorem isUnmarked_of_run
    (hRun :
      foldNumbered Reading.add reading number lines =
        .ok reached)
    (hUnmarked : reading.IsUnmarked) :
    reached.IsUnmarked := by
  refine
    foldNumbered_invariant Reading.IsUnmarked hUnmarked ?_
      hRun
  intro line _ before after hNext
  exact isUnmarked_of_add hNext

end Descriptor

end Componentry

------------------------------------------------------------
-- Whole Texts
------------------------------------------------------------

namespace Componentry

namespace Descriptor

variable {name : String} {path : Path}
variable {text : String}

/- A text is parsed to the fields that its lines lead to. -/
theorem parse_eq_ok_iff
    {record : Descriptor} :
    parse name path text = .ok record ↔
      ∃ reading,
        foldNumbered Reading.add ⟨∅, ∅⟩ 1
            (Text.lines text.toList) =
          .ok reading ∧
        record = ⟨name, path, reading.fields⟩ := by
  rw [parse, addAll_eq_foldNumbered]
  cases foldNumbered Reading.add ⟨∅, ∅⟩ 1
      (Text.lines text.toList) with
  | error fault => simp
  | ok reading => simp [eq_comm]

/- A line and its end are read as the line. -/
theorem exists_lines_line
    {line ending : String}
    (hSome : line ≠ "")
    (hLine : '\n' ∉ line.toList)
    (hEnding : ending = "" ∨ ending = "\n") :
    ∃ last,
      Text.lines (line ++ ending).toList = [last] ∧
        ∀ reading : Reading,
          reading.add last = reading.add line.toList := by
  have hPieces :
      Text.pieces (· == '\n') line.toList =
        [] ++ [line.toList] :=
    Text.pieces_of_not_mem hLine
  rcases hEnding with rfl | rfl
  · refine ⟨line.toList, ?_, fun _ => rfl⟩
    have hChars : line.toList.isEmpty = false := by
      rw [List.isEmpty_eq_false_iff]
      intro hEmpty
      exact hSome (String.toList_eq_nil_iff.mp hEmpty)
    rw [String.append_empty, Text.lines_of_pieces hPieces,
      hChars]
    rfl
  · refine
      ⟨Text.dropReturn line.toList, ?_,
        fun reading => add_dropReturn reading line.toList⟩
    have hText :
        (line ++ "\n").toList = line.toList ++ '\n' :: [] := by
      rw [String.toList_append]
      rfl
    rw [hText, Text.lines_append, hPieces]
    rfl

/- One line more is read where the text leads to. -/
theorem run_append_line
    {reading : Reading}
    {number : Nat}
    {line ending : String}
    (hText : Text.IsEnded text)
    (hSome : line ≠ "")
    (hLine : '\n' ∉ line.toList)
    (hEnding : ending = "" ∨ ending = "\n") :
    foldNumbered Reading.add reading number
        (Text.lines (text ++ (line ++ ending)).toList) =
      foldNumbered Reading.add reading number
          (Text.lines text.toList) >>= fun next =>
        (next.add line.toList).mapError
          (number + (Text.lines text.toList).length, ·) := by
  rcases exists_lines_line hSome hLine hEnding with
    ⟨last, hLast, hSame⟩
  rw [String.toList_append,
    Text.lines_append_of_isEnded hText, hLast,
    foldNumbered_append]
  simp only [foldNumbered_singleton, hSame]

theorem parse_append_line
    {reading : Reading}
    {line ending : String}
    (hText : Text.IsEnded text)
    (hRead :
      foldNumbered Reading.add ⟨∅, ∅⟩ 1
          (Text.lines text.toList) =
        .ok reading)
    (hSome : line ≠ "")
    (hLine : '\n' ∉ line.toList)
    (hEnding : ending = "" ∨ ending = "\n") :
    parse name path (text ++ (line ++ ending)) =
      match reading.add line.toList with
      | .error fault =>
          .error
            (1 + (Text.lines text.toList).length, fault)
      | .ok next => .ok ⟨name, path, next.fields⟩ := by
  rw [parse, addAll_eq_foldNumbered,
    run_append_line hText hSome hLine hEnding, hRead]
  dsimp only [bind, Except.bind]
  cases reading.add line.toList with
  | error fault => rfl
  | ok next => rfl

end Descriptor

end Componentry
