import Componentry.Proofs.Descriptor.Interpreter

/-
  Descriptor files are parsed as they are interpreted.

  A reading stands for what has been set so far, and line by
  line both say the same of a text without the mark.  The
  fault of a text is not changed by lines behind it: where the
  text has no final line feed its last line ends otherwise,
  but it has the same content.

  Main declarations:
    * `addAll_readingOf`, `parse_eq_interpret`
    * `parse_append`
    * `IsInterpreted`, `parse_isInterpreted`
-/

------------------------------------------------------------
-- Lines One after the Other
------------------------------------------------------------

namespace Componentry

namespace Descriptor

/- Lines are read one after the other. -/
theorem addAll_eq_foldNumbered
    (reading : Reading)
    (number : Nat)
    (lines : List (List Char)) :
    reading.addAll number lines =
      foldNumbered Reading.add reading number lines := by
  induction lines generalizing reading number with
  | nil => rfl
  | cons line lines ih =>
      rw [Reading.addAll, foldNumbered]
      cases reading.add line with
      | error fault => rfl
      | ok next => exact ih next (number + 1)

/- Lines without the mark are read as they are interpreted. -/
theorem foldNumbered_readingOf
    {settings : List Setting}
    (hUnmarked : IsUnmarked settings)
    (number : Nat)
    {lines : List (List Char)}
    (hPlain : ∀ line ∈ lines, mark ∉ line) :
    foldNumbered Reading.add (readingOf settings) number
        lines =
      (foldNumbered interpretLine settings number lines).map
        readingOf := by
  induction lines generalizing settings number with
  | nil => rfl
  | cons line lines ih =>
      rw [List.forall_mem_cons] at hPlain
      rw [foldNumbered, foldNumbered,
        add_readingOf hUnmarked hPlain.1]
      cases hNext : interpretLine settings line with
      | error fault => rfl
      | ok next =>
          exact
            ih
              (isUnmarked_interpretLine hUnmarked hPlain.1
                hNext)
              (number + 1) hPlain.2

/- So is a text without the mark. -/
theorem parse_eq_interpret
    (name : String)
    (path : Path)
    {text : String}
    (hPlain : mark ∉ text.toList) :
    parse name path text = interpret name path text := by
  have hLines :
      ∀ line ∈ Text.lines text.toList, mark ∉ line :=
    fun line hLine hMark =>
      hPlain
        ((Text.sublist_of_mem_lines hLine).subset hMark)
  have hUnmarked : IsUnmarked [] := by
    intro setting hSetting
    cases hSetting
  have hRead :
      Reading.addAll ⟨∅, ∅⟩ 1 (Text.lines text.toList) =
        (foldNumbered interpretLine [] 1
          (Text.lines text.toList)).map readingOf := by
    rw [addAll_eq_foldNumbered]
    exact foldNumbered_readingOf hUnmarked 1 hLines
  rw [parse, interpret, hRead]
  cases foldNumbered interpretLine [] 1
      (Text.lines text.toList) with
  | error fault => rfl
  | ok settings => rfl

end Descriptor

end Componentry

------------------------------------------------------------
-- Later Text
------------------------------------------------------------

namespace Componentry

namespace Descriptor

/- A line has the same content with either line end. -/
theorem content_dropReturn
    (line : List Char) :
    content (Text.dropReturn line) = content line := by
  rcases Text.dropReturn_cases line with hSame | hLast
  · rw [hSame]
  · unfold content
    conv_rhs => rw [hLast]
    rw [List.takeWhile_append]
    split
    · next hLength =>
        have hReturn :
            ['\r'].takeWhile (· != '#') = ['\r'] := by
          decide
        rw [hReturn, Text.trim_append_blank (by decide),
          (List.takeWhile_sublist _).eq_of_length hLength]
    · rfl

/- So either line end is read alike. -/
theorem add_dropReturn
    (reading : Reading)
    (line : List Char) :
    reading.add (Text.dropReturn line) = reading.add line := by
  rw [Reading.add, Reading.add, content_dropReturn]

/-
  A fault in the lines of a text is found before any lines
  that stand behind the line feed which ends the text.
-/
theorem foldNumbered_lines_append
    {reading : Reading}
    {number : Nat}
    {text : List Char}
    {fault : Nat × ParseFault}
    (hFault :
      foldNumbered Reading.add reading number
          (Text.lines text) =
        .error fault)
    (later : List Char) :
    foldNumbered Reading.add reading number
        (Text.lines (text ++ '\n' :: later)) =
      .error fault := by
  rcases List.eq_nil_or_concat'
      (Text.pieces (· == '\n') text) with
    hNone | ⟨before, last, hPieces⟩
  · exact absurd hNone (Text.pieces_ne_nil _ text)
  · rw [Text.lines_append, hPieces, List.map_append]
    apply foldNumbered_append_of_error
    rw [Text.lines_of_pieces hPieces, foldNumbered_append]
      at hFault
    rw [foldNumbered_append]
    cases hBefore :
        foldNumbered Reading.add reading number
          (before.map Text.dropReturn) with
    | error found =>
        rw [hBefore] at hFault
        exact hFault
    | ok reached =>
        rw [hBefore] at hFault
        cases last with
        | nil => cases hFault
        | cons c last =>
            change
              foldNumbered Reading.add reached _ [c :: last] =
                _ at hFault
            change
              foldNumbered Reading.add reached _
                  [Text.dropReturn (c :: last)] =
                _
            rw [foldNumbered, add_dropReturn]
            rwa [foldNumbered] at hFault

/- The fault of a text is not changed by later text. -/
theorem parse_append
    {name : String}
    {path : Path}
    {text : String}
    {fault : Nat × ParseFault}
    (hFault : parse name path text = .error fault)
    (later : String) :
    parse name path (text ++ "\n" ++ later) =
      .error fault := by
  have hText :
      (text ++ "\n" ++ later).toList =
        text.toList ++ '\n' :: later.toList := by
    rw [String.toList_append, String.toList_append,
      List.append_assoc]
    rfl
  rw [parse, addAll_eq_foldNumbered] at hFault
  rw [parse, addAll_eq_foldNumbered, hText]
  split at hFault
  · next found hFound =>
      cases hFault
      rw [foldNumbered_lines_append hFound]
  · cases hFault

end Descriptor

end Componentry

------------------------------------------------------------
-- The Language
------------------------------------------------------------

namespace Componentry

namespace Descriptor

/-
  A text is parsed as it is interpreted.  A record has the
  given name and path, and the value of the last line of each
  key.  A fault is that of the first line which is invalid
  where the lines before it lead to, and no later text changes
  it.
-/
structure IsInterpreted
    (name : String)
    (path : Path)
    (text : String) : Prop where
  same : parse name path text = interpret name path text
  record :
    ∀ record,
      parse name path text = .ok record ↔
        ∃ settings,
          foldNumbered interpretLine [] 1
              (Text.lines text.toList) =
            .ok settings ∧
          record.name = name ∧
          record.path = path ∧
          ∀ key, record.fields[key]? = lastValue? settings key
  fault :
    ∀ number fault,
      parse name path text = .error (number, fault) ↔
        ∃ before line after settings,
          Text.lines text.toList = before ++ line :: after ∧
            number = 1 + before.length ∧
            foldNumbered interpretLine [] 1 before =
              .ok settings ∧
            interpretLine settings line = .error fault
  later :
    ∀ fault,
      parse name path text = .error fault →
        ∀ later,
          parse name path (text ++ "\n" ++ later) =
            .error fault

/- Every text without the mark is parsed as interpreted. -/
theorem parse_isInterpreted
    (name : String)
    (path : Path)
    {text : String}
    (hPlain : '\x00' ∉ text.toList) :
    IsInterpreted name path text where
  same := parse_eq_interpret name path hPlain
  record := by
    intro record
    rw [parse_eq_interpret name path hPlain, interpret]
    cases foldNumbered interpretLine [] 1
        (Text.lines text.toList) with
    | error fault =>
        constructor
        · intro hRecord
          cases hRecord
        · rintro ⟨settings, hSettings, -⟩
          cases hSettings
    | ok settings =>
        constructor
        · intro hRecord
          cases hRecord
          exact
            ⟨settings, rfl, rfl, rfl,
              getElem?_fieldsOf settings⟩
        · rintro ⟨found, hFound, hName, hPath, hFields⟩
          cases hFound
          rcases record with ⟨foundName, foundPath, fields⟩
          dsimp only at hName hPath hFields
          have hSame : fieldsOf settings = fields := by
            apply Std.ExtTreeMap.ext_getElem?
            intro key
            rw [getElem?_fieldsOf, hFields]
          rw [hName, hPath, ← hSame]
          rfl
  fault := by
    intro number fault
    rw [parse_eq_interpret name path hPlain, interpret,
      ← foldNumbered_eq_error_iff]
    cases foldNumbered interpretLine [] 1
        (Text.lines text.toList) with
    | error found =>
        constructor
        · intro hFault
          cases hFault
          rfl
        · intro hFault
          cases hFault
          rfl
    | ok settings =>
        constructor
        · intro hFault
          cases hFault
        · intro hFault
          cases hFault
  later := fun _ hFault => parse_append hFault

/-
  A name that is defined again, dollar signs that touch
  references, and a line with two variables that have no value
  in front of a line without a separator.
-/
def redefinedText : String :=
  "a=1\nb=$$$$$\x7ba\x7d$\x7ba$$\x7d\n" ++
    "a=$$\x7ba\x7d # $\x7bd\x7d\n" ++
    "Lib: $\x7bb\x7d$\n" ++
    "c=$\x7ba\x7d$\x7bd\x7d$\x7be\x7d\nnone"

/- The first of the two is the fault, in the fifth line. -/
theorem parse_isInterpreted_redefined :
    '\x00' ∉ redefinedText.toList ∧
      IsInterpreted "camera" ⟨"camera.pc"⟩ redefinedText ∧
      interpret "camera" ⟨"camera.pc"⟩ redefinedText =
        .error (5, .undefinedVariable "d") := by
  have hPlain : '\x00' ∉ redefinedText.toList := by
    decide +kernel
  refine ⟨hPlain, ?_, by cbv⟩
  exact
    parse_isInterpreted "camera" ⟨"camera.pc"⟩ hPlain

end Descriptor

end Componentry
