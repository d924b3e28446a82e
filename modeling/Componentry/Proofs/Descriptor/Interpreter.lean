import Componentry.Proofs.Descriptor.Values
import Componentry.Proofs.Tables
import Componentry.Proofs.Text.Lines
import Componentry.Proofs.Text.Runs

/-
  Descriptor files read line by line.

  An interpreter takes the lines of a text in order and keeps
  what they set.  The value of a variable is the last one that
  was defined; the field of a key has the value of its last
  line; the first line that is invalid ends the reading.  A
  line without the mark is read as it is interpreted.

  Main declarations:
    * `Setting`, `lastValue?`, `definition?`
    * `interpretLine`, `foldNumbered`, `interpret`
    * `foldNumbered_append`, `foldNumbered_eq_error_iff`
    * `add_readingOf`, `isUnmarked_interpretLine`
-/

------------------------------------------------------------
-- Settings
------------------------------------------------------------

namespace Componentry

namespace Descriptor

/- A key that a line gives a value. -/
structure Setting where
  key : String
  value : String
  -- Does the line define a variable?
  defines : Bool
deriving DecidableEq, Repr

/- The value that a key was given last. -/
def lastValue?
    (settings : List Setting)
    (key : String) :
    Option String :=
  (settings.reverse.find? (·.key == key)).map (·.value)

/- The value that a variable was given last. -/
def definition?
    (settings : List Setting)
    (name : String) :
    Option String :=
  lastValue? (settings.filter (·.defines)) name

/- The table of keys with the values they were given last. -/
def fieldsOf (settings : List Setting) : Fields :=
  settings.foldl
    (fun fields setting =>
      fields.insert setting.key setting.value)
    ∅

theorem fieldsOf_append_singleton
    (settings : List Setting)
    (setting : Setting) :
    fieldsOf (settings ++ [setting]) =
      (fieldsOf settings).insert setting.key
        setting.value := by
  rw [fieldsOf, List.foldl_append]
  rfl

theorem getElem?_fieldsOf
    (settings : List Setting)
    (key : String) :
    (fieldsOf settings)[key]? = lastValue? settings key := by
  induction settings using List.reverseRecOn with
  | nil => rfl
  | append_singleton settings setting ih =>
      rw [fieldsOf_append_singleton, ByName.getElem?_insert,
        ih, lastValue?, lastValue?, List.reverse_append,
        List.reverse_singleton, List.singleton_append]
      by_cases hKey : setting.key = key
      · rw [if_pos hKey,
          List.find?_cons_of_pos (by simpa using hKey)]
        rfl
      · rw [if_neg hKey,
          List.find?_cons_of_neg (by simpa using hKey)]

end Descriptor

end Componentry

------------------------------------------------------------
-- The Interpreter
------------------------------------------------------------

namespace Componentry

namespace Descriptor

/- What a line sets that is not blank. -/
def interpretContent
    (settings : List Setting)
    (content : List Char) :
    Except ParseFault Setting :=
  match content.span fun c => c != '=' && c != ':' with
  | (_, []) => .error (.noSeparator (String.ofList content))
  | (before, separator :: after) =>
      let key := Text.trim before
      if key.isEmpty ||
          key.any fun c =>
            !(Text.isAlphanumeric c || c == '_' || c == '.') then
        .error (.invalidKey (String.ofList key))
      else
        match
            evaluate (definition? settings)
              (Text.trim after) with
        | .error name => .error (.undefinedVariable name)
        | .ok value =>
            .ok ⟨String.ofList key, value, separator == '='⟩

/- What has been set when a line has been read. -/
def interpretLine
    (settings : List Setting)
    (line : List Char) :
    Except ParseFault (List Setting) :=
  match Text.trim (line.takeWhile (· != '#')) with
  | [] => .ok settings
  | content =>
      (interpretContent settings content).map
        (settings ++ [·])

/-
  Take items in order, the first being numbered, to the first
  fault.
-/
def foldNumbered
    {α σ ε : Type}
    (step : σ → α → Except ε σ)
    (state : σ)
    (number : Nat) :
    List α → Except (Nat × ε) σ
  | [] => .ok state
  | item :: rest =>
      match step state item with
      | .error fault => .error (number, fault)
      | .ok next => foldNumbered step next (number + 1) rest

/- Interpret the text of a descriptor file. -/
def interpret
    (name : String)
    (path : Path)
    (text : String) :
    Except (Nat × ParseFault) Descriptor :=
  (foldNumbered interpretLine [] 1
      (Text.lines text.toList)).map
    fun settings => ⟨name, path, fieldsOf settings⟩

end Descriptor

end Componentry

------------------------------------------------------------
-- Numbered Items
------------------------------------------------------------

namespace Componentry

namespace Descriptor

variable {α σ ε : Type}
variable {step : σ → α → Except ε σ}

/- Items behind others are taken where these lead to. -/
theorem foldNumbered_append
    (state : σ)
    (number : Nat)
    (before after : List α) :
    foldNumbered step state number (before ++ after) =
      foldNumbered step state number before >>= fun next =>
        foldNumbered step next (number + before.length)
          after := by
  induction before generalizing state number with
  | nil => rfl
  | cons item before ih =>
      rw [List.cons_append, foldNumbered, foldNumbered,
        List.length_cons]
      cases step state item with
      | error fault => rfl
      | ok next =>
          dsimp only
          rw [ih, Nat.add_assoc, Nat.add_comm 1]

theorem foldNumbered_singleton
    (state : σ)
    (number : Nat)
    (item : α) :
    foldNumbered step state number [item] =
      (step state item).mapError (number, ·) := by
  rw [foldNumbered]
  cases step state item with
  | error fault => rfl
  | ok next => rfl

/- A fault is not changed by what comes behind it. -/
theorem foldNumbered_append_of_error
    {state : σ}
    {number : Nat}
    {before : List α}
    {fault : Nat × ε}
    (hFault :
      foldNumbered step state number before = .error fault)
    (after : List α) :
    foldNumbered step state number (before ++ after) =
      .error fault := by
  rw [foldNumbered_append, hFault]
  rfl

/- The fault is that of the first item which has one. -/
theorem foldNumbered_eq_error_iff
    {state : σ}
    {first number : Nat}
    {items : List α}
    {fault : ε} :
    foldNumbered step state first items =
        .error (number, fault) ↔
      ∃ before item after reached,
        items = before ++ item :: after ∧
          number = first + before.length ∧
          foldNumbered step state first before =
            .ok reached ∧
          step reached item = .error fault := by
  constructor
  · intro hFault
    induction items generalizing state first with
    | nil => cases hFault
    | cons item items ih =>
        rw [foldNumbered] at hFault
        cases hStep : step state item with
        | error found =>
            rw [hStep] at hFault
            cases hFault
            exact
              ⟨[], item, items, state, rfl, rfl, rfl, hStep⟩
        | ok next =>
            rw [hStep] at hFault
            rcases ih hFault with
              ⟨before, other, after, reached, hItems,
                hNumber, hReached, hOther⟩
            refine
              ⟨item :: before, other, after, reached, ?_, ?_,
                ?_, hOther⟩
            · rw [hItems]
              rfl
            · rw [hNumber, List.length_cons]
              omega
            · rw [foldNumbered, hStep]
              exact hReached
  · rintro ⟨before, item, after, reached, rfl, rfl, hReached,
      hFault⟩
    rw [foldNumbered_append, hReached]
    change foldNumbered step reached _ (item :: after) = _
    rw [foldNumbered, hFault]

end Descriptor

end Componentry

------------------------------------------------------------
-- One Line
------------------------------------------------------------

namespace Componentry

namespace Descriptor

/- What has been read when some settings have been made. -/
def readingOf (settings : List Setting) : Reading where
  defined := fieldsOf (settings.filter (·.defines))
  fields := fieldsOf settings

/- No setting has the mark. -/
def IsUnmarked (settings : List Setting) : Prop :=
  ∀ setting ∈ settings, mark ∉ setting.value.toList

variable {settings : List Setting}

theorem mark_not_mem_definition?
    (hUnmarked : IsUnmarked settings)
    (name value : String)
    (hValue : definition? settings name = some value) :
    mark ∉ value.toList := by
  rcases Option.map_eq_some_iff.mp hValue with
    ⟨setting, hFound, rfl⟩
  have hMember := List.mem_of_find?_eq_some hFound
  rw [List.mem_reverse] at hMember
  exact hUnmarked setting (List.mem_of_mem_filter hMember)

/- A key that is not one is empty or has another character. -/
theorem not_isKey
    (key : List Char) :
    (key.isEmpty ||
        key.any fun c =>
          !(Text.isAlphanumeric c || c == '_' || c == '.')) =
      !isKey key := by
  have hOther :
      (key.any fun c =>
          !(Text.isAlphanumeric c || c == '_' || c == '.')) =
        !key.all isKeyChar :=
    List.not_all_eq_any_not.symm
  rw [hOther, isKey, Bool.not_and, Bool.not_not]

/- What a setting adds to what has been read. -/
theorem readingOf_append
    (settings : List Setting)
    (setting : Setting) :
    readingOf (settings ++ [setting]) =
      { defined :=
          if setting.defines then
            (readingOf settings).defined.insert setting.key
              setting.value
          else (readingOf settings).defined
        fields :=
          (readingOf settings).fields.insert setting.key
            setting.value } := by
  unfold readingOf
  rw [fieldsOf_append_singleton, List.filter_append]
  cases hDefines : setting.defines with
  | false =>
      rw [List.filter_cons_of_neg (by simp [hDefines]),
        List.filter_nil, List.append_nil]
      rfl
  | true =>
      rw [List.filter_cons_of_pos hDefines, List.filter_nil,
        fieldsOf_append_singleton]
      rfl

theorem getElem?_defined
    (settings : List Setting)
    (name : String) :
    (readingOf settings).defined[name]? =
      definition? settings name :=
  getElem?_fieldsOf _ name

/- The key is cut off and checked before the value is read. -/
theorem interpretContent_eq
    (settings : List Setting)
    (content : List Char) :
    interpretContent settings content =
      readLine content >>= fun line =>
        ((evaluate (definition? settings) line.value).mapError
          .undefinedVariable).map
          (⟨String.ofList line.key, ·, line.defines⟩) := by
  have hStop :
      (fun c => !(c == '=' || c == ':')) =
        fun c : Char => c != '=' && c != ':' := by
    funext c
    exact Bool.not_or _ _
  rw [readLine, interpretContent, Text.cutFirst_eq_span,
    hStop]
  rcases content.span fun c => c != '=' && c != ':' with
    ⟨before, rest⟩
  cases rest with
  | nil => rfl
  | cons separator after =>
      dsimp only
      rw [not_isKey]
      cases isKey (Text.trim before) with
      | false => rfl
      | true =>
          simp only [bind, Except.bind, Bool.not_true,
            Bool.false_eq_true, if_false, if_true]
          cases evaluate (definition? settings)
              (Text.trim after) with
          | error name => rfl
          | ok value => rfl

/- A value is part of its line. -/
theorem value_sublist_of_readLine
    {content : List Char}
    {line : Line}
    (hLine : readLine content = .ok line) :
    line.value.Sublist content := by
  rw [readLine, Text.cutFirst_eq_span,
    List.span_eq_takeWhile_dropWhile] at hLine
  split at hLine
  · cases hLine
  · next before separator after hCut =>
      split at hCut
      · cases hCut
      · next hRest =>
          cases hCut
          rw [Prod.mk.injEq] at hRest
          dsimp only at hLine
          split at hLine
          · cases hLine
            have hAfter := List.sublist_cons_self separator after
            rw [← hRest.2] at hAfter
            exact
              (Text.trim_sublist after).trans
                (hAfter.trans (List.dropWhile_sublist _))
          · cases hLine

/- The content of a line is part of it. -/
theorem content_sublist
    (line : List Char) :
    (content line).Sublist line :=
  (Text.trim_sublist _).trans (List.takeWhile_sublist _)

/- A line is read as it is interpreted. -/
theorem add_readingOf
    (hUnmarked : IsUnmarked settings)
    {line : List Char}
    (hPlain : mark ∉ line) :
    (readingOf settings).add line =
      (interpretLine settings line).map readingOf := by
  rw [Reading.add, interpretLine, ← content]
  cases hContent : content line with
  | nil => rfl
  | cons c rest =>
      dsimp only
      rw [interpretContent_eq]
      cases hLine : readLine (c :: rest) with
      | error fault => rfl
      | ok read =>
          have hValue : mark ∉ read.value := by
            intro hMark
            have hPart := value_sublist_of_readLine hLine
            rw [← hContent] at hPart
            exact
              hPlain
                ((hPart.trans (content_sublist line)).subset
                  hMark)
          have hDefined :
              expand (readingOf settings).defined read.value =
                evaluate (definition? settings) read.value := by
            rw [expand_eq_evaluate hValue]
            · simp only [getElem?_defined]
            · intro name value hDefinition
              rw [getElem?_defined] at hDefinition
              exact mark_not_mem_definition? hUnmarked name value
                  hDefinition
          simp only [bind, Except.bind]
          rw [hDefined]
          cases evaluate (definition? settings) read.value with
          | error name => rfl
          | ok value =>
              exact
                congrArg Except.ok
                  (readingOf_append settings
                    ⟨String.ofList read.key, value,
                      read.defines⟩).symm

/- No mark comes about by interpreting a line. -/
theorem isUnmarked_interpretLine
    (hUnmarked : IsUnmarked settings)
    {line : List Char}
    (hPlain : mark ∉ line)
    {next : List Setting}
    (hNext : interpretLine settings line = .ok next) :
    IsUnmarked next := by
  rw [interpretLine, ← content] at hNext
  split at hNext
  · cases hNext
    exact hUnmarked
  · rw [interpretContent_eq] at hNext
    cases hLine : readLine (content line) with
    | error fault => rw [hLine] at hNext; cases hNext
    | ok read =>
        rw [hLine] at hNext
        simp only [bind, Except.bind] at hNext
        cases hValue :
            evaluate (definition? settings) read.value with
        | error name => rw [hValue] at hNext; cases hNext
        | ok value =>
            rw [hValue] at hNext
            cases hNext
            intro setting hSetting
            rcases List.mem_append.mp hSetting with hOld | hNew
            · exact hUnmarked setting hOld
            · rw [List.mem_singleton.mp hNew]
              refine
                mark_not_mem_evaluate ?_
                  (mark_not_mem_definition? hUnmarked) hValue
              intro hMark
              exact
                hPlain
                  (((value_sublist_of_readLine hLine).trans
                    (content_sublist line)).subset hMark)

end Descriptor

end Componentry
