import Mathlib.Data.List.Basic
import Componentry.Composition.TypeName

/-
  Type names in two notations.

  A type is a path of segments, and a segment may have
  arguments that are types again.  A type registry writes a
  slash in front of every segment; in C++ double colons stand
  between the segments.  One pass that looks back at a single
  character turns the one notation into the other: a path
  starts with the text, or behind a bracket, a comma or a
  space, and no segment ends with one of these.

  Main declarations:
    * `TypeTree`, `PathSpelling`, `TypeTree.written`
    * `TypeWord.cxxAfter_append`
    * `TypeTree.cxxAfter_joined`, `TypeTree.cxx_registry`
    * `TypeName.Respells`, `TypeName.respells_cxx`
    * `TypeName.spellsTypes`
-/

------------------------------------------------------------
-- Types as Trees
------------------------------------------------------------

namespace Componentry

/- The text of a segment: no separator, no space at its end. -/
structure TypeWord where
  text : List Char
  not_empty : text ≠ []
  plain : ∀ c ∈ text, c ∉ ['/', '<', '>', ',']
  last : text.getLast? ≠ some ' '

mutual

/- A type: one segment or more. -/
inductive TypeTree where
  | last (segment : TypeSegment)
  | step (segment : TypeSegment) (rest : TypeTree)

/- A segment, with arguments or without. -/
inductive TypeSegment where
  | plain (word : TypeWord)
  | applied (word : TypeWord) (arguments : TypeArguments)

/-
  One argument or more; behind the comma of an argument there
  is a space, or there is none.
-/
inductive TypeArguments where
  | last (argument : TypeTree)
  | next
      (argument : TypeTree)
      (spaced : Bool)
      (rest : TypeArguments)

end

/- How the segments of a path are told apart. -/
structure PathSpelling where
  -- What stands in front of a path.
  lead : List Char
  -- What stands between two segments.
  joint : List Char

/- A type registry has a slash in front of every segment. -/
def PathSpelling.registry : PathSpelling :=
  ⟨['/'], ['/']⟩

/- C++ has double colons between segments. -/
def PathSpelling.cxx : PathSpelling :=
  ⟨[], [':', ':']⟩

@[simp] theorem PathSpelling.lead_registry :
    registry.lead = ['/'] :=
  rfl

@[simp] theorem PathSpelling.joint_registry :
    registry.joint = ['/'] :=
  rfl

@[simp] theorem PathSpelling.lead_cxx :
    cxx.lead = [] :=
  rfl

@[simp] theorem PathSpelling.joint_cxx :
    cxx.joint = [':', ':'] :=
  rfl

/- A comma between arguments. -/
def TypeArguments.comma (spaced : Bool) : List Char :=
  if spaced then [',', ' '] else [',']

mutual

/- The segments of a type, without what leads them. -/
def TypeTree.joined
    (spelling : PathSpelling) :
    TypeTree → List Char
  | .last segment => segment.written spelling
  | .step segment rest =>
      segment.written spelling ++
        (spelling.joint ++ rest.joined spelling)

/- A segment with its arguments in angle brackets. -/
def TypeSegment.written
    (spelling : PathSpelling) :
    TypeSegment → List Char
  | .plain word => word.text
  | .applied word arguments =>
      word.text ++
        '<' :: (arguments.written spelling ++ ['>'])

/- Arguments with commas between them. -/
def TypeArguments.written
    (spelling : PathSpelling) :
    TypeArguments → List Char
  | .last argument =>
      spelling.lead ++ argument.joined spelling
  | .next argument spaced rest =>
      spelling.lead ++
        (argument.joined spelling ++
          (TypeArguments.comma spaced
            ++ rest.written spelling))

end

/- A type as it is written. -/
def TypeTree.written
    (tree : TypeTree)
    (spelling : PathSpelling) :
    String :=
  String.ofList (spelling.lead ++ tree.joined spelling)

end Componentry

------------------------------------------------------------
-- One Pass
------------------------------------------------------------

namespace Componentry

namespace TypeName

variable {previous other : Option Char}

/- All that counts of a character behind is what it opens. -/
theorem cxxAfter_congr
    (hSame : opensPath previous = opensPath other)
    (cs : List Char) :
    cxxAfter previous cs = cxxAfter other cs := by
  cases cs with
  | nil => rfl
  | cons c cs => rw [cxxAfter, cxxAfter, hSame]

theorem cxxAfter_char
    {c : Char}
    (hChar : c ≠ '/')
    (cs : List Char) :
    cxxAfter previous (c :: cs) = c :: cxxAfter (some c) cs := by
  rw [cxxAfter, if_neg hChar]
  rfl

/- A slash that opens a path is dropped. -/
theorem cxxAfter_opening
    (hOpens : opensPath previous = true)
    (cs : List Char) :
    cxxAfter previous ('/' :: cs) = cxxAfter (some '/') cs := by
  rw [cxxAfter, if_pos rfl, if_pos hOpens]
  rfl

/- Any other slash becomes double colons. -/
theorem cxxAfter_joint
    (hCloses : opensPath previous = false)
    (cs : List Char) :
    cxxAfter previous ('/' :: cs) =
      ':' :: ':' :: cxxAfter (some '/') cs := by
  rw [cxxAfter, if_pos rfl, hCloses]
  rfl

/- A text without slashes is copied. -/
theorem cxxAfter_append
    {cs : List Char}
    (hCopied : '/' ∉ cs)
    (rest : List Char) :
    cxxAfter previous (cs ++ rest) =
      cs ++ cxxAfter (cs.getLast?.or previous) rest := by
  induction cs generalizing previous with
  | nil => rfl
  | cons c cs ih =>
      rw [List.mem_cons, not_or] at hCopied
      rw [List.cons_append,
        cxxAfter_char (Ne.symm hCopied.1), ih hCopied.2,
        List.cons_append, List.getLast?_cons]
      cases cs.getLast? <;> rfl

end TypeName

end Componentry

------------------------------------------------------------
-- Types in C++
------------------------------------------------------------

namespace Componentry

/- Behind a comma, with a space or without, a path is opened. -/
theorem TypeArguments.cxxAfter_comma
    (previous : Option Char)
    (spaced : Bool)
    (rest : List Char) :
    TypeName.cxxAfter previous (comma spaced ++ rest) =
      comma spaced ++ TypeName.cxxAfter (some ',') rest := by
  cases spaced with
  | false => exact TypeName.cxxAfter_char (by decide) rest
  | true =>
      have hOpens :
          TypeName.opensPath (some ' ') =
            TypeName.opensPath (some ',') :=
        rfl
      rw [← TypeName.cxxAfter_congr hOpens rest]
      rfl

/-
  A word is copied.  Its last character opens no path, so what
  follows is read as behind any other one that opens none.
-/
theorem TypeWord.cxxAfter_append
    {next : Char}
    (hNext : TypeName.opensPath (some next) = false)
    (word : TypeWord)
    (previous : Option Char)
    (rest : List Char) :
    TypeName.cxxAfter previous (word.text ++ rest) =
      word.text ++ TypeName.cxxAfter (some next) rest := by
  have hCopied : '/' ∉ word.text := by
    intro hSlash
    exact word.plain '/' hSlash (by simp)
  have hCloses :
      TypeName.opensPath (word.text.getLast?.or previous) =
        false := by
    cases hLast : word.text.getLast? with
    | none =>
        have hEmpty := List.getLast?_eq_none_iff.mp hLast
        exact absurd hEmpty word.not_empty
    | some last =>
        have hPlain :=
          word.plain last (List.mem_of_getLast? hLast)
        have hSpace : last ≠ ' ' := by
          rintro rfl
          exact word.last hLast
        simp only [List.mem_cons, not_or] at hPlain
        simp [TypeName.opensPath, hPlain, hSpace]
  rw [TypeName.cxxAfter_append hCopied]
  congr 1
  apply TypeName.cxxAfter_congr
  rw [hCloses, hNext]

mutual

/- A path is turned segment by segment. -/
theorem TypeTree.cxxAfter_joined
    {next : Char}
    (hNext : TypeName.opensPath (some next) = false)
    (previous : Option Char)
    (rest : List Char) :
    ∀ tree : TypeTree,
      TypeName.cxxAfter previous
          (tree.joined .registry ++ rest) =
        tree.joined .cxx ++
          TypeName.cxxAfter (some next) rest
  | .last segment =>
      TypeSegment.cxxAfter_written hNext previous rest segment
  | .step segment tree => by
      simp only [TypeTree.joined, List.append_assoc]
      rw [TypeSegment.cxxAfter_written hNext,
        PathSpelling.joint_registry, List.singleton_append,
        TypeName.cxxAfter_joint hNext,
        TypeTree.cxxAfter_joined hNext]
      rfl

/- The closing bracket of arguments opens no path. -/
theorem TypeSegment.cxxAfter_written
    {next : Char}
    (hNext : TypeName.opensPath (some next) = false)
    (previous : Option Char)
    (rest : List Char) :
    ∀ segment : TypeSegment,
      TypeName.cxxAfter previous
          (segment.written .registry ++ rest) =
        segment.written .cxx ++
          TypeName.cxxAfter (some next) rest
  | .plain word =>
      TypeWord.cxxAfter_append hNext word previous rest
  | .applied word arguments => by
      have hBracket :
          TypeName.cxxAfter (some '>') rest =
            TypeName.cxxAfter (some next) rest := by
        apply TypeName.cxxAfter_congr
        rw [hNext]
        rfl
      simp only [TypeSegment.written, List.append_assoc,
        List.cons_append, List.nil_append]
      rw [TypeWord.cxxAfter_append hNext,
        TypeName.cxxAfter_char (by decide),
        TypeArguments.cxxAfter_written hNext rfl,
        TypeName.cxxAfter_char (by decide), hBracket]

/- An argument stands where a path is opened. -/
theorem TypeArguments.cxxAfter_written
    {next : Char}
    (hNext : TypeName.opensPath (some next) = false)
    {previous : Option Char}
    (hOpens : TypeName.opensPath previous = true)
    (rest : List Char) :
    ∀ arguments : TypeArguments,
      TypeName.cxxAfter previous
          (arguments.written .registry ++ rest) =
        arguments.written .cxx ++
          TypeName.cxxAfter (some next) rest
  | .last argument => by
      simp only [TypeArguments.written, List.append_assoc]
      rw [PathSpelling.lead_registry, List.singleton_append,
        TypeName.cxxAfter_opening hOpens,
        TypeTree.cxxAfter_joined hNext]
      rfl
  | .next argument spaced arguments => by
      simp only [TypeArguments.written, List.append_assoc]
      rw [PathSpelling.lead_registry, List.singleton_append,
        TypeName.cxxAfter_opening hOpens,
        TypeTree.cxxAfter_joined hNext,
        TypeArguments.cxxAfter_comma,
        TypeArguments.cxxAfter_written hNext rfl]
      rfl

end

/- Every type is turned into its C++ notation. -/
theorem TypeTree.cxx_registry
    (tree : TypeTree) :
    TypeName.cxx (tree.written .registry) =
      tree.written .cxx := by
  have hJoined :
      TypeName.cxxAfter (some '/') (tree.joined .registry) =
        tree.joined .cxx := by
    have hNext : TypeName.opensPath (some '>') = false := rfl
    have hTree :=
      TypeTree.cxxAfter_joined hNext (some '/') [] tree
    simpa [TypeName.cxxAfter] using hTree
  unfold TypeName.cxx TypeTree.written
  rw [String.toList_ofList, PathSpelling.lead_registry,
    List.singleton_append, TypeName.cxxAfter_opening rfl,
    hJoined]
  rfl

example :
    TypeName.cxx "/std/map</a/B, /c/D</e>>/x" =
      "std::map<a::B, c::D<e>>::x" := by
  decide +kernel

end Componentry

------------------------------------------------------------
-- Any Text
------------------------------------------------------------

namespace Componentry

namespace TypeName

/- A text with each slash made double colons or nothing. -/
inductive Respells : List Char → List Char → Prop where
  | nil : Respells [] []
  | copied
      {c : Char}
      {cs result : List Char}
      (hChar : c ≠ '/')
      (hRest : Respells cs result) :
      Respells (c :: cs) (c :: result)
  | joined
      {cs result : List Char}
      (hRest : Respells cs result) :
      Respells ('/' :: cs) (':' :: ':' :: result)
  | dropped
      {cs result : List Char}
      (hRest : Respells cs result) :
      Respells ('/' :: cs) result

/- No slash is left. -/
theorem Respells.slash_not_mem
    {cs result : List Char}
    (hRespells : Respells cs result) :
    '/' ∉ result := by
  induction hRespells with
  | nil => simp
  | copied hChar _ ih =>
      rw [List.mem_cons, not_or]
      exact ⟨Ne.symm hChar, ih⟩
  | joined _ ih => simpa using ih
  | dropped _ ih => exact ih

theorem respells_cxxAfter
    (previous : Option Char)
    (cs : List Char) :
    Respells cs (cxxAfter previous cs) := by
  induction cs generalizing previous with
  | nil => exact .nil
  | cons c cs ih =>
      by_cases hSlash : c = '/'
      · subst hSlash
        cases hOpens : opensPath previous with
        | true =>
            rw [cxxAfter_opening hOpens]
            exact .dropped (ih _)
        | false =>
            rw [cxxAfter_joint hOpens]
            exact .joined (ih _)
      · rw [cxxAfter_char hSlash]
        exact .copied hSlash (ih _)

theorem respells_cxx
    (name : String) :
    Respells name.toList (cxx name).toList := by
  rw [cxx, String.toList_ofList]
  exact respells_cxxAfter none name.toList

/-
  Types are spelled as C++ does, whatever their depth and
  width, and no other text keeps a slash.
-/
theorem spellsTypes :
    (∀ tree : TypeTree,
        cxx (tree.written .registry) = tree.written .cxx) ∧
      ∀ name : String,
        '/' ∉ (cxx name).toList ∧
          Respells name.toList (cxx name).toList := by
  constructor
  · exact TypeTree.cxx_registry
  · intro name
    have hRespells := respells_cxx name
    exact ⟨hRespells.slash_not_mem, hRespells⟩

end TypeName

end Componentry
