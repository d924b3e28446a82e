import Mathlib.Logic.Relation
import Componentry.Proofs.ByteOrder
import Componentry.Proofs.Paths
import Componentry.Proofs.Text.Runs

/-
  Spellings of paths.

  Slashes may be repeated or put at the end of a path, and a
  dot may be put behind any slash, and it remains the same
  path.  These are the only changes of the spelling that leave
  the components as they are.

  Main declarations:
    * `Path.Respells`, `Path.SpelledAlike`
    * `Path.Respells.components_eq`
    * `Path.spelling`, `Path.alike_spelling`
    * `Path.spelledAlike_iff`
    * `Path.Precedes`, `Path.compare_components_iff`
-/

------------------------------------------------------------
-- Changes That Do Not Count
------------------------------------------------------------

namespace Componentry

namespace Path

/- A text is simplified in one place, and is the same path. -/
inductive Respells : List Char → List Char → Prop where
  | slashes
      (before after : List Char) :
      Respells (before ++ '/' :: '/' :: after)
        (before ++ '/' :: after)
  | dot
      (before after : List Char) :
      Respells (before ++ '/' :: '.' :: '/' :: after)
        (before ++ '/' :: after)
  | lastSlash
      {before : List Char}
      (hBefore : before ≠ []) :
      Respells (before ++ ['/']) before
  | lastDot
      (before : List Char) :
      Respells (before ++ ['/', '.']) (before ++ ['/'])

/- One text comes of the other by such changes and back. -/
abbrev Alike : List Char → List Char → Prop :=
  Relation.EqvGen Respells

/- Two paths that differ in such changes only. -/
def SpelledAlike (path other : Path) : Prop :=
  Alike path.text.toList other.text.toList

/- The components of a text. -/
def componentsIn (cs : List Char) : List Component :=
  (Path.mk (String.ofList cs)).components

theorem components_eq_componentsIn
    (path : Path) :
    path.components = componentsIn path.text.toList := by
  rw [componentsIn, String.ofList_toList]

variable {first second before piece : List Char}

/- The components of a text that starts with a slash. -/
theorem componentsIn_slash
    (rest : List Char) :
    componentsIn ('/' :: rest) = .root :: inner rest := by
  simp [componentsIn, components, pieces, isAbsolute, inner]

theorem componentsIn_append_slash
    (hBefore : before ≠ [])
    (rest : List Char) :
    componentsIn (before ++ '/' :: rest) =
      componentsIn before ++ inner rest :=
  components_append_slash hBefore

/- Behind a slash only the inner components count. -/
theorem componentsIn_congr
    (before : List Char)
    (hInner : inner first = inner second) :
    componentsIn (before ++ '/' :: first) =
      componentsIn (before ++ '/' :: second) := by
  by_cases hBefore : before = []
  · rw [hBefore, List.nil_append, List.nil_append,
      componentsIn_slash, componentsIn_slash, hInner]
  · rw [componentsIn_append_slash hBefore,
      componentsIn_append_slash hBefore, hInner]

/- A piece that stands for no component may be left out. -/
theorem inner_idle
    (piece : List Char)
    (hIdle : Component.ofPiece? piece = none)
    (hPiece : '/' ∉ piece)
    (rest : List Char) :
    inner (piece ++ '/' :: rest) = inner rest := by
  rw [inner, Text.pieces_append (by simp),
    Text.pieces_of_not_mem hPiece, List.singleton_append,
    List.filterMap_cons_none hIdle, inner]

/- No change makes a difference to the components. -/
theorem Respells.components_eq
    (hRespells : Respells first second) :
    componentsIn first = componentsIn second := by
  cases hRespells with
  | slashes before after =>
      exact
        componentsIn_congr before
          (inner_idle [] rfl (by simp) after)
  | dot before after =>
      exact
        componentsIn_congr before
          (inner_idle ['.'] rfl (by simp) after)
  | lastSlash hBefore =>
      rw [componentsIn_append_slash hBefore]
      exact List.append_nil _
  | lastDot before =>
      exact componentsIn_congr before (by decide)

/- Texts agree in all that no change makes a difference to. -/
theorem Alike.agree
    {α : Type}
    {f : List Char → α}
    (hAlike : Alike first second)
    (hChange :
      ∀ {cs other : List Char},
        Respells cs other → f cs = f other) :
    f first = f second := by
  induction hAlike with
  | rel _ _ hRespells => exact hChange hRespells
  | refl _ => rfl
  | symm _ _ _ ih => exact ih.symm
  | trans _ _ _ _ _ hFirst hSecond =>
      exact hFirst.trans hSecond

end Path

end Componentry

------------------------------------------------------------
-- Every Path Has a Plain Spelling
------------------------------------------------------------

namespace Componentry

namespace Path

/- How a component is written. -/
def Component.spelling : Component → List Char
  | .root => ['/']
  | .current => ['.']
  | .parent => ['.', '.']
  | .normal name => name.toList

/- Components with one slash behind each but the last one. -/
def spelling : List Component → List Char
  | [] => []
  | first :: rest =>
      first.spelling
        ++ rest.flatMap fun component =>
          '/' :: component.spelling

variable {first second before piece : List Char}
variable {components : List Component}
variable {component : Component}

theorem spelling_append_singleton
    (hSome : components ≠ []) :
    spelling (components ++ [component]) =
      spelling components ++ '/' :: component.spelling := by
  cases components with
  | nil => exact absurd rfl hSome
  | cons first rest => simp [spelling]

/- A piece is how its component is written. -/
theorem spelling_of_ofPiece?
    (hPiece : Component.ofPiece? piece = some component) :
    component.spelling = piece := by
  unfold Component.ofPiece? at hPiece
  split at hPiece
  · cases hPiece
  · split at hPiece
    · next hParent =>
        cases hPiece
        exact hParent.symm
    · cases hPiece
      exact String.toList_ofList

theorem spelling_of_firstComponent?
    (hPiece : firstComponent? piece = some component) :
    component.spelling = piece := by
  unfold firstComponent? at hPiece
  split at hPiece
  · next hCurrent =>
      cases hPiece
      exact hCurrent.symm
  · exact spelling_of_ofPiece? hPiece

/- At the start a dot stands for a component. -/
theorem firstComponent?_eq_none_iff :
    firstComponent? piece = none ↔ piece = [] := by
  unfold firstComponent?
  by_cases hCurrent : piece = ['.']
  · simp [hCurrent]
  · rw [if_neg hCurrent, ofPiece?_eq_none_iff]
    simp [hCurrent]

/- A text without slashes has one component at most. -/
theorem componentsIn_piece
    (hPiece : '/' ∉ piece) :
    componentsIn piece = (firstComponent? piece).toList := by
  have hRelative : (piece.head? == some '/') = false := by
    rw [beq_eq_false_iff_ne]
    intro hFirst
    exact hPiece (List.mem_of_mem_head? hFirst)
  simp [componentsIn, Path.components, pieces, isAbsolute,
    hRelative, Text.pieces_of_not_mem hPiece]

/- What comes behind a slash does not matter for a change. -/
theorem Respells.append_slash
    (hRespells : Respells first second)
    (rest : List Char) :
    Alike (first ++ '/' :: rest) (second ++ '/' :: rest) := by
  cases hRespells with
  | slashes before after =>
      simpa using
        Relation.EqvGen.rel _ _
          (Respells.slashes before (after ++ '/' :: rest))
  | dot before after =>
      simpa using
        Relation.EqvGen.rel _ _
          (Respells.dot before (after ++ '/' :: rest))
  | lastSlash _ =>
      simpa using
        Relation.EqvGen.rel _ _ (Respells.slashes second rest)
  | lastDot before =>
      have hDot :=
        Relation.EqvGen.rel _ _ (Respells.dot before rest)
      have hSlashes :=
        Relation.EqvGen.rel _ _ (Respells.slashes before rest)
      simpa using hDot.trans _ _ _ (hSlashes.symm _ _)

theorem Alike.append_slash
    (hAlike : Alike first second)
    (rest : List Char) :
    Alike (first ++ '/' :: rest) (second ++ '/' :: rest) := by
  induction hAlike with
  | rel _ _ hRespells => exact hRespells.append_slash rest
  | refl _ => exact .refl _
  | symm _ _ _ ih => exact ih.symm
  | trans _ _ _ _ _ hFirst hSecond =>
      exact hFirst.trans _ _ _ hSecond

/- No text is changed into the one without characters. -/
theorem Alike.eq_nil_iff
    (hAlike : Alike first second) :
    first = [] ↔ second = [] := by
  apply Eq.to_iff
  apply hAlike.agree (f := fun cs => cs = [])
  intro cs other hRespells
  cases hRespells with
  | slashes _ _ => simp
  | dot _ _ => simp
  | lastSlash hBefore => simp [hBefore]
  | lastDot _ => simp

/-
  The last piece of a text is left out, or it is written as
  its component is.
-/
theorem alike_spelling_append
    (hSome : components ≠ [])
    (hPiece : '/' ∉ piece)
    (hSlash : Alike (before ++ ['/']) (spelling components))
    (hBehind :
      Alike (before ++ '/' :: piece)
        (spelling components ++ '/' :: piece)) :
    Alike (before ++ '/' :: piece)
      (spelling (components ++ inner piece)) := by
  rw [inner, Text.pieces_of_not_mem hPiece]
  cases hComponent : Component.ofPiece? piece with
  | none =>
      rw [List.filterMap_cons_none hComponent,
        List.filterMap_nil, List.append_nil]
      rcases ofPiece?_eq_none_iff.mp hComponent with
        rfl | rfl
      · exact hSlash
      · exact .trans _ _ _ (.rel _ _ (.lastDot before)) hSlash
  | some component =>
      rw [List.filterMap_cons_some hComponent,
        List.filterMap_nil, spelling_append_singleton hSome,
        spelling_of_ofPiece? hComponent]
      exact hBehind

/- Every text is like the one that spells its components. -/
theorem alike_spelling
    (cs : List Char) :
    Alike cs (spelling (componentsIn cs)) := by
  cases hCut : Text.cutLast (· == '/') cs with
  | none =>
      have hPiece : '/' ∉ cs := by
        intro hSlash
        have hNone := Text.cutLast_eq_none_iff.mp hCut
        cases hNone '/' hSlash
      rw [componentsIn_piece hPiece]
      cases hFirst : firstComponent? cs with
      | none =>
          rw [firstComponent?_eq_none_iff.mp hFirst]
          exact .refl _
      | some component =>
          have hSpelling :
              spelling [component] = component.spelling :=
            List.append_nil _
          rw [Option.toList_some, hSpelling,
            spelling_of_firstComponent? hFirst]
          exact .refl _
  | some cut =>
      rcases cut with ⟨before, separator, piece⟩
      rcases Text.cutLast_eq_some_iff.mp hCut with
        ⟨hText, hSeparator, hAfter⟩
      rw [beq_iff_eq] at hSeparator
      subst hText hSeparator
      have hPiece : '/' ∉ piece := by
        intro hSlash
        cases hAfter '/' hSlash
      by_cases hBefore : before = []
      · -- The root is spelled as the slash.
        subst hBefore
        have hRoot :
            Alike ([] ++ '/' :: piece)
              (spelling [.root] ++ '/' :: piece) :=
          .symm _ _ (.rel _ _ (.slashes [] piece))
        rw [List.nil_append, componentsIn_slash]
        exact
          alike_spelling_append (List.cons_ne_nil _ _) hPiece
            (.refl _) hRoot
      · have hAlike := alike_spelling before
        have hSome : componentsIn before ≠ [] := by
          intro hNone
          rw [hNone] at hAlike
          exact hBefore (hAlike.eq_nil_iff.mpr rfl)
        rw [componentsIn_append_slash hBefore]
        exact
          alike_spelling_append hSome hPiece
            (.trans _ _ _ (.rel _ _ (.lastSlash hBefore))
              hAlike)
            (hAlike.append_slash piece)
termination_by cs.length
decreasing_by
  subst hText
  simp

/- Paths are spelled alike if their components are equal. -/
theorem spelledAlike_iff
    {path other : Path} :
    path.SpelledAlike other ↔
      path.components = other.components := by
  rw [SpelledAlike, components_eq_componentsIn,
    components_eq_componentsIn]
  constructor
  · intro hAlike
    exact hAlike.agree Respells.components_eq
  · intro hSame
    have hOther := alike_spelling other.text.toList
    rw [← hSame] at hOther
    exact (alike_spelling _).trans _ _ _ (hOther.symm _ _)

/- A dot in front is the only one that counts. -/
example :
    (Path.mk "a//b/./c/.").SpelledAlike ⟨"a/b/c"⟩ ∧
      ¬ (Path.mk "./a").SpelledAlike ⟨"a"⟩ := by
  rw [spelledAlike_iff, spelledAlike_iff]
  decide

end Path

end Componentry

------------------------------------------------------------
-- The Order of Paths
------------------------------------------------------------

namespace Componentry

namespace Path

/- Components go by their kinds, then by bytes of names. -/
def Component.Precedes (first second : Component) : Prop :=
  first.rank < second.rank ∨
    first.rank = second.rank ∧
      Text.bytes first.name < Text.bytes second.name

/- Paths go by the first component that is another one. -/
def Precedes (path other : Path) : Prop :=
  List.Lex Component.Precedes path.components
    other.components

theorem compare_component_iff
    {first second : Component} :
    compare first second = .lt ↔ first.Precedes second := by
  change
    (compare first.rank second.rank).then
        (compare first.name second.name) = .lt ↔ _
  have hNames :
      compare first.name second.name = .lt ↔
        Text.bytes first.name < Text.bytes second.name := by
    rw [Text.bytes_lt_iff]
    exact compareOfLessAndEq_eq_lt
  rw [Ordering.then_eq_lt, Nat.compare_eq_lt,
    Nat.compare_eq_eq, hNames, Component.Precedes]

theorem compare_components_iff
    {path other : Path} :
    compare path.components other.components = .lt ↔
      path.Precedes other := by
  rw [Precedes, List.compare_eq_compareLex]
  generalize path.components = firsts
  generalize other.components = seconds
  induction firsts generalizing seconds with
  | nil =>
      cases seconds with
      | nil =>
          rw [List.compareLex_nil_nil]
          simp [List.not_lex_nil]
      | cons second seconds =>
          rw [List.compareLex_nil_cons]
          simp
  | cons first firsts ih =>
      cases seconds with
      | nil =>
          rw [List.compareLex_cons_nil]
          simp [List.not_lex_nil]
      | cons second seconds =>
          rw [List.compareLex_cons_cons, Ordering.then_eq_lt,
            ih, compare_component_iff,
            Std.LawfulEqOrd.compare_eq_iff_eq,
            List.cons_lex_cons_iff]

/- The slash ends a name, so `a` comes before `a.b`. -/
example : (Path.mk "a/z").Precedes ⟨"a.b/c"⟩ := by
  rw [← compare_components_iff]
  decide

end Path

end Componentry
