import Componentry.FileTree.Basic
import Componentry.Proofs.Paths

/-
  The steps of paths.

  Of the steps between the slashes of a path, those that lead
  somewhere are its components without the root and without a
  dot in front.  The parent of a path has all of its
  components but the last.  Behind the last step there may be
  slashes and dots; a path without these ends in a step.  It
  is a path of a file if it can be used, which is so if all of
  its steps can.

  Main declarations:
    * `Path.moves`, `Path.filter_steps`
    * `Path.components_parent`, `Path.isAbsolute_parent`
    * `Path.EndsInStep`, `Path.endsInStep_of_parent`
    * `Path.isAbsolute_join`, `Path.endsInStep_join_iff`
    * `Path.isUsable_iff`, `Path.IsFilePath`
    * `Path.isFilePath_join_iff`
-/

------------------------------------------------------------
-- Moves
------------------------------------------------------------

namespace Componentry

namespace Path

/- The step of a component; the root and a dot have none. -/
def Component.step? : Component → Option String
  | .root => none
  | .current => none
  | .parent => some ".."
  | .normal name => some name

/- The steps of a path that lead somewhere. -/
def moves (path : Path) : List String :=
  path.components.filterMap Component.step?

/- A piece is idle if it is empty or a dot. -/
theorem isIdle_ofList_iff
    {piece : List Char} :
    FileTree.isIdle (String.ofList piece) = true ↔
      piece = [] ∨ piece = ['.'] := by
  have hEmpty :
      String.ofList piece = "" ↔ piece = [] := by
    rw [← String.toList_inj, String.toList_ofList]
    rfl
  have hDot :
      String.ofList piece = "." ↔ piece = ['.'] := by
    rw [← String.toList_inj, String.toList_ofList]
    rfl
  simp [FileTree.isIdle, hEmpty, hDot]

/- Then it stands for no component. -/
theorem isIdle_ofList_iff_ofPiece?
    {piece : List Char} :
    FileTree.isIdle (String.ofList piece) = true ↔
      Component.ofPiece? piece = none := by
  rw [isIdle_ofList_iff, ofPiece?_eq_none_iff]

/- A piece is a step unless it is empty or a dot. -/
theorem step?_ofPiece?
    (piece : List Char) :
    (Component.ofPiece? piece).bind Component.step? =
      if FileTree.isIdle (String.ofList piece) then none
      else some (String.ofList piece) := by
  unfold Component.ofPiece?
  by_cases hNothing : piece = [] ∨ piece = ['.']
  · rw [if_pos (isIdle_ofList_iff.mpr hNothing)]
    simp [hNothing]
  · rw [if_neg (mt isIdle_ofList_iff.mp hNothing)]
    by_cases hParent : piece = ['.', '.']
    · subst hParent
      rfl
    · simp only [Bool.or_eq_true, decide_eq_true_eq,
        hNothing, if_false, hParent]
      rfl

theorem filterMap_pieces
    (pieces : List (List Char)) :
    (pieces.filterMap Component.ofPiece?).filterMap
        Component.step? =
      (pieces.map String.ofList).filter
        (!FileTree.isIdle ·) := by
  induction pieces with
  | nil => rfl
  | cons piece pieces ih =>
      have hHere := step?_ofPiece? piece
      rw [List.filterMap_filterMap] at ih ⊢
      rw [List.filterMap_cons, List.map_cons,
        List.filter_cons, hHere, ih]
      by_cases hIdle :
          FileTree.isIdle (String.ofList piece) = true
      · simp [hIdle]
      · simp [hIdle]

/- The steps that are not idle are the moves of a path. -/
theorem filter_steps
    (path : Path) :
    (FileTree.steps path.text).filter
        (!FileTree.isIdle ·) =
      path.moves := by
  unfold FileTree.steps Text.splitAt moves components pieces
  rw [← filterMap_pieces]
  by_cases hAbsolute : path.isAbsolute = true
  · rw [if_pos hAbsolute, if_pos hAbsolute]
    have hText :
        path.text.toList = '/' :: path.text.toList.tail := by
      have hHead :
          path.text.toList.head? = some '/' := by
        simpa [isAbsolute] using hAbsolute
      exact List.eq_cons_of_mem_head? hHead
    have hPieces :
        Text.pieces (· == '/') path.text.toList =
          [] ::
            Text.pieces (· == '/')
              path.text.toList.tail := by
      rw [hText]
      rfl
    rw [hPieces]
    rfl
  · rw [if_neg hAbsolute, if_neg hAbsolute]
    rcases List.exists_cons_of_ne_nil
        (Text.pieces_ne_nil (· == '/')
          path.text.toList) with
      ⟨first, rest, hPieces⟩
    rw [hPieces]
    -- A dot in front is a component, but it is no step.
    have hFirst :
        (firstComponent? first).toList.filterMap
            Component.step? =
          (Component.ofPiece? first).toList.filterMap
            Component.step? := by
      unfold firstComponent?
      by_cases hDot : first = ['.']
      · subst hDot
        rfl
      · rw [if_neg hDot]
    have hSplit :
        (first :: rest).filterMap Component.ofPiece? =
          (Component.ofPiece? first).toList ++
            rest.filterMap Component.ofPiece? := by
      rw [List.filterMap_cons]
      cases Component.ofPiece? first with
      | none => rfl
      | some component => rfl
    rw [hSplit, List.filterMap_append,
      List.filterMap_append, hFirst]

end Path

end Componentry

------------------------------------------------------------
-- Parents
------------------------------------------------------------

namespace Componentry

namespace Path

/- The components of a path from its pieces. -/
def componentsOf
    (absolute : Bool)
    (pieces : List (List Char)) :
    List Component :=
  if absolute then
    .root :: pieces.filterMap Component.ofPiece?
  else
    match pieces with
    | [] => []
    | first :: rest =>
        (firstComponent? first).toList
          ++ rest.filterMap Component.ofPiece?

theorem components_eq_componentsOf
    (path : Path) :
    path.components =
      componentsOf path.isAbsolute path.pieces :=
  rfl

/- What is cut stands for no component. -/
theorem filterMap_cutIdle
    (pieces : List (List Char)) :
    (cutIdle true pieces).filterMap Component.ofPiece? =
      pieces.filterMap Component.ofPiece? := by
  induction pieces with
  | nil => rfl
  | cons piece rest ih =>
      rw [cutIdle, List.filterMap_cons, ← ih]
      cases cutIdle true rest with
      | nil =>
          by_cases hIdle : piece = [] ∨ piece = ['.']
          · simp [Component.ofPiece?, hIdle]
          · simp [hIdle, List.filterMap_cons]
      | cons kept others => rw [List.filterMap_cons]

theorem componentsOf_cutIdle
    (absolute : Bool)
    (pieces : List (List Char)) :
    componentsOf absolute (cutIdle absolute pieces) =
      componentsOf absolute pieces := by
  cases absolute with
  | true =>
      simp only [componentsOf, if_true, filterMap_cutIdle]
  | false =>
      cases pieces with
      | nil => rfl
      | cons first rest =>
          have hRest := filterMap_cutIdle rest
          simp only [componentsOf, cutIdle, Bool.and_false,
            Bool.false_eq_true, if_false, Bool.or_false,
            decide_eq_true_eq]
          cases hKept : cutIdle true rest with
          | nil =>
              rw [hKept] at hRest
              by_cases hEmpty : first = []
              · subst hEmpty
                simp [firstComponent?, Component.ofPiece?,
                  ← hRest]
              · simp [hEmpty, ← hRest]
          | cons kept others =>
              rw [hKept] at hRest
              simp only [hRest]

/- What is left ends with a component, if it is anything. -/
theorem ofPiece?_getLast_cutIdle
    {pieces : List (List Char)}
    (hKept : cutIdle true pieces ≠ []) :
    Component.ofPiece? ((cutIdle true pieces).getLast hKept) ≠
      none := by
  induction pieces with
  | nil => exact (hKept rfl).elim
  | cons piece rest ih =>
      cases hRest : cutIdle true rest with
      | nil =>
          by_cases hIdle : piece = [] ∨ piece = ['.']
          · simp [cutIdle, hRest, hIdle] at hKept
          · simp only [cutIdle, hRest]
            rw [not_or] at hIdle
            by_cases hParent : piece = ['.', '.']
            · simp [Component.ofPiece?, hParent]
            · simp [Component.ofPiece?, hIdle, hParent]
      | cons kept others =>
          have hSome : cutIdle true rest ≠ [] := by
            rw [hRest]
            exact List.cons_ne_nil _ _
          have hLast := ih hSome
          simp only [hRest] at hLast
          simp only [cutIdle, hRest]
          rw [List.getLast_cons (List.cons_ne_nil _ _)]
          exact hLast

theorem filterMap_dropLast_cutIdle
    (pieces : List (List Char)) :
    (cutIdle true pieces).dropLast.filterMap
        Component.ofPiece? =
      (pieces.filterMap Component.ofPiece?).dropLast := by
  rw [← filterMap_cutIdle pieces]
  by_cases hKept : cutIdle true pieces = []
  · rw [hKept]
    rfl
  · rcases Option.ne_none_iff_exists'.mp
        (ofPiece?_getLast_cutIdle hKept) with
      ⟨component, hComponent⟩
    have hSplit :
        (cutIdle true pieces).filterMap Component.ofPiece? =
          (cutIdle true pieces).dropLast.filterMap
              Component.ofPiece? ++
            [component] := by
      conv =>
        lhs
        rw [← List.dropLast_append_getLast hKept]
      rw [List.filterMap_append, List.filterMap_cons,
        hComponent]
      rfl
    rw [hSplit, List.dropLast_concat]

/- To drop the last piece is to drop the last component. -/
theorem componentsOf_dropLast
    {absolute : Bool}
    {pieces : List (List Char)}
    (hKept : cutIdle absolute pieces ≠ []) :
    componentsOf absolute
        (cutIdle absolute pieces).dropLast =
      (componentsOf absolute pieces).dropLast := by
  cases absolute with
  | true =>
      simp only [componentsOf, if_true,
        filterMap_dropLast_cutIdle]
      -- What is kept has a component, so the root stays.
      have hSome :
          pieces.filterMap Component.ofPiece? ≠ [] := by
        rw [← filterMap_cutIdle pieces]
        intro hNone
        rw [List.filterMap_eq_nil_iff] at hNone
        exact
          ofPiece?_getLast_cutIdle hKept
            (hNone _ (List.getLast_mem hKept))
      rw [List.dropLast_cons_of_ne_nil hSome]
  | false =>
      rw [← componentsOf_cutIdle false pieces]
      cases pieces with
      | nil => exact (hKept rfl).elim
      | cons first rest =>
          have hRest := filterMap_dropLast_cutIdle rest
          rw [← filterMap_cutIdle rest] at hRest
          simp only [cutIdle, Bool.and_false, Bool.or_false,
            decide_eq_true_eq] at hKept ⊢
          cases hCut : cutIdle true rest with
          | nil =>
              rw [hCut] at hKept
              by_cases hEmpty : first = []
              · simp [hEmpty] at hKept
              · simp only [hEmpty, if_false, componentsOf,
                  List.dropLast_singleton,
                  Bool.false_eq_true, List.filterMap_nil,
                  List.append_nil]
                cases firstComponent? first with
                | none => rfl
                | some component => rfl
          | cons kept others =>
              have hSome : cutIdle true rest ≠ [] := by
                rw [hCut]
                exact List.cons_ne_nil _ _
              have hNotNil :
                  (cutIdle true rest).filterMap
                      Component.ofPiece? ≠
                    [] := by
                intro hNone
                rw [List.filterMap_eq_nil_iff] at hNone
                exact
                  ofPiece?_getLast_cutIdle hSome
                    (hNone _ (List.getLast_mem hSome))
              rw [← hCut]
              simp only [componentsOf, Bool.false_eq_true,
                if_false]
              rw [List.dropLast_cons_of_ne_nil hSome,
                List.dropLast_append_of_ne_nil hNotNil]
              exact congrArg _ hRest

theorem isPrefix_cutIdle
    (dotIsIdle : Bool)
    (pieces : List (List Char)) :
    cutIdle dotIsIdle pieces <+: pieces := by
  induction pieces generalizing dotIsIdle with
  | nil => exact List.prefix_refl _
  | cons piece rest ih =>
      rw [cutIdle]
      have hRest := ih true
      cases hCut : cutIdle true rest with
      | nil =>
          simp only
          by_cases hIdle :
              (decide (piece = []) ||
                  (decide (piece = ['.']) && dotIsIdle)) =
                true
          · rw [if_pos hIdle]
            exact List.nil_prefix
          · rw [if_neg hIdle]
            exact ⟨rest, rfl⟩
      | cons kept others =>
          rw [hCut] at hRest
          exact List.cons_prefix_cons.mpr ⟨rfl, hRest⟩

/- Pieces without slashes are found again. -/
theorem pieces_joinPieces
    {pieces : List (List Char)}
    (hSome : pieces ≠ [])
    (hNone :
      ∀ piece ∈ pieces, ∀ c ∈ piece, (c == '/') = false) :
    Text.pieces (· == '/') (joinPieces pieces) = pieces := by
  induction pieces with
  | nil => exact (hSome rfl).elim
  | cons piece rest ih =>
      rw [List.forall_mem_cons] at hNone
      cases rest with
      | nil => exact Text.pieces_of_forall_not hNone.1
      | cons next rest =>
          rw [joinPieces, Text.pieces_append (by simp),
            Text.pieces_of_forall_not hNone.1,
            ih (List.cons_ne_nil _ _) hNone.2]
          rfl

/- The first piece of a relative path starts no root. -/
theorem head?_joinPieces_of_relative
    {path : Path}
    {kept : List (List Char)}
    (hRelative : path.isAbsolute = false)
    (hBody : path.body ≠ [])
    (hKept : kept <+: path.pieces) :
    (joinPieces kept).head? ≠ some '/' := by
  cases kept with
  | nil => simp [joinPieces]
  | cons piece kept =>
      have hPieces :
          path.pieces =
            Text.pieces (· == '/') path.text.toList := by
        simp [pieces, hRelative]
      have hFirst : path.pieces.head? = some piece := by
        rcases hKept with ⟨rest, hRest⟩
        rw [← hRest]
        rfl
      rw [hPieces] at hFirst
      cases hText : path.text.toList with
      | nil =>
          -- An empty path has no body.
          rw [body, hPieces, hText, hRelative] at hBody
          exact (hBody rfl).elim
      | cons c cs =>
          have hNoSlash : c ≠ '/' := by
            rw [isAbsolute, hText] at hRelative
            simpa using hRelative
          have hPiece : piece.head? = some c := by
            rw [hText, Text.pieces] at hFirst
            rw [if_neg (by simpa using hNoSlash)] at hFirst
            cases hRest : Text.pieces (· == '/') cs with
            | nil =>
                rw [hRest] at hFirst
                cases hFirst
                rfl
            | cons next rest =>
                rw [hRest] at hFirst
                cases hFirst
                rfl
          have hJoined :
              (joinPieces (piece :: kept)).head? =
                some c := by
            cases kept with
            | nil => exact hPiece
            | cons next rest =>
                rw [joinPieces, List.head?_append, hPiece]
                rfl
          rw [hJoined, ne_eq, Option.some.injEq]
          exact hNoSlash

variable {path parent : Path}

/- The parent of a path starts where the path does. -/
theorem isAbsolute_parent
    (hParent : path.parent? = some parent) :
    parent.isAbsolute = path.isAbsolute := by
  unfold parent? at hParent
  by_cases hBody : path.body.isEmpty = true
  · rw [if_pos hBody] at hParent
    cases hParent
  · rw [if_neg hBody, Option.some.injEq] at hParent
    rw [List.isEmpty_iff] at hBody
    subst hParent
    cases hAbsolute : path.isAbsolute with
    | true =>
        have hRoot : path.rootText = ['/'] := by
          rw [rootText, hAbsolute]
          rfl
        rw [isAbsolute, String.toList_ofList, hRoot]
        rfl
    | false =>
        have hKept :
            cutIdle false path.body.dropLast <+:
              path.pieces :=
          ((isPrefix_cutIdle _ _).trans
            (List.dropLast_prefix _)).trans
              (isPrefix_cutIdle _ _)
        have hHead :=
          head?_joinPieces_of_relative hAbsolute hBody hKept
        have hRoot : path.rootText = [] := by
          rw [rootText, hAbsolute]
          rfl
        rw [isAbsolute, String.toList_ofList, hRoot,
          List.nil_append, beq_eq_false_iff_ne]
        exact hHead

/- The pieces of a parent are those before the last one. -/
theorem pieces_parent
    (hParent : path.parent? = some parent) :
    path.body ≠ [] ∧
      parent.pieces =
        Text.pieces (· == '/')
          (joinPieces
            (cutIdle path.isAbsolute path.body.dropLast)) ∧
      (cutIdle path.isAbsolute path.body.dropLast ≠ [] →
        parent.pieces =
          cutIdle path.isAbsolute path.body.dropLast) := by
  have hAbsolute := isAbsolute_parent hParent
  unfold parent? at hParent
  by_cases hBody : path.body.isEmpty = true
  · rw [if_pos hBody] at hParent
    cases hParent
  · rw [if_neg hBody, Option.some.injEq] at hParent
    rw [List.isEmpty_iff] at hBody
    have hText :
        parent.text.toList =
          path.rootText ++
            joinPieces
              (cutIdle path.isAbsolute
                path.body.dropLast) := by
      rw [← hParent, String.toList_ofList]
    have hPieces :
        parent.pieces =
          Text.pieces (· == '/')
            (joinPieces
              (cutIdle path.isAbsolute
                path.body.dropLast)) := by
      rw [pieces, hAbsolute, hText, rootText]
      cases path.isAbsolute with
      | true => rfl
      | false => rfl
    refine ⟨hBody, hPieces, ?_⟩
    intro hKept
    rw [hPieces]
    apply pieces_joinPieces hKept
    intro piece hPiece
    have hPrefix :
        cutIdle path.isAbsolute path.body.dropLast <+:
          path.pieces :=
      ((isPrefix_cutIdle _ _).trans
        (List.dropLast_prefix _)).trans
          (isPrefix_cutIdle _ _)
    exact
      Text.not_separator_of_mem_pieces (hPrefix.mem hPiece)

/- The parent of a path has all components but the last. -/
theorem components_parent
    (hParent : path.parent? = some parent) :
    parent.components = path.components.dropLast := by
  rcases pieces_parent hParent with
    ⟨hBody, hPieces, hJoined⟩
  have hComponents :
      parent.components =
        componentsOf path.isAbsolute
          (cutIdle path.isAbsolute path.body.dropLast) := by
    rw [components_eq_componentsOf,
      isAbsolute_parent hParent]
    by_cases hKept :
        cutIdle path.isAbsolute path.body.dropLast = []
    · rw [hPieces, hKept]
      cases path.isAbsolute with
      | true => rfl
      | false => rfl
    · rw [hJoined hKept]
  rw [hComponents, componentsOf_cutIdle,
    components_eq_componentsOf]
  exact componentsOf_dropLast hBody

end Path

end Componentry

------------------------------------------------------------
-- Last Steps
------------------------------------------------------------

namespace Componentry

namespace Path

/- No slash and no dot stands behind the last step of a path. -/
def EndsInStep (path : Path) : Prop :=
  ∃ last ∈ (FileTree.steps path.text).getLast?,
    FileTree.isIdle last = false

instance (path : Path) : Decidable path.EndsInStep := by
  unfold EndsInStep
  infer_instance

variable {path parent : Path}

theorem endsInStep_iff :
    path.EndsInStep ↔
      ∃ before last,
        FileTree.steps path.text = before ++ [last] ∧
          FileTree.isIdle last = false := by
  unfold EndsInStep
  simp only [Option.mem_def, List.getLast?_eq_some_iff]
  constructor
  · intro hEnds
    rcases hEnds with ⟨last, ⟨before, hSteps⟩, hLast⟩
    exact ⟨before, last, hSteps, hLast⟩
  · intro hEnds
    rcases hEnds with ⟨before, last, hSteps, hLast⟩
    exact ⟨last, ⟨before, hSteps⟩, hLast⟩

/- A path with a last step says something. -/
theorem EndsInStep.text_ne_empty
    (hEnds : path.EndsInStep) :
    path.text ≠ "" := by
  intro hText
  rcases hEnds with ⟨last, hLast, hStep⟩
  rw [hText] at hLast
  have hEmpty : last = "" := by
    simpa [FileTree.steps, Text.splitAt, Text.pieces]
      using hLast.symm
  rw [hEmpty] at hStep
  cases hStep

/-
  A move is a step with the other moves before and behind it;
  nothing is behind the last one.
-/
theorem EndsInStep.split_steps
    {before rest : List String}
    {name : String}
    (hEnds : path.EndsInStep)
    (hMoves : path.moves = before ++ name :: rest) :
    ∃ first behind,
      FileTree.steps path.text = first ++ name :: behind ∧
        first.filter (!FileTree.isIdle ·) = before ∧
        behind.filter (!FileTree.isIdle ·) = rest ∧
        (rest = [] → behind = []) := by
  rw [← path.filter_steps] at hMoves
  rcases List.filter_eq_append_iff.mp hMoves with
    ⟨first, second, hSplit, hFirst, hSecond⟩
  rcases List.filter_eq_cons_iff.mp hSecond with
    ⟨idles, behind, hParts, hIdles, -, hBehind⟩
  refine ⟨first ++ idles, behind, ?_, ?_, hBehind, ?_⟩
  · rw [hSplit, hParts, List.append_assoc]
  · rw [List.filter_append, hFirst,
      List.filter_eq_nil_iff.mpr hIdles, List.append_nil]
  · intro hRest
    rw [hRest, List.filter_eq_nil_iff] at hBehind
    cases hLast : behind.getLast? with
    | none => exact List.getLast?_eq_none_iff.mp hLast
    | some last =>
        -- The last step is not idle, but all of these are.
        rcases hEnds with ⟨step, hStep, hNotIdle⟩
        rw [hSplit, hParts, List.getLast?_append,
          List.getLast?_append, List.getLast?_cons, hLast]
          at hStep
        have hSame : last = step := by simpa using hStep
        have hIdle := hBehind last (List.mem_of_getLast? hLast)
        rw [hSame, hNotIdle] at hIdle
        exact (hIdle rfl).elim

/- The last step of a path is its last piece. -/
theorem getLast?_steps
    (path : Path) :
    (FileTree.steps path.text).getLast? =
      path.pieces.getLast?.map String.ofList := by
  unfold FileTree.steps Text.splitAt pieces
  rw [List.getLast?_map]
  cases hAbsolute : path.isAbsolute with
  | false => rfl
  | true =>
      have hHead : path.text.toList.head? = some '/' := by
        simpa [isAbsolute] using hAbsolute
      have hText :
          path.text.toList = '/' :: path.text.toList.tail :=
        List.eq_cons_of_mem_head? hHead
      rw [hText]
      simp only [Text.pieces, beq_self_eq_true, if_true,
        List.tail_cons]
      rw [List.getLast?_cons_of_ne_nil
        (Text.pieces_ne_nil _ _)]

/- What is left of pieces ends with a step, or is a dot. -/
theorem getLast_cutIdle
    {dotIsIdle : Bool}
    {pieces : List (List Char)}
    (hKept : cutIdle dotIsIdle pieces ≠ []) :
    Component.ofPiece?
          ((cutIdle dotIsIdle pieces).getLast hKept) ≠
        none ∨
      cutIdle dotIsIdle pieces = [['.']] := by
  cases dotIsIdle with
  | true => exact Or.inl (ofPiece?_getLast_cutIdle hKept)
  | false =>
      cases pieces with
      | nil => exact (hKept rfl).elim
      | cons first rest =>
          cases hRest : cutIdle true rest with
          | nil =>
              by_cases hEmpty : first = []
              · simp [cutIdle, hRest, hEmpty] at hKept
              · have hOne :
                    cutIdle false (first :: rest) =
                      [first] := by
                  simp [cutIdle, hRest, hEmpty]
                by_cases hDot : first = ['.']
                · right
                  rw [hOne, hDot]
                · left
                  simp only [hOne, List.getLast_singleton]
                  by_cases hUp : first = ['.', '.']
                  · simp [Component.ofPiece?, hUp]
                  · simp [Component.ofPiece?, hEmpty, hDot,
                      hUp]
          | cons kept others =>
              have hSome : cutIdle true rest ≠ [] := by
                rw [hRest]
                exact List.cons_ne_nil _ _
              have hLast := ofPiece?_getLast_cutIdle hSome
              simp only [hRest] at hLast
              left
              simp only [cutIdle, hRest]
              rw [List.getLast_cons (List.cons_ne_nil _ _)]
              exact hLast

/- The parent of a path ends in a step, if it has any. -/
theorem endsInStep_of_parent
    (hParent : path.parent? = some parent)
    (hMoves : parent.moves ≠ []) :
    parent.EndsInStep := by
  rcases pieces_parent hParent with ⟨-, hPieces, hJoined⟩
  -- Moves come from pieces that are not idle.
  have hIdle
      {piece : List Char}
      (hPiece : piece = [] ∨ piece = ['.']) :
      parent.pieces ≠ [piece] := by
    intro hIs
    apply hMoves
    rw [moves, components_eq_componentsOf, hIs]
    rcases hPiece with hEmpty | hDot
    · rw [hEmpty]
      cases parent.isAbsolute <;> rfl
    · rw [hDot]
      cases parent.isAbsolute <;> rfl
  have hKept :
      cutIdle path.isAbsolute path.body.dropLast ≠ [] := by
    intro hNone
    rw [hNone] at hPieces
    exact hIdle (Or.inl rfl) hPieces
  rcases getLast_cutIdle hKept with hStep | hDot
  · refine
      ⟨String.ofList
          ((cutIdle path.isAbsolute
            path.body.dropLast).getLast hKept), ?_, ?_⟩
    · rw [getLast?_steps, hJoined hKept,
        List.getLast?_eq_some_getLast hKept]
      rfl
    · rw [Bool.eq_false_iff]
      intro hIs
      exact hStep (isIdle_ofList_iff_ofPiece?.mp hIs)
  · have hOne : parent.pieces = [['.']] := by
      rw [hJoined hKept, hDot]
    exact (hIdle (Or.inr rfl) hOne).elim

end Path

end Componentry

------------------------------------------------------------
-- Joined Paths
------------------------------------------------------------

namespace Componentry

namespace Path

variable {left right : Path}

/- A joined path starts where the left one does. -/
theorem isAbsolute_join
    (hRight : right.isOrdinary = true) :
    (left.join right).isAbsolute = left.isAbsolute := by
  have hRelative := (components_of_isOrdinary hRight).1
  unfold join
  rw [hRelative]
  cases hText : left.text.toList with
  | nil =>
      simp only [Bool.false_eq_true, if_false,
        List.getLast?_nil]
      rw [hRelative, isAbsolute, hText]
      rfl
  | cons c cs =>
      have hHead (text : String)
          (hStart : left.text.toList <+: text.toList) :
          (Path.mk text).isAbsolute = left.isAbsolute := by
        rcases hStart with ⟨rest, hRest⟩
        rw [isAbsolute, isAbsolute, ← hRest, hText]
        rfl
      simp only [Bool.false_eq_true, if_false]
      split
      · next hNone => simp at hNone
      · exact hHead _ ⟨right.text.toList, by simp⟩
      · exact
          hHead _
            ⟨'/' :: right.text.toList, by simp⟩

/- A path that is made of no names is empty. -/
theorem eq_of_isMadeOf_nil
    (hPath : right.IsMadeOf []) :
    right = ⟨""⟩ := by
  rcases right with ⟨text⟩
  cases hText : text.toList with
  | nil => rw [String.toList_eq_nil_iff.mp hText]
  | cons c cs =>
      exfalso
      unfold IsMadeOf components at hPath
      cases hAbsolute : (Path.mk text).isAbsolute with
      | true => simp [hAbsolute] at hPath
      | false =>
          have hRoot : c ≠ '/' := by
            simpa [isAbsolute, hText] using hAbsolute
          rcases List.exists_cons_of_ne_nil
              (Text.pieces_ne_nil (· == '/') cs) with
            ⟨first, rest, hPieces⟩
          -- The first piece of a relative path is not empty.
          have hFirst :
              (Path.mk text).pieces = (c :: first) :: rest := by
            simp [pieces, hAbsolute, hText, Text.pieces,
              hRoot, hPieces, Text.extendFirst]
          have hSome : firstComponent? (c :: first) ≠ none := by
            unfold firstComponent? Component.ofPiece?
            split
            · simp
            · next hDot =>
                rw [if_neg (by simpa using hDot)]
                split <;> simp
          simp [hAbsolute, hFirst, hSome] at hPath

/- Nothing behind a path leaves its components as they are. -/
theorem components_join_empty
    (left : Path) :
    (left.join ⟨""⟩).components = left.components ∧
      (left.join ⟨""⟩).isAbsolute = left.isAbsolute := by
  rcases left with ⟨text⟩
  unfold join
  rw [if_neg (by decide)]
  split
  · next hNone =>
      rw [List.getLast?_eq_none_iff,
        String.toList_eq_nil_iff] at hNone
      cases hNone
      exact ⟨rfl, rfl⟩
  · rw [String.append_empty]
    exact ⟨rfl, rfl⟩
  · next c hNoSlash hSome =>
      have hText : text.toList ≠ [] := by
        intro hNone
        simp [hNone] at hSome
      have hJoined :
          text ++ "/" ++ "" =
            String.ofList (text.toList ++ '/' :: []) := by
        rw [← String.toList_inj]
        simp
      rw [hJoined]
      constructor
      · rw [components_append_slash hText,
          String.ofList_toList]
        exact List.append_nil _
      · unfold isAbsolute
        rw [String.toList_ofList,
          List.head?_append_of_ne_nil _ hText]

/- Names behind a path are added to its components. -/
theorem components_join_of_isMadeOf
    {names : List String}
    (hRight : right.IsMadeOf names) :
    (left.join right).components =
        left.components ++ names.map .normal ∧
      (left.join right).isAbsolute = left.isAbsolute := by
  by_cases hNames : names = []
  · subst hNames
    rw [eq_of_isMadeOf_nil hRight, List.map_nil,
      List.append_nil]
    exact components_join_empty left
  · have hOrdinary := hRight.isOrdinary hNames
    refine ⟨?_, isAbsolute_join hOrdinary⟩
    rw [components_join hOrdinary, hRight]

/- Joined paths end with the last step of the right one. -/
theorem endsInStep_join_iff :
    (left.join right).EndsInStep ↔ right.EndsInStep := by
  have hLast :
      (FileTree.steps (left.join right).text).getLast? =
        (FileTree.steps right.text).getLast? := by
    have hSlash
        {text : String}
        {before : List Char}
        (hText :
          text.toList = before ++ '/' :: right.text.toList) :
        (FileTree.steps text).getLast? =
          (FileTree.steps right.text).getLast? := by
      unfold FileTree.steps Text.splitAt
      rw [hText, Text.pieces_append (by simp),
        List.map_append, List.getLast?_append_of_ne_nil]
      simpa using Text.pieces_ne_nil _ _
    unfold join
    split
    · rfl
    · split
      · rfl
      · next hEnd =>
          rcases List.getLast?_eq_some_iff.mp hEnd with
            ⟨before, hBefore⟩
          apply hSlash
          rw [String.toList_append, hBefore,
            List.append_assoc]
          rfl
      · apply hSlash
        rw [String.toList_append, String.toList_append,
          List.append_assoc]
        rfl
  unfold EndsInStep
  rw [hLast]

end Path

end Componentry

------------------------------------------------------------
-- Usable Paths
------------------------------------------------------------

namespace Componentry

/- The pieces of a text have all characters between them. -/
theorem Text.exists_mem_pieces_iff
    (isSeparator : Char → Bool)
    {c : Char}
    {cs : List Char}
    (hPlain : isSeparator c = false) :
    (∃ piece ∈ pieces isSeparator cs, c ∈ piece) ↔
      c ∈ cs := by
  induction cs with
  | nil => simp [pieces]
  | cons d cs ih =>
      rw [pieces, List.mem_cons, ← ih]
      split
      · next hSeparator =>
          have hOther : c ≠ d := by
            rintro rfl
            rw [hPlain] at hSeparator
            cases hSeparator
          simp [hOther]
      · rcases List.exists_cons_of_ne_nil
            (pieces_ne_nil isSeparator cs) with
          ⟨first, rest, hPieces⟩
        rw [hPieces]
        simp [extendFirst, or_assoc]

namespace Path

variable {left path parent right : Path}
variable {name : String}

theorem isUsable_iff_text :
    path.isUsable = true ↔ '\x00' ∉ path.text.toList := by
  simp [isUsable]

/- A path can be used if all of its steps can. -/
theorem isUsable_iff :
    path.isUsable = true ↔
      ∀ step ∈ path.moves, '\x00' ∉ step.toList := by
  have hSteps :
      '\x00' ∈ path.text.toList ↔
        ∃ step ∈ FileTree.steps path.text,
          '\x00' ∈ step.toList := by
    rw [← Text.exists_mem_pieces_iff (· == '/') (by decide)]
    simp [FileTree.steps, Text.splitAt]
  rw [isUsable_iff_text, hSteps, ← path.filter_steps]
  constructor
  · intro hNone step hStep hNull
    exact hNone ⟨step, List.mem_of_mem_filter hStep, hNull⟩
  · intro hNone hSome
    rcases hSome with ⟨step, hStep, hNull⟩
    refine hNone step ?_ hNull
    rw [List.mem_filter]
    refine ⟨hStep, ?_⟩
    -- An idle step has no character but a dot.
    rw [Bool.not_eq_true', Bool.eq_false_iff]
    intro hIdle
    simp only [FileTree.isIdle, Bool.or_eq_true,
      decide_eq_true_eq] at hIdle
    rcases hIdle with rfl | rfl <;> simp at hNull

theorem isUsable_parent
    (hUsable : path.isUsable = true)
    (hParent : path.parent? = some parent) :
    parent.isUsable = true := by
  rw [isUsable_iff] at hUsable ⊢
  intro step hStep
  apply hUsable
  unfold moves at hStep ⊢
  rw [components_parent hParent] at hStep
  exact
    ((List.dropLast_sublist _).filterMap _).subset hStep

/- Behind a path, another one is used if both can be. -/
theorem isUsable_join_iff
    (hRelative : right.isAbsolute = false) :
    (left.join right).isUsable = true ↔
      left.isUsable = true ∧ right.isUsable = true := by
  simp only [isUsable_iff_text]
  rw [← not_or, not_iff_not]
  unfold join
  rw [hRelative, if_neg Bool.false_ne_true]
  split
  · next hNone => simp [List.getLast?_eq_none_iff.mp hNone]
  · simp
  · simp

/- A path that a file can have. -/
structure IsFilePath (path : Path) : Prop where
  usable : path.isUsable = true
  ends : path.EndsInStep

theorem isFilePath_iff :
    path.IsFilePath ↔
      path.isUsable = true ∧ path.EndsInStep :=
  ⟨fun hPath => ⟨hPath.usable, hPath.ends⟩,
    fun hPath => ⟨hPath.1, hPath.2⟩⟩

instance (path : Path) : Decidable path.IsFilePath :=
  decidable_of_iff _ isFilePath_iff.symm

/- Then the path of its directory, if it has any steps. -/
theorem IsFilePath.of_parent
    (hUsable : path.isUsable = true)
    (hParent : path.parent? = some parent)
    (hMoves : parent.moves ≠ []) :
    parent.IsFilePath where
  usable := isUsable_parent hUsable hParent
  ends := endsInStep_of_parent hParent hMoves

theorem isFilePath_join_iff
    (hRelative : right.isAbsolute = false) :
    (left.join right).IsFilePath ↔
      left.isUsable = true ∧ right.IsFilePath := by
  rw [isFilePath_iff, isFilePath_iff, endsInStep_join_iff,
    isUsable_join_iff hRelative, and_assoc]

end Path

end Componentry
