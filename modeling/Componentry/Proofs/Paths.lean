import Mathlib.Data.List.Basic
import Componentry.Path

/-
  Paths that are made of names.

  A name without a slash that is no dot and no two dots is a
  path of one component.  Behind any path, a path that is made
  of names adds its names to the components.

  Main declarations:
    * `Text.pieces_append`
    * `Path.IsPlainName`, `Path.IsMadeOf`
    * `Path.ofPiece?_eq_none_iff`, `Path.components_join`
    * `Path.IsMadeOf.join`, `Path.isOrdinary_iff`
-/

------------------------------------------------------------
-- Pieces
------------------------------------------------------------

namespace Componentry

namespace Text

variable {isSeparator : Char → Bool}

theorem pieces_ne_nil
    (isSeparator : Char → Bool)
    (cs : List Char) :
    pieces isSeparator cs ≠ [] := by
  cases cs with
  | nil => simp [pieces]
  | cons c cs =>
      unfold pieces
      cases isSeparator c with
      | true => simp
      | false =>
          cases pieces isSeparator cs with
          | nil => simp [extendFirst]
          | cons piece rest => simp [extendFirst]

/- The pieces of two texts with a separator between them. -/
theorem pieces_append
    {separator : Char}
    (hSeparator : isSeparator separator = true)
    (first second : List Char) :
    pieces isSeparator (first ++ separator :: second) =
      pieces isSeparator first ++
        pieces isSeparator second := by
  induction first with
  | nil => simp [pieces, hSeparator]
  | cons c first ih =>
      rw [List.cons_append, pieces, pieces, ih]
      cases hHere : isSeparator c with
      | true => simp
      | false =>
          rcases List.exists_cons_of_ne_nil
              (pieces_ne_nil isSeparator first) with
            ⟨piece, rest, hPieces⟩
          simp [hPieces, extendFirst]

/- A text without separators is one piece. -/
theorem pieces_of_forall_not
    {cs : List Char}
    (hNone : ∀ c ∈ cs, isSeparator c = false) :
    pieces isSeparator cs = [cs] := by
  induction cs with
  | nil => rfl
  | cons c cs ih =>
      rw [List.forall_mem_cons] at hNone
      unfold pieces
      rw [hNone.1, ih hNone.2]
      rfl

theorem pieces_of_not_mem
    {separator : Char}
    {cs : List Char}
    (hNone : separator ∉ cs) :
    pieces (· == separator) cs = [cs] := by
  apply pieces_of_forall_not
  intro c hMember
  rw [beq_eq_false_iff_ne]
  rintro rfl
  exact hNone hMember

/- What stands between separators has none of them. -/
theorem not_separator_of_mem_pieces
    {cs piece : List Char}
    (hPiece : piece ∈ pieces isSeparator cs) :
    ∀ c ∈ piece, isSeparator c = false := by
  induction cs generalizing piece with
  | nil =>
      rw [pieces, List.mem_singleton] at hPiece
      simp [hPiece]
  | cons c cs ih =>
      rw [pieces] at hPiece
      cases hHere : isSeparator c with
      | true =>
          simp only [hHere, if_true, List.mem_cons] at hPiece
          rcases hPiece with rfl | hPiece
          · simp
          · exact ih hPiece
      | false =>
          simp only [hHere, Bool.false_eq_true, if_false]
            at hPiece
          cases hPieces : pieces isSeparator cs with
          | nil =>
              simp only [hPieces, extendFirst,
                List.mem_singleton] at hPiece
              simp [hPiece, hHere]
          | cons first rest =>
              rw [hPieces] at ih hPiece
              rcases List.mem_cons.mp hPiece with
                rfl | hPiece
              · rw [List.forall_mem_cons]
                exact ⟨hHere, ih List.mem_cons_self⟩
              · exact ih (List.mem_cons_of_mem _ hPiece)

end Text

end Componentry

------------------------------------------------------------
-- Components of Joined Paths
------------------------------------------------------------

namespace Componentry

namespace Path

/- A piece stands for none if it is empty, or a dot. -/
theorem ofPiece?_eq_none_iff
    {piece : List Char} :
    Component.ofPiece? piece = none ↔
      piece = [] ∨ piece = ['.'] := by
  unfold Component.ofPiece?
  by_cases hIdle : piece = [] ∨ piece = ['.']
  · simp [hIdle]
  · by_cases hParent : piece = ['.', '.'] <;>
      simp [hIdle, hParent]

/- The components of a text between slashes, not at a start. -/
def inner (cs : List Char) : List Component :=
  (Text.pieces (· == '/') cs).filterMap Component.ofPiece?

/- What stands behind a slash adds its inner components. -/
theorem components_append_slash
    {first second : List Char}
    (hFirst : first ≠ []) :
    (Path.mk
        (String.ofList (first ++ '/' :: second))).components =
      (Path.mk (String.ofList first)).components ++
        inner second := by
  rcases List.exists_cons_of_ne_nil hFirst with
    ⟨c, cs, rfl⟩
  have hPieces (cs : List Char) :
      Text.pieces (· == '/') (cs ++ '/' :: second) =
        Text.pieces (· == '/') cs ++
          Text.pieces (· == '/') second :=
    Text.pieces_append (by simp) cs second
  unfold components pieces isAbsolute inner
  simp only [String.toList_ofList, List.cons_append,
    List.head?_cons, List.tail_cons]
  by_cases hRoot : c = '/'
  · subst hRoot
    simp only [beq_self_eq_true, if_true]
    rw [hPieces, List.filterMap_append, List.cons_append]
  · have hRelative : (some c == some '/') = false := by
      simpa using hRoot
    simp only [hRelative, Bool.false_eq_true, if_false]
    rw [← List.cons_append, hPieces]
    rcases List.exists_cons_of_ne_nil
        (Text.pieces_ne_nil (· == '/') (c :: cs)) with
      ⟨piece, rest, hFirst⟩
    rw [hFirst]
    simp only [List.cons_append, List.filterMap_append,
      List.append_assoc]

/- A path that is made of names starts at no root. -/
theorem components_of_isOrdinary
    {path : Path}
    (hOrdinary : path.isOrdinary = true) :
    path.isAbsolute = false ∧
      path.components = inner path.text.toList := by
  unfold isOrdinary at hOrdinary
  rw [Bool.and_eq_true] at hOrdinary
  rcases hOrdinary with ⟨-, hNormal⟩
  cases hAbsolute : path.isAbsolute with
  | true =>
      simp [components, hAbsolute, Component.isNormal]
        at hNormal
  | false =>
      refine ⟨rfl, ?_⟩
      rcases List.exists_cons_of_ne_nil
          (Text.pieces_ne_nil (· == '/')
            path.text.toList) with ⟨first, rest, hPieces⟩
      have hComponents :
          path.components =
            (firstComponent? first).toList ++
              rest.filterMap Component.ofPiece? := by
        simp [components, pieces, hAbsolute, hPieces]
      have hFirst :
          firstComponent? first =
            Component.ofPiece? first := by
        unfold firstComponent?
        by_cases hDot : first = ['.']
        · rw [hComponents] at hNormal
          simp [firstComponent?, hDot, Component.isNormal]
            at hNormal
        · rw [if_neg hDot]
      rw [hComponents, hFirst, inner, hPieces,
        List.filterMap_cons]
      cases Component.ofPiece? first with
      | none => rfl
      | some component => rfl

/- The components of a joined path are those of both. -/
theorem components_join
    {left right : Path}
    (hRight : right.isOrdinary = true) :
    (left.join right).components =
      left.components ++ right.components := by
  rcases components_of_isOrdinary hRight with
    ⟨hRelative, hInner⟩
  rcases left with ⟨text⟩
  unfold join
  rw [hRelative, hInner]
  rcases List.eq_nil_or_concat text.toList with
    hEmpty | ⟨start, last, hText⟩
  · have hLeft : (Path.mk text).components = [] := by
      rw [String.toList_eq_nil_iff.mp hEmpty]
      rfl
    simp [hEmpty, hLeft, hInner]
  · rw [List.concat_eq_append] at hText
    have hLeft : text = String.ofList (start ++ [last]) := by
      rw [← hText, String.ofList_toList]
    by_cases hSlash : last = '/'
    · subst hSlash
      have hJoined :
          text ++ right.text =
            String.ofList
              (start ++ '/' :: right.text.toList) := by
        rw [← String.toList_inj]
        simp [hText]
      simp only [Bool.false_eq_true, if_false, hText,
        List.getLast?_concat]
      rw [hJoined, hLeft]
      cases start with
      | nil =>
          simp [components, pieces, isAbsolute, inner,
            Text.pieces, Component.ofPiece?]
      | cons c start =>
          have hStart : c :: start ≠ [] :=
            List.cons_ne_nil c start
          rw [components_append_slash hStart,
            components_append_slash hStart, List.append_assoc]
          rfl
    · have hJoined :
          text ++ "/" ++ right.text =
            String.ofList
              ((start ++ [last]) ++
                '/' :: right.text.toList) := by
        rw [← String.toList_inj]
        simp [hText]
      simp only [Bool.false_eq_true, if_false, hText,
        List.getLast?_concat]
      rw [hJoined, hLeft, components_append_slash (by simp)]

end Path

end Componentry

------------------------------------------------------------
-- Names
------------------------------------------------------------

namespace Componentry

namespace Path

/- A name that is a path of one component. -/
structure IsPlainName (name : String) : Prop where
  not_empty : name ≠ ""
  no_slash : '/' ∉ name.toList
  not_current : name ≠ "."
  not_parent : name ≠ ".."

instance (name : String) : Decidable (IsPlainName name) :=
  decidable_of_iff
    (name ≠ "" ∧ '/' ∉ name.toList ∧ name ≠ "." ∧ name ≠ "..")
    ⟨fun h => ⟨h.1, h.2.1, h.2.2.1, h.2.2.2⟩,
      fun h =>
        ⟨h.not_empty, h.no_slash, h.not_current,
          h.not_parent⟩⟩

/- A path whose components are names. -/
def IsMadeOf (path : Path) (names : List String) : Prop :=
  path.components = names.map .normal

instance
    (path : Path)
    (names : List String) :
    Decidable (path.IsMadeOf names) :=
  inferInstanceAs
    (Decidable (path.components = names.map .normal))

/- A name with a long ending is plain. -/
theorem IsPlainName.of_ending
    {name ending : String}
    (hName : '/' ∉ name.toList)
    (hEnding : '/' ∉ ending.toList)
    (hLong : 2 < ending.toList.length) :
    IsPlainName (name ++ ending) := by
  have hLength {other : String}
      (hOther : other.toList.length ≤ 2) :
      name ++ ending ≠ other := by
    rintro rfl
    rw [String.toList_append, List.length_append] at hOther
    omega
  refine
    { not_empty := hLength (by simp)
      no_slash := ?_
      not_current := hLength (by simp)
      not_parent := hLength (by simp) }
  rw [String.toList_append, List.mem_append, not_or]
  exact ⟨hName, hEnding⟩

theorem IsPlainName.isMadeOf
    {name : String}
    (hName : IsPlainName name) :
    (Path.mk name).IsMadeOf [name] := by
  have hPieces :
      Text.pieces (· == '/') name.toList = [name.toList] :=
    Text.pieces_of_not_mem hName.no_slash
  have hRelative : (Path.mk name).isAbsolute = false := by
    unfold isAbsolute
    rw [beq_eq_false_iff_ne]
    intro hFirst
    exact hName.no_slash (List.mem_of_mem_head? hFirst)
  have hOther
      (other : String)
      (hOther : name ≠ other) :
      name.toList ≠ other.toList := by
    rwa [ne_eq, String.toList_inj]
  have hEmpty : name.toList ≠ [] :=
    hOther "" hName.not_empty
  have hCurrent : name.toList ≠ ['.'] :=
    hOther "." hName.not_current
  have hParent : name.toList ≠ ['.', '.'] :=
    hOther ".." hName.not_parent
  unfold IsMadeOf components pieces
  rw [hRelative]
  simp [hPieces, firstComponent?, Component.ofPiece?,
    hEmpty, hCurrent, hParent]

namespace IsMadeOf

variable {path left right : Path}
variable {names first second : List String}

theorem isOrdinary
    (hPath : path.IsMadeOf names)
    (hNames : names ≠ []) :
    path.isOrdinary = true := by
  unfold Path.isOrdinary
  rw [hPath]
  simp [hNames, Component.isNormal]

/- A path that is made of names starts at no root. -/
theorem isRelative
    (hPath : path.IsMadeOf names) :
    path.isAbsolute = false := by
  rw [Bool.eq_false_iff]
  intro hAbsolute
  unfold IsMadeOf components at hPath
  rw [if_pos hAbsolute] at hPath
  cases names with
  | nil => cases hPath
  | cons name names => cases hPath

/- A joined path is made of the names of both. -/
theorem join
    (hLeft : left.IsMadeOf first)
    (hRight : right.IsMadeOf second)
    (hSecond : second ≠ []) :
    (left.join right).IsMadeOf (first ++ second) := by
  unfold IsMadeOf
  rw [components_join (hRight.isOrdinary hSecond), hLeft,
    hRight, List.map_append]

/- A name behind a slash is one name more. -/
theorem slash
    {text name : String}
    (hPath : (Path.mk text).IsMadeOf names)
    (hNames : names ≠ [])
    (hName : IsPlainName name) :
    (Path.mk (text ++ "/" ++ name)).IsMadeOf
      (names ++ [name]) := by
  have hText : text.toList ≠ [] := by
    intro hEmpty
    rw [String.toList_eq_nil_iff.mp hEmpty] at hPath
    exact hNames (List.map_eq_nil_iff.mp hPath.symm)
  have hJoined :
      text ++ "/" ++ name =
        String.ofList (text.toList ++ '/' :: name.toList) := by
    rw [← String.toList_inj]
    simp
  have hInner :=
    (components_of_isOrdinary
      (hName.isMadeOf.isOrdinary (by simp))).2
  unfold IsMadeOf
  rw [hJoined, components_append_slash hText,
    String.ofList_toList, hPath, ← hInner, hName.isMadeOf,
    List.map_append]

end IsMadeOf

/- An ordinary path is made of at least one name. -/
theorem isOrdinary_iff
    {path : Path} :
    path.isOrdinary = true ↔
      ∃ names, names ≠ [] ∧ path.IsMadeOf names := by
  constructor
  · intro hOrdinary
    unfold isOrdinary at hOrdinary
    rw [Bool.and_eq_true, List.all_eq_true] at hOrdinary
    rcases hOrdinary with ⟨hSome, hNormal⟩
    have hNames :
        path.components.map (.normal ∘ Component.name) =
          path.components.map id := by
      apply List.map_congr_left
      intro component hMember
      have hIsNormal := hNormal component hMember
      cases component with
      | root => cases hIsNormal
      | current => cases hIsNormal
      | parent => cases hIsNormal
      | normal name => rfl
    refine ⟨path.components.map (·.name), ?_, ?_⟩
    · simpa using hSome
    · rw [IsMadeOf, List.map_map, hNames, List.map_id]
  · intro hMade
    rcases hMade with ⟨names, hSome, hNames⟩
    exact hNames.isOrdinary hSome

/- Names make up different paths if they are different. -/
theorem map_normal_injective :
    Function.Injective (List.map Component.normal) := by
  apply List.map_injective_iff.mpr
  intro first second hSame
  exact Component.normal.inj hSame

end Path

end Componentry
