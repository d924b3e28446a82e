import Componentry.Proofs.FileTree.Walks

/-
  Names that lead down.

  The names of a path lead from a directory through the places
  on their way, if no link stands at one of these, and nowhere
  else.  They lead to a directory if and only if there are
  directories at all of these places.

  Main declarations:
    * `FileTree.isBelow_iff`, `FileTree.IsFreeOfLinks`
    * `FileTree.IsOnWay`, `FileTree.IsFreeWay`
    * `FileTree.Walks.place_eq_of_way`
    * `FileTree.leads_names_iff`
-/

------------------------------------------------------------
-- Below a Place
------------------------------------------------------------

namespace Componentry

namespace FileTree

/- The place that a walk has come to. -/
def Target.place : Target → Place
  | .directory place => place
  | .file place _ => place
  | .link place => place
  | .absent place => place

variable {tree : FileTree}
variable {above place : Place}

theorem isBelow_iff :
    isBelow above place = true ↔
      ∃ names, names ≠ [] ∧ place = above ++ names := by
  unfold isBelow
  rw [Bool.and_eq_true, List.isPrefixOf_iff_prefix,
    decide_eq_true_eq]
  constructor
  · intro hBelow
    rcases hBelow with ⟨⟨names, hNames⟩, hLonger⟩
    subst hNames
    refine ⟨names, ?_, rfl⟩
    intro hNone
    simp [hNone] at hLonger
  · intro hNames
    rcases hNames with ⟨names, hSome, hPlace⟩
    subst hPlace
    refine ⟨⟨names, rfl⟩, ?_⟩
    rw [List.length_append]
    have hLength := List.length_pos_iff.mpr hSome
    omega

/- No link is below a place. -/
def IsFreeOfLinks (tree : FileTree) (above : Place) : Prop :=
  ∀ place target,
    isBelow above place = true →
      tree.entry? place ≠ some (.link target)

end FileTree

end Componentry

------------------------------------------------------------
-- Ways
------------------------------------------------------------

namespace Componentry

namespace FileTree

/- A place that names lead through, or to, from another one. -/
def IsOnWay
    (here : Place)
    (names : List String)
    (place : Place) : Prop :=
  ∃ front,
    front ≠ [] ∧ front <+: names ∧ place = here ++ front

/- No link is on a way. -/
def IsFreeWay
    (tree : FileTree)
    (here : Place)
    (names : List String) : Prop :=
  ∀ place target,
    IsOnWay here names place →
      tree.entry? place ≠ some (.link target)

variable {tree : FileTree}
variable {here place : Place}
variable {names more : List String}
variable {name : String}

theorem not_isOnWay_nil :
    ¬ IsOnWay here [] place := by
  intro hWay
  rcases hWay with ⟨front, hSome, hFront, -⟩
  exact hSome (List.prefix_nil.mp hFront)

theorem isOnWay_below_iff :
    IsOnWay here names (here ++ more) ↔
      more ≠ [] ∧ more <+: names := by
  constructor
  · intro hWay
    rcases hWay with ⟨front, hSome, hFront, hPlace⟩
    rw [List.append_cancel_left hPlace]
    exact ⟨hSome, hFront⟩
  · intro hMore
    exact ⟨more, hMore.1, hMore.2, rfl⟩

/- A way does not go on behind its end. -/
theorem not_isOnWay_of_longer
    (hLonger : names.length < more.length) :
    ¬ IsOnWay here names (here ++ more) := by
  rw [isOnWay_below_iff]
  intro hMore
  have hLength := hMore.2.length_le
  omega

theorem isOnWay_last
    (here : Place)
    (hNames : names ≠ []) :
    IsOnWay here names (here ++ names) :=
  isOnWay_below_iff.mpr ⟨hNames, List.prefix_refl names⟩

/- A longer way leads through all places of a shorter one. -/
theorem IsOnWay.mono
    (hWay : IsOnWay here names place)
    (hMore : names <+: more) :
    IsOnWay here more place := by
  rcases hWay with ⟨front, hSome, hFront, hPlace⟩
  exact ⟨front, hSome, hFront.trans hMore, hPlace⟩

theorem IsOnWay.isBelow
    (hWay : IsOnWay here names place) :
    FileTree.isBelow here place = true := by
  rcases hWay with ⟨front, hSome, -, hPlace⟩
  exact isBelow_iff.mpr ⟨front, hSome, hPlace⟩

theorem IsFreeOfLinks.isFreeWay
    (hLinks : tree.IsFreeOfLinks here)
    (names : List String) :
    tree.IsFreeWay here names :=
  fun place target hWay =>
    hLinks place target hWay.isBelow

theorem IsFreeWay.mono
    (hFree : tree.IsFreeWay here more)
    (hMore : names <+: more) :
    tree.IsFreeWay here names :=
  fun place target hWay =>
    hFree place target (hWay.mono hMore)

theorem isFreeWay_of_directories
    (hWay :
      ∀ place,
        IsOnWay here names place →
          tree.entry? place = some .directory) :
    tree.IsFreeWay here names := by
  intro place target hOn hLink
  rw [hWay place hOn] at hLink
  cases hLink

/- A way goes on below the place that its first part leads to. -/
theorem isOnWay_append_iff :
    IsOnWay here (names ++ more) place ↔
      IsOnWay here names place ∨
        IsOnWay (here ++ names) more place := by
  constructor
  · intro hWay
    rcases hWay with ⟨front, hSome, hFront, hPlace⟩
    rcases
        List.prefix_or_prefix_of_prefix hFront
          (List.prefix_append names more) with
      hLess | ⟨rest, hRest⟩
    · exact Or.inl ⟨front, hSome, hLess, hPlace⟩
    · subst hRest
      by_cases hEnd : rest = []
      · subst hEnd
        rw [List.append_nil] at hSome hPlace
        exact
          Or.inl
            ⟨names, hSome, List.prefix_refl names, hPlace⟩
      · refine Or.inr ⟨rest, hEnd, ?_, ?_⟩
        · exact
            (List.prefix_append_right_inj names).mp hFront
        · rw [hPlace, List.append_assoc]
  · intro hWay
    rcases hWay with hFirst | hSecond
    · exact hFirst.mono (List.prefix_append _ _)
    · rcases hSecond with ⟨front, hSome, hFront, hPlace⟩
      refine ⟨names ++ front, ?_, ?_, ?_⟩
      · exact List.append_ne_nil_of_right_ne_nil _ hSome
      · exact
          (List.prefix_append_right_inj names).mpr hFront
      · rw [hPlace, List.append_assoc]

theorem isOnWay_singleton_iff :
    IsOnWay here [name] place ↔ place = here ++ [name] := by
  constructor
  · intro hWay
    rcases hWay with ⟨front, hSome, hFront, hPlace⟩
    rw [← List.nil_append [name],
      List.prefix_concat_iff] at hFront
    rcases hFront with hOne | hNone
    · rw [hPlace, hOne]
      rfl
    · exact (hSome (List.prefix_nil.mp hNone)).elim
  · intro hPlace
    rw [hPlace]
    exact isOnWay_last here (by simp)

theorem isOnWay_cons_iff :
    IsOnWay here (name :: names) place ↔
      place = here ++ [name] ∨
        IsOnWay (here ++ [name]) names place := by
  rw [← List.singleton_append, isOnWay_append_iff,
    isOnWay_singleton_iff]

theorem isOnWay_concat_iff :
    IsOnWay here (names ++ [name]) place ↔
      IsOnWay here names place ∨
        place = here ++ (names ++ [name]) := by
  rw [isOnWay_append_iff, isOnWay_singleton_iff,
    List.append_assoc]

end FileTree

end Componentry

------------------------------------------------------------
-- Walks down a Way
------------------------------------------------------------

namespace Componentry

namespace FileTree

variable {tree : FileTree}
variable {follow : Bool}
variable {links left : Nat}
variable {here place : Place}
variable {steps names : List String}

/-
  Steps that are no links lead down their way, and nowhere
  else.
-/
theorem Walks.place_eq_of_way
    {target : Target}
    (hLinks :
      tree.IsFreeWay here (steps.filter (!isIdle ·)))
    (hSteps : ∀ step ∈ steps, step ≠ "..")
    (hWalks : tree.Walks follow links here steps target) :
    target.place = here ++ steps.filter (!isIdle ·) := by
  -- A name is kept.
  have hKept
      {step : String}
      {rest : List String}
      (hName : IsName step) :
      (step :: rest).filter (!isIdle ·) =
        step :: rest.filter (!isIdle ·) :=
    List.filter_cons_of_pos (by simp [hName.not_idle])
  -- So the first place on the way has no link.
  have hNoLink
      {here : Place}
      {step text : String}
      {rest : List String}
      (hName : IsName step)
      (hLinks :
        tree.IsFreeWay here
          ((step :: rest).filter (!isIdle ·))) :
      tree.entry? (here ++ [step]) ≠ some (.link text) := by
    apply hLinks
    rw [hKept hName, isOnWay_cons_iff]
    exact Or.inl rfl
  induction hWalks with
  | here => exact (List.append_nil _).symm
  | idle hIdle hRest ih =>
      rw [List.forall_mem_cons] at hSteps
      rw [List.filter_cons_of_neg (by simp [hIdle])]
        at hLinks ⊢
      exact ih hLinks hSteps.2
  | up hRest ih => exact (hSteps ".." (by simp) rfl).elim
  | down hName hEntry hRest ih =>
      rw [List.forall_mem_cons] at hSteps
      rw [hKept hName] at hLinks ⊢
      have hRestLinks :=
        fun place text hWay =>
          hLinks place text
            (isOnWay_cons_iff.mpr (Or.inr hWay))
      rw [ih hRestLinks hSteps.2, List.append_assoc]
      rfl
  | jump hName hEntry hRest ih =>
      exact (hNoLink hName hLinks hEntry).elim
  | link hName hEntry =>
      exact (hNoLink hName hLinks hEntry).elim
  | file hName hEntry =>
      rw [hKept hName]
      rfl
  | @absent links here step rest hName hNone hSlashes =>
      have hIdle : rest.filter (!isIdle ·) = [] := by
        rw [List.filter_eq_nil_iff]
        intro slash hSlash
        rw [hSlashes slash hSlash]
        decide
      rw [hKept hName, hIdle]
      rfl

/-
  Names that no link stands in the way of lead to a directory
  if they find nothing but directories.
-/
theorem leads_names_iff
    (hNames : ∀ name ∈ names, IsName name)
    (hLinks : tree.IsFreeWay here names) :
    tree.Leads links here names left place ↔
      (∀ other,
          IsOnWay here names other →
            tree.entry? other = some .directory) ∧
        left = links ∧ place = here ++ names := by
  induction names generalizing here with
  | nil =>
      rw [List.append_nil]
      constructor
      · intro hLeads
        cases hLeads
        exact
          ⟨fun other hWay => (not_isOnWay_nil hWay).elim,
            rfl, rfl⟩
      · intro hPlace
        rw [hPlace.2.1, hPlace.2.2]
        exact .here
  | cons name names ih =>
      rw [List.forall_mem_cons] at hNames
      have hRestLinks :
          tree.IsFreeWay (here ++ [name]) names :=
        fun place text hWay =>
          hLinks place text
            (isOnWay_cons_iff.mpr (Or.inr hWay))
      have hRest := ih hNames.2 hRestLinks
      have hAll :
          (∀ other,
              IsOnWay here (name :: names) other →
                tree.entry? other = some .directory) ↔
            tree.entry? (here ++ [name]) =
                some .directory ∧
              ∀ other,
                IsOnWay (here ++ [name]) names other →
                  tree.entry? other = some .directory := by
        simp only [isOnWay_cons_iff, or_imp, forall_and,
          forall_eq]
      rw [hAll, and_assoc]
      have hPlace :
          here ++ name :: names =
            (here ++ [name]) ++ names := by
        rw [List.append_assoc]
        rfl
      rw [hPlace, ← hRest]
      constructor
      · intro hLeads
        cases hLeads with
        | idle hIdle hMore =>
            rw [hNames.1.not_idle] at hIdle
            cases hIdle
        | up hMore => exact (hNames.1.not_up rfl).elim
        | down hName hEntry hMore => exact ⟨hEntry, hMore⟩
        | link hName hEntry hMore =>
            exact
              (hLinks _ _
                (isOnWay_cons_iff.mpr (Or.inl rfl))
                hEntry).elim
      · intro hLeads
        exact .down hNames.1 hLeads.1 hLeads.2

end FileTree

end Componentry
