import Mathlib.Data.List.Induction
import Componentry.Proofs.FileTree.Changes

/-
  Paths that go on behind a directory.

  A path may have the components of another one and then some
  names.  Where that one leads to a directory, the names lead
  further down, as long as no link is in their way.  Where the
  names find nothing, directories can be made; so a way is
  opened unless a file is on it, and nothing but directories
  on the way is made.

  Main declarations:
    * `FileTree.IsBehind`, `FileTree.IsBehind.join`
    * `FileTree.place_of_absent`, `FileTree.place_of_receives`
    * `FileTree.grows_makeDirectories`
    * `FileTree.ensureDirectory_of_missing`
    * `FileTree.IsPassable`, `FileTree.Opens`
    * `FileTree.exists_makeDirectories`
-/

------------------------------------------------------------
-- Paths Behind a Directory
------------------------------------------------------------

namespace Componentry

/- The names in a path are steps down. -/
theorem Path.isName_of_mem_components
    {path : Path}
    {name : String}
    (hName : .normal name ∈ path.components) :
    FileTree.IsName name := by
  have hPiece
      {piece : List Char}
      (hIs :
        Component.ofPiece? piece = some (.normal name)) :
      FileTree.IsName name := by
    have hStep := step?_ofPiece? piece
    rw [hIs] at hStep
    by_cases hIdle :
        FileTree.isIdle (String.ofList piece) = true
    · rw [if_pos hIdle] at hStep
      cases hStep
    · rw [if_neg hIdle] at hStep
      have hText : name = String.ofList piece := by
        simpa [Component.step?] using hStep
      refine ⟨by rw [hText]; simpa using hIdle, ?_⟩
      intro hUp
      have hParent : piece = ['.', '.'] := by
        rw [hUp] at hText
        rw [← String.toList_ofList (l := piece), ← hText]
        rfl
      rw [hParent] at hIs
      cases hIs
  have hPieces
      {pieces : List (List Char)}
      (hMember :
        .normal name ∈
          pieces.filterMap Component.ofPiece?) :
      FileTree.IsName name := by
    rcases List.mem_filterMap.mp hMember with
      ⟨piece, -, hIs⟩
    exact hPiece hIs
  unfold components at hName
  split at hName
  · rcases List.mem_cons.mp hName with hRoot | hName
    · cases hRoot
    · exact hPieces hName
  · split at hName
    · cases hName
    · next first rest _ =>
        rcases List.mem_append.mp hName with hFirst | hRest
        · unfold firstComponent? at hFirst
          split at hFirst
          · simp at hFirst
          · rw [Option.mem_toList] at hFirst
            exact hPiece hFirst
        · exact hPieces hRest

namespace FileTree

/- A path goes on from a directory by some names. -/
structure IsBehind
    (directory path : Path)
    (names : List String) : Prop where
  components :
    path.components =
      directory.components ++ names.map .normal
  isAbsolute : path.isAbsolute = directory.isAbsolute

namespace IsBehind

variable {tree : FileTree}
variable {directory path other right : Path}
variable {names : List String}

theorem isName
    (hBehind : IsBehind directory path names) :
    ∀ name ∈ names, IsName name := by
  intro name hName
  have hComponent : .normal name ∈ path.components := by
    rw [hBehind.components]
    exact
      List.mem_append_right _ (List.mem_map_of_mem hName)
  exact Path.isName_of_mem_components hComponent

theorem moves
    (hBehind : IsBehind directory path names) :
    path.moves = directory.moves ++ names := by
  unfold Path.moves
  rw [hBehind.components, List.filterMap_append,
    List.filterMap_map]
  exact congrArg _ List.filterMap_some

theorem start
    (hBehind : IsBehind directory path names) :
    tree.start path = tree.start directory := by
  unfold FileTree.start
  rw [hBehind.isAbsolute]

/- The path can be used if the directory and the names can. -/
theorem isUsable_iff
    (hBehind : IsBehind directory path names) :
    path.isUsable = true ↔
      directory.isUsable = true ∧
        ∀ name ∈ names, '\x00' ∉ name.toList := by
  rw [Path.isUsable_iff, Path.isUsable_iff, hBehind.moves,
    List.forall_mem_append]

/- The parent is behind the directory by one name less. -/
theorem parent
    (hBehind : IsBehind directory path names)
    (hNames : names ≠ [])
    (hParent : path.parent? = some other) :
    IsBehind directory other names.dropLast where
  components := by
    rw [Path.components_parent hParent, hBehind.components,
      List.dropLast_append_of_ne_nil (by simpa using hNames),
      ← List.map_dropLast]
  isAbsolute := by
    rw [Path.isAbsolute_parent hParent, hBehind.isAbsolute]

/- A path that is made of names goes on from any directory. -/
theorem join
    (directory : Path)
    (hRight : right.IsMadeOf names) :
    IsBehind directory (directory.join right) names where
  components := (Path.components_join_of_isMadeOf hRight).1
  isAbsolute := (Path.components_join_of_isMadeOf hRight).2

/- A path is behind itself by no names. -/
theorem refl (path : Path) : IsBehind path path [] where
  components := (List.append_nil _).symm
  isAbsolute := rfl

end IsBehind

variable {tree : FileTree}
variable {base path parent : Path}
variable {names : List String}
variable {name : String}
variable {here place : Place}

/- Names that find directories lead to the last of them. -/
theorem leadsTo_of_isBehind
    (hBase : tree.LeadsTo base here)
    (hBehind : IsBehind base path names)
    (hUsable : path.isUsable = true)
    (hWay :
      ∀ place,
        IsOnWay here names place →
          tree.entry? place = some .directory) :
    tree.LeadsTo path (here ++ names) := by
  rcases hBase.leads with ⟨left, hLeads⟩
  have hDown :
      tree.Leads left here names left (here ++ names) :=
    (leads_names_iff hBehind.isName
      (isFreeWay_of_directories hWay)).mpr ⟨hWay, rfl, rfl⟩
  refine ⟨hUsable, left, ?_⟩
  rw [hBehind.moves, hBehind.start]
  exact hLeads.append hDown

/- So does a path that adds no names. -/
theorem LeadsTo.of_isBehind_nil
    (hBase : tree.LeadsTo base here)
    (hBehind : IsBehind base path []) :
    tree.LeadsTo path here := by
  have hUsable : path.isUsable = true :=
    hBehind.isUsable_iff.mpr ⟨hBase.usable, by simp⟩
  rw [← List.append_nil here]
  exact
    leadsTo_of_isBehind hBase hBehind hUsable
      fun place hOn => (not_isOnWay_nil hOn).elim

/- If nothing is found, it is where the names lead. -/
theorem place_of_absent
    (hBase : tree.LeadsTo base here)
    (hBehind : IsBehind base path names)
    (hFree : tree.IsFreeWay here names)
    (hLocate : tree.locate false path = .ok (.absent place)) :
    names ≠ [] ∧ place = here ++ names := by
  rcases hBase.leads with ⟨left, hLeads⟩
  rcases locate_eq_ok_iff.mp hLocate with ⟨-, -, hWalk⟩
  rw [hBehind.start] at hWalk
  have hSteps :
      (steps path.text).filter (!isIdle ·) =
        base.moves ++ names := by
    rw [path.filter_steps, hBehind.moves]
  -- The steps are those of the directory and then the names.
  rcases List.filter_eq_append_iff.mp hSteps with
    ⟨first, second, hSplit, hFirst, hSecond⟩
  rw [← hFirst, leads_filter_iff] at hLeads
  by_cases hNone : names = []
  · -- The directory itself is not made again.
    have hAll :
        tree.Leads linkLimit (tree.start base)
          (steps path.text) left here := by
      rw [← leads_filter_iff, hSteps, hNone,
        List.append_nil, ← hFirst, leads_filter_iff]
      exact hLeads
    exact (hAll.walk_ne_absent hWalk).elim
  · have hMore : second ≠ [] := by
      intro hEmpty
      rw [hEmpty] at hSecond
      exact hNone hSecond.symm
    have hDown : ∀ step ∈ second, step ≠ ".." := by
      intro step hStep hUp
      subst hUp
      have hName : ".." ∈ names := by
        rw [← hSecond, List.mem_filter]
        exact ⟨hStep, by decide⟩
      exact (hBehind.isName _ hName).not_up rfl
    rw [hSplit, hLeads.walk (Or.inr hMore)] at hWalk
    have hPlace :=
      (walks_of_walk hWalk).place_eq_of_way
        (by rwa [hSecond]) hDown
    rw [hSecond] at hPlace
    exact ⟨hNone, hPlace⟩

/- A file is put where the names lead, if they lead anywhere. -/
theorem place_of_receives
    (hBehind : IsBehind base path names)
    (hNames : names ≠ [])
    (hReceives : tree.Receives path place) :
    ∃ here,
      tree.LeadsTo base here ∧
        (tree.IsFreeWay here names →
          place = here ++ names ∧
            ∀ place,
              IsOnWay here names.dropLast place →
                tree.entry? place = some .directory) := by
  rcases hReceives.leads with
    ⟨before, name, left, there, hMoves, hLeads, hPlace⟩
  have hSplit :
      names = names.dropLast ++ [names.getLast hNames] :=
    (List.dropLast_append_getLast hNames).symm
  have hSame :
      before = base.moves ++ names.dropLast ∧
        name = names.getLast hNames := by
    rw [hBehind.moves, hSplit, ← List.append_assoc]
      at hMoves
    have hParts := List.append_inj' hMoves rfl
    refine ⟨?_, by simpa using hParts.2.symm⟩
    simpa using hParts.1.symm
  rw [hSame.1, hBehind.start] at hLeads
  rcases leads_append_iff.mp hLeads with
    ⟨between, here, hThere, hDown⟩
  have hUsable : base.isUsable = true :=
    (hBehind.isUsable_iff.mp hReceives.isFilePath.usable).1
  refine ⟨here, ⟨hUsable, between, hThere⟩, ?_⟩
  intro hFree
  have hOthers : ∀ name ∈ names.dropLast, IsName name :=
    fun name hName =>
      hBehind.isName name (List.dropLast_subset _ hName)
  rcases
      (leads_names_iff hOthers
        (hFree.mono (List.dropLast_prefix names))).mp
        hDown with
    ⟨hWay, -, hLast⟩
  refine ⟨?_, hWay⟩
  rw [hPlace, hLast, hSame.2, List.append_assoc, ← hSplit]

/- Where a path leads, its parent leads as well. -/
theorem LeadsTo.exists_parent
    (hThere : tree.LeadsTo path here)
    (hParent : path.parent? = some parent) :
    ∃ above, tree.LeadsTo parent above := by
  rcases hThere.leads with ⟨left, hLeads⟩
  rcases List.dropLast_prefix path.components with
    ⟨last, hLast⟩
  have hMoves :
      path.moves =
        parent.moves ++
          last.filterMap Path.Component.step? := by
    unfold Path.moves
    rw [← hLast, List.filterMap_append,
      Path.components_parent hParent]
  rw [hMoves] at hLeads
  rcases leads_append_iff.mp hLeads with
    ⟨between, above, hAbove, -⟩
  refine
    ⟨above, Path.isUsable_parent hThere.usable hParent,
      between, ?_⟩
  have hStart : tree.start parent = tree.start path := by
    unfold start
    rw [Path.isAbsolute_parent hParent]
  rw [hStart]
  exact hAbove

end FileTree

end Componentry

------------------------------------------------------------
-- New Directories below a Place
------------------------------------------------------------

namespace Componentry

namespace FileTree

variable {tree : FileTree}
variable {base path : Path}
variable {names : List String}
variable {here : Place}

/- A path that leads to a directory needs no others. -/
theorem makeAncestors_of_leadsTo
    {depth : Nat}
    (hLeads : tree.LeadsTo path here)
    (hDepth : 0 < depth) :
    tree.makeAncestors path depth = (.ok (), tree) := by
  rcases Nat.exists_eq_add_one.mpr hDepth with ⟨less, hLess⟩
  rw [hLess, makeAncestors]
  by_cases hText : path.text = ""
  · rw [if_pos hText]
  · rw [if_neg hText, ensureDirectory_of_leadsTo hText hLeads]

theorem makeDirectories_of_leadsTo
    (hLeads : tree.LeadsTo path here) :
    tree.makeDirectories path = (.ok (), tree) :=
  makeAncestors_of_leadsTo hLeads (Nat.succ_pos _)

/- Directories are made on the way of the names, if at all. -/
theorem grows_makeDirectories
    (hBase : tree.LeadsTo base here)
    (hBehind : IsBehind base path names)
    (hFree : tree.IsFreeWay here names) :
    Grows (IsOnWay here names) tree
      (tree.makeDirectories path).2 := by
  refine
    grows_makeAncestors
      (fun path =>
        ∃ others, others <+: names ∧
          IsBehind base path others)
      ?_ ?_ _ path ⟨names, List.prefix_refl names, hBehind⟩
  · intro grown path place hGrown hScope hLocate
    rcases hScope with ⟨others, hOthers, hBehind⟩
    have hStillFree : grown.IsFreeWay here others := by
      intro place target hWay hLink
      exact
        hFree place target (hWay.mono hOthers)
          (hGrown.link hLink)
    rcases
        place_of_absent (hGrown.leadsTo hBase) hBehind
          hStillFree hLocate with
      ⟨hSome, hPlace⟩
    rw [hPlace]
    exact (isOnWay_last here hSome).mono hOthers
  · intro path parent hScope hText hMissing hParent
    rcases hScope with ⟨others, hOthers, hBehind⟩
    -- The base itself is not missing.
    have hSome : others ≠ [] := by
      intro hNone
      subst hNone
      have hThere := hBase.of_isBehind_nil hBehind
      exact ensureDirectory_ne_error hText hThere hMissing
    exact
      ⟨others.dropLast,
        (List.dropLast_prefix others).trans hOthers,
        hBehind.parent hSome hParent⟩

end FileTree

end Componentry

------------------------------------------------------------
-- Missing Directories
------------------------------------------------------------

namespace Componentry

namespace FileTree

variable {tree : FileTree}
variable {follow : Bool}
variable {path : Path}
variable {left : Nat}
variable {here : Place}
variable {before rest : List String}
variable {name : String}

/- Behind its first moves, a path is walked from their place. -/
theorem exists_locate_eq_walk
    (follow : Bool)
    (hPath : path.IsFilePath)
    (hMoves : path.moves = before ++ name :: rest)
    (hLeads :
      tree.Leads linkLimit (tree.start path) before left
        here) :
    ∃ behind,
      behind.filter (!isIdle ·) = rest ∧
        (rest = [] → behind = []) ∧
        tree.locate follow path =
          walk tree follow left here (name :: behind) := by
  rcases hPath.ends.split_steps hMoves with
    ⟨first, behind, hSteps, hFirst, hBehind, hLast⟩
  refine ⟨behind, hBehind, hLast, ?_⟩
  rw [← hFirst, leads_filter_iff] at hLeads
  rw [locate, if_neg hPath.ends.text_ne_empty,
    if_pos hPath.usable, hSteps]
  exact hLeads.walk (Or.inr (List.cons_ne_nil _ _))

/-
  Nothing is found behind a name that is missing.  The name
  itself may be used if it is the last one.
-/
theorem locate_of_missing
    (hPath : path.IsFilePath)
    (hMoves : path.moves = before ++ name :: rest)
    (hLeads :
      tree.Leads linkLimit (tree.start path) before left here)
    (hName : IsName name)
    (hNone : tree.entry? (here ++ [name]) = none) :
    tree.locate follow path =
      if rest = [] then .ok (.absent (here ++ [name]))
      else .error .notFound := by
  rcases exists_locate_eq_walk follow hPath hMoves hLeads with
    ⟨behind, hBehind, hLast, hLocate⟩
  -- Slashes alone lead nowhere.
  have hSlashes :
      behind.all (· == "") = true ↔ rest = [] := by
    constructor
    · intro hAll
      rw [← hBehind, List.filter_eq_nil_iff]
      intro slash hSlash
      have hEmpty : slash = "" := by
        simpa using List.all_eq_true.mp hAll slash hSlash
      rw [hEmpty]
      decide
    · intro hNothing
      rw [hLast hNothing]
      rfl
  rw [hLocate, walk_name hName, hNone]
  simp only [hSlashes]

/-
  A directory that is missing is made, if only its own name is
  missing.
-/
theorem IsBehind.ensureDirectory_of_missing
    {base : Path}
    {down : List String}
    (hBehind : IsBehind base path (down ++ name :: rest))
    (hBase : tree.LeadsTo base here)
    (hPath : path.IsFilePath)
    (hWay :
      ∀ place,
        IsOnWay here down place →
          tree.entry? place = some .directory)
    (hNone : tree.entry? (here ++ (down ++ [name])) = none) :
    tree.ensureDirectory path =
      if rest = [] then
        .ok (tree.set (here ++ (down ++ [name])) .directory)
      else .error .notFound := by
  have hNames := hBehind.isName
  rw [List.forall_mem_append, List.forall_mem_cons] at hNames
  rcases hBase.leads with ⟨left, hLeads⟩
  have hDown :
      tree.Leads linkLimit (tree.start path)
        (base.moves ++ down) left (here ++ down) := by
    rw [hBehind.start]
    exact
      hLeads.append
        ((leads_names_iff hNames.1
            (isFreeWay_of_directories hWay)).mpr
          ⟨hWay, rfl, rfl⟩)
  have hMoves :
      path.moves = (base.moves ++ down) ++ name :: rest := by
    rw [hBehind.moves, List.append_assoc]
  rw [← List.append_assoc] at hNone ⊢
  have hLocate
      (follow : Bool) :
      tree.locate follow path =
        if rest = [] then
          .ok (.absent ((here ++ down) ++ [name]))
        else .error .notFound :=
    locate_of_missing hPath hMoves hDown hNames.2.1 hNone
  unfold ensureDirectory makeDirectory isDirectory directory?
  rw [hLocate, hLocate]
  by_cases hRest : rest = []
  · simp only [hRest, if_true]
  · simp only [hRest, if_false, Option.isSome_none,
      Bool.false_eq_true]

end FileTree

end Componentry

------------------------------------------------------------
-- Opening a Way
------------------------------------------------------------

namespace Componentry

namespace FileTree

/- Every place on a way is a directory, or can be made one. -/
def IsPassable
    (tree : FileTree)
    (here : Place)
    (names : List String) : Prop :=
  ∀ place,
    IsOnWay here names place →
      tree.entry? place = none ∨
        tree.entry? place = some .directory

/- All places on a way become directories, and no others. -/
structure Opens
    (here : Place)
    (names : List String)
    (before after : FileTree) : Prop where
  grows : Grows (IsOnWay here names) before after
  way :
    ∀ place,
      IsOnWay here names place →
        after.entry? place = some .directory

variable {tree before mid after : FileTree}
variable {base path : Path}
variable {here : Place}
variable {names more : List String}
variable {last : String}

theorem IsPassable.isFreeWay
    (hPass : tree.IsPassable here names) :
    tree.IsFreeWay here names := by
  intro place target hWay hLink
  rcases hPass place hWay with hNone | hDirectory
  · rw [hNone] at hLink
    cases hLink
  · rw [hDirectory] at hLink
    cases hLink

theorem IsPassable.mono
    (hPass : tree.IsPassable here more)
    (hMore : names <+: more) :
    tree.IsPassable here names :=
  fun place hWay => hPass place (hWay.mono hMore)

namespace Opens

theorem refl
    (hWay :
      ∀ place,
        IsOnWay here names place →
          tree.entry? place = some .directory) :
    Opens here names tree tree where
  grows := .refl tree
  way := hWay

/- A longer way may be opened behind a shorter one. -/
theorem trans
    (hFirst : Opens here names before mid)
    (hMore : names <+: more)
    (hSecond : Opens here more mid after) :
    Opens here more before after where
  grows :=
    (hFirst.grows.mono fun _ hWay => hWay.mono hMore).trans
      hSecond.grows
  way := hSecond.way

end Opens

/- The last directory of a way is made behind the others. -/
theorem exists_ensureDirectory
    (hBase : tree.LeadsTo base here)
    (hBehind : IsBehind base path (names ++ [last]))
    (hPath : path.IsFilePath)
    (hWay :
      ∀ place,
        IsOnWay here names place →
          tree.entry? place = some .directory)
    (hLast :
      tree.entry? (here ++ (names ++ [last])) = none ∨
        tree.entry? (here ++ (names ++ [last])) =
          some .directory) :
    ∃ after,
      tree.ensureDirectory path = .ok after ∧
        Opens here (names ++ [last]) tree after := by
  rcases hLast with hNone | hDirectory
  · have hMade :=
      hBehind.ensureDirectory_of_missing hBase hPath hWay
        hNone
    rw [if_pos rfl] at hMade
    refine ⟨_, hMade, ?_, ?_⟩
    · exact grows_set (isOnWay_last here (by simp)) hNone
    · intro place hOn
      rw [entry?_set (by simp)]
      rcases isOnWay_concat_iff.mp hOn with hLess | hIs
      · rw [hWay place hLess, ite_self]
      · rw [if_pos hIs]
  · have hAll :
        ∀ place,
          IsOnWay here (names ++ [last]) place →
            tree.entry? place = some .directory := by
      intro place hOn
      rcases isOnWay_concat_iff.mp hOn with hLess | hIs
      · exact hWay place hLess
      · rw [hIs]
        exact hDirectory
    have hLeads :=
      leadsTo_of_isBehind hBase hBehind hPath.usable hAll
    exact
      ⟨tree,
        ensureDirectory_of_leadsTo hPath.ends.text_ne_empty
          hLeads,
        .refl hAll⟩

/- A passable way has a first name that is missing, or none. -/
theorem IsPassable.directories_or_missing
    (hPass : tree.IsPassable here names) :
    (∀ place,
        IsOnWay here names place →
          tree.entry? place = some .directory) ∨
      ∃ down name rest,
        names = down ++ name :: rest ∧
          (∀ place,
            IsOnWay here down place →
              tree.entry? place = some .directory) ∧
          tree.entry? (here ++ (down ++ [name])) = none := by
  induction names using List.reverseRecOn with
  | nil =>
      exact Or.inl fun place hWay => (not_isOnWay_nil hWay).elim
  | append_singleton names last ih =>
      rcases ih (hPass.mono (List.prefix_append _ _)) with
        hDirectories | hMissing
      · rcases
            hPass _ (isOnWay_concat_iff.mpr (Or.inr rfl))
          with hNone | hDirectory
        · exact
            Or.inr ⟨names, last, [], rfl, hDirectories, hNone⟩
        · left
          intro place hWay
          rcases isOnWay_concat_iff.mp hWay with
            hEarlier | hLast
          · exact hDirectories place hEarlier
          · rw [hLast]
            exact hDirectory
      · rcases hMissing with
          ⟨down, name, rest, hNames, hDown, hNone⟩
        refine
          Or.inr
            ⟨down, name, rest ++ [last], ?_, hDown, hNone⟩
        rw [hNames, List.append_assoc]
        rfl

/- A path with moves has a parent. -/
theorem exists_parent_of_moves
    (hMoves : path.moves ≠ []) :
    ∃ parent, path.parent? = some parent := by
  cases hParent : path.parent? with
  | some parent => exact ⟨parent, rfl⟩
  | none =>
      exfalso
      apply hMoves
      have hBody : path.body = [] := by
        unfold Path.parent? at hParent
        split at hParent
        · next hEmpty => exact List.isEmpty_iff.mp hEmpty
        · cases hParent
      rw [Path.moves, Path.components_eq_componentsOf,
        ← Path.componentsOf_cutIdle, ← Path.body, hBody]
      cases path.isAbsolute <;> rfl

/- A passable way is opened. -/
theorem exists_makeAncestors
    {depth : Nat}
    (hBase : tree.LeadsTo base here)
    (hBehind : IsBehind base path names)
    (hPath : names ≠ [] → path.IsFilePath)
    (hPass : tree.IsPassable here names)
    (hDepth : names.length < depth) :
    ∃ after,
      tree.makeAncestors path depth = (.ok (), after) ∧
        Opens here names tree after := by
  induction names using List.reverseRecOn
    generalizing path depth with
  | nil =>
      have hThere := hBase.of_isBehind_nil hBehind
      refine ⟨tree, makeAncestors_of_leadsTo hThere ?_, ?_⟩
      · exact hDepth
      · exact .refl fun place hOn => (not_isOnWay_nil hOn).elim
  | append_singleton names last ih =>
      have hIs := hPath (by simp)
      have hText := hIs.ends.text_ne_empty
      have hLast :=
        hPass _ (isOnWay_concat_iff.mpr (Or.inr rfl))
      have hShorter :=
        hPass.mono (List.prefix_append names [last])
      rcases depth with _ | depth
      · exact (Nat.not_lt_zero _ hDepth).elim
      rw [makeAncestors, if_neg hText]
      rcases hShorter.directories_or_missing with
        hDirectories | hMissing
      · -- At most the last directory is missing.
        rcases
            exists_ensureDirectory hBase hBehind hIs
              hDirectories hLast with
          ⟨after, hMade, hOpens⟩
        exact ⟨after, by rw [hMade], hOpens⟩
      · -- The directories above are made, and then the last.
        rcases hMissing with
          ⟨down, name, rest, hNames, hDown, hNone⟩
        have hFault :
            tree.ensureDirectory path = .error .notFound := by
          have hAll :
              IsBehind base path
                (down ++ name :: (rest ++ [last])) := by
            rw [hNames, List.append_assoc] at hBehind
            exact hBehind
          rw [hAll.ensureDirectory_of_missing hBase hIs hDown
            hNone, if_neg (by simp)]
        have hMoves : path.moves ≠ [] := by
          rw [hBehind.moves]
          simp
        rcases exists_parent_of_moves hMoves with
          ⟨parent, hParent⟩
        have hAbove : IsBehind base parent names := by
          have hLess := hBehind.parent (by simp) hParent
          rwa [List.dropLast_concat] at hLess
        have hParentIs : names ≠ [] → parent.IsFilePath := by
          intro hSome
          apply Path.IsFilePath.of_parent hIs.usable hParent
          rw [hAbove.moves]
          exact List.append_ne_nil_of_right_ne_nil _ hSome
        rcases
            ih hAbove hParentIs hShorter
              (by simpa using hDepth) with
          ⟨grown, hGrown, hOpened⟩
        have hSame :
            grown.entry? (here ++ (names ++ [last])) =
              tree.entry? (here ++ (names ++ [last])) := by
          apply hOpened.grows.entry?_eq
          exact not_isOnWay_of_longer (by simp)
        rcases
            exists_ensureDirectory
              (hOpened.grows.leadsTo hBase) hBehind hIs
              hOpened.way (by rwa [hSame]) with
          ⟨after, hMade, hOpens⟩
        refine ⟨after, ?_, ?_⟩
        · rw [hFault, hParent]
          simp only [hGrown, hMade]
        · exact hOpened.trans (List.prefix_append _ _) hOpens

/- So the directories of a path are made. -/
theorem exists_makeDirectories
    (hBase : tree.LeadsTo base here)
    (hBehind : IsBehind base path names)
    (hPath : names ≠ [] → path.IsFilePath)
    (hPass : tree.IsPassable here names) :
    ∃ after,
      tree.makeDirectories path = (.ok (), after) ∧
        Opens here names tree after := by
  apply exists_makeAncestors hBase hBehind hPath hPass
  rw [hBehind.components, List.length_append,
    List.length_map]
  omega

end FileTree

end Componentry
