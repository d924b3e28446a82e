import Componentry.Generation.Artifacts
import Componentry.Proofs.FileTree.Deliveries
import Componentry.Proofs.FileTree.Replacements

/-
  Writing files.

  A text that is written is delivered to its place; if it
  cannot be, directories on the way to it have been made, and
  nothing else is changed.  So files that are written one
  after the other are all delivered, or they are up to the
  first one that cannot be.

  Main declarations:
    * `writeText_eq_ok`, `writeText_eq_error`
    * `FileTree.Descends`, `FileTree.IsSite`
    * `delivers_of_writeText`, `exists_writeText`
    * `delivers_of_writeAll`, `exists_writeAll`
    * `writeAll_eq_error`
-/

------------------------------------------------------------
-- One Text
------------------------------------------------------------

namespace Componentry

variable {tree after : FileTree}
variable {path : Path}
variable {text : String}

/-
  A text that is written is put where its path leads, in a
  tree with the directories above it.
-/
theorem writeText_eq_ok
    (hWritten : writeText tree path text = (.ok (), after)) :
    ∃ parent place,
      path.parent? = some parent ∧
        (tree.makeDirectories parent).2.Receives path place ∧
        after =
          (tree.makeDirectories parent).2.set place
            (.file text.toUTF8) := by
  unfold writeText at hWritten
  split at hWritten
  · cases hWritten
  · next parent hParent =>
      split at hWritten
      · cases hWritten
      · next grown hMade =>
          split at hWritten
          · cases hWritten
          · next spare written hSpare =>
              split at hWritten
              · cases hWritten
              · next moved hMoved =>
                  cases hWritten
                  rcases
                      FileTree.set_of_moveSpare hSpare hMoved
                    with ⟨place, hReceives, hIs⟩
                  refine ⟨parent, place, hParent, ?_⟩
                  rw [hMade]
                  exact ⟨hReceives, hIs⟩

/- One that is not leaves at most new directories behind. -/
theorem writeText_eq_error
    {error : GenerateError}
    (hWritten : writeText tree path text = (.error error, after)) :
    after = tree ∨
      ∃ parent,
        path.parent? = some parent ∧
          after = (tree.makeDirectories parent).2 := by
  unfold writeText at hWritten
  split at hWritten
  · cases hWritten
    exact Or.inl rfl
  · next parent hParent =>
      refine Or.inr ⟨parent, hParent, ?_⟩
      split at hWritten
      · next fault grown hMade =>
          cases hWritten
          rw [hMade]
      · next grown hMade =>
          rw [hMade]
          split at hWritten
          · cases hWritten
            rfl
          · next spare written hSpare =>
              split at hWritten
              · cases hWritten
                exact FileTree.erase_of_writeSpare hSpare
              · cases hWritten

end Componentry

------------------------------------------------------------
-- Sites
------------------------------------------------------------

namespace Componentry

namespace FileTree

/-
  The names at the end of a path lead down from a place, and
  no link is in their way.
-/
structure Descends
    (tree : FileTree)
    (path : Path)
    (here : Place)
    (names : List String) : Prop where
  base :
    ∃ base,
      tree.LeadsTo base here ∧ IsBehind base path names
  free : tree.IsFreeWay here names

/-
  A directory that files can be written to, whether it is
  there or not, has no links below it.
-/
structure IsSite
    (tree : FileTree)
    (directory : Path)
    (here : Place)
    (names : List String) : Prop
    extends Descends tree directory here names where
  below : tree.IsFreeOfLinks (here ++ names)

variable {tree after : FileTree}
variable {directory parent right : Path}
variable {here above : Place}
variable {names more : List String}
variable {name : String}

/- A directory that is there is a site. -/
theorem isSite_of_leadsTo
    (hLeads : tree.LeadsTo directory here)
    (hFree : tree.IsFreeOfLinks here) :
    tree.IsSite directory here [] where
  base := ⟨directory, hLeads, .refl directory⟩
  free := fun _ _ hWay => (not_isOnWay_nil hWay).elim
  below := by rwa [List.append_nil]

/- An empty one has no links. -/
theorem isSite_of_nothing_below
    (hLeads : tree.LeadsTo directory here)
    (hEmpty :
      ∀ place,
        isBelow here place = true →
          tree.entry? place = none) :
    tree.IsSite directory here [] := by
  apply isSite_of_leadsTo hLeads
  intro place target hBelow
  rw [hEmpty place hBelow]
  simp

/-
  So is a name in a directory that is there, unless it is a
  link.
-/
theorem isSite_of_parent
    (hParent : directory.parent? = some parent)
    (hLeads : tree.LeadsTo parent here)
    (hName :
      directory.components.getLast? = some (.normal name))
    (hLink :
      ∀ target,
        tree.entry? (here ++ [name]) ≠ some (.link target))
    (hFree : tree.IsFreeOfLinks (here ++ [name])) :
    tree.IsSite directory here [name] where
  base := by
    refine ⟨parent, hLeads, ?_, ?_⟩
    · rw [Path.components_parent hParent, List.map_singleton,
        List.dropLast_append_getLast? _ hName]
    · exact (Path.isAbsolute_parent hParent).symm
  free := by
    intro place target hWay
    rw [isOnWay_singleton_iff.mp hWay]
    exact hLink target
  below := hFree

theorem IsSite.keep
    (hSite : tree.IsSite directory here names)
    (hKeeps : KeepsWays tree after) :
    after.IsSite directory here names where
  base := by
    rcases hSite.base with ⟨base, hLeads, hBehind⟩
    exact ⟨base, hKeeps.leadsTo hLeads, hBehind⟩
  free := hKeeps.isFreeWay hSite.free
  below := hKeeps.isFreeOfLinks hSite.below

/- Names go on below a site. -/
theorem IsSite.join
    (hSite : tree.IsSite directory here names)
    (hRight : right.IsMadeOf more) :
    tree.Descends (directory.join right) here
      (names ++ more) where
  base := by
    rcases hSite.base with ⟨base, hLeads, hBehind⟩
    have hJoined := IsBehind.join directory hRight
    refine ⟨base, hLeads, ?_, ?_⟩
    · rw [hJoined.components, hBehind.components,
        List.map_append, List.append_assoc]
    · rw [hJoined.isAbsolute, hBehind.isAbsolute]
  free := by
    intro place target hWay
    rcases isOnWay_append_iff.mp hWay with hAbove | hBelow
    · exact hSite.free place target hAbove
    · exact hSite.below place target hBelow.isBelow

end FileTree

end Componentry

------------------------------------------------------------
-- Delivering a Text
------------------------------------------------------------

namespace Componentry

open FileTree (Descends Delivers Grows IsOnWay)

variable {tree after : FileTree}
variable {path : Path}
variable {text : String}
variable {here : FileTree.Place}
variable {names : List String}

/- A text that is written is delivered. -/
theorem delivers_of_writeText
    (hDescends : tree.Descends path here names)
    (hNames : names ≠ [])
    (hWritten : writeText tree path text = (.ok (), after)) :
    Delivers here [⟨names, text.toUTF8⟩] tree after := by
  rcases hDescends.base with ⟨base, hBase, hBehind⟩
  rcases writeText_eq_ok hWritten with
    ⟨parent, place, hParent, hReceives, hIs⟩
  have hFree :=
    hDescends.free.mono (List.dropLast_prefix names)
  have hGrows :=
    FileTree.grows_makeDirectories hBase
      (hBehind.parent hNames hParent) hFree
  rcases
      FileTree.place_of_receives hBehind hNames hReceives with
    ⟨there, hThere, hDown⟩
  rw [hThere.unique (hGrows.leadsTo hBase)] at hDown
  rcases hDown (hGrows.keepsWays.isFreeWay hDescends.free)
    with ⟨hPlace, hWay⟩
  have hNoDirectory := hReceives.no_directory
  rw [hPlace] at hNoDirectory
  rw [hIs, hPlace]
  exact
    Delivers.of_opens ⟨hGrows, hWay⟩ hDescends.free hNames
      hNoDirectory

/- If it is not, directories on its way may have been made. -/
theorem grows_of_writeText
    {error : GenerateError}
    (hDescends : tree.Descends path here names)
    (hWritten :
      writeText tree path text = (.error error, after)) :
    Grows (IsOnWay here names.dropLast) tree after := by
  rcases hDescends.base with ⟨base, hBase, hBehind⟩
  rcases writeText_eq_error hWritten with hSame | hMade
  · rw [hSame]
    exact .refl tree
  · rcases hMade with ⟨parent, hParent, hIs⟩
    rw [hIs]
    by_cases hNames : names = []
    · -- A path that leads to a directory has one above it.
      subst hNames
      have hLeads := hBase.of_isBehind_nil hBehind
      rcases hLeads.exists_parent hParent with
        ⟨above, hAbove⟩
      rw [FileTree.makeDirectories_of_leadsTo hAbove]
      exact .refl tree
    · exact
        FileTree.grows_makeDirectories hBase
          (hBehind.parent hNames hParent)
          (hDescends.free.mono (List.dropLast_prefix names))

/- A text is written where the tree admits it. -/
theorem exists_writeText
    (hDescends : tree.Descends path here names)
    (hNames : names ≠ [])
    (hPath : path.IsFilePath)
    (hAdmits : tree.Admits here names)
    (text : String) :
    ∃ after, writeText tree path text = (.ok (), after) := by
  rcases hDescends.base with ⟨base, hBase, hBehind⟩
  have hMoves : path.moves ≠ [] := by
    rw [hBehind.moves]
    exact List.append_ne_nil_of_right_ne_nil _ hNames
  rcases FileTree.exists_parent_of_moves hMoves with
    ⟨parent, hParent⟩
  have hAbove := hBehind.parent hNames hParent
  have hParentIs :
      names.dropLast ≠ [] → parent.IsFilePath := by
    intro hSome
    apply Path.IsFilePath.of_parent hPath.usable hParent
    rw [hAbove.moves]
    exact List.append_ne_nil_of_right_ne_nil _ hSome
  rcases
      FileTree.exists_makeDirectories hBase hAbove hParentIs
        (hAdmits.isPassable hDescends.free) with
    ⟨grown, hMade, hOpens⟩
  have hStill := hOpens.grows.leadsTo hBase
  have hThere :=
    FileTree.leadsTo_of_isBehind hStill hAbove
      (Path.isUsable_parent hPath.usable hParent) hOpens.way
  have hFile :
      grown.entry? (here ++ names) ≠ some .directory := by
    rw [hOpens.grows.entry?_eq]
    · exact hAdmits.place
    · apply FileTree.not_isOnWay_of_longer
      have hLength := List.length_pos_iff.mpr hNames
      rw [List.length_dropLast]
      omega
  rcases
      hBehind.exists_replace hStill hPath hNames hOpens.way
        hFile hThere text.toUTF8 with
    ⟨spare, written, hSpare, hMoved⟩
  refine
    ⟨grown.set (here ++ names) (.file text.toUTF8), ?_⟩
  unfold writeText
  simp only [hParent, hMade, hSpare, hMoved]

end Componentry

------------------------------------------------------------
-- Files One after the Other
------------------------------------------------------------

namespace Componentry

/- The next file is written where the first ones were. -/
theorem writeAll_cons
    (directory : Path)
    (tree : FileTree)
    (artifact : Artifact)
    (artifacts : List Artifact) :
    writeAll directory tree (artifact :: artifacts) =
      match
        writeText tree (directory.join artifact.path)
          artifact.text
      with
      | (.error error, tree) => (.error error, tree)
      | (.ok (), tree) => writeAll directory tree artifacts := by
  delta writeAll
  rfl

theorem writeAll_append
    (directory : Path)
    (tree : FileTree)
    (first second : List Artifact) :
    writeAll directory tree (first ++ second) =
      match writeAll directory tree first with
      | (.error error, tree) => (.error error, tree)
      | (.ok (), tree) => writeAll directory tree second := by
  induction first generalizing tree with
  | nil => rfl
  | cons artifact first ih =>
      rw [List.cons_append, writeAll_cons, writeAll_cons]
      rcases
          writeText tree (directory.join artifact.path)
            artifact.text with ⟨written, after⟩
      cases written with
      | error error => rfl
      | ok _ => exact ih after

/- The delivery of a file below the names of a site. -/
def Artifact.delivery
    (names : List String)
    (artifact : Artifact) :
    FileTree.Delivery where
  names := names ++ artifact.path.moves
  bytes := artifact.text.toUTF8

open FileTree (Apart Delivers Grows IsOnWay)

variable {tree after : FileTree}
variable {directory : Path}
variable {here : FileTree.Place}
variable {names : List String}
variable {artifact : Artifact}
variable {artifacts : List Artifact}

/- A path that ends in a step has moves. -/
theorem Path.EndsInStep.moves_ne_nil
    {path : Path}
    (hEnds : path.EndsInStep) :
    path.moves ≠ [] := by
  rcases Path.endsInStep_iff.mp hEnds with
    ⟨before, last, hSteps, hLast⟩
  rw [← path.filter_steps, hSteps, List.filter_append,
    List.filter_cons_of_pos (by simp [hLast])]
  simp

/- So has the right one of joined paths that ends in one. -/
theorem Path.moves_ne_nil_of_join
    {left right : Path}
    (hEnds : (left.join right).EndsInStep) :
    right.moves ≠ [] :=
  (Path.endsInStep_join_iff.mp hEnds).moves_ne_nil

/- The first file is delivered, and the site stays. -/
theorem delivers_of_writeText_join
    (hSite : tree.IsSite directory here names)
    (hPath : artifact.path.IsMadeOf artifact.path.moves)
    (hWritten :
      writeText tree (directory.join artifact.path)
          artifact.text =
        (.ok (), after)) :
    (directory.join artifact.path).IsFilePath ∧
      Delivers here [artifact.delivery names] tree after ∧
      after.IsSite directory here names := by
  rcases writeText_eq_ok hWritten with
    ⟨parent, place, hParent, hReceives, hIs⟩
  have hIsFile := hReceives.isFilePath
  have hNames : names ++ artifact.path.moves ≠ [] :=
    List.append_ne_nil_of_right_ne_nil _
      (Path.moves_ne_nil_of_join hIsFile.ends)
  have hDelivers :=
    delivers_of_writeText (hSite.join hPath) hNames hWritten
  exact ⟨hIsFile, hDelivers, hSite.keep hDelivers.keeps⟩

/- Files that are written are all delivered. -/
theorem delivers_of_writeAll
    (hSite : tree.IsSite directory here names)
    (hPaths :
      ∀ artifact ∈ artifacts,
        artifact.path.IsMadeOf artifact.path.moves)
    (hDistinct : (artifacts.map (·.path.moves)).Nodup)
    (hWritten :
      writeAll directory tree artifacts = (.ok (), after)) :
    Delivers here (artifacts.map (·.delivery names)) tree
        after ∧
      ∀ artifact ∈ artifacts,
        (directory.join artifact.path).IsFilePath := by
  induction artifacts generalizing tree with
  | nil =>
      cases hWritten
      exact ⟨.nil here _, by simp⟩
  | cons artifact artifacts ih =>
      rw [List.forall_mem_cons] at hPaths
      rw [List.map_cons, List.nodup_cons] at hDistinct
      rw [writeAll_cons] at hWritten
      split at hWritten
      · cases hWritten
      · next mid hFirst =>
          rcases
              delivers_of_writeText_join hSite hPaths.1 hFirst
            with ⟨hIsFile, hDelivers, hStill⟩
          rcases ih hStill hPaths.2 hDistinct.2 hWritten with
            ⟨hOthers, hOthersAre⟩
          refine
            ⟨hDelivers.append hOthers ?_,
              List.forall_mem_cons.mpr ⟨hIsFile, hOthersAre⟩⟩
          intro file hFile other hOther hSame
          rw [List.mem_singleton.mp hFile] at hSame
          rcases List.mem_map.mp hOther with
            ⟨later, hLater, hIs⟩
          rw [← hIs] at hSame
          apply hDistinct.1
          rw [List.append_cancel_left hSame]
          exact List.mem_map_of_mem hLater

/- Files that are apart are written where the tree admits. -/
theorem exists_writeAll
    (hSite : tree.IsSite directory here names)
    (hPaths :
      ∀ artifact ∈ artifacts,
        artifact.path.IsMadeOf artifact.path.moves ∧
          (directory.join artifact.path).IsFilePath)
    (hApart :
      artifacts.Pairwise fun first second =>
        Apart (names ++ first.path.moves)
          (names ++ second.path.moves))
    (hAdmits :
      ∀ artifact ∈ artifacts,
        tree.Admits here (names ++ artifact.path.moves)) :
    ∃ after,
      writeAll directory tree artifacts = (.ok (), after) := by
  induction artifacts generalizing tree with
  | nil => exact ⟨tree, rfl⟩
  | cons artifact artifacts ih =>
      rw [List.forall_mem_cons] at hPaths hAdmits
      rw [List.pairwise_cons] at hApart
      have hNames : names ++ artifact.path.moves ≠ [] :=
        List.append_ne_nil_of_right_ne_nil _
          (Path.moves_ne_nil_of_join hPaths.1.2.ends)
      rcases
          exists_writeText (hSite.join hPaths.1.1) hNames
            hPaths.1.2 hAdmits.1 artifact.text with
        ⟨mid, hFirst⟩
      rcases
          delivers_of_writeText_join hSite hPaths.1.1 hFirst
        with ⟨-, hDelivers, hStill⟩
      -- The first file is not in the way of the others.
      have hStillAdmits :
          ∀ later ∈ artifacts,
            mid.Admits here (names ++ later.path.moves) := by
        intro later hLater
        refine
          hDelivers.admits ?_ (hAdmits.2 later hLater)
        intro file hFile
        rw [List.mem_singleton.mp hFile]
        exact hApart.1 later hLater
      rcases ih hStill hPaths.2 hApart.2 hStillAdmits with
        ⟨after, hOthers⟩
      refine ⟨after, ?_⟩
      rw [writeAll_cons, hFirst]
      exact hOthers

/-
  Files that are not all written are up to the first that
  cannot be.
-/
theorem writeAll_eq_error
    {error : GenerateError}
    (hSite : tree.IsSite directory here names)
    (hPaths :
      ∀ artifact ∈ artifacts,
        artifact.path.IsMadeOf artifact.path.moves)
    (hWritten :
      writeAll directory tree artifacts =
        (.error error, after)) :
    ∃ first failed others mid,
      artifacts = first ++ failed :: others ∧
        writeAll directory tree first = (.ok (), mid) ∧
        Grows
          (IsOnWay here (names ++ failed.path.moves).dropLast)
          mid after := by
  induction artifacts generalizing tree with
  | nil => cases hWritten
  | cons artifact artifacts ih =>
      rw [List.forall_mem_cons] at hPaths
      rw [writeAll_cons] at hWritten
      split at hWritten
      · next fault grown hFault =>
          cases hWritten
          exact
            ⟨[], artifact, artifacts, tree, rfl, rfl,
              grows_of_writeText (hSite.join hPaths.1) hFault⟩
      · next mid hFirst =>
          rcases
              delivers_of_writeText_join hSite hPaths.1 hFirst
            with ⟨-, -, hStill⟩
          rcases ih hStill hPaths.2 hWritten with
            ⟨first, failed, others, last, hSplit, hRest,
              hGrows⟩
          refine
            ⟨artifact :: first, failed, others, last, ?_, ?_,
              hGrows⟩
          · rw [hSplit]
            rfl
          · rw [writeAll_cons, hFirst]
            exact hRest

end Componentry
