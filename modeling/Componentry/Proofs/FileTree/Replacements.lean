import Componentry.Proofs.FileTree.Descents

/-
  Files that are read and replaced.

  Where the names of a path lead through directories, a file
  is found by that path, and one that is moved to the path is
  put there; the path must be one that a file can have.

  Main declarations:
    * `FileTree.IsBehind.read_eq_ok`
    * `FileTree.IsBehind.filePlace_eq_ok`
    * `FileTree.exists_writeSpare`
    * `FileTree.IsBehind.exists_replace`
-/

------------------------------------------------------------
-- Files at the End of a Way
------------------------------------------------------------

namespace Componentry

namespace FileTree

namespace IsBehind

variable {tree : FileTree}
variable {base path : Path}
variable {here : Place}
variable {names : List String}
variable {bytes : ByteArray}

/- All moves of a path but the last lead down to its parent. -/
theorem exists_leads
    (hBase : tree.LeadsTo base here)
    (hBehind : IsBehind base path names)
    (hNames : names ≠ [])
    (hWay :
      ∀ place,
        IsOnWay here names.dropLast place →
          tree.entry? place = some .directory) :
    ∃ left,
      path.moves =
          (base.moves ++ names.dropLast) ++
            [names.getLast hNames] ∧
        tree.Leads linkLimit (tree.start path)
          (base.moves ++ names.dropLast) left
          (here ++ names.dropLast) ∧
        IsName (names.getLast hNames) ∧
        here ++ names.dropLast ++ [names.getLast hNames] =
          here ++ names := by
  have hSplit := List.dropLast_append_getLast hNames
  have hOthers : ∀ name ∈ names.dropLast, IsName name :=
    fun name hName =>
      hBehind.isName name (List.dropLast_subset _ hName)
  rcases hBase.leads with ⟨left, hLeads⟩
  refine
    ⟨left, ?_, ?_, hBehind.isName _ (List.getLast_mem _), ?_⟩
  · rw [hBehind.moves, List.append_assoc, hSplit]
  · rw [hBehind.start]
    exact
      hLeads.append
        ((leads_names_iff hOthers
            (isFreeWay_of_directories hWay)).mpr
          ⟨hWay, rfl, rfl⟩)
  · rw [List.append_assoc, hSplit]

/- A file is read by the path that leads to it. -/
theorem read_eq_ok
    (hBase : tree.LeadsTo base here)
    (hBehind : IsBehind base path names)
    (hPath : path.IsFilePath)
    (hNames : names ≠ [])
    (hWay :
      ∀ place,
        IsOnWay here names.dropLast place →
          tree.entry? place = some .directory)
    (hFile : tree.entry? (here ++ names) = some (.file bytes)) :
    tree.read path = .ok bytes := by
  rcases hBehind.exists_leads hBase hNames hWay with
    ⟨left, hMoves, hLeads, hName, hPlace⟩
  rcases exists_locate_eq_walk true hPath hMoves hLeads with
    ⟨behind, -, hLast, hLocate⟩
  unfold read
  rw [hLocate, hLast rfl, walk_name hName, hPlace, hFile]
  rfl

/- A file that is moved to the path gets to that place. -/
theorem filePlace_eq_ok
    (hBase : tree.LeadsTo base here)
    (hBehind : IsBehind base path names)
    (hPath : path.IsFilePath)
    (hNames : names ≠ [])
    (hWay :
      ∀ place,
        IsOnWay here names.dropLast place →
          tree.entry? place = some .directory)
    (hFile : tree.entry? (here ++ names) ≠ some .directory) :
    tree.filePlace path = .ok (here ++ names) := by
  rcases hBehind.exists_leads hBase hNames hWay with
    ⟨left, hMoves, hLeads, hName, hPlace⟩
  rcases hPath.ends.split_steps hMoves with
    ⟨first, behind, hSteps, hFirst, -, hLast⟩
  rw [hLast rfl] at hSteps
  rw [← hFirst, leads_filter_iff] at hLeads
  have hNotIdle := hName.not_idle
  have hNotEmpty : names.getLast hNames ≠ "" := by
    intro hEmpty
    rw [hEmpty] at hNotIdle
    cases hNotIdle
  have hNotDot : names.getLast hNames ≠ "." := by
    intro hDot
    rw [hDot] at hNotIdle
    cases hNotIdle
  have hLastStep :
      lastStep? path =
        some ⟨first, names.getLast hNames, false⟩ := by
    unfold lastStep?
    rw [hSteps]
    simp [hNotEmpty]
  have hWalk :
      walk tree true linkLimit
          (if path.isAbsolute then [] else tree.home) first =
        .ok (.directory (here ++ names.dropLast)) :=
    hLeads.walk_all
  unfold filePlace
  rw [if_pos hPath.usable, hLastStep]
  simp only [hWalk, hNotDot, hName.not_up, decide_false,
    Bool.or_self, Bool.false_eq_true, if_false, hPlace]

end IsBehind

end FileTree

end Componentry

------------------------------------------------------------
-- Replacing
------------------------------------------------------------

namespace Componentry

namespace FileTree

variable {tree : FileTree}
variable {base directory path : Path}
variable {here above : Place}
variable {names : List String}

/- A spare file is made in a directory that is there. -/
theorem exists_writeSpare
    (hLeads : tree.LeadsTo directory above)
    (path : Path)
    (bytes : ByteArray) :
    tree.writeSpare directory path bytes =
      .ok
        (above ++ [tree.spareName path],
          tree.set (above ++ [tree.spareName path])
            (.file bytes)) := by
  have hFound :
      (if directory.text = "" then .ok (.directory tree.home)
        else tree.locate true directory) =
        .ok (.directory above) := by
    by_cases hText : directory.text = ""
    · rw [if_pos hText, (leadsTo_of_empty hText).mp hLeads]
    · rw [if_neg hText]
      exact (locate_eq_directory_iff hText).mpr hLeads
  unfold writeSpare
  rw [hFound]

/- The spare file takes the place of the file. -/
theorem IsBehind.exists_replace
    (hBase : tree.LeadsTo base here)
    (hBehind : IsBehind base path names)
    (hPath : path.IsFilePath)
    (hNames : names ≠ [])
    (hWay :
      ∀ place,
        IsOnWay here names.dropLast place →
          tree.entry? place = some .directory)
    (hFile : tree.entry? (here ++ names) ≠ some .directory)
    (hParent : tree.LeadsTo directory above)
    (bytes : ByteArray) :
    ∃ spare written,
      tree.writeSpare directory path bytes =
          .ok (spare, written) ∧
        written.moveFile spare path =
          .ok (tree.set (here ++ names) (.file bytes)) := by
  have hSpare := exists_writeSpare hParent path bytes
  have hErase := erase_of_writeSpare hSpare
  have hNone := entry?_spare tree above path
  refine ⟨_, _, hSpare, ?_⟩
  generalize above ++ [tree.spareName path] = spare
    at hNone hErase ⊢
  have hNotRoot : spare ≠ [] := by
    intro hRoot
    rw [hRoot] at hNone
    cases hNone
  have hOthers
      {place : Place}
      {entry : Entry}
      (hEntry : tree.entry? place = some entry) :
      entry? (tree.set spare (.file bytes)) place =
        some entry := by
    rw [entry?_set hNotRoot, if_neg, hEntry]
    intro hSame
    rw [hSame, hNone] at hEntry
    cases hEntry
  have hStill :
      LeadsTo (tree.set spare (.file bytes)) base here := by
    refine hBase.mono ?_ ?_
    · rfl
    · exact fun _ _ _ hEntry => hOthers hEntry
  have hPlace :
      filePlace (tree.set spare (.file bytes)) path =
        .ok (here ++ names) := by
    apply hBehind.filePlace_eq_ok hStill hPath hNames
    · intro place hOn
      exact hOthers (hWay place hOn)
    · rw [entry?_set hNotRoot]
      split
      · simp
      · exact hFile
  unfold moveFile
  rw [hPlace, entry?_set hNotRoot, if_pos rfl, hErase]

end FileTree

end Componentry
