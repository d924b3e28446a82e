import Componentry.Proofs.Attempts
import Componentry.Proofs.PathSpellings
import Componentry.Proofs.Generation.Additions
import Componentry.Proofs.Generation.WrittenFiles

/-
  Files are kept by the components of their paths.

  Files are put in one after the other, and some are refused.
  There is one file for each path, however the path is spelled,
  and it is the first one that was put in.  It is found by any
  spelling, and listed with its own, in the order of paths.

  Main declarations:
    * `Artifacts.put`, `Artifacts.ofCalls`
    * `Artifacts.takesNew_put`
    * `Artifacts.ofCalls_eq_withFiles`
    * `Artifacts.KeepsPlaces`
    * `Artifacts.keepsPlaces`
-/

------------------------------------------------------------
-- Files That Are Put In
------------------------------------------------------------

namespace Componentry

namespace Artifacts

/- Put in a file at its path. -/
def put
    (artifacts : Artifacts)
    (file : Path × String) :
    Except GenerateError Unit × Artifacts :=
  artifacts.insert file.1 file.2

/- What comes of some files, put in one after the other. -/
def ofCalls (files : List (Path × String)) : Artifacts :=
  attemptAll put empty files

/- The files that are taken, in the order they are put in. -/
def taken
    (files : List (Path × String)) :
    List (Path × String) :=
  accepted put empty files

variable {files : List (Path × String)}

/- A file is taken if there is none with its components. -/
theorem takesNew_put :
    TakesNew put (·.1.components) (fun _ => true)
      fun artifacts key => artifacts.files.contains key where
  refuses := by
    intro artifacts file
    rw [Std.ExtTreeMap.contains_iff_mem, put]
    rcases insert_cases artifacts file with
      ⟨hTaken, hInsert⟩ | ⟨hFree, hInsert⟩
    · rw [admits_singleton_iff, not_not] at hTaken
      simp [hInsert, hTaken]
    · rw [admits_singleton_iff] at hFree
      simp [hInsert, hFree]
  keeps := by
    intro artifacts file error next hCall
    rw [put] at hCall
    rcases insert_cases artifacts file with
      ⟨-, hInsert⟩ | ⟨-, hInsert⟩
    · rw [hInsert] at hCall
      cases hCall
      rfl
    · rw [hInsert] at hCall
      cases hCall
  adds := by
    intro artifacts file next hCall key
    rw [put] at hCall
    rcases insert_cases artifacts file with
      ⟨-, hInsert⟩ | ⟨-, hInsert⟩
    · rw [hInsert] at hCall
      cases hCall
    · rw [hInsert] at hCall
      cases hCall
      simp only [Std.ExtTreeMap.contains_iff_mem,
        mem_withFiles_iff, List.map_singleton,
        List.mem_singleton, eq_comm (a := key)]

theorem keepsFirsts_put
    (files : List (Path × String)) :
    KeepsFirsts put (·.1.components) (fun _ => true) empty
      files := by
  apply takesNew_put.keepsFirsts
  intro key
  exact Std.ExtTreeMap.contains_empty

/- The files that were taken can be put in by a chain. -/
theorem insertAll_taken
    (files : List (Path × String)) :
    empty.insertAll (taken files) = .ok (ofCalls files) := by
  apply takesNew_put.keeps.foldlM_accepted
  intro artifacts file next hTaken
  unfold put at hTaken
  rw [insertFile, hTaken]

/- All that is there are the files that were taken. -/
theorem ofCalls_eq_withFiles
    (files : List (Path × String)) :
    empty.Admits (taken files) ∧
      ofCalls files = empty.withFiles (taken files) :=
  insertAll_eq_ok_iff.mp (insertAll_taken files)

/- Each of them is found by its components. -/
theorem getElem?_ofCalls_iff
    {key : List Path.Component}
    {artifact : Artifact} :
    (ofCalls files).files[key]? = some artifact ↔
      ∃ file ∈ taken files,
        file.1.components = key ∧
          artifact = ⟨file.1, file.2⟩ := by
  rcases ofCalls_eq_withFiles files with ⟨hAdmits, hSame⟩
  have hNone : empty.files[key]? = none :=
    Std.ExtTreeMap.getElem?_empty
  rw [hSame, getElem?_withFiles_iff hAdmits, hNone]
  simp

end Artifacts

end Componentry

------------------------------------------------------------
-- Files That Are Listed
------------------------------------------------------------

namespace Componentry

namespace Artifacts

variable {files : List (Path × String)}

theorem isKeyed_ofCalls
    (files : List (Path × String)) :
    (ofCalls files).IsKeyed :=
  isKeyed_empty.insertAll (insertAll_taken files)

/- No two of the files have the same components. -/
theorem pairwise_taken
    (files : List (Path × String)) :
    (taken files).Pairwise fun first second =>
      first.1.components ≠ second.1.components :=
  List.pairwise_map.mp (keepsFirsts_put files).distinct

/- The files that were taken are listed in another order. -/
theorem list_perm_taken
    (files : List (Path × String)) :
    (ofCalls files).list.Perm
      ((taken files).map fun file => ⟨file.1, file.2⟩) := by
  have hListed : (ofCalls files).list.Nodup := by
    refine (isKeyed_ofCalls files).pairwise_list.imp ?_
    rintro artifact _ hLess rfl
    rw [Std.ReflOrd.compare_self] at hLess
    cases hLess
  have hTaken :
      ((taken files).map fun file =>
        (⟨file.1, file.2⟩ : Artifact)).Nodup := by
    refine List.pairwise_map.mpr ((pairwise_taken files).imp ?_)
    intro first second hDiffer hSame
    exact hDiffer (congrArg (·.path.components) hSame)
  rw [List.perm_ext_iff_of_nodup hListed hTaken]
  intro artifact
  rw [list, Table.mem_values_iff, List.mem_map]
  simp only [getElem?_ofCalls_iff]
  constructor
  · rintro ⟨_, file, hFile, -, rfl⟩
    exact ⟨file, hFile, rfl⟩
  · rintro ⟨file, hFile, rfl⟩
    exact ⟨_, file, hFile, rfl, rfl⟩

/- What is there after some files were put in. -/
structure KeepsPlaces (files : List (Path × String)) :
    Prop where
  -- The first file with some components is taken.
  calls :
    KeepsFirsts put (·.1.components) (fun _ => true) empty
      files
  -- A file is refused if its path was taken in any spelling.
  refused :
    ∀ before file after,
      files = before ++ file :: after →
        ((∃ error,
            ((ofCalls before).put file).1 = .error error) ↔
          ∃ earlier ∈ taken before,
            earlier.1.SpelledAlike file.1)
  -- No two of the paths that are taken are spelled alike.
  apart :
    (taken files).Pairwise fun first second =>
      ¬ first.1.SpelledAlike second.1
  -- Any spelling of a path finds the file that was taken.
  found :
    ∀ path text,
      (ofCalls files).get? path = some text ↔
        ∃ spelled,
          (spelled, text) ∈ taken files ∧
            spelled.SpelledAlike path
  -- Each of the files is listed once, as it was spelled.
  listed :
    (ofCalls files).manifest.files.Perm
      ((taken files).map fun file =>
        (Artifact.mk file.1 file.2).entry)
  -- They are in the order of their components.
  ordered :
    (ofCalls files).manifest.files.Pairwise
      fun first second => first.path.Precedes second.path

/- There is one file for each path, whatever is put in. -/
theorem keepsPlaces
    (files : List (Path × String)) :
    KeepsPlaces files := by
  constructor
  case calls => exact keepsFirsts_put files
  case refused =>
    intro before file after hFiles
    have hRefused :=
      (keepsFirsts_put files).refused before file after hFiles
    simp only [Bool.true_eq_false, false_or] at hRefused
    simp only [Path.spelledAlike_iff]
    exact hRefused
  case apart =>
    simp only [Path.spelledAlike_iff]
    exact pairwise_taken files
  case found =>
    intro path text
    rw [get?, Option.map_eq_some_iff]
    simp only [getElem?_ofCalls_iff, Path.spelledAlike_iff]
    constructor
    · rintro ⟨_, ⟨⟨spelled, _⟩, hFile, hSame, rfl⟩, rfl⟩
      exact ⟨spelled, hFile, hSame⟩
    · rintro ⟨spelled, hFile, hSame⟩
      exact ⟨_, ⟨_, hFile, hSame, rfl⟩, rfl⟩
  case listed =>
    have hListed :=
      (list_perm_taken files).map (·.entry)
    rw [List.map_map] at hListed
    exact hListed
  case ordered =>
    rw [manifest, List.pairwise_map]
    refine (isKeyed_ofCalls files).pairwise_list.imp ?_
    intro first second hLess
    exact Path.compare_components_iff.mp hLess

end Artifacts

end Componentry
