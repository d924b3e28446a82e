import Mathlib.Data.List.Nodup
import Componentry.Generation.Artifacts
import Componentry.Proofs.Answers

/-
  Files that are added to others.

  A file is added at a place that has none.  So files are
  added one after the other exactly if their places differ and
  are free, and then every file is found that was there before
  or has been added.  The order in which files are added does
  not matter.

  Main declarations:
    * `Artifacts.Admits`, `Artifacts.withFiles`
    * `Artifacts.insert_cases`
    * `Artifacts.insertAll_eq_ok_iff`
    * `Artifacts.getElem?_withFiles_iff`
    * `Artifacts.size_withFiles`
    * `Artifacts.withFiles_of_perm`
-/

------------------------------------------------------------
-- Free Places
------------------------------------------------------------

namespace Componentry

namespace Artifacts

/- The places of some files differ and are free. -/
structure Admits
    (artifacts : Artifacts)
    (files : List (Path × String)) : Prop where
  distinct : (files.map (·.1.components)).Nodup
  free :
    ∀ file ∈ files, file.1.components ∉ artifacts.files

/- What is there once some files have been put in. -/
def withFiles
    (artifacts : Artifacts)
    (files : List (Path × String)) :
    Artifacts :=
  { artifacts with
    files :=
      files.foldl
        (fun found file =>
          found.insert file.1.components ⟨file.1, file.2⟩)
        artifacts.files }

variable {artifacts next : Artifacts}
variable {file : Path × String}
variable {files first second : List (Path × String)}

@[simp] theorem withFiles_nil
    (artifacts : Artifacts) :
    artifacts.withFiles [] = artifacts :=
  rfl

@[simp] theorem withFiles_append
    (artifacts : Artifacts)
    (first second : List (Path × String)) :
    artifacts.withFiles (first ++ second) =
      (artifacts.withFiles first).withFiles second := by
  unfold withFiles
  rw [List.foldl_append]

/- The last file is put in where the others are. -/
theorem files_withFiles_append_singleton
    (artifacts : Artifacts)
    (files : List (Path × String))
    (last : Path × String) :
    (artifacts.withFiles (files ++ [last])).files =
      (artifacts.withFiles files).files.insert
        last.1.components ⟨last.1, last.2⟩ := by
  rw [withFiles_append]
  rfl

/- Files are put in without regard to deployments. -/
@[simp] theorem deployments_withFiles
    (artifacts : Artifacts)
    (files : List (Path × String)) :
    (artifacts.withFiles files).deployments =
      artifacts.deployments :=
  rfl

theorem withFiles_resolve
    (artifacts : Artifacts)
    (deployment : String)
    (resolution : Resolution)
    (files : List (Path × String)) :
    (artifacts.resolve deployment resolution).withFiles
        files =
      (artifacts.withFiles files).resolve deployment
        resolution :=
  rfl

/- A place is taken if it was, or if a file is put there. -/
theorem mem_withFiles_iff
    {key : List Path.Component} :
    key ∈ (artifacts.withFiles files).files ↔
      key ∈ artifacts.files ∨
        key ∈ files.map (·.1.components) := by
  induction files generalizing artifacts with
  | nil => simp
  | cons file files ih =>
      have hOne :
          key ∈ (artifacts.withFiles [file]).files ↔
            file.1.components = key ∨
              key ∈ artifacts.files := by
        unfold withFiles
        rw [List.foldl_cons, List.foldl_nil,
          Std.ExtTreeMap.mem_insert,
          Std.LawfulEqOrd.compare_eq_iff_eq]
      have hSplit :
          artifacts.withFiles (file :: files) =
            (artifacts.withFiles [file]).withFiles files :=
        withFiles_append artifacts [file] files
      rw [hSplit, ih, hOne, List.map_cons, List.mem_cons,
        eq_comm (a := key), or_left_comm, or_assoc]

theorem admits_nil : artifacts.Admits [] where
  distinct := List.nodup_nil
  free := by simp

theorem admits_singleton_iff :
    artifacts.Admits [file] ↔
      file.1.components ∉ artifacts.files := by
  constructor
  · intro hAdmits
    exact hAdmits.free file (by simp)
  · intro hFree
    refine ⟨by simp, ?_⟩
    intro other hOther
    rw [List.mem_singleton.mp hOther]
    exact hFree

/- The files behind others see the places that these take. -/
theorem admits_append_iff :
    artifacts.Admits (first ++ second) ↔
      artifacts.Admits first ∧
        (artifacts.withFiles first).Admits second := by
  constructor
  · intro hAdmits
    have hDistinct := hAdmits.distinct
    rw [List.map_append, List.nodup_append] at hDistinct
    rcases hDistinct with ⟨hFirst, hSecond, hApart⟩
    have hFree := hAdmits.free
    rw [List.forall_mem_append] at hFree
    refine ⟨⟨hFirst, hFree.1⟩, hSecond, ?_⟩
    intro file hFile hTaken
    rcases mem_withFiles_iff.mp hTaken with hOld | hNew
    · exact hFree.2 file hFile hOld
    · exact
        hApart _ hNew _ (List.mem_map_of_mem hFile) rfl
  · intro hAdmits
    rcases hAdmits with ⟨hFirst, hSecond⟩
    constructor
    · rw [List.map_append, List.nodup_append]
      refine ⟨hFirst.distinct, hSecond.distinct, ?_⟩
      intro key hKey other hOther hSame
      subst hSame
      rcases List.mem_map.mp hOther with ⟨file, hFile, hKeyOf⟩
      apply hSecond.free file hFile
      rw [mem_withFiles_iff, hKeyOf]
      exact Or.inr hKey
    · rw [List.forall_mem_append]
      refine ⟨hFirst.free, ?_⟩
      intro file hFile hTaken
      apply hSecond.free file hFile
      exact mem_withFiles_iff.mpr (Or.inl hTaken)

end Artifacts

end Componentry

------------------------------------------------------------
-- Adding Files
------------------------------------------------------------

namespace Componentry

namespace Artifacts

variable {artifacts next : Artifacts}
variable {files : List (Path × String)}

/-
  A file is refused if there is one at its place, and nothing
  changes; or the place is free, and it is put in.
-/
theorem insert_cases
    (artifacts : Artifacts)
    (file : Path × String) :
    (¬ artifacts.Admits [file] ∧
        artifacts.insert file.1 file.2 =
          (.error (.request (.repeatedPath file.1)),
            artifacts)) ∨
      artifacts.Admits [file] ∧
        artifacts.insert file.1 file.2 =
          (.ok (), artifacts.withFiles [file]) := by
  rw [admits_singleton_iff,
    ← Std.ExtTreeMap.contains_iff_mem]
  unfold insert
  by_cases hTaken :
      artifacts.files.contains file.1.components = true
  · exact Or.inl ⟨not_not_intro hTaken, if_pos hTaken⟩
  · exact Or.inr ⟨hTaken, if_neg hTaken⟩

/- A chain goes on from what is there with the file. -/
theorem insertFile_eq_ok_iff
    {file : Path × String} :
    artifacts.insertFile file = .ok next ↔
      artifacts.Admits [file] ∧
        next = artifacts.withFiles [file] := by
  unfold insertFile
  rcases insert_cases artifacts file with
    ⟨hTaken, hInsert⟩ | ⟨hFree, hInsert⟩
  · simp [hInsert, hTaken]
  · simp [hInsert, hFree, eq_comm]

/- It ends where there is a file already. -/
theorem eq_of_insertFile_eq_error
    {file : Path × String}
    {error : GenerateError}
    (hError : artifacts.insertFile file = .error error) :
    error = .request (.repeatedPath file.1) := by
  unfold insertFile at hError
  rcases insert_cases artifacts file with
    ⟨-, hInsert⟩ | ⟨-, hInsert⟩
  · rw [hInsert] at hError
    cases hError
    rfl
  · rw [hInsert] at hError
    cases hError

/- Files are added if their places differ and are free. -/
theorem insertAll_eq_ok_iff :
    artifacts.insertAll files = .ok next ↔
      artifacts.Admits files ∧
        next = artifacts.withFiles files := by
  induction files generalizing artifacts with
  | nil =>
      have hNone : artifacts.insertAll [] = .ok artifacts :=
        rfl
      rw [hNone, withFiles_nil, Except.ok.injEq]
      constructor
      · intro hNext
        exact ⟨admits_nil, hNext.symm⟩
      · intro hNext
        exact hNext.2.symm
  | cons file files ih =>
      have hSplit :
          artifacts.insertAll (file :: files) = .ok next ↔
            ∃ added,
              artifacts.insertFile file = .ok added ∧
                added.insertAll files = .ok next := by
        simp only [insertAll, List.foldlM_cons,
          bind_eq_ok_iff]
      have hAppend : file :: files = [file] ++ files := rfl
      rw [hSplit, hAppend, admits_append_iff,
        withFiles_append]
      constructor
      · intro hAdded
        rcases hAdded with ⟨added, hFirst, hRest⟩
        rcases insertFile_eq_ok_iff.mp hFirst with
          ⟨hAdmits, hAddedFirst⟩
        subst hAddedFirst
        rcases ih.mp hRest with ⟨hAdmitsRest, hNext⟩
        exact ⟨⟨hAdmits, hAdmitsRest⟩, hNext⟩
      · intro hAll
        rcases hAll with ⟨⟨hAdmits, hAdmitsRest⟩, hNext⟩
        exact
          ⟨artifacts.withFiles [file],
            insertFile_eq_ok_iff.mpr ⟨hAdmits, rfl⟩,
            ih.mpr ⟨hAdmitsRest, hNext⟩⟩

end Artifacts

end Componentry

------------------------------------------------------------
-- What Is Found
------------------------------------------------------------

namespace Componentry

namespace Artifacts

variable {artifacts : Artifacts}
variable {files others : List (Path × String)}

/- What is found was there before or has been added. -/
theorem getElem?_withFiles_iff
    (hAdmits : artifacts.Admits files)
    {key : List Path.Component}
    {artifact : Artifact} :
    (artifacts.withFiles files).files[key]? =
        some artifact ↔
      artifacts.files[key]? = some artifact ∨
        ∃ file ∈ files,
          file.1.components = key ∧
            artifact = ⟨file.1, file.2⟩ := by
  induction files using List.reverseRecOn with
  | nil => simp
  | append_singleton files last ih =>
      rcases admits_append_iff.mp hAdmits with
        ⟨hFiles, hLast⟩
      have hFree := admits_singleton_iff.mp hLast
      rw [files_withFiles_append_singleton,
        Std.ExtTreeMap.getElem?_insert]
      simp only [Std.LawfulEqOrd.compare_eq_iff_eq,
        List.mem_append, List.mem_singleton]
      by_cases hKey : last.1.components = key
      · -- Nothing else can be at the place of the last file.
        have hNothing :
            (artifacts.withFiles files).files[key]? =
              none := by
          rw [← hKey]
          exact Std.ExtTreeMap.getElem?_eq_none hFree
        have hNone := (not_congr (ih hFiles)).mp (by
          rw [hNothing]
          simp)
        rw [if_pos hKey, Option.some.injEq]
        constructor
        · intro hArtifact
          exact
            Or.inr ⟨last, Or.inr rfl, hKey, hArtifact.symm⟩
        · intro hFound
          rcases hFound with
            hOld | ⟨file, hFile, hSame, hArtifact⟩
          · exact (hNone (Or.inl hOld)).elim
          · rcases hFile with hEarlier | hLastFile
            · exact
                (hNone
                  (Or.inr
                    ⟨file, hEarlier, hSame,
                      hArtifact⟩)).elim
            · rw [hArtifact, hLastFile]
      · rw [if_neg hKey, ih hFiles]
        constructor
        · intro hFound
          rcases hFound with
            hOld | ⟨file, hFile, hRest⟩
          · exact Or.inl hOld
          · exact Or.inr ⟨file, Or.inl hFile, hRest⟩
        · intro hFound
          rcases hFound with
            hOld | ⟨file, hFile, hSame, hArtifact⟩
          · exact Or.inl hOld
          · rcases hFile with hEarlier | hLastFile
            · exact
                Or.inr ⟨file, hEarlier, hSame, hArtifact⟩
            · subst hLastFile
              exact (hKey hSame).elim

/- Every file that has been added counts. -/
theorem size_withFiles
    (hAdmits : artifacts.Admits files) :
    (artifacts.withFiles files).files.size =
      artifacts.files.size + files.length := by
  induction files using List.reverseRecOn with
  | nil => rfl
  | append_singleton files last ih =>
      rcases admits_append_iff.mp hAdmits with
        ⟨hFiles, hLast⟩
      have hFree := admits_singleton_iff.mp hLast
      rw [← Std.ExtTreeMap.contains_iff_mem] at hFree
      rw [files_withFiles_append_singleton,
        Std.ExtTreeMap.size_insert, if_neg hFree, ih hFiles,
        List.length_append, List.length_singleton,
        Nat.add_assoc]

/- Files may be added in another order as well. -/
theorem Admits.of_perm
    (hAdmits : artifacts.Admits files)
    (hPerm : files.Perm others) :
    artifacts.Admits others where
  distinct :=
    ((hPerm.map (·.1.components)).nodup_iff).mp
      hAdmits.distinct
  free := by
    intro file hFile
    exact hAdmits.free file (hPerm.mem_iff.mpr hFile)

/- The order does not show in what is there then. -/
theorem withFiles_of_perm
    (hAdmits : artifacts.Admits files)
    (hPerm : files.Perm others) :
    artifacts.withFiles files =
      artifacts.withFiles others := by
  have hFiles :
      (artifacts.withFiles files).files =
        (artifacts.withFiles others).files := by
    apply Std.ExtTreeMap.ext_getElem?
    intro key
    apply Option.ext
    intro artifact
    rw [getElem?_withFiles_iff hAdmits,
      getElem?_withFiles_iff (hAdmits.of_perm hPerm)]
    simp only [hPerm.mem_iff]
  exact congrArg (Artifacts.mk · artifacts.deployments) hFiles

end Artifacts

end Componentry
