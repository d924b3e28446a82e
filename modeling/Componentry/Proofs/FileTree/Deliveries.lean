import Componentry.Proofs.FileTree.Descents

/-
  Files that are put below a place.

  A delivery is a file and the names that lead to it.  A tree
  to which files are delivered has all of them, and nothing
  else is changed in it, except that directories are made on
  the ways to the files.  So a file can be delivered after
  others as if these had not been, unless one of them is on
  the way to the other.

  Main declarations:
    * `FileTree.KeepsWays`
    * `FileTree.Delivery`, `FileTree.Delivers`
    * `FileTree.Delivers.append`
    * `FileTree.Delivers.not_prefix`
    * `FileTree.Admits`, `FileTree.Delivers.admits`
-/

------------------------------------------------------------
-- Ways That Are Kept
------------------------------------------------------------

namespace Componentry

namespace FileTree

/- All that walks pass is still there, and no other links. -/
structure KeepsWays (before after : FileTree) : Prop where
  home : after.home = before.home
  ways :
    ∀ place entry,
      entry.isWay = true →
        before.entry? place = some entry →
          after.entry? place = some entry
  links :
    ∀ place target,
      after.entry? place = some (.link target) →
        before.entry? place = some (.link target)

variable {before mid after : FileTree}
variable {path : Path}
variable {here place : Place}
variable {names : List String}

namespace KeepsWays

theorem refl (tree : FileTree) : KeepsWays tree tree where
  home := rfl
  ways := fun _ _ _ hEntry => hEntry
  links := fun _ _ hLink => hLink

theorem trans
    (hFirst : KeepsWays before mid)
    (hSecond : KeepsWays mid after) :
    KeepsWays before after where
  home := hSecond.home.trans hFirst.home
  ways := fun place entry hWay hEntry =>
    hSecond.ways place entry hWay
      (hFirst.ways place entry hWay hEntry)
  links := fun place target hLink =>
    hFirst.links place target
      (hSecond.links place target hLink)

theorem leadsTo
    (hKeeps : KeepsWays before after)
    (hLeads : before.LeadsTo path place) :
    after.LeadsTo path place :=
  hLeads.mono hKeeps.home hKeeps.ways

theorem isFreeWay
    (hKeeps : KeepsWays before after)
    (hFree : before.IsFreeWay here names) :
    after.IsFreeWay here names :=
  fun place target hWay hLink =>
    hFree place target hWay (hKeeps.links place target hLink)

theorem isFreeOfLinks
    (hKeeps : KeepsWays before after)
    (hFree : before.IsFreeOfLinks here) :
    after.IsFreeOfLinks here :=
  fun place target hBelow hLink =>
    hFree place target hBelow
      (hKeeps.links place target hLink)

end KeepsWays

theorem Grows.keepsWays
    {region : Place → Prop}
    (hGrows : Grows region before after) :
    KeepsWays before after where
  home := hGrows.home
  ways := fun _ _ _ hEntry => hGrows.keeps hEntry
  links := fun _ _ hLink => hGrows.link hLink

end FileTree

end Componentry

------------------------------------------------------------
-- Deliveries
------------------------------------------------------------

namespace Componentry

namespace FileTree

/- A file and the names that lead to it from some place. -/
structure Delivery where
  names : List String
  bytes : ByteArray

/-
  Files are put where their names lead from a place.  Nothing
  else is changed, but directories are made on the ways.
-/
structure Delivers
    (here : Place)
    (files : List Delivery)
    (before after : FileTree) : Prop where
  keeps : KeepsWays before after
  put :
    ∀ file ∈ files,
      after.entry? (here ++ file.names) =
        some (.file file.bytes)
  ways :
    ∀ file ∈ files,
      ∀ place,
        IsOnWay here file.names.dropLast place →
          after.entry? place = some .directory
  rest :
    ∀ place,
      after.entry? place = before.entry? place ∨
        (∃ file ∈ files, place = here ++ file.names) ∨
        (before.entry? place = none ∧
          after.entry? place = some .directory ∧
          ∃ file ∈ files,
            IsOnWay here file.names.dropLast place)

variable {tree before mid after : FileTree}
variable {here place : Place}
variable {names : List String}
variable {file other : Delivery}
variable {files first second : List Delivery}

namespace Delivers

theorem nil
    (here : Place)
    (tree : FileTree) :
    Delivers here [] tree tree where
  keeps := .refl tree
  put := fun _ hFile => (List.not_mem_nil hFile).elim
  ways := fun _ hFile => (List.not_mem_nil hFile).elim
  rest := fun _ => Or.inl rfl

/- One file is put at the end of a way that is opened. -/
theorem of_opens
    (hOpens : Opens here file.names.dropLast before mid)
    (hFree : before.IsFreeWay here file.names)
    (hNames : file.names ≠ [])
    (hFile :
      mid.entry? (here ++ file.names) ≠ some .directory) :
    Delivers here [file] before
      (mid.set (here ++ file.names) (.file file.bytes)) := by
  have hPlace : here ++ file.names ≠ [] :=
    List.append_ne_nil_of_right_ne_nil _ hNames
  have hSet
      (place : Place) :
      entry?
          (mid.set (here ++ file.names) (.file file.bytes))
          place =
        if place = here ++ file.names then
          some (.file file.bytes)
        else mid.entry? place :=
    entry?_set hPlace
  constructor
  case keeps =>
    refine hOpens.grows.keepsWays.trans ⟨rfl, ?_, ?_⟩
    · intro place entry hWay hEntry
      rw [hSet, if_neg, hEntry]
      -- Neither a directory nor a link is replaced.
      intro hSame
      subst hSame
      cases entry with
      | file bytes => cases hWay
      | directory => exact hFile hEntry
      | link target =>
          exact
            hFree _ target (isOnWay_last here hNames)
              (hOpens.grows.link hEntry)
    · intro place target hLink
      rw [hSet] at hLink
      split at hLink
      · cases hLink
      · exact hLink
  case put =>
    intro one hOne
    rw [List.mem_singleton.mp hOne, hSet, if_pos rfl]
  case ways =>
    intro one hOne place hWay
    rw [List.mem_singleton.mp hOne] at hWay
    rw [hSet, if_neg, hOpens.way place hWay]
    intro hSame
    rw [hSame] at hWay
    exact hFile (hOpens.way _ hWay)
  case rest =>
    intro place
    rw [hSet]
    by_cases hSame : place = here ++ file.names
    · exact
        Or.inr (Or.inl ⟨file, List.mem_singleton_self _, hSame⟩)
    · rw [if_neg hSame]
      rcases hOpens.grows.entries place with hOld | hNew
      · exact Or.inl hOld
      · exact
          Or.inr
            (Or.inr
              ⟨hNew.2.1, hNew.2.2, file,
                List.mem_singleton_self _, hNew.1⟩)

/- Files are delivered behind others with other names. -/
theorem append
    (hFirst : Delivers here first before mid)
    (hSecond : Delivers here second mid after)
    (hOther :
      ∀ file ∈ first, ∀ other ∈ second,
        file.names ≠ other.names) :
    Delivers here (first ++ second) before after := by
  -- The second files replace none of the first ones.
  have hStill
      (file : Delivery)
      (hFile : file ∈ first) :
      after.entry? (here ++ file.names) =
        some (.file file.bytes) := by
    have hThere := hFirst.put file hFile
    rcases hSecond.rest (here ++ file.names) with
      hSame | hPut | hMade
    · rw [hSame, hThere]
    · rcases hPut with ⟨other, hMember, hSame⟩
      exact
        (hOther file hFile other hMember
          (List.append_cancel_left hSame)).elim
    · rw [hThere] at hMade
      cases hMade.1
  constructor
  case keeps => exact hFirst.keeps.trans hSecond.keeps
  case put =>
    intro file hFile
    rcases List.mem_append.mp hFile with hEarly | hLate
    · exact hStill file hEarly
    · exact hSecond.put file hLate
  case ways =>
    intro file hFile place hWay
    rcases List.mem_append.mp hFile with hEarly | hLate
    · exact
        hSecond.keeps.ways _ _ rfl
          (hFirst.ways file hEarly place hWay)
    · exact hSecond.ways file hLate place hWay
  case rest =>
    intro place
    have hLeft
        {holds : Delivery → Prop}
        (hSome : ∃ file ∈ first, holds file) :
        ∃ file ∈ first ++ second, holds file := by
      rcases hSome with ⟨file, hFile, hHolds⟩
      exact ⟨file, List.mem_append_left second hFile, hHolds⟩
    have hRight
        {holds : Delivery → Prop}
        (hSome : ∃ file ∈ second, holds file) :
        ∃ file ∈ first ++ second, holds file := by
      rcases hSome with ⟨file, hFile, hHolds⟩
      exact ⟨file, List.mem_append_right first hFile, hHolds⟩
    rcases hFirst.rest place with hOld | hPut | hMade
    · rw [← hOld]
      rcases hSecond.rest place with hSame | hPut | hMade
      · exact Or.inl hSame
      · exact Or.inr (Or.inl (hRight hPut))
      · exact
          Or.inr
            (Or.inr ⟨hMade.1, hMade.2.1, hRight hMade.2.2⟩)
    · exact Or.inr (Or.inl (hLeft hPut))
    · have hDirectory :=
        hSecond.keeps.ways _ _ rfl hMade.2.1
      exact
        Or.inr
          (Or.inr ⟨hMade.1, hDirectory, hLeft hMade.2.2⟩)

/- No file is on the way to another one. -/
theorem not_prefix
    (hDelivers : Delivers here files before after)
    (hFile : file ∈ files)
    (hOther : other ∈ files)
    (hNames : file.names ≠ [])
    (hPrefix : file.names <+: other.names) :
    file.names = other.names := by
  by_contra hLess
  have hFront : file.names <+: other.names.dropLast := by
    rcases hPrefix with ⟨rest, hRest⟩
    have hSome : rest ≠ [] := by
      intro hNone
      rw [hNone, List.append_nil] at hRest
      exact hLess hRest
    rw [← hRest, List.dropLast_append_of_ne_nil hSome]
    exact List.prefix_append _ _
  have hDirectory :=
    hDelivers.ways other hOther _
      (isOnWay_below_iff.mpr ⟨hNames, hFront⟩)
  rw [hDelivers.put file hFile] at hDirectory
  cases hDirectory

end Delivers

end FileTree

end Componentry

------------------------------------------------------------
-- Admitting a File
------------------------------------------------------------

namespace Componentry

namespace FileTree

/-
  A file can be put where its names lead: there is no file on
  the way, and no directory at its place.
-/
structure Admits
    (tree : FileTree)
    (here : Place)
    (names : List String) : Prop where
  way :
    ∀ place bytes,
      IsOnWay here names.dropLast place →
        tree.entry? place ≠ some (.file bytes)
  place : tree.entry? (here ++ names) ≠ some .directory

/- Neither names lead to the others. -/
structure Apart (first second : List String) : Prop where
  left : ¬ first <+: second
  right : ¬ second <+: first

variable {tree before after : FileTree}
variable {here : Place}
variable {names : List String}
variable {files : List Delivery}

/- Where nothing is below a place, files can be put. -/
theorem admits_of_nothing_below
    (hNothing :
      ∀ place,
        isBelow here place = true → tree.entry? place = none)
    (hNames : names ≠ []) :
    tree.Admits here names where
  way := by
    intro place bytes hWay
    rw [hNothing place hWay.isBelow]
    simp
  place := by
    rw [hNothing _ (isBelow_iff.mpr ⟨names, hNames, rfl⟩)]
    simp

/- Without links, such a way can be opened. -/
theorem Admits.isPassable
    (hAdmits : tree.Admits here names)
    (hFree : tree.IsFreeWay here names) :
    tree.IsPassable here names.dropLast := by
  intro place hWay
  cases hEntry : tree.entry? place with
  | none => exact Or.inl rfl
  | some entry =>
      cases entry with
      | file bytes =>
          exact (hAdmits.way place bytes hWay hEntry).elim
      | directory => exact Or.inr rfl
      | link target =>
          have hOn := hWay.mono (List.dropLast_prefix names)
          exact (hFree place target hOn hEntry).elim

/- Deliveries elsewhere do not get in the way. -/
theorem Delivers.admits
    (hDelivers : Delivers here files before after)
    (hApart : ∀ file ∈ files, Apart file.names names)
    (hAdmits : before.Admits here names) :
    after.Admits here names := by
  constructor
  case way =>
    intro place bytes hWay hFile
    rcases hDelivers.rest place with hOld | hPut | hMade
    · rw [hOld] at hFile
      exact hAdmits.way place bytes hWay hFile
    · rcases hPut with ⟨file, hMember, hSame⟩
      rw [hSame, isOnWay_below_iff] at hWay
      exact
        (hApart file hMember).left
          (hWay.2.trans (List.dropLast_prefix names))
    · rw [hMade.2.1] at hFile
      cases hFile
  case place =>
    intro hDirectory
    rcases hDelivers.rest (here ++ names) with
      hOld | hPut | hMade
    · rw [hOld] at hDirectory
      exact hAdmits.place hDirectory
    · rcases hPut with ⟨file, hMember, hSame⟩
      have hNames := List.append_cancel_left hSame
      apply (hApart file hMember).left
      exact hNames ▸ List.prefix_refl _
    · rcases hMade.2.2 with ⟨file, hMember, hWay⟩
      rw [isOnWay_below_iff] at hWay
      exact
        (hApart file hMember).right
          (hWay.2.trans (List.dropLast_prefix _))

end FileTree

end Componentry
