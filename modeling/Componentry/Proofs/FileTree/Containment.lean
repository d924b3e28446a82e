import Componentry.Proofs.Generation.Writing

/-
  Writing below a directory.

  A path that is made of names leads from a directory to
  places below it, if no link there leads away.  So whatever
  is written there changes nothing else: directories are made,
  and files replaced, below the directory only.  If it was
  missing, directories may have been made on the way to it.

  Main declarations:
    * `FileTree.place?`, `FileTree.ChangesBelow`
    * `writeText_cases`
    * `FileTree.changesBelow_writeText`
    * `FileTree.changesBelow_writeAll`
-/

------------------------------------------------------------
-- Changes Below a Directory
------------------------------------------------------------

namespace Componentry

namespace FileTree

/- The place that a directory's path leads to, if any. -/
def place?
    (tree : FileTree)
    (directory : Path) :
    Option Place :=
  if directory.text = "" then some tree.home
  else tree.directory? directory

/-
  What differs between two trees is below a directory.  If
  that was missing, directories are made on the way to it.
-/
structure ChangesBelow
    (directory : Path)
    (before after : FileTree) : Prop where
  home : after.home = before.home
  -- Walks that were possible still are, and no others are new.
  ways :
    ∀ place entry,
      entry.isWay = true →
        before.entry? place = some entry →
          after.entry? place = some entry
  links :
    ∀ place target,
      after.entry? place = some (.link target) →
        before.entry? place = some (.link target)
  changed :
    ∀ place,
      after.entry? place ≠ before.entry? place →
        (∃ above,
          after.place? directory = some above ∧
            isBelow above place = true) ∨
          (before.place? directory = none ∧
            before.entry? place = none ∧
            after.entry? place = some .directory)

/-
  No link is below a directory.  If the directory is missing,
  there is no link at all.
-/
def LinksOutside
    (directory : Path)
    (tree : FileTree) : Prop :=
  ∀ place target,
    tree.entry? place = some (.link target) →
      ∃ above,
        tree.place? directory = some above ∧
          isBelow above place = false

variable {tree before mid after : FileTree}
variable {directory path : Path}
variable {above place : Place}

theorem place?_eq_some_iff :
    tree.place? path = some place ↔
      tree.LeadsTo path place := by
  unfold place?
  by_cases hText : path.text = ""
  · rw [if_pos hText, leadsTo_of_empty hText,
      Option.some.injEq, eq_comm]
  · rw [if_neg hText]
    exact directory?_eq_some_iff hText

/- A directory that is there has no links below it. -/
theorem LinksOutside.isFreeOfLinks
    (hLinks : LinksOutside directory tree)
    (hAbove : tree.place? directory = some above) :
    tree.IsFreeOfLinks above := by
  intro place target hBelow hLink
  rcases hLinks place target hLink with
    ⟨found, hFound, hOutside⟩
  rw [hAbove, Option.some.injEq] at hFound
  subst hFound
  rw [hBelow] at hOutside
  cases hOutside

namespace ChangesBelow

theorem refl
    (tree : FileTree) :
    ChangesBelow directory tree tree where
  home := rfl
  ways := fun _ _ _ hEntry => hEntry
  links := fun _ _ hLink => hLink
  changed := fun _ hChanged => (hChanged rfl).elim

/- A directory that was found is found again. -/
theorem place?
    (hChanges : ChangesBelow directory before after)
    (hPlace : before.place? path = some place) :
    after.place? path = some place := by
  rw [place?_eq_some_iff] at hPlace ⊢
  exact hPlace.mono hChanges.home hChanges.ways

theorem trans
    (hFirst : ChangesBelow directory before mid)
    (hSecond : ChangesBelow directory mid after) :
    ChangesBelow directory before after where
  home := hSecond.home.trans hFirst.home
  ways := by
    intro place entry hWay hEntry
    exact
      hSecond.ways _ _ hWay (hFirst.ways _ _ hWay hEntry)
  links := by
    intro place target hLink
    exact hFirst.links _ _ (hSecond.links _ _ hLink)
  changed := by
    intro place hChanged
    by_cases hLater : after.entry? place = mid.entry? place
    · rw [hLater] at hChanged ⊢
      rcases hFirst.changed place hChanged with hBelow | hMade
      · rcases hBelow with ⟨above, hAbove, hBelow⟩
        exact Or.inl ⟨above, hSecond.place? hAbove, hBelow⟩
      · exact Or.inr hMade
    · rcases hSecond.changed place hLater with hBelow | hMade
      · exact Or.inl hBelow
      · rcases hMade with ⟨hMissing, hNone, hDirectory⟩
        -- What is missing then was missing before.
        have hMissingBefore :
            before.place? directory = none := by
          cases hPlace : before.place? directory with
          | none => rfl
          | some above =>
              rw [hFirst.place? hPlace] at hMissing
              cases hMissing
        have hNoneBefore : before.entry? place = none := by
          by_contra hSome
          have hEarlier :
              mid.entry? place ≠ before.entry? place := by
            rw [hNone]
            exact Ne.symm hSome
          rcases hFirst.changed place hEarlier with
            hBelow | hMade
          · rcases hBelow with ⟨above, hAbove, -⟩
            rw [hAbove] at hMissing
            cases hMissing
          · exact hSome hMade.2.1
        exact
          Or.inr ⟨hMissingBefore, hNoneBefore, hDirectory⟩

theorem linksOutside
    (hChanges : ChangesBelow directory before after)
    (hLinks : LinksOutside directory before) :
    LinksOutside directory after := by
  intro place target hLink
  rcases hLinks place target (hChanges.links _ _ hLink) with
    ⟨above, hAbove, hOutside⟩
  exact ⟨above, hChanges.place? hAbove, hOutside⟩

end ChangesBelow

/- New directories change only the region they are made in. -/
theorem Grows.changesBelow
    {region : Place → Prop}
    (hGrows : Grows region before after)
    (hRegion :
      ∀ place,
        region place →
          before.place? directory = none ∨
            ∃ above,
              after.place? directory = some above ∧
                isBelow above place = true) :
    ChangesBelow directory before after where
  home := hGrows.home
  ways := fun _ _ _ hEntry => hGrows.keeps hEntry
  links := fun _ _ hLink => hGrows.link hLink
  changed := by
    intro place hChanged
    rcases hGrows.entries place with hSame | hMade
    · exact (hChanged hSame).elim
    · rcases hMade with ⟨hIn, hNone, hDirectory⟩
      rcases hRegion place hIn with hMissing | hBelow
      · exact Or.inr ⟨hMissing, hNone, hDirectory⟩
      · exact Or.inl hBelow

end FileTree

end Componentry

------------------------------------------------------------
-- Writing
------------------------------------------------------------

namespace Componentry

variable {tree : FileTree}
variable {directory path right : Path}
variable {text : String}

/-
  Writing a text makes directories and then does nothing else,
  or puts the text in its place.
-/
theorem writeText_cases
    (tree : FileTree)
    (path : Path)
    (text : String) :
    (writeText tree path text).2 = tree ∨
      ∃ parent,
        path.parent? = some parent ∧
          ((writeText tree path text).2 =
              (tree.makeDirectories parent).2 ∨
            ∃ place,
              (tree.makeDirectories parent).2.Receives path
                  place ∧
                (writeText tree path text).2 =
                  (tree.makeDirectories parent).2.set place
                    (.file text.toUTF8)) := by
  rcases hWritten : writeText tree path text with
    ⟨written, after⟩
  cases written with
  | error error =>
      rcases writeText_eq_error hWritten with hSame | hMade
      · exact Or.inl hSame
      · rcases hMade with ⟨parent, hParent, hIs⟩
        exact Or.inr ⟨parent, hParent, Or.inl hIs⟩
  | ok _ =>
      rcases writeText_eq_ok hWritten with
        ⟨parent, place, hParent, hReceives, hIs⟩
      exact
        Or.inr ⟨parent, hParent, Or.inr ⟨place, hReceives, hIs⟩⟩

namespace FileTree

/- Directories for a file are made below its directory. -/
theorem changesBelow_makeDirectories
    {names : List String}
    (hLinks : LinksOutside directory tree)
    (hBehind : IsBehind directory path names) :
    ChangesBelow directory tree
      (tree.makeDirectories path).2 := by
  cases hDirectory : tree.place? directory with
  | none =>
      have hGrows :
          Grows (fun _ => True) tree
            (tree.makeDirectories path).2 :=
        grows_makeAncestors (fun _ => True)
          (fun _ _ _ _ _ _ => trivial)
          (fun _ _ _ _ _ _ => trivial) _ path trivial
      exact hGrows.changesBelow fun _ _ => Or.inl hDirectory
  | some above =>
      have hFree : tree.IsFreeOfLinks above :=
        hLinks.isFreeOfLinks hDirectory
      have hStays
          {region : Place → Prop}
          {grown : FileTree}
          (hGrown : Grows region tree grown) :
          grown.place? directory = some above := by
        rw [place?_eq_some_iff] at hDirectory ⊢
        exact hGrown.leadsTo hDirectory
      have hGrows :=
        grows_makeDirectories
          (place?_eq_some_iff.mp hDirectory) hBehind
          (hFree.isFreeWay names)
      apply hGrows.changesBelow
      intro place hWay
      exact Or.inr ⟨above, hStays hGrows, hWay.isBelow⟩

/- A file is put where no directory and no link is. -/
theorem changesBelow_set
    {above place : Place}
    {bytes : ByteArray}
    (hLinks : LinksOutside directory tree)
    (hAbove : tree.place? directory = some above)
    (hBelow : isBelow above place = true)
    (hFile : tree.entry? place ≠ some .directory) :
    ChangesBelow directory tree
      (tree.set place (.file bytes)) := by
  have hPlace : place ≠ [] := by
    intro hRoot
    exact hFile (hRoot ▸ entry?_root)
  have hWays :
      ∀ other entry,
        entry.isWay = true →
          tree.entry? other = some entry →
            entry? (tree.set place (.file bytes)) other =
              some entry := by
    intro other entry hWay hEntry
    rw [entry?_set hPlace]
    by_cases hOther : other = place
    · subst hOther
      cases entry with
      | file bytes => cases hWay
      | directory => exact (hFile hEntry).elim
      | link target =>
          exact
            (hLinks.isFreeOfLinks hAbove _ _ hBelow
              hEntry).elim
    · rw [if_neg hOther]
      exact hEntry
  refine ⟨rfl, hWays, ?_, ?_⟩
  · intro other target hLink
    rw [entry?_set hPlace] at hLink
    by_cases hOther : other = place
    · rw [if_pos hOther] at hLink
      cases hLink
    · rw [if_neg hOther] at hLink
      exact hLink
  · intro other hChanged
    rw [entry?_set hPlace] at hChanged
    by_cases hOther : other = place
    · subst hOther
      refine Or.inl ⟨above, ?_, hBelow⟩
      rw [place?_eq_some_iff] at hAbove ⊢
      refine hAbove.mono ?_ hWays
      rfl
    · rw [if_neg hOther] at hChanged
      exact (hChanged rfl).elim

end FileTree

open FileTree (ChangesBelow LinksOutside IsBehind)

/- A text is written below its directory. -/
theorem changesBelow_writeText
    (hLinks : LinksOutside directory tree)
    (hRight : right.isOrdinary = true)
    (text : String) :
    ChangesBelow directory tree
      (writeText tree (directory.join right) text).2 := by
  rcases Path.isOrdinary_iff.mp hRight with
    ⟨names, hNames, hMade⟩
  have hBehind := IsBehind.join directory hMade
  rcases writeText_cases tree (directory.join right) text
    with hNothing | hWritten
  · rw [hNothing]
    exact .refl tree
  · rcases hWritten with ⟨parent, hParent, hWritten⟩
    have hGrown :=
      FileTree.changesBelow_makeDirectories hLinks
        (hBehind.parent hNames hParent)
    rcases hWritten with hOnly | ⟨place, hReceives, hIs⟩
    · rw [hOnly]
      exact hGrown
    · have hStillOutside := hGrown.linksOutside hLinks
      rcases
          FileTree.place_of_receives hBehind hNames
            hReceives with
        ⟨above, hLeads, hDown⟩
      have hAbove := FileTree.place?_eq_some_iff.mpr hLeads
      have hFree := hStillOutside.isFreeOfLinks hAbove
      have hPlace := (hDown (hFree.isFreeWay names)).1
      have hBelow : FileTree.isBelow above place = true :=
        FileTree.isBelow_iff.mpr ⟨names, hNames, hPlace⟩
      rw [hIs]
      exact
        hGrown.trans
          (FileTree.changesBelow_set hStillOutside hAbove
            hBelow hReceives.no_directory)

/- So are files, one after the other. -/
theorem changesBelow_writeAll
    {artifacts : List Artifact}
    (hLinks : LinksOutside directory tree)
    (hPaths :
      ∀ artifact ∈ artifacts,
        artifact.path.isOrdinary = true) :
    ChangesBelow directory tree
      (writeAll directory tree artifacts).2 := by
  induction artifacts generalizing tree with
  | nil => exact .refl tree
  | cons artifact artifacts ih =>
      rw [List.forall_mem_cons] at hPaths
      have hFirst :=
        changesBelow_writeText hLinks hPaths.1 artifact.text
      rw [writeAll_cons]
      rcases hWritten :
          writeText tree (directory.join artifact.path)
            artifact.text
        with ⟨written, after⟩
      rw [hWritten] at hFirst
      cases written with
      | error error => exact hFirst
      | ok _ =>
          exact
            hFirst.trans
              (ih (hFirst.linksOutside hLinks) hPaths.2)

/- All files of a run are, and the manifest. -/
theorem Artifacts.changesBelow_write
    {artifacts : Artifacts}
    (hLinks : LinksOutside directory tree)
    (hPaths :
      ∀ artifact ∈ artifacts.list,
        artifact.path.isOrdinary = true) :
    ChangesBelow directory tree
      (artifacts.write directory tree).2 := by
  have hAll := changesBelow_writeAll hLinks hPaths
  have hManifestPath : manifestPath.isOrdinary = true := by
    decide +kernel
  unfold write
  rcases hWritten : writeAll directory tree artifacts.list
    with ⟨written, after⟩
  rw [hWritten] at hAll
  cases written with
  | error error => exact hAll
  | ok _ =>
      have hManifest :=
        changesBelow_writeText (hAll.linksOutside hLinks)
          hManifestPath artifacts.manifest.toJson.pretty
      dsimp only
      -- What the manifest says does not matter.
      generalize artifacts.manifest.toJson.pretty = text
        at hManifest ⊢
      rcases hLast :
          writeText after (directory.join manifestPath) text
        with ⟨last, finish⟩
      rw [hLast] at hManifest
      cases last with
      | error error => exact hAll.trans hManifest
      | ok _ => exact hAll.trans hManifest

end Componentry
