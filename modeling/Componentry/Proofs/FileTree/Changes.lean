import Componentry.FileTree.Change
import Componentry.Proofs.FileTree.Ways

/-
  What changes in a tree.

  Making directories adds directories where nothing was.  A
  spare file has a name that nothing else has, so a tree from
  which it is removed is the tree from before; and a file that
  is moved to its place is put where the names of its path
  lead.

  Main declarations:
    * `FileTree.entry?_set`, `FileTree.erase_set`
    * `FileTree.Grows`, `FileTree.grows_makeAncestors`
    * `FileTree.spareName_not_mem`, `FileTree.spare_isFresh`
    * `FileTree.Receives`, `FileTree.receives_of_filePlace`
    * `FileTree.erase_of_writeSpare`,
      `FileTree.set_of_moveSpare`
-/

------------------------------------------------------------
-- Entries
------------------------------------------------------------

namespace Componentry

namespace FileTree

variable {tree : FileTree}
variable {place other : Place}
variable {entry : Entry}

@[simp] theorem home_set :
    (tree.set place entry).home = tree.home :=
  rfl

@[simp] theorem home_erase :
    (tree.erase place).home = tree.home :=
  rfl

@[simp] theorem entry?_root :
    tree.entry? [] = some .directory :=
  rfl

theorem entry?_set
    (hPlace : place ≠ []) :
    entry? (tree.set place entry) other =
      if other = place then some entry
      else tree.entry? other := by
  unfold entry? set
  by_cases hRoot : other = []
  · subst hRoot
    rw [if_pos rfl, if_neg (Ne.symm hPlace), if_pos rfl]
  · rw [if_neg hRoot, if_neg hRoot,
      Std.ExtTreeMap.getElem?_insert]
    simp only [Std.LawfulEqOrd.compare_eq_iff_eq,
      eq_comm (a := place)]

/- To remove a new entry with nothing below it undoes it. -/
theorem erase_set
    (hFresh :
      ∀ other ∈ tree.entries,
        other ≠ place ∧ isBelow place other = false) :
    (tree.set place entry).erase place = tree := by
  have hEntries :
      ((tree.set place entry).erase place).entries =
        tree.entries := by
    apply Std.ExtTreeMap.ext_getElem?
    intro other
    unfold erase set
    dsimp only
    rw [Std.ExtTreeMap.getElem?_filter',
      Std.ExtTreeMap.getElem?_insert]
    by_cases hSame : place = other
    · subst hSame
      have hAbsent : place ∉ tree.entries := by
        intro hMember
        exact (hFresh place hMember).1 rfl
      rw [Std.ExtTreeMap.getElem?_eq_none hAbsent]
      simp
    · rw [if_neg (by simpa using hSame)]
      cases hFound : tree.entries[other]? with
      | none => rfl
      | some found =>
          have hMember : other ∈ tree.entries := by
            rw [Std.ExtTreeMap.mem_iff_isSome_getElem?,
              hFound]
            rfl
          rcases hFresh other hMember with ⟨hOther, hBelow⟩
          simp [Option.filter, hOther, hBelow]
  exact congrArg (FileTree.mk · tree.home) hEntries

end FileTree

end Componentry

------------------------------------------------------------
-- New Directories
------------------------------------------------------------

namespace Componentry

namespace FileTree

/- Directories are made in a region where nothing was. -/
structure Grows
    (region : Place → Prop)
    (before after : FileTree) : Prop where
  home : after.home = before.home
  entries :
    ∀ place,
      after.entry? place = before.entry? place ∨
        (region place ∧
          before.entry? place = none ∧
          after.entry? place = some .directory)

variable {region : Place → Prop}
variable {tree before mid after : FileTree}
variable {place : Place}
variable {path : Path}

namespace Grows

theorem refl (tree : FileTree) : Grows region tree tree where
  home := rfl
  entries := fun _ => Or.inl rfl

theorem trans
    (hFirst : Grows region before mid)
    (hSecond : Grows region mid after) :
    Grows region before after where
  home := hSecond.home.trans hFirst.home
  entries := by
    intro place
    rcases hFirst.entries place with hSame | hMade
    · rw [← hSame]
      exact hSecond.entries place
    · rcases hMade with ⟨hRegion, hNone, hDirectory⟩
      rcases hSecond.entries place with hSame | hMade
      · rw [hSame]
        exact Or.inr ⟨hRegion, hNone, hDirectory⟩
      · rw [hDirectory] at hMade
        cases hMade.2.1

theorem mono
    {larger : Place → Prop}
    (hGrows : Grows region before after)
    (hRegion : ∀ place, region place → larger place) :
    Grows larger before after where
  home := hGrows.home
  entries := fun place =>
    (hGrows.entries place).imp id
      (And.imp_left (hRegion place))

/- Nothing is made outside of the region. -/
theorem entry?_eq
    (hGrows : Grows region before after)
    (hRegion : ¬ region place) :
    after.entry? place = before.entry? place := by
  rcases hGrows.entries place with hSame | hMade
  · exact hSame
  · exact (hRegion hMade.1).elim

/- What was there is still there. -/
theorem keeps
    (hGrows : Grows region before after)
    {entry : Entry}
    (hEntry : before.entry? place = some entry) :
    after.entry? place = some entry := by
  rcases hGrows.entries place with hSame | hMade
  · rw [hSame]
    exact hEntry
  · rw [hEntry] at hMade
    cases hMade.2.1

/- No other links are there. -/
theorem link
    (hGrows : Grows region before after)
    {target : String}
    (hLink : after.entry? place = some (.link target)) :
    before.entry? place = some (.link target) := by
  rcases hGrows.entries place with hSame | hMade
  · rw [← hSame]
    exact hLink
  · rw [hLink] at hMade
    cases hMade.2.2

theorem leadsTo
    (hGrows : Grows region before after)
    (hLeads : before.LeadsTo path place) :
    after.LeadsTo path place :=
  hLeads.mono hGrows.home fun _ _ _ hEntry =>
    hGrows.keeps hEntry

theorem isFreeOfLinks
    (hGrows : Grows region before after)
    (hLinks : before.IsFreeOfLinks place) :
    after.IsFreeOfLinks place := by
  intro below target hBelow hLink
  exact hLinks below target hBelow (hGrows.link hLink)

end Grows

/- A directory is made where the path leads to nothing. -/
theorem makeDirectory_eq_ok
    (hMade : tree.makeDirectory path = .ok after) :
    ∃ place,
      tree.locate false path = .ok (.absent place) ∧
        tree.entry? place = none ∧
        after = tree.set place .directory := by
  unfold makeDirectory at hMade
  split at hMade
  · cases hMade
  · next place hLocate =>
      cases hMade
      have hWalks :=
        walks_of_walk (locate_eq_ok_iff.mp hLocate).2.2
      exact ⟨place, hLocate, hWalks.entry?_of_absent, rfl⟩
  · cases hMade

theorem grows_set
    (hRegion : region place)
    (hNone : tree.entry? place = none) :
    Grows region tree (tree.set place .directory) where
  home := rfl
  entries := by
    have hPlace : place ≠ [] := by
      intro hRoot
      rw [hRoot, entry?_root] at hNone
      cases hNone
    intro other
    rw [entry?_set hPlace]
    by_cases hOther : other = place
    · rw [hOther, if_pos rfl]
      exact Or.inr ⟨hRegion, hNone, rfl⟩
    · rw [if_neg hOther]
      exact Or.inl rfl

/- Either nothing is made, or what the path leads to. -/
theorem grows_ensureDirectory
    (hRegion :
      ∀ place,
        tree.locate false path = .ok (.absent place) →
          region place)
    (hEnsured : tree.ensureDirectory path = .ok after) :
    Grows region tree after := by
  unfold ensureDirectory at hEnsured
  split at hEnsured
  · next made hMade =>
      cases hEnsured
      rcases makeDirectory_eq_ok hMade with
        ⟨place, hLocate, hNone, hAfter⟩
      rw [hAfter]
      exact grows_set (hRegion place hLocate) hNone
  · split at hEnsured
    · cases hEnsured
      exact .refl tree
    · cases hEnsured

/- A directory that is there is made at no cost. -/
theorem ensureDirectory_of_leadsTo
    (hText : path.text ≠ "")
    (hThere : tree.LeadsTo path place) :
    tree.ensureDirectory path = .ok tree := by
  have hIsDirectory : tree.isDirectory path = true := by
    rw [isDirectory,
      (directory?_eq_some_iff hText).mpr hThere]
    rfl
  unfold ensureDirectory
  cases hMade : tree.makeDirectory path with
  | error fault => simp only [hIsDirectory, if_true]
  | ok made =>
      rcases makeDirectory_eq_ok hMade with
        ⟨absent, hLocate, -, -⟩
      rcases hThere.leads with ⟨left, hLeads⟩
      exact
        ((leads_steps_iff.mpr hLeads).walk_ne_absent
          (locate_eq_ok_iff.mp hLocate).2.2).elim

/- A directory that is there is not missing. -/
theorem ensureDirectory_ne_error
    {fault : FileFault}
    (hText : path.text ≠ "")
    (hThere : tree.LeadsTo path place) :
    tree.ensureDirectory path ≠ .error fault := by
  rw [ensureDirectory_of_leadsTo hText hThere]
  intro hFault
  cases hFault

/-
  Directories are made from the lowest one that exists, which
  some of the paths above may be known to lead to.
-/
theorem grows_makeAncestors
    (scope : Path → Prop)
    (hRegion :
      ∀ grown path place,
        Grows region tree grown →
          scope path →
            grown.locate false path = .ok (.absent place) →
              region place)
    (hParent :
      ∀ path parent,
        scope path →
          path.text ≠ "" →
            tree.ensureDirectory path = .error .notFound →
              path.parent? = some parent →
                scope parent)
    (depth : Nat)
    (path : Path)
    (hScope : scope path) :
    Grows region tree (tree.makeAncestors path depth).2 := by
  induction depth generalizing path with
  | zero => exact .refl tree
  | succ depth ih =>
      have hEnsure
          {grown after : FileTree}
          (hGrown : Grows region tree grown)
          (hEnsured :
            grown.ensureDirectory path = .ok after) :
          Grows region tree after :=
        hGrown.trans <|
          grows_ensureDirectory
            (fun place => hRegion grown path place hGrown
              hScope)
            hEnsured
      rw [makeAncestors]
      by_cases hText : path.text = ""
      · rw [if_pos hText]
        exact .refl tree
      · rw [if_neg hText]
        split
        · next made hMade => exact hEnsure (.refl tree) hMade
        · next hMissing =>
            split
            · exact .refl tree
            · next parent hIs =>
                have hAbove :=
                  ih parent
                    (hParent path parent hScope hText
                      hMissing hIs)
                split
                · next fault grown hFault =>
                    rw [hFault] at hAbove
                    exact hAbove
                · next grown hGrown =>
                    rw [hGrown] at hAbove
                    split
                    · next made hMade =>
                        exact hEnsure hAbove hMade
                    · exact hAbove
        · exact .refl tree

end FileTree

end Componentry

------------------------------------------------------------
-- Spare Files
------------------------------------------------------------

namespace Componentry

namespace FileTree

variable {tree written : FileTree}
variable {path directory : Path}
variable {place spare : Place}
variable {bytes : ByteArray}

/- A spare name is longer than all names of a tree. -/
theorem exists_spareName_length
    (tree : FileTree)
    (path : Path) :
    ∃ used : List String,
      (∀ place ∈ tree.entries, ∀ name ∈ place, name ∈ used) ∧
        (tree.spareName path).toList.length =
          (used.flatMap (·.toList)).length + 2 := by
  refine
    ⟨path.text ::
        tree.entries.toList.flatMap
          fun bound => bound.2.target :: bound.1,
      ?_, ?_⟩
  · intro place hPlace name hName
    apply List.mem_cons_of_mem
    rw [List.mem_flatMap]
    refine
      ⟨(place, tree.entries[place]), ?_,
        List.mem_cons_of_mem _ hName⟩
    rw [Std.ExtTreeMap.mem_toList_iff_getElem?_eq_some]
    exact Std.ExtTreeMap.getElem?_eq_some_getElem hPlace
  · rw [spareName, String.toList_ofList, List.length_cons,
      List.length_replicate]

/- Nothing in the tree has the name of a spare file. -/
theorem spareName_not_mem
    (hPlace : place ∈ tree.entries) :
    tree.spareName path ∉ place := by
  intro hName
  rcases exists_spareName_length tree path with
    ⟨used, hUsed, hLength⟩
  have hShorter :
      (tree.spareName path).toList.length ≤
        (used.flatMap (·.toList)).length := by
    rw [List.flatMap_def]
    exact
      (List.sublist_flatten_of_mem
        (List.mem_map_of_mem
          (hUsed place hPlace _ hName))).length_le
  omega

/- A spare file is new, and nothing is below it. -/
theorem spare_isFresh
    (tree : FileTree)
    (above : Place)
    (path : Path) :
    ∀ other ∈ tree.entries,
      other ≠ above ++ [tree.spareName path] ∧
        isBelow (above ++ [tree.spareName path]) other =
          false := by
  intro other hOther
  have hName : tree.spareName path ∉ other :=
    spareName_not_mem hOther
  constructor
  · intro hSame
    apply hName
    rw [hSame]
    simp
  · rw [Bool.eq_false_iff]
    intro hBelow
    rcases isBelow_iff.mp hBelow with ⟨names, -, hSame⟩
    apply hName
    rw [hSame]
    simp

/- Nothing is where a spare file is made. -/
theorem entry?_spare
    (tree : FileTree)
    (above : Place)
    (path : Path) :
    tree.entry? (above ++ [tree.spareName path]) = none := by
  unfold entry?
  rw [if_neg (by simp)]
  apply Std.ExtTreeMap.getElem?_eq_none
  intro hMember
  exact (spare_isFresh tree above path _ hMember).1 rfl

theorem writeSpare_eq_ok
    (hSpare :
      tree.writeSpare directory path bytes =
        .ok (spare, written)) :
    ∃ above,
      spare = above ++ [tree.spareName path] ∧
        written = tree.set spare (.file bytes) := by
  unfold writeSpare at hSpare
  dsimp only at hSpare
  split at hSpare
  · cases hSpare
  · next above _ =>
      cases hSpare
      exact ⟨above, rfl, rfl⟩
  · cases hSpare
  · cases hSpare

end FileTree

end Componentry

------------------------------------------------------------
-- Places of Files
------------------------------------------------------------

namespace Componentry

namespace FileTree

/-
  A path leads to the place of a file: it can be used, its
  last step is a name behind steps that lead to a directory,
  and no directory is there.
-/
structure Receives
    (tree : FileTree)
    (path : Path)
    (place : Place) : Prop where
  isFilePath : path.IsFilePath
  leads :
    ∃ before name left here,
      path.moves = before ++ [name] ∧
        tree.Leads linkLimit (tree.start path) before left
          here ∧
        place = here ++ [name]
  no_directory : tree.entry? place ≠ some .directory

variable {tree : FileTree}
variable {path : Path}
variable {place : Place}

/- Without slashes behind it, the last step is the last. -/
theorem steps_of_lastStep?
    {step : LastStep}
    (hLast : lastStep? path = some step)
    (hSlashed : step.slashed = false) :
    steps path.text = step.before ++ [step.last] ∧
      step.last ≠ "" := by
  unfold lastStep? at hLast
  dsimp only at hLast
  split at hLast
  · cases hLast
  · next last before hSteps =>
      cases hLast
      cases hAll : (steps path.text).reverse with
      | nil =>
          rw [hAll] at hSteps
          cases hSteps
      | cons first others =>
          have hFirst : first ≠ "" := by
            simpa [hAll] using hSlashed
          rw [hAll, List.dropWhile_cons_of_neg (by simpa)]
            at hSteps
          cases hSteps
          refine ⟨?_, hFirst⟩
          rw [← List.reverse_reverse (steps path.text),
            hAll, List.reverse_cons]

/- All that holds when a place is found for a file. -/
theorem exists_of_filePlace
    (hPlace : tree.filePlace path = .ok place) :
    path.isUsable = true ∧
      ∃ step here,
        lastStep? path = some step ∧
          walk tree true linkLimit (tree.start path)
              step.before =
            .ok (.directory here) ∧
          step.last ≠ "." ∧
          step.slashed = false ∧
          place = here ++ [step.last] ∧
          tree.entry? place ≠ some .directory := by
  unfold filePlace at hPlace
  by_cases hUsable : path.isUsable = true
  · rw [if_pos hUsable] at hPlace
    refine ⟨hUsable, ?_⟩
    split at hPlace
    · cases hPlace
    · next step hLast =>
        split at hPlace
        · cases hPlace
        · cases hPlace
        · cases hPlace
        · cases hPlace
        · next here hWalk =>
            split at hPlace
            · cases hPlace
            · next hDots =>
                split at hPlace
                · cases hPlace
                · next hSlashed =>
                    dsimp only at hPlace
                    split at hPlace
                    · cases hPlace
                    · next hEntry =>
                        cases hPlace
                        refine
                          ⟨step, here, hLast, hWalk, ?_, ?_,
                            rfl, hEntry⟩
                        · intro hDot
                          simp [hDot] at hDots
                        · simpa using hSlashed
  · rw [if_neg hUsable] at hPlace
    cases hPlace

/- The place that a file is moved to is where its path leads. -/
theorem receives_of_filePlace
    (hPlace : tree.filePlace path = .ok place) :
    tree.Receives path place := by
  rcases exists_of_filePlace hPlace with
    ⟨hUsable, step, here, hLast, hWalk, hNotDot, hSlashed,
      hIs, hEntry⟩
  rcases steps_of_lastStep? hLast hSlashed with
    ⟨hSteps, hNotEmpty⟩
  rcases (walks_of_walk hWalk).exists_leads with
    ⟨left, hLeads⟩
  have hIdle : isIdle step.last = false := by
    simp [isIdle, hNotEmpty, hNotDot]
  have hMoves :
      path.moves =
        step.before.filter (!isIdle ·) ++ [step.last] := by
    rw [← path.filter_steps, hSteps, List.filter_append,
      List.filter_cons_of_pos (by simp [hIdle]),
      List.filter_nil]
  constructor
  case isFilePath =>
    exact
      ⟨hUsable, Path.endsInStep_iff.mpr ⟨_, _, hSteps, hIdle⟩⟩
  case leads =>
    exact
      ⟨_, _, left, here, hMoves, leads_filter_iff.mpr hLeads,
        hIs⟩
  case no_directory => exact hEntry

theorem moveFile_eq_ok
    {source : Place}
    {after : FileTree}
    (hMoved : tree.moveFile source path = .ok after) :
    ∃ place entry,
      tree.Receives path place ∧
        tree.entry? source = some entry ∧
        after = (tree.erase source).set place entry := by
  unfold moveFile at hMoved
  split at hMoved
  · cases hMoved
  · next place hPlace =>
      split at hMoved
      · cases hMoved
      · next entry hEntry =>
          cases hMoved
          exact
            ⟨place, entry, receives_of_filePlace hPlace,
              hEntry, rfl⟩

/- A file that was not there makes no difference. -/
theorem Receives.of_set
    {spare : Place}
    {bytes : ByteArray}
    (hSpare : spare ≠ [])
    (hNone : tree.entry? spare = none)
    (hReceives :
      (tree.set spare (.file bytes)).Receives path place) :
    tree.Receives path place where
  isFilePath := hReceives.isFilePath
  leads := by
    rcases hReceives.leads with
      ⟨before, name, left, here, hMoves, hLeads, hPlace⟩
    refine
      ⟨before, name, left, here, hMoves, ?_, hPlace⟩
    refine hLeads.mono ?_
    intro other entry hWay hEntry
    rw [entry?_set hSpare] at hEntry
    by_cases hOther : other = spare
    · rw [if_pos hOther] at hEntry
      cases hEntry
      cases hWay
    · rw [if_neg hOther] at hEntry
      exact hEntry
  no_directory := by
    intro hDirectory
    apply hReceives.no_directory
    rw [entry?_set hSpare]
    by_cases hPlace : place = spare
    · rw [hPlace, hNone] at hDirectory
      cases hDirectory
    · rw [if_neg hPlace]
      exact hDirectory

/- A spare file goes away without a trace. -/
theorem erase_of_writeSpare
    {written : FileTree}
    {directory : Path}
    {spare : Place}
    {bytes : ByteArray}
    (hSpare :
      tree.writeSpare directory path bytes =
        .ok (spare, written)) :
    written.erase spare = tree := by
  rcases writeSpare_eq_ok hSpare with
    ⟨above, hPlace, hWritten⟩
  subst hPlace
  subst hWritten
  exact erase_set (spare_isFresh tree above path)

/- Moving it is to put the file where its path leads. -/
theorem set_of_moveSpare
    {written moved : FileTree}
    {directory : Path}
    {spare : Place}
    {bytes : ByteArray}
    (hSpare :
      tree.writeSpare directory path bytes =
        .ok (spare, written))
    (hMoved : written.moveFile spare path = .ok moved) :
    ∃ place,
      tree.Receives path place ∧
        moved = tree.set place (.file bytes) := by
  rcases moveFile_eq_ok hMoved with
    ⟨place, entry, hReceives, hEntry, hIs⟩
  rw [erase_of_writeSpare hSpare] at hIs
  rcases writeSpare_eq_ok hSpare with
    ⟨above, hPlace, hWritten⟩
  have hNotRoot : spare ≠ [] := by
    rw [hPlace]
    simp
  have hNone : tree.entry? spare = none := by
    rw [hPlace]
    exact entry?_spare tree above path
  rw [hWritten, entry?_set hNotRoot, if_pos rfl,
    Option.some.injEq] at hEntry
  rw [hWritten] at hReceives
  refine ⟨place, hReceives.of_set hNotRoot hNone, ?_⟩
  rw [hIs, ← hEntry]

end FileTree

end Componentry
