import Componentry.Proofs.FileTree.Steps

/-
  Walks that have an answer.

  A walk that has an answer is told step by step, once for all
  kinds of answers.  Whether steps lead to a directory is told
  with how many links may still be followed from there.
  Idle steps do not matter, steps behind others go on where
  those lead, and a tree in which no directory and no link has
  changed is walked as before.

  Main declarations:
    * `FileTree.Walks`, `FileTree.walks_of_walk`
    * `FileTree.Leads`, `FileTree.Leads.walk`
    * `FileTree.Walks.exists_leads`
    * `FileTree.leads_filter_iff`, `FileTree.leads_append_iff`
    * `FileTree.LeadsTo`, `FileTree.locate_eq_ok_iff`
    * `FileTree.locate_eq_directory_iff`
-/

------------------------------------------------------------
-- One Step
------------------------------------------------------------

namespace Componentry

namespace FileTree

variable {tree : FileTree}
variable {follow : Bool}
variable {links : Nat}
variable {here : Place}
variable {step : String}
variable {rest : List String}

/- Where a walk goes on behind a link. -/
def jump
    (tree : FileTree)
    (follow : Bool) :
    Nat →
      Place → String → List String → Except FileFault Target
  | 0 => fun _ _ _ => .error .filesystemLoop
  | links + 1 => fun here target rest =>
      walk tree follow links
        (if startsAtRoot target then [] else here)
        (steps target ++ rest)

theorem walk_eq_walkFrom
    (steps : List String) :
    walk tree follow links here steps =
      walkFrom tree follow (jump tree follow links) here
        steps := by
  cases links with
  | zero => rfl
  | succ links => rfl

@[simp] theorem walk_nil :
    walk tree follow links here [] =
      .ok (.directory here) := by
  rw [walk_eq_walkFrom, walkFrom]

theorem walk_idle
    (hIdle : isIdle step = true) :
    walk tree follow links here (step :: rest) =
      walk tree follow links here rest := by
  rw [walk_eq_walkFrom, walk_eq_walkFrom, walkFrom,
    if_pos hIdle]

theorem walk_up :
    walk tree follow links here (".." :: rest) =
      walk tree follow links here.dropLast rest := by
  rw [walk_eq_walkFrom, walk_eq_walkFrom, walkFrom,
    if_neg (by decide), if_pos rfl]

/- A step that is the name of an entry. -/
structure IsName (step : String) : Prop where
  not_idle : isIdle step = false
  not_up : step ≠ ".."

theorem walk_name
    (hName : IsName step) :
    walk tree follow links here (step :: rest) =
      match tree.entry? (here ++ [step]) with
      | none =>
          if rest.all (· == "") then
            .ok (.absent (here ++ [step]))
          else .error .notFound
      | some .directory =>
          walk tree follow links (here ++ [step]) rest
      | some (.file bytes) =>
          if rest.isEmpty then
            .ok (.file (here ++ [step]) bytes)
          else .error .notADirectory
      | some (.link target) =>
          if rest.isEmpty && !follow then
            .ok (.link (here ++ [step]))
          else jump tree follow links here target rest := by
  rw [walk_eq_walkFrom, walkFrom,
    if_neg (by simp [hName.not_idle]), if_neg hName.not_up]
  dsimp only
  cases tree.entry? (here ++ [step]) with
  | none => rfl
  | some entry =>
      cases entry with
      | file bytes => rfl
      | directory => exact (walk_eq_walkFrom rest).symm
      | link target => rfl

end FileTree

end Componentry

------------------------------------------------------------
-- Walks with an Answer
------------------------------------------------------------

namespace Componentry

namespace FileTree

/- The walks that have an answer, told step by step. -/
inductive Walks
    (tree : FileTree)
    (follow : Bool) :
    Nat → Place → List String → Target → Prop where
  | here
      {links : Nat}
      {here : Place} :
      Walks tree follow links here [] (.directory here)
  | idle
      {links : Nat}
      {here : Place}
      {step : String}
      {rest : List String}
      {target : Target}
      (hIdle : isIdle step = true)
      (hRest : Walks tree follow links here rest target) :
      Walks tree follow links here (step :: rest) target
  | up
      {links : Nat}
      {here : Place}
      {rest : List String}
      {target : Target}
      (hRest :
        Walks tree follow links here.dropLast rest target) :
      Walks tree follow links here (".." :: rest) target
  | down
      {links : Nat}
      {here : Place}
      {step : String}
      {rest : List String}
      {target : Target}
      (hName : IsName step)
      (hEntry :
        tree.entry? (here ++ [step]) = some .directory)
      (hRest :
        Walks tree follow links (here ++ [step]) rest
          target) :
      Walks tree follow links here (step :: rest) target
  | jump
      {links : Nat}
      {here : Place}
      {step text : String}
      {rest : List String}
      {target : Target}
      (hName : IsName step)
      (hEntry :
        tree.entry? (here ++ [step]) = some (.link text))
      (hRest :
        Walks tree follow links
          (if startsAtRoot text then [] else here)
          (steps text ++ rest) target) :
      Walks tree follow (links + 1) here (step :: rest)
        target
  -- Links that are not followed are answers.
  | link
      {links : Nat}
      {here : Place}
      {step text : String}
      (hName : IsName step)
      (hEntry :
        tree.entry? (here ++ [step]) = some (.link text)) :
      Walks tree follow links here [step]
        (.link (here ++ [step]))
  | file
      {links : Nat}
      {here : Place}
      {step : String}
      {bytes : ByteArray}
      (hName : IsName step)
      (hEntry :
        tree.entry? (here ++ [step]) = some (.file bytes)) :
      Walks tree follow links here [step]
        (.file (here ++ [step]) bytes)
  -- Only slashes may stand behind what is absent.
  | absent
      {links : Nat}
      {here : Place}
      {step : String}
      {rest : List String}
      (hName : IsName step)
      (hNone : tree.entry? (here ++ [step]) = none)
      (hSlashes : ∀ slash ∈ rest, slash = "") :
      Walks tree follow links here (step :: rest)
        (.absent (here ++ [step]))

variable {tree : FileTree}
variable {follow : Bool}
variable {links : Nat}
variable {here : Place}
variable {target : Target}
variable {steps : List String}

/- One link less may be followed behind a link. -/
theorem walks_of_walk_of_jump
    (hJump :
      ∀ here text rest,
        FileTree.jump tree follow links here text rest =
            .ok target →
          ∃ less,
            links = less + 1 ∧
              tree.Walks follow less
                (if startsAtRoot text then [] else here)
                (FileTree.steps text ++ rest) target)
    (hWalk : walk tree follow links here steps = .ok target) :
    tree.Walks follow links here steps target := by
  induction steps generalizing here with
  | nil =>
      rw [walk_nil] at hWalk
      cases hWalk
      exact .here
  | cons step rest ih =>
      by_cases hIdle : isIdle step = true
      · rw [walk_idle hIdle] at hWalk
        exact .idle hIdle (ih hWalk)
      · by_cases hUp : step = ".."
        · subst hUp
          rw [walk_up] at hWalk
          exact .up (ih hWalk)
        · have hName : IsName step :=
            ⟨by simpa using hIdle, hUp⟩
          rw [walk_name hName] at hWalk
          cases hEntry : tree.entry? (here ++ [step]) with
          | none =>
              simp only [hEntry] at hWalk
              split at hWalk
              · next hSlashes =>
                  cases hWalk
                  refine .absent hName hEntry ?_
                  simpa using hSlashes
              · cases hWalk
          | some entry =>
              cases entry with
              | directory =>
                  simp only [hEntry] at hWalk
                  exact .down hName hEntry (ih hWalk)
              | file bytes =>
                  simp only [hEntry] at hWalk
                  split at hWalk
                  · next hLast =>
                      cases hWalk
                      rw [List.isEmpty_iff.mp hLast]
                      exact .file hName hEntry
                  · cases hWalk
              | link text =>
                  simp only [hEntry] at hWalk
                  split at hWalk
                  · next hLast =>
                      cases hWalk
                      rw [Bool.and_eq_true,
                        List.isEmpty_iff] at hLast
                      rw [hLast.1]
                      exact .link hName hEntry
                  · rcases hJump _ _ _ hWalk with
                      ⟨less, hLinks, hRest⟩
                    subst hLinks
                    exact .jump hName hEntry hRest

theorem walks_of_walk
    (hWalk : walk tree follow links here steps = .ok target) :
    tree.Walks follow links here steps target := by
  induction links generalizing here steps with
  | zero =>
      refine walks_of_walk_of_jump ?_ hWalk
      intro here text rest hJump
      cases hJump
  | succ links ih =>
      refine walks_of_walk_of_jump ?_ hWalk
      intro here text rest hJump
      exact ⟨links, rfl, ih hJump⟩

/- A walk that ends where nothing is has found nothing. -/
theorem Walks.entry?_of_absent
    {place : Place}
    (hWalks :
      tree.Walks follow links here steps (.absent place)) :
    tree.entry? place = none := by
  generalize hTarget : Target.absent place = target
    at hWalks
  induction hWalks with
  | here => cases hTarget
  | idle hIdle hRest ih => exact ih hTarget
  | up hRest ih => exact ih hTarget
  | down hName hEntry hRest ih => exact ih hTarget
  | jump hName hEntry hRest ih => exact ih hTarget
  | link hName hEntry => cases hTarget
  | file hName hEntry => cases hTarget
  | absent hName hNone hSlashes =>
      cases hTarget
      exact hNone

end FileTree

end Componentry

------------------------------------------------------------
-- Leading to a Directory
------------------------------------------------------------

namespace Componentry

namespace FileTree

/-
  Steps lead from one directory to another, and leave a number
  of links that may be followed.
-/
inductive Leads
    (tree : FileTree) :
    Nat → Place → List String → Nat → Place → Prop where
  | here
      {links : Nat}
      {here : Place} :
      Leads tree links here [] links here
  | idle
      {links left : Nat}
      {here place : Place}
      {step : String}
      {rest : List String}
      (hIdle : isIdle step = true)
      (hRest : Leads tree links here rest left place) :
      Leads tree links here (step :: rest) left place
  | up
      {links left : Nat}
      {here place : Place}
      {rest : List String}
      (hRest :
        Leads tree links here.dropLast rest left place) :
      Leads tree links here (".." :: rest) left place
  | down
      {links left : Nat}
      {here place : Place}
      {step : String}
      {rest : List String}
      (hName : IsName step)
      (hEntry :
        tree.entry? (here ++ [step]) = some .directory)
      (hRest :
        Leads tree links (here ++ [step]) rest left place) :
      Leads tree links here (step :: rest) left place
  | link
      {links left : Nat}
      {here place : Place}
      {step target : String}
      {rest : List String}
      (hName : IsName step)
      (hEntry :
        tree.entry? (here ++ [step]) =
          some (.link target))
      (hRest :
        Leads tree links
          (if startsAtRoot target then [] else here)
          (steps target ++ rest) left place) :
      Leads tree (links + 1) here (step :: rest) left place

variable {tree : FileTree}
variable {follow : Bool}
variable {links left : Nat}
variable {here place : Place}
variable {first second steps : List String}

/-
  A walk goes on where its first steps lead.  The last step of
  a walk that follows no last link is not among them.
-/
theorem Leads.walk
    (hLeads : tree.Leads links here first left place)
    (hMore : follow = true ∨ second ≠ []) :
    FileTree.walk tree follow links here (first ++ second) =
      FileTree.walk tree follow left place second := by
  induction hLeads with
  | here => rfl
  | idle hIdle hRest ih =>
      rw [List.cons_append, walk_idle hIdle, ih]
  | up hRest ih => rw [List.cons_append, walk_up, ih]
  | down hName hEntry hRest ih =>
      rw [List.cons_append, walk_name hName, hEntry]
      exact ih
  | @link links left here place step target rest hName
      hEntry hRest ih =>
      have hJump :
          ((rest ++ second).isEmpty && !follow) = false := by
        rcases hMore with hFollow | hSecond
        · rw [hFollow, Bool.not_true, Bool.and_false]
        · rw [List.isEmpty_eq_false_iff.mpr
            (List.append_ne_nil_of_right_ne_nil rest
              hSecond),
            Bool.false_and]
      rw [List.append_assoc] at ih
      rw [List.cons_append, walk_name hName, hEntry, ← ih]
      simp only [hJump, Bool.false_eq_true, if_false]
      rfl

theorem Leads.walk_all
    (hLeads : tree.Leads links here steps left place) :
    FileTree.walk tree true links here steps =
      .ok (.directory place) := by
  have hWalk :
      FileTree.walk tree true links here (steps ++ []) =
        FileTree.walk tree true left place [] :=
    hLeads.walk (Or.inl rfl)
  rw [List.append_nil, walk_nil] at hWalk
  exact hWalk

/- Steps lead to one place only. -/
theorem Leads.unique
    {other : Nat}
    {elsewhere : Place}
    (hFirst : tree.Leads links here steps left place)
    (hSecond :
      tree.Leads links here steps other elsewhere) :
    place = elsewhere := by
  have hSame := hFirst.walk_all.symm.trans hSecond.walk_all
  cases hSame
  rfl

/-
  A walk that does not follow its last link gets to the same
  directory, or stops at a link.
-/
theorem Leads.walk_to_link
    (hLeads : tree.Leads links here steps left place) :
    FileTree.walk tree false links here steps =
        .ok (.directory place) ∨
      ∃ last,
        FileTree.walk tree false links here steps =
          .ok (.link last) := by
  induction hLeads with
  | here => exact Or.inl walk_nil
  | idle hIdle hRest ih =>
      rw [walk_idle hIdle]
      exact ih
  | up hRest ih =>
      rw [walk_up]
      exact ih
  | down hName hEntry hRest ih =>
      rw [walk_name hName, hEntry]
      exact ih
  | @link links left here place step target rest hName
      hEntry hRest ih =>
      rw [walk_name hName, hEntry]
      cases rest with
      | nil => exact Or.inr ⟨_, rfl⟩
      | cons next rest => exact ih

/- Where a directory is, something is. -/
theorem Leads.walk_ne_absent
    {elsewhere : Place}
    (hLeads : tree.Leads links here steps left place) :
    FileTree.walk tree false links here steps ≠
      .ok (.absent elsewhere) := by
  intro hWalk
  rcases hLeads.walk_to_link with hDirectory | hLink
  · rw [hDirectory] at hWalk
    cases hWalk
  · rcases hLink with ⟨last, hLink⟩
    rw [hLink] at hWalk
    cases hWalk

/- A walk to a directory is one that steps lead. -/
theorem Walks.exists_leads
    (hWalks :
      tree.Walks follow links here steps
        (.directory place)) :
    ∃ left, tree.Leads links here steps left place := by
  generalize hTarget : Target.directory place = target
    at hWalks
  induction hWalks with
  | here =>
      cases hTarget
      exact ⟨_, .here⟩
  | idle hIdle hRest ih =>
      rcases ih hTarget with ⟨left, hLeads⟩
      exact ⟨left, .idle hIdle hLeads⟩
  | up hRest ih =>
      rcases ih hTarget with ⟨left, hLeads⟩
      exact ⟨left, .up hLeads⟩
  | down hName hEntry hRest ih =>
      rcases ih hTarget with ⟨left, hLeads⟩
      exact ⟨left, .down hName hEntry hLeads⟩
  | jump hName hEntry hRest ih =>
      rcases ih hTarget with ⟨left, hLeads⟩
      exact ⟨left, .link hName hEntry hLeads⟩
  | link hName hEntry => cases hTarget
  | file hName hEntry => cases hTarget
  | absent hName hNone hSlashes => cases hTarget

end FileTree

end Componentry

------------------------------------------------------------
-- Laws of Leading
------------------------------------------------------------

namespace Componentry

namespace FileTree

variable {tree : FileTree}
variable {links left : Nat}
variable {here place : Place}
variable {first second steps : List String}

theorem Leads.idles
    {idles : List String}
    (hIdles : ∀ step ∈ idles, isIdle step = true)
    (hLeads : tree.Leads links here steps left place) :
    tree.Leads links here (idles ++ steps) left place := by
  induction idles with
  | nil => exact hLeads
  | cons idle idles ih =>
      rw [List.forall_mem_cons] at hIdles
      exact .idle hIdles.1 (ih hIdles.2)

/- Steps that differ in idle ones lead to the same place. -/
theorem Leads.of_filter
    (hLeads : tree.Leads links here first left place)
    (hSame :
      first.filter (!isIdle ·) = second.filter (!isIdle ·)) :
    tree.Leads links here second left place := by
  -- What comes first in one of them comes first in the other.
  have hSplit
      {step : String}
      {rest second : List String}
      (hStep : isIdle step = false)
      (hSame :
        (step :: rest).filter (!isIdle ·) =
          second.filter (!isIdle ·)) :
      ∃ idles others,
        second = idles ++ step :: others ∧
          (∀ idle ∈ idles, isIdle idle = true) ∧
          rest.filter (!isIdle ·) =
            others.filter (!isIdle ·) := by
    rw [List.filter_cons_of_pos (by simp [hStep])] at hSame
    rcases List.filter_eq_cons_iff.mp hSame.symm with
      ⟨idles, others, hSecond, hIdles, -, hOthers⟩
    refine ⟨idles, others, hSecond, ?_, hOthers.symm⟩
    intro idle hIdle
    simpa using hIdles idle hIdle
  induction hLeads generalizing second with
  | @here links here =>
      have hIdles : ∀ step ∈ second, isIdle step = true := by
        simpa using List.filter_eq_nil_iff.mp hSame.symm
      have hAll :
          tree.Leads links here (second ++ []) links here :=
        .idles hIdles .here
      rwa [List.append_nil] at hAll
  | idle hIdle hRest ih =>
      apply ih
      rw [← hSame, List.filter_cons_of_neg (by simp [hIdle])]
  | up hRest ih =>
      rcases hSplit (by decide) hSame with
        ⟨idles, others, hSecond, hIdles, hOthers⟩
      rw [hSecond]
      exact .idles hIdles (.up (ih hOthers))
  | down hName hEntry hRest ih =>
      rcases hSplit hName.not_idle hSame with
        ⟨idles, others, hSecond, hIdles, hOthers⟩
      rw [hSecond]
      exact .idles hIdles (.down hName hEntry (ih hOthers))
  | link hName hEntry hRest ih =>
      rcases hSplit hName.not_idle hSame with
        ⟨idles, others, hSecond, hIdles, hOthers⟩
      rw [hSecond]
      refine .idles hIdles (.link hName hEntry (ih ?_))
      rw [List.filter_append, List.filter_append, hOthers]

theorem leads_filter_iff :
    tree.Leads links here (steps.filter (!isIdle ·)) left
        place ↔
      tree.Leads links here steps left place := by
  have hSame :
      (steps.filter (!isIdle ·)).filter (!isIdle ·) =
        steps.filter (!isIdle ·) := by
    rw [List.filter_filter]
    simp
  constructor
  · intro hLeads
    exact hLeads.of_filter hSame
  · intro hLeads
    exact hLeads.of_filter hSame.symm

/- Steps behind others go on where those lead. -/
theorem Leads.append
    {further : Nat}
    {elsewhere : Place}
    (hFirst : tree.Leads links here first left place)
    (hSecond :
      tree.Leads left place second further elsewhere) :
    tree.Leads links here (first ++ second) further
      elsewhere := by
  induction hFirst with
  | here => exact hSecond
  | idle hIdle hRest ih => exact .idle hIdle (ih hSecond)
  | up hRest ih => exact .up (ih hSecond)
  | down hName hEntry hRest ih =>
      exact .down hName hEntry (ih hSecond)
  | link hName hEntry hRest ih =>
      refine .link hName hEntry ?_
      have hMore := ih hSecond
      rw [List.append_assoc] at hMore
      exact hMore

theorem leads_append_iff :
    tree.Leads links here (first ++ second) left place ↔
      ∃ between mid,
        tree.Leads links here first between mid ∧
          tree.Leads between mid second left place := by
  constructor
  · intro hLeads
    generalize hSteps : first ++ second = steps at hLeads
    induction hLeads generalizing first with
    | here =>
        rcases List.append_eq_nil_iff.mp hSteps with
          ⟨hFirst, hSecond⟩
        subst hFirst
        subst hSecond
        exact ⟨_, _, .here, .here⟩
    | idle hIdle hRest ih =>
        cases first with
        | nil =>
            subst hSteps
            exact ⟨_, _, .here, .idle hIdle hRest⟩
        | cons step first =>
            cases hSteps
            rcases ih rfl with ⟨between, mid, hFirst, hMore⟩
            exact ⟨between, mid, .idle hIdle hFirst, hMore⟩
    | up hRest ih =>
        cases first with
        | nil =>
            subst hSteps
            exact ⟨_, _, .here, .up hRest⟩
        | cons step first =>
            cases hSteps
            rcases ih rfl with ⟨between, mid, hFirst, hMore⟩
            exact ⟨between, mid, .up hFirst, hMore⟩
    | down hName hEntry hRest ih =>
        cases first with
        | nil =>
            subst hSteps
            exact ⟨_, _, .here, .down hName hEntry hRest⟩
        | cons step first =>
            cases hSteps
            rcases ih rfl with ⟨between, mid, hFirst, hMore⟩
            exact
              ⟨between, mid, .down hName hEntry hFirst, hMore⟩
    | link hName hEntry hRest ih =>
        cases first with
        | nil =>
            subst hSteps
            exact ⟨_, _, .here, .link hName hEntry hRest⟩
        | cons step first =>
            cases hSteps
            rcases ih (List.append_assoc _ _ _) with
              ⟨between, mid, hFirst, hMore⟩
            exact
              ⟨between, mid, .link hName hEntry hFirst, hMore⟩
  · intro hBoth
    rcases hBoth with ⟨between, mid, hFirst, hSecond⟩
    exact hFirst.append hSecond

/- The entries that a walk may pass. -/
def Entry.isWay : Entry → Bool
  | .file _ => false
  | .directory => true
  | .link _ => true

/- A tree with all these entries is walked as before. -/
theorem Leads.mono
    {after : FileTree}
    (hWays :
      ∀ place entry,
        entry.isWay = true →
          tree.entry? place = some entry →
            after.entry? place = some entry)
    (hLeads : tree.Leads links here steps left place) :
    after.Leads links here steps left place := by
  induction hLeads with
  | here => exact .here
  | idle hIdle hRest ih => exact .idle hIdle ih
  | up hRest ih => exact .up ih
  | down hName hEntry hRest ih =>
      exact .down hName (hWays _ _ rfl hEntry) ih
  | link hName hEntry hRest ih =>
      exact .link hName (hWays _ _ rfl hEntry) ih

end FileTree

end Componentry

------------------------------------------------------------
-- Where Paths Lead
------------------------------------------------------------

namespace Componentry

namespace FileTree

/- Where the walk of a path starts. -/
def start (tree : FileTree) (path : Path) : Place :=
  if path.isAbsolute then [] else tree.home

/-
  A path leads to a directory.  The empty path leads to the
  working directory, where paths start that are not absolute.
-/
structure LeadsTo
    (tree : FileTree)
    (path : Path)
    (place : Place) : Prop where
  usable : path.isUsable = true
  leads :
    ∃ left,
      tree.Leads linkLimit (tree.start path) path.moves left
        place

variable {tree : FileTree}
variable {path : Path}
variable {place : Place}

theorem leads_steps_iff
    {links left : Nat}
    {here : Place} :
    tree.Leads links here (steps path.text) left place ↔
      tree.Leads links here path.moves left place := by
  rw [← path.filter_steps, leads_filter_iff]

/- A path that has an answer can be used and is walked. -/
theorem locate_eq_ok_iff
    {follow : Bool}
    {target : Target} :
    tree.locate follow path = .ok target ↔
      path.text ≠ "" ∧
        path.isUsable = true ∧
        walk tree follow linkLimit (tree.start path)
            (steps path.text) =
          .ok target := by
  unfold locate
  by_cases hText : path.text = ""
  · rw [if_pos hText]
    simp [hText]
  · rw [if_neg hText]
    by_cases hUsable : path.isUsable = true
    · rw [if_pos hUsable]
      simp [hText, hUsable, start]
    · rw [if_neg hUsable]
      simp [hUsable]

/- A path leads to the directory that is found there. -/
theorem locate_eq_directory_iff
    (hText : path.text ≠ "") :
    tree.locate true path = .ok (.directory place) ↔
      tree.LeadsTo path place := by
  rw [locate_eq_ok_iff]
  constructor
  · intro hFound
    rcases hFound with ⟨-, hUsable, hWalk⟩
    rcases (walks_of_walk hWalk).exists_leads with
      ⟨left, hLeads⟩
    exact ⟨hUsable, left, leads_steps_iff.mp hLeads⟩
  · intro hThere
    rcases hThere.leads with ⟨left, hLeads⟩
    exact
      ⟨hText, hThere.usable,
        (leads_steps_iff.mpr hLeads).walk_all⟩

theorem directory?_eq_some_iff
    (hText : path.text ≠ "") :
    tree.directory? path = some place ↔
      tree.LeadsTo path place := by
  rw [← locate_eq_directory_iff hText]
  unfold directory?
  split
  · next found hFound => simp [hFound]
  · next hOther =>
      constructor
      · intro hNone
        cases hNone
      · intro hFound
        exact (hOther place hFound).elim

theorem leadsTo_of_empty
    (hText : path.text = "") :
    tree.LeadsTo path place ↔ place = tree.home := by
  rcases path with ⟨text⟩
  cases hText
  constructor
  · intro hThere
    rcases hThere.leads with ⟨left, hLeads⟩
    cases hLeads
    rfl
  · intro hPlace
    subst hPlace
    exact ⟨rfl, linkLimit, .here⟩

theorem LeadsTo.unique
    {other : Place}
    (hFirst : tree.LeadsTo path place)
    (hSecond : tree.LeadsTo path other) :
    place = other := by
  rcases hFirst.leads with ⟨left, hFirst⟩
  rcases hSecond.leads with ⟨further, hSecond⟩
  exact hFirst.unique hSecond

/- A tree with the same start leads as far by its entries. -/
theorem LeadsTo.mono
    {after : FileTree}
    (hHome : after.home = tree.home)
    (hWays :
      ∀ place entry,
        entry.isWay = true →
          tree.entry? place = some entry →
            after.entry? place = some entry)
    (hThere : tree.LeadsTo path place) :
    after.LeadsTo path place where
  usable := hThere.usable
  leads := by
    rcases hThere.leads with ⟨left, hLeads⟩
    have hStart : after.start path = tree.start path := by
      unfold start
      rw [hHome]
    refine ⟨left, ?_⟩
    rw [hStart]
    exact hLeads.mono hWays

end FileTree

end Componentry
