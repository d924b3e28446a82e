import Mathlib.Data.List.Nodup
import Componentry.Proofs.Answers

/-
  Calls of which some are refused.

  A collection is offered one item after the other.  Each call
  answers and leaves a collection behind; one that is refused
  leaves it as it was.  If an item is taken exactly when its
  key is new, and usable at all, then the items that are taken
  are the first ones with each key.

  Main declarations:
    * `attemptAll`, `accepted`, `KeepsRefused`
    * `KeepsRefused.attemptAll_leave_out`
    * `KeepsRefused.foldlM_accepted`
    * `firsts`, `mem_firsts_iff`, `nodup_map_firsts`
    * `TakesNew`
    * `TakesNew.has_attemptAll_iff`
    * `TakesNew.accepted_eq`
    * `KeepsFirsts`, `TakesNew.keepsFirsts`
    * `AppendsNew`, `AppendsNew.keepsFirsts`
-/

------------------------------------------------------------
-- Attempts
------------------------------------------------------------

namespace Componentry

variable {ε α σ : Type}

/-
  What is left behind by one call.  A call answers, and it
  leaves something behind even if it is refused.
-/
def attempt
    (step : σ → α → Except ε Unit × σ)
    (state : σ)
    (item : α) :
    σ :=
  (step state item).2

/- What is left behind by one call after the other. -/
def attemptAll
    (step : σ → α → Except ε Unit × σ)
    (state : σ)
    (items : List α) :
    σ :=
  items.foldl (attempt step) state

/- The items that are accepted, in order. -/
def accepted
    (step : σ → α → Except ε Unit × σ) :
    σ → List α → List α
  | _, [] => []
  | state, item :: rest =>
      match step state item with
      | (.ok (), next) => item :: accepted step next rest
      | (.error _, next) => accepted step next rest

variable {step : σ → α → Except ε Unit × σ}
variable {state next : σ}
variable {item : α}
variable {error : ε}

theorem attempt_of_eq
    {answer : Except ε Unit}
    (hStep : step state item = (answer, next)) :
    attempt step state item = next := by
  rw [attempt, hStep]

theorem attemptAll_cons
    (state : σ)
    (item : α)
    (items : List α) :
    attemptAll step state (item :: items) =
      attemptAll step (attempt step state item) items :=
  rfl

theorem attemptAll_append
    (state : σ)
    (first second : List α) :
    attemptAll step state (first ++ second) =
      attemptAll step (attemptAll step state first) second :=
  List.foldl_append

theorem accepted_of_ok
    (hStep : step state item = (.ok (), next))
    (items : List α) :
    accepted step state (item :: items) =
      item :: accepted step next items := by
  rw [accepted, hStep]

theorem accepted_of_error
    (hStep : step state item = (.error error, next))
    (items : List α) :
    accepted step state (item :: items) =
      accepted step next items := by
  rw [accepted, hStep]

/- Calls that are refused leave everything as it was. -/
def KeepsRefused (step : σ → α → Except ε Unit × σ) : Prop :=
  ∀ state item error next,
    step state item = (.error error, next) → next = state

namespace KeepsRefused

variable (hKeeps : KeepsRefused step)

include hKeeps

/- A refused item could as well have been left out. -/
theorem attemptAll_leave_out
    {before : List α}
    (hRefused :
      step (attemptAll step state before) item =
        (.error error, next))
    (after : List α) :
    attemptAll step state (before ++ item :: after) =
      attemptAll step state (before ++ after) := by
  rw [attemptAll_append, attemptAll_append, attemptAll_cons,
    attempt_of_eq hRefused, hKeeps _ _ _ _ hRefused]

/- The accepted items alone, in a chain that errors end. -/
theorem foldlM_accepted
    {chain : σ → α → Except ε σ}
    (hChain :
      ∀ state item next,
        step state item = (.ok (), next) →
          chain state item = .ok next)
    (state : σ)
    (items : List α) :
    (accepted step state items).foldlM chain state =
      .ok (attemptAll step state items) := by
  induction items generalizing state with
  | nil => rfl
  | cons item items ih =>
      rw [attemptAll_cons]
      rcases hStep : step state item with ⟨answer, next⟩
      rw [attempt_of_eq hStep]
      cases answer with
      | error error =>
          rw [accepted_of_error hStep,
            hKeeps _ _ _ _ hStep, ih]
      | ok =>
          rw [accepted_of_ok hStep]
          exact foldlM_cons_eq_ok (hChain _ _ _ hStep) (ih next)

end KeepsRefused

end Componentry

------------------------------------------------------------
-- First Occurrences
------------------------------------------------------------

namespace Componentry

variable {α κ : Type}
variable [DecidableEq κ]
variable {key : α → κ}

/- The first item with each key, in order. -/
def firsts
    (key : α → κ)
    (items : List α) :
    List α :=
  items.eraseDupsBy fun first second =>
    key first == key second

theorem firsts_nil : firsts key [] = [] :=
  rfl

/- What has the key of the first item is erased at once. -/
theorem firsts_cons_filter
    (item : α)
    (items : List α) :
    firsts key (item :: items) =
      item ::
        firsts key
          (items.filter fun other =>
            key other ≠ key item) := by
  simp [firsts, List.eraseDupsBy_cons]

/- Items that their keys tell apart may be dropped first. -/
theorem firsts_filter
    {keeps : α → Bool}
    (hKeys :
      ∀ item other,
        key item = key other → keeps item = keeps other)
    (items : List α) :
    firsts key (items.filter keeps) =
      (firsts key items).filter keeps := by
  match items with
  | [] => rfl
  | item :: items =>
      have hLater :=
        firsts_filter hKeys
          (items.filter fun other => key other ≠ key item)
      rw [firsts_cons_filter]
      cases hKeeps : keeps item with
      | true =>
          rw [List.filter_cons_of_pos hKeeps,
            List.filter_cons_of_pos hKeeps,
            firsts_cons_filter, ← hLater, List.filter_comm]
      | false =>
          -- Nothing with the key of this item is kept.
          have hDiffer :
              ∀ other ∈ items.filter keeps,
                (decide (key other ≠ key item)) = true := by
            intro other hOther
            rw [decide_eq_true_eq]
            intro hSame
            rw [List.mem_filter, hKeys other item hSame,
              hKeeps] at hOther
            cases hOther.2
          rw [List.filter_cons_of_neg (by simp [hKeeps]),
            List.filter_cons_of_neg (by simp [hKeeps]),
            ← hLater, List.filter_comm,
            List.filter_eq_self.mpr hDiffer]
termination_by items.length
decreasing_by
  exact Nat.lt_succ_of_le (List.length_filter_le _ _)

/- The first item comes first, and none later has its key. -/
theorem firsts_cons
    (item : α)
    (items : List α) :
    firsts key (item :: items) =
      item ::
        (firsts key items).filter fun other =>
          key other ≠ key item := by
  rw [firsts_cons_filter, firsts_filter]
  intro first second hSame
  rw [hSame]

/- No two of them have the same key. -/
theorem nodup_map_firsts
    (items : List α) :
    ((firsts key items).map key).Nodup := by
  induction items with
  | nil => exact List.nodup_nil
  | cons item items ih =>
      rw [firsts_cons, List.map_cons, List.nodup_cons]
      constructor
      · intro hMember
        rcases List.mem_map.mp hMember with
          ⟨other, hOther, hSame⟩
        rw [List.mem_filter, decide_eq_true_eq] at hOther
        exact hOther.2 hSame
      · exact ih.sublist (List.filter_sublist.map key)

/- Each of them stands behind items with other keys only. -/
theorem mem_firsts_iff
    {item : α}
    {items : List α} :
    item ∈ firsts key items ↔
      ∃ before after,
        items = before ++ item :: after ∧
          ∀ other ∈ before, key other ≠ key item := by
  induction items with
  | nil => simp [firsts_nil]
  | cons first items ih =>
      rw [firsts_cons, List.mem_cons, List.mem_filter,
        decide_eq_true_eq, ih]
      constructor
      · rintro (rfl |
          ⟨⟨before, after, rfl, hBefore⟩, hDiffers⟩)
        · exact ⟨[], items, rfl, by simp⟩
        · refine ⟨first :: before, after, rfl, ?_⟩
          rw [List.forall_mem_cons]
          exact ⟨hDiffers.symm, hBefore⟩
      · rintro ⟨before, after, hItems, hBefore⟩
        cases before with
        | nil =>
            cases hItems
            exact Or.inl rfl
        | cons _ before =>
            cases hItems
            rw [List.forall_mem_cons] at hBefore
            exact
              Or.inr
                ⟨⟨before, after, rfl, hBefore.2⟩,
                  hBefore.1.symm⟩

end Componentry

------------------------------------------------------------
-- Only New Items Are Taken
------------------------------------------------------------

namespace Componentry

variable {ε α σ κ : Type}
variable {step : σ → α → Except ε Unit × σ}
variable {key : α → κ}
variable {usable : α → Bool}
variable {has : σ → κ → Bool}

/-
  An item is refused if it is not usable, or if there is one
  with its key already; then nothing changes.  Otherwise its
  key is added.
-/
structure TakesNew
    (step : σ → α → Except ε Unit × σ)
    (key : α → κ)
    (usable : α → Bool)
    (has : σ → κ → Bool) : Prop where
  refuses :
    ∀ state item,
      (∃ error, (step state item).1 = .error error) ↔
        usable item = false ∨ has state (key item) = true
  keeps : KeepsRefused step
  adds :
    ∀ state item next,
      step state item = (.ok (), next) →
        ∀ other,
          has next other = true ↔
            has state other = true ∨ key item = other

namespace TakesNew

variable (hTakes : TakesNew step key usable has)

include hTakes

/- An item that is taken is usable, and its key is new. -/
theorem of_ok
    {state next : σ}
    {item : α}
    (hStep : step state item = (.ok (), next)) :
    usable item = true ∧ has state (key item) = false := by
  have hNotRefused :
      ¬∃ error, (step state item).1 = .error error := by
    rintro ⟨error, hError⟩
    rw [hStep] at hError
    cases hError
  rw [hTakes.refuses, not_or] at hNotRefused
  simpa using hNotRefused

/- The keys are those of the items that have been taken. -/
theorem has_attemptAll_iff
    {state : σ}
    {items : List α}
    {other : κ} :
    has (attemptAll step state items) other = true ↔
      has state other = true ∨
        ∃ item ∈ accepted step state items,
          key item = other := by
  induction items generalizing state with
  | nil => simp [attemptAll, accepted]
  | cons item items ih =>
      rw [attemptAll_cons, ih]
      rcases hStep : step state item with ⟨answer, next⟩
      rw [attempt_of_eq hStep]
      cases answer with
      | error error =>
          rw [accepted_of_error hStep,
            hTakes.keeps _ _ _ _ hStep]
      | ok =>
          rw [accepted_of_ok hStep, hTakes.adds _ _ _ hStep,
            List.exists_mem_cons_iff, or_assoc]

variable [DecidableEq κ]

/- The first items are taken, but for keys that are there. -/
theorem accepted_eq
    (state : σ)
    (items : List α) :
    accepted step state items =
      (firsts key (items.filter usable)).filter fun item =>
        !has state (key item) := by
  induction items generalizing state with
  | nil => rfl
  | cons item items ih =>
      rcases hStep : step state item with ⟨answer, next⟩
      cases answer with
      | error error =>
          rw [accepted_of_error hStep,
            hTakes.keeps _ _ _ _ hStep, ih]
          cases hUsable : usable item with
          | false =>
              rw [List.filter_cons_of_neg (by simp [hUsable])]
          | true =>
              have hRefused :=
                (hTakes.refuses state item).mp
                  ⟨error, congrArg Prod.fst hStep⟩
              have hThere : has state (key item) = true := by
                simpa [hUsable] using hRefused
              -- All items with its key are dropped anyway.
              rw [List.filter_cons_of_pos hUsable, firsts_cons,
                List.filter_cons_of_neg (by simp [hThere]),
                List.filter_filter]
              apply List.filter_congr
              intro other _
              by_cases hSame : key other = key item
              · simp [hSame, hThere]
              · simp [hSame]
      | ok =>
          -- From now on its key is one of those that are there.
          rcases hTakes.of_ok hStep with ⟨hUsable, hNew⟩
          rw [accepted_of_ok hStep, ih,
            List.filter_cons_of_pos hUsable, firsts_cons,
            List.filter_cons_of_pos (by simp [hNew]),
            List.filter_filter]
          congr 1
          apply List.filter_congr
          intro other _
          rw [Bool.eq_iff_iff, Bool.not_eq_true',
            ← Bool.not_eq_true, hTakes.adds _ _ _ hStep,
            eq_comm (a := key item)]
          simp

end TakesNew

/-
  Whatever is offered to a collection, it takes the first
  usable item with each key, and refuses all others.
-/
structure KeepsFirsts
    [DecidableEq κ]
    (step : σ → α → Except ε Unit × σ)
    (key : α → κ)
    (usable : α → Bool)
    (start : σ)
    (items : List α) : Prop where
  -- What is taken is told by the items alone.
  firsts :
    accepted step start items =
      firsts key (items.filter usable)
  -- Each of them stands behind items with other keys only.
  behind :
    ∀ item,
      item ∈ accepted step start items ↔
        ∃ before after,
          items.filter usable = before ++ item :: after ∧
            ∀ other ∈ before, key other ≠ key item
  -- No two of the items that are taken have the same key.
  distinct :
    ((accepted step start items).map key).Nodup
  -- An item is refused for itself or for an earlier one.
  refused :
    ∀ before item after,
      items = before ++ item :: after →
        ((∃ error,
            (step (attemptAll step start before) item).1 =
              .error error) ↔
          usable item = false ∨
            ∃ earlier ∈ accepted step start before,
              key earlier = key item)
  -- A call that is refused leaves everything as it was.
  unchanged :
    ∀ before item after error next,
      items = before ++ item :: after →
      step (attemptAll step start before) item =
          (.error error, next) →
        next = attemptAll step start before
  -- What is refused might as well not be offered.
  skipped :
    ∀ before item after error next,
      items = before ++ item :: after →
      step (attemptAll step start before) item =
          (.error error, next) →
        attemptAll step start items =
          attemptAll step start (before ++ after)

theorem TakesNew.keepsFirsts
    [DecidableEq κ]
    (hTakes : TakesNew step key usable has)
    {start : σ}
    (hStart : ∀ other, has start other = false)
    (items : List α) :
    KeepsFirsts step key usable start items := by
  have hFirsts :
      accepted step start items =
        firsts key (items.filter usable) := by
    rw [hTakes.accepted_eq, List.filter_eq_self]
    intro item _
    rw [hStart]
    rfl
  constructor
  case firsts => exact hFirsts
  case behind =>
    intro item
    rw [hFirsts, mem_firsts_iff]
  case distinct =>
    rw [hFirsts]
    exact nodup_map_firsts _
  case refused =>
    intro before item after _
    rw [hTakes.refuses, hTakes.has_attemptAll_iff, hStart]
    simp only [Bool.false_eq_true, false_or]
  case unchanged =>
    intro before item after error next _ hRefused
    exact hTakes.keeps _ _ _ _ hRefused
  case skipped =>
    rintro before item after error next rfl hRefused
    exact hTakes.keeps.attemptAll_leave_out hRefused after

end Componentry

------------------------------------------------------------
-- Lists of New Items
------------------------------------------------------------

namespace Componentry

variable {ε α σ κ : Type}
variable {step : σ → α → Except ε Unit × σ}
variable {key : α → κ}
variable {usable : α → Bool}
variable {kept : σ → List α}

/- Items with new keys are put behind those that are kept. -/
structure AppendsNew
    (step : σ → α → Except ε Unit × σ)
    (key : α → κ)
    (usable : α → Bool)
    (kept : σ → List α) : Prop where
  refuses :
    ∀ state item,
      (∃ error, (step state item).1 = .error error) ↔
        usable item = false ∨
          key item ∈ (kept state).map key
  keeps : KeepsRefused step
  appends :
    ∀ state item next,
      step state item = (.ok (), next) →
        kept next = kept state ++ [item]

namespace AppendsNew

variable (hAppends : AppendsNew step key usable kept)

include hAppends

/- All items that are accepted are kept, in order. -/
theorem kept_attemptAll
    (state : σ)
    (items : List α) :
    kept (attemptAll step state items) =
      kept state ++ accepted step state items := by
  induction items generalizing state with
  | nil => exact (List.append_nil _).symm
  | cons item items ih =>
      rw [attemptAll_cons, ih]
      rcases hStep : step state item with ⟨answer, next⟩
      rw [attempt_of_eq hStep]
      cases answer with
      | error error =>
          rw [accepted_of_error hStep,
            hAppends.keeps _ _ _ _ hStep]
      | ok =>
          rw [accepted_of_ok hStep,
            hAppends.appends _ _ _ hStep, List.append_assoc]
          rfl

variable [DecidableEq κ]

theorem takesNew :
    TakesNew step key usable fun state other =>
      decide (other ∈ (kept state).map key) where
  refuses := by
    intro state item
    rw [hAppends.refuses, decide_eq_true_eq]
  keeps := hAppends.keeps
  adds := by
    intro state item next hNext other
    rw [hAppends.appends _ _ _ hNext, decide_eq_true_eq,
      decide_eq_true_eq, List.map_append, List.mem_append,
      List.map_singleton, List.mem_singleton,
      eq_comm (a := other)]

theorem keepsFirsts
    {start : σ}
    (hStart : kept start = [])
    (items : List α) :
    KeepsFirsts step key usable start items := by
  apply hAppends.takesNew.keepsFirsts
  intro other
  rw [hStart]
  rfl

end AppendsNew

end Componentry
