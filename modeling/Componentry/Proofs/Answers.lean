import Mathlib.Data.List.Induction
import Mathlib.Data.List.Infix

/-
  Chains of answers that may be errors.

  A chain succeeds if every link does, and a fold over a list
  keeps what each of its steps keeps.

  Main declarations:
    * `toOption_eq_some_iff`
    * `mapError_eq_ok_iff`
    * `bind_eq_ok_iff`, `bind_check_eq_ok_iff`
    * `bind_eq_error_iff`, `bind_congr_of_ok`
    * `mem_of_mapM_eq_ok`
    * `mapM_eq_ok_iff`
    * `exists_split_cons_iff`, `mapM_eq_error_iff`
    * `exists_of_foldlM_eq_error`, `foldlM_invariant`
    * `faultOf`, `faultOf_bind`, `faultOf_bind_of_total`
    * `faultOf_foldlM`
-/

------------------------------------------------------------
-- One Answer
------------------------------------------------------------

namespace Componentry

variable {ε δ α β : Type}

/- The value of an answer is the one it succeeds with. -/
theorem toOption_eq_some_iff
    {answer : Except ε α}
    {value : α} :
    answer.toOption = some value ↔ answer = .ok value := by
  cases answer with
  | error error => simp [Except.toOption]
  | ok found => simp [Except.toOption]

/- Answers with other errors succeed when they do. -/
theorem mapError_eq_ok_iff
    {answer : Except ε α}
    {make : ε → δ}
    {value : α} :
    answer.mapError make = .ok value ↔ answer = .ok value := by
  cases answer with
  | error error => simp [Except.mapError]
  | ok found => simp [Except.mapError]

end Componentry

------------------------------------------------------------
-- Two Links
------------------------------------------------------------

namespace Componentry

variable {ε α β : Type}

/- A chain succeeds if both of its links do. -/
theorem bind_eq_ok_iff
    {first : Except ε α}
    {next : α → Except ε β}
    {result : β} :
    (first >>= next) = .ok result ↔
      ∃ value,
        first = .ok value ∧ next value = .ok result := by
  cases first with
  | error error => simp [bind, Except.bind]
  | ok value => simp [bind, Except.bind]

/- Two checks succeed, one behind the other, if both do. -/
theorem bind_check_eq_ok_iff
    {check : Except ε Unit}
    {next : Except ε β}
    {value : β} :
    (check >>= fun _ => next) = .ok value ↔
      check = .ok () ∧ next = .ok value := by
  cases check with
  | error error => simp [bind, Except.bind]
  | ok _ => simp [bind, Except.bind]

/- A chain fails at its first link or after it. -/
theorem bind_eq_error_iff
    {first : Except ε α}
    {next : α → Except ε β}
    {error : ε} :
    (first >>= next) = .error error ↔
      first = .error error ∨
        ∃ value,
          first = .ok value ∧ next value = .error error := by
  cases first with
  | error found => simp [bind, Except.bind]
  | ok value => simp [bind, Except.bind]

/- Chains are the same if they go on alike. -/
theorem bind_congr_of_ok
    {first : Except ε α}
    {next other : α → Except ε β}
    (hNext :
      ∀ value, first = .ok value → next value = other value) :
    (first >>= next) = first >>= other := by
  cases first with
  | error error => rfl
  | ok value => exact hNext value rfl

end Componentry

------------------------------------------------------------
-- Lists of Answers
------------------------------------------------------------

namespace Componentry

variable {ε α β : Type}

/- The results for a list are those of its items. -/
theorem mem_of_mapM_eq_ok
    {answer : α → Except ε β}
    {items : List α}
    {results : List β}
    (hResults : items.mapM answer = .ok results)
    {result : β} :
    result ∈ results ↔
      ∃ item ∈ items, answer item = .ok result := by
  induction items generalizing results with
  | nil =>
      cases hResults
      simp
  | cons item items ih =>
      simp only [List.mapM_cons, bind_eq_ok_iff] at hResults
      rcases hResults with
        ⟨first, hFirst, rest, hRest, hAll⟩
      cases hAll
      rw [List.mem_cons, List.exists_mem_cons_iff, ih hRest,
        hFirst, Except.ok.injEq, eq_comm]

/- A list succeeds if all of its items do. -/
theorem mapM_eq_ok_iff
    {answer : α → Except ε β}
    {accepted : α → Prop}
    {value : α → β}
    (hAnswer :
      ∀ item result,
        answer item = .ok result ↔
          accepted item ∧ result = value item)
    {items : List α}
    {results : List β} :
    items.mapM answer = .ok results ↔
      (∀ item ∈ items, accepted item) ∧
        results = items.map value := by
  induction items generalizing results with
  | nil => simp [pure, Except.pure, eq_comm]
  | cons item items ih =>
      simp only [List.mapM_cons, bind_eq_ok_iff, hAnswer, ih,
        List.forall_mem_cons, List.map_cons, pure,
        Except.pure, Except.ok.injEq]
      constructor
      · rintro ⟨_, ⟨hItem, rfl⟩, _, ⟨hItems, rfl⟩, rfl⟩
        exact ⟨⟨hItem, hItems⟩, rfl⟩
      · rintro ⟨⟨hItem, hItems⟩, rfl⟩
        exact ⟨_, ⟨hItem, rfl⟩, _, ⟨hItems, rfl⟩, rfl⟩

/- An item of a list is its head, or is found behind it. -/
theorem exists_split_cons_iff
    {first : α}
    {items : List α}
    {found : List α → α → Prop} :
    (∃ before item after,
        first :: items = before ++ item :: after ∧
          found before item) ↔
      found [] first ∨
        ∃ before item after,
          items = before ++ item :: after ∧
            found (first :: before) item := by
  constructor
  · rintro ⟨before, item, after, hItems, hFound⟩
    cases before with
    | nil =>
        cases hItems
        exact Or.inl hFound
    | cons _ before =>
        cases hItems
        exact Or.inr ⟨before, item, after, rfl, hFound⟩
  · rintro (hFound | ⟨before, item, after, rfl, hFound⟩)
    · exact ⟨[], first, items, rfl, hFound⟩
    · exact ⟨first :: before, item, after, rfl, hFound⟩

/- A list fails as its first item that does. -/
theorem mapM_eq_error_iff
    {answer : α → Except ε β}
    {items : List α}
    {error : ε} :
    items.mapM answer = .error error ↔
      ∃ before item after,
        items = before ++ item :: after ∧
          (∀ other ∈ before,
            ∃ result, answer other = .ok result) ∧
          answer item = .error error := by
  induction items with
  | nil => simp [pure, Except.pure]
  | cons item items ih =>
      rw [exists_split_cons_iff]
      simp only [List.mapM_cons, bind_eq_error_iff, ih, pure,
        Except.pure, reduceCtorEq, and_false, exists_false,
        or_false, List.not_mem_nil, false_imp_iff,
        implies_true, true_and, List.forall_mem_cons]
      constructor
      · rintro (hItem |
          ⟨result, hItem, before, other, after, hItems,
            hBefore, hOther⟩)
        · exact Or.inl hItem
        · exact
            Or.inr
              ⟨before, other, after, hItems,
                ⟨⟨result, hItem⟩, hBefore⟩, hOther⟩
      · rintro (hItem |
          ⟨before, other, after, hItems,
            ⟨⟨result, hItem⟩, hBefore⟩, hOther⟩)
        · exact Or.inl hItem
        · exact
            Or.inr
              ⟨result, hItem, before, other, after, hItems,
                hBefore, hOther⟩

end Componentry

------------------------------------------------------------
-- Folds
------------------------------------------------------------

namespace Componentry

variable {ε α σ : Type}

/- A fold goes on from where its first step leads. -/
theorem foldlM_cons_eq_ok
    {step : σ → α → Except ε σ}
    {item : α}
    {items : List α}
    {start next finish : σ}
    (hFirst : step start item = .ok next)
    (hRest : items.foldlM step next = .ok finish) :
    (item :: items).foldlM step start = .ok finish := by
  rw [List.foldlM_cons, bind_eq_ok_iff]
  exact ⟨next, hFirst, hRest⟩

/- A fold that fails does so at one of its items. -/
theorem exists_of_foldlM_eq_error
    {step : σ → α → Except ε σ}
    {items : List α}
    {start : σ}
    {error : ε}
    (hFold : items.foldlM step start = .error error) :
    ∃ item ∈ items, ∃ state, step state item = .error error := by
  induction items generalizing start with
  | nil => cases hFold
  | cons item items ih =>
      rw [List.foldlM_cons, bind_eq_error_iff] at hFold
      rcases hFold with hFirst | ⟨next, -, hRest⟩
      · exact ⟨item, List.mem_cons_self, start, hFirst⟩
      · rcases ih hRest with ⟨later, hLater, hStep⟩
        exact ⟨later, List.mem_cons_of_mem _ hLater, hStep⟩

/-
  What holds at the start and is kept by every step, told of
  the items done so far, holds of all items at the end.
-/
theorem foldlM_invariant
    {step : σ → α → Except ε σ}
    {items : List α}
    {start finish : σ}
    (Inv : List α → σ → Prop)
    (hStart : Inv [] start)
    (hStep :
      ∀ done item state next,
        done ++ [item] <+: items →
        Inv done state →
        step state item = .ok next →
        Inv (done ++ [item]) next)
    (hFold : items.foldlM step start = .ok finish) :
    Inv items finish := by
  induction items using List.reverseRecOn
    generalizing finish with
  | nil =>
      have hFinish : start = finish := by
        simpa [pure, Except.pure] using hFold
      exact hFinish ▸ hStart
  | append_singleton items item ih =>
      rw [List.foldlM_append, bind_eq_ok_iff] at hFold
      rcases hFold with ⟨state, hItems, hItem⟩
      have hLast : step state item = .ok finish := by
        simpa [List.foldlM_cons] using hItem
      refine
        hStep items item state finish (List.prefix_refl _)
          (ih ?_ hItems) hLast
      intro done next state' finish' hDone
      exact
        hStep done next state' finish'
          (hDone.trans (List.prefix_append _ _))

end Componentry

------------------------------------------------------------
-- Faults
------------------------------------------------------------

namespace Componentry

variable {ε α β σ : Type}

/- The error of an answer, if it is one. -/
def faultOf (answer : Except ε α) : Option ε :=
  match answer with
  | .ok _ => none
  | .error error => some error

@[simp] theorem faultOf_ok (value : α) :
    faultOf (.ok value : Except ε α) = none :=
  rfl

@[simp] theorem faultOf_error (error : ε) :
    faultOf (.error error : Except ε α) = some error :=
  rfl

theorem faultOf_eq_some_iff
    {answer : Except ε α}
    {error : ε} :
    faultOf answer = some error ↔ answer = .error error := by
  cases answer with
  | ok value => simp
  | error found => simp

theorem faultOf_eq_none_iff
    {answer : Except ε α} :
    faultOf answer = none ↔ ∃ value, answer = .ok value := by
  cases answer with
  | ok value => simp
  | error found => simp

/-
  The fault of a chain is that of its first link, or else the
  one that comes later whatever the first link gives.
-/
theorem faultOf_bind
    {first : Except ε α}
    {next : α → Except ε β}
    {later : Option ε}
    (hNext :
      ∀ value,
        first = .ok value → faultOf (next value) = later) :
    faultOf (first >>= next) = (faultOf first).or later := by
  cases hFirst : first with
  | error error => rfl
  | ok value => exact hNext value hFirst

/- A chain fails as its first link if nothing fails later. -/
theorem faultOf_bind_of_total
    {first : Except ε α}
    {next : α → Except ε β}
    (hTotal : ∀ value, faultOf (next value) = none) :
    faultOf (first >>= next) = faultOf first := by
  rw [faultOf_bind fun value _ => hTotal value,
    Option.or_none]

/-
  A fold fails with the first fault of its items, if what a
  step fails with depends on the item alone.
-/
theorem faultOf_foldlM
    {step : σ → α → Except ε σ}
    {fault : α → Option ε}
    {items : List α}
    {start : σ}
    (Inv : σ → Prop)
    (hStart : Inv start)
    (hFault :
      ∀ state item,
        Inv state → faultOf (step state item) = fault item)
    (hKeep :
      ∀ state item next,
        Inv state → step state item = .ok next → Inv next) :
    faultOf (items.foldlM step start) =
      items.findSome? fault := by
  induction items generalizing start with
  | nil => rfl
  | cons item items ih =>
      have hRest :
          ∀ next, step start item = .ok next →
            faultOf (items.foldlM step next) =
              items.findSome? fault := by
        intro next hNext
        exact ih (hKeep start item next hStart hNext)
      rw [List.foldlM_cons, faultOf_bind hRest,
        hFault start item hStart, List.findSome?_cons]
      cases fault item <;> rfl

end Componentry
