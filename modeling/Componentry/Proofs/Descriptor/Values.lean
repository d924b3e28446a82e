import Mathlib.Data.List.TakeDrop
import Componentry.Descriptor.Parser
import Componentry.Proofs.Text.Runs

/-
  Values read once.

  A value is made of parts, found from left to right: a
  doubled dollar sign, a reference, or a character that is
  copied.  What a reference stands for is not read again.  A
  value without the mark stands for the same text when it is
  expanded in three passes.

  Main declarations:
    * `ValuePart`, `parts`
    * `evaluate`
    * `parts_dollar`, `parts_reference`, `parts_copied`
    * `expand_eq_evaluate`
-/

------------------------------------------------------------
-- Parts
------------------------------------------------------------

namespace Componentry

namespace Descriptor

/- What a value is made of. -/
inductive ValuePart where
  | copied (c : Char)
  | dollar
  | reference (name : String)
deriving DecidableEq, Repr

theorem length_of_span
    {p : Char → Bool}
    {cs before rest : List Char}
    (h : cs.span p = (before, rest)) :
    rest.length ≤ cs.length := by
  rw [List.span_eq_takeWhile_dropWhile, Prod.mk.injEq] at h
  rw [← h.2]
  exact (List.dropWhile_sublist p).length_le

/-
  The parts of a value.  The name of a reference is what
  stands between braces behind a dollar sign.
-/
def parts (cs : List Char) : List ValuePart :=
  match cs with
  | [] => []
  | '$' :: '$' :: rest => .dollar :: parts rest
  | '$' :: '\x7b' :: rest =>
      match h : rest.span isReferenceChar with
      | (c :: name, '\x7d' :: after) =>
          have := length_of_span h
          .reference (String.ofList (c :: name))
            :: parts after
      | _ => .copied '$' :: parts ('\x7b' :: rest)
  | c :: rest => .copied c :: parts rest
termination_by cs.length
decreasing_by
  all_goals
    simp_all only [List.length_cons]
    omega

namespace ValuePart

variable (lookup : String → Option String)

/- What a part stands for. -/
def value : ValuePart → List Char
  | copied c => [c]
  | dollar => ['$']
  | reference name => ((lookup name).getD "").toList

/- The variable of a part that has no value. -/
def undefined? : ValuePart → Option String
  | copied _ => none
  | dollar => none
  | reference name =>
      match lookup name with
      | some _ => none
      | none => some name

end ValuePart

/-
  What parts stand for, or the first variable that has no
  value.
-/
def evaluateParts
    (lookup : String → Option String)
    (found : List ValuePart) :
    Except String (List Char) :=
  match found.findSome? (ValuePart.undefined? lookup) with
  | some name => .error name
  | none => .ok (found.flatMap (ValuePart.value lookup))

/- What a value stands for. -/
def evaluate
    (lookup : String → Option String)
    (cs : List Char) :
    Except String String :=
  (evaluateParts lookup (parts cs)).map String.ofList

end Descriptor

end Componentry

------------------------------------------------------------
-- Parts from the Left
------------------------------------------------------------

namespace Componentry

namespace Descriptor

theorem parts_nil : parts [] = [] := by
  rw [parts]

theorem parts_dollar (rest : List Char) :
    parts ('$' :: '$' :: rest) = .dollar :: parts rest := by
  rw [parts]

/- A name in front of a closing brace, and what follows. -/
def IsReference
    (cs name after : List Char) : Prop :=
  cs = name ++ '\x7d' :: after ∧
    name ≠ [] ∧ ∀ c ∈ name, isReferenceChar c = true

/- The name is all that may stand in a reference. -/
theorem isReference_iff_span
    {cs name after : List Char} :
    IsReference cs name after ↔
      cs.span isReferenceChar = (name, '\x7d' :: after) ∧
        name ≠ [] := by
  rw [List.span_eq_takeWhile_dropWhile, Prod.mk.injEq]
  constructor
  · rintro ⟨hText, hSome, hName⟩
    have hStop :
        Text.StopsAt isReferenceChar ('\x7d' :: after) :=
      Text.stopsAt_cons (by decide)
    rw [hText, Text.takeWhile_run hName hStop,
      Text.dropWhile_run hName hStop]
    exact ⟨⟨rfl, rfl⟩, hSome⟩
  · rintro ⟨⟨hName, hRest⟩, hSome⟩
    have hText :=
      List.takeWhile_append_dropWhile
        (p := isReferenceChar) (l := cs)
    rw [hName, hRest] at hText
    refine ⟨hText.symm, hSome, ?_⟩
    rw [← hName]
    exact List.all_eq_true.mp List.all_takeWhile

theorem parts_reference
    {rest name after : List Char}
    (hReference : IsReference rest name after) :
    parts ('$' :: '\x7b' :: rest) =
      .reference (String.ofList name) :: parts after := by
  rcases isReference_iff_span.mp hReference with
    ⟨hSpan, hSome⟩
  rcases List.exists_cons_of_ne_nil hSome with
    ⟨c, tail, hName⟩
  rw [hName] at hSpan
  rw [parts]
  split
  · next d other rest hOther =>
      rw [hSpan] at hOther
      cases hOther
      rw [hName]
  · next hNone => exact absurd hSpan (hNone c tail after)

/-
  A character starts a part of more than one if it is a dollar
  sign in front of another or of a reference.
-/
def StartsPart (c : Char) (rest : List Char) : Prop :=
  c = '$' ∧
    ((∃ tail, rest = '$' :: tail) ∨
      ∃ tail name after,
        rest = '\x7b' :: tail ∧ IsReference tail name after)

/- Any other character is copied. -/
theorem parts_copied
    {c : Char}
    {rest : List Char}
    (hCopied : ¬ StartsPart c rest) :
    parts (c :: rest) = .copied c :: parts rest := by
  rw [parts.eq_def]
  split
  · next hNil => cases hNil
  · next tail hHere =>
      cases hHere
      exact absurd ⟨rfl, Or.inl ⟨tail, rfl⟩⟩ hCopied
  · next tail hHere =>
      cases hHere
      split
      · next d name after hSpan =>
          have hReference : IsReference tail (d :: name) after :=
            isReference_iff_span.mpr ⟨hSpan, by simp⟩
          exact
            absurd
              ⟨rfl, Or.inr ⟨tail, _, after, rfl, hReference⟩⟩
              hCopied
      · rfl
  · next d tail hNot hOther hHere =>
      cases hHere
      rfl

/- What holds of a text part by part holds of it. -/
theorem parts_induction
    {P : List Char → Prop}
    (nil : P [])
    (dollar : ∀ rest, P rest → P ('$' :: '$' :: rest))
    (reference :
      ∀ rest name after,
        IsReference rest name after →
          P after → P ('$' :: '\x7b' :: rest))
    (copied :
      ∀ c rest,
        ¬ StartsPart c rest → P rest → P (c :: rest))
    (cs : List Char) :
    P cs := by
  induction hLength : cs.length using
    Nat.strong_induction_on generalizing cs with
  | h length ih =>
      subst hLength
      cases cs with
      | nil => exact nil
      | cons c rest =>
          by_cases hStarts : StartsPart c rest
          · rcases hStarts with
              ⟨rfl, ⟨tail, rfl⟩ |
                ⟨tail, name, after, rfl, hReference⟩⟩
            · have hLess :
                  tail.length < ('$' :: '$' :: tail).length := by
                simp only [List.length_cons]
                omega
              exact dollar tail (ih _ hLess tail rfl)
            · have hLess :
                  after.length <
                    ('$' :: '\x7b' :: tail).length := by
                rw [hReference.1]
                simp only [List.length_cons,
                  List.length_append]
                omega
              exact
                reference tail name after hReference
                  (ih _ hLess after rfl)
          · exact
              copied c rest hStarts (ih _ (by simp) rest rfl)

end Descriptor

end Componentry

------------------------------------------------------------
-- Parts One by One
------------------------------------------------------------

namespace Componentry

namespace Descriptor

variable {lookup : String → Option String}

/- Parts are evaluated from left to right. -/
theorem evaluateParts_cons
    (part : ValuePart)
    (rest : List ValuePart) :
    evaluateParts lookup (part :: rest) =
      match part.undefined? lookup with
      | some name => .error name
      | none =>
          (evaluateParts lookup rest).map
            (part.value lookup ++ ·) := by
  unfold evaluateParts
  rw [List.findSome?_cons]
  cases part.undefined? lookup with
  | some name => rfl
  | none =>
      dsimp only
      cases rest.findSome? (ValuePart.undefined? lookup) with
      | some name => rfl
      | none => rfl

end Descriptor

end Componentry

------------------------------------------------------------
-- Three Passes
------------------------------------------------------------

namespace Componentry

namespace Descriptor

variable {defined : Fields}
variable {c : Char}
variable {cs rest name after : List Char}

/- A single character is not marked. -/
theorem markDollars_copied
    (hCopied : ¬ (c = '$' ∧ ∃ tail, rest = '$' :: tail)) :
    markDollars (c :: rest) = c :: markDollars rest := by
  rw [markDollars.eq_def]
  split
  · next tail hHere =>
      cases hHere
      exact absurd ⟨rfl, tail, rfl⟩ hCopied
  · next d tail hNot hHere =>
      cases hHere
      rfl
  · next hNil => cases hNil

/- What has no dollar sign is left as it is. -/
theorem markDollars_append
    (hName : ∀ c ∈ name, c ≠ '$')
    (rest : List Char) :
    markDollars (name ++ rest) = name ++ markDollars rest := by
  induction name with
  | nil => rfl
  | cons c name ih =>
      rw [List.forall_mem_cons] at hName
      rw [List.cons_append,
        markDollars_copied fun hDollar => hName.1 hDollar.1,
        ih hName.2]
      rfl

/- What is not a mark afterwards was there before. -/
theorem exists_of_markDollars_eq_cons
    (hMarked : markDollars cs = c :: rest)
    (hMark : c ≠ mark) :
    ∃ tail, cs = c :: tail ∧ markDollars tail = rest := by
  rw [markDollars.eq_def] at hMarked
  split at hMarked
  · next tail =>
      cases hMarked
      exact absurd rfl hMark
  · next d tail hNot =>
      cases hMarked
      exact ⟨tail, rfl, rfl⟩
  · cases hMarked

theorem ne_of_isReferenceChar
    {other : Char}
    (hChar : isReferenceChar c = true)
    (hOther : isReferenceChar other = false) :
    c ≠ other := by
  rintro rfl
  rw [hChar] at hOther
  cases hOther

/- A reference is still there when dollars are marked. -/
theorem isReference_markDollars
    (hReference : IsReference cs name after) :
    IsReference (markDollars cs) name
      (markDollars after) := by
  rcases hReference with ⟨hText, hSome, hName⟩
  have hBrace :
      markDollars ('\x7d' :: after) =
        '\x7d' :: markDollars after :=
    markDollars_copied (by simp)
  refine ⟨?_, hSome, hName⟩
  rw [hText, markDollars_append, hBrace]
  intro c hMember
  exact ne_of_isReferenceChar (hName c hMember) (by decide)

/- No reference comes about by marking. -/
theorem exists_isReference_of_markDollars
    (hReference : IsReference (markDollars cs) name after) :
    ∃ tail, IsReference cs name tail := by
  rcases hReference with ⟨hText, hSome, hName⟩
  have hRest :
      ∃ tail, cs = name ++ '\x7d' :: tail := by
    clear hSome
    induction name generalizing cs with
    | nil =>
        rcases exists_of_markDollars_eq_cons hText
            (by decide) with
          ⟨tail, hTail, -⟩
        exact ⟨tail, hTail⟩
    | cons c name ih =>
        rw [List.forall_mem_cons] at hName
        rcases exists_of_markDollars_eq_cons hText
            (ne_of_isReferenceChar hName.1 (by decide)) with
          ⟨rest, hFirst, hMarked⟩
        rcases ih hMarked hName.2 with ⟨tail, hTail⟩
        exact ⟨tail, by rw [hFirst, hTail]; rfl⟩
  rcases hRest with ⟨tail, hTail⟩
  exact ⟨tail, hTail, hSome, hName⟩

/- References are found by the name and the brace. -/
theorem reference?_eq_some_iff :
    reference? cs = some (name, after) ↔
      IsReference cs name after := by
  rw [isReference_iff_span,
    List.span_eq_takeWhile_dropWhile, Prod.mk.injEq]
  unfold reference?
  cases hName : cs.takeWhile isReferenceChar with
  | nil =>
      simp only [reduceCtorEq, false_iff]
      rintro ⟨⟨rfl, -⟩, hSome⟩
      exact hSome rfl
  | cons c tail =>
      split
      · next d found rest hFound hRest =>
          cases hFound
          rw [hRest]
          simp only [Option.some.injEq, Prod.mk.injEq,
            List.cons.injEq, true_and]
          constructor
          · rintro ⟨rfl, rfl⟩
            exact ⟨⟨rfl, rfl⟩, by simp⟩
          · rintro ⟨⟨rfl, rfl⟩, -⟩
            exact ⟨rfl, rfl⟩
      · next hNone =>
          simp only [reduceCtorEq, false_iff]
          rintro ⟨⟨-, hRest⟩, -⟩
          exact hNone _ _ _ rfl hRest

theorem substitute_nil :
    substitute defined [] = .ok [] := by
  rw [substitute]

/- A reference gives way to the value of its variable. -/
theorem substitute_reference
    (hReference : IsReference rest name after) :
    substitute defined ('$' :: '\x7b' :: rest) =
      match defined[String.ofList name]? with
      | none => .error (String.ofList name)
      | some value =>
          (substitute defined after).map
            (value.toList ++ ·) := by
  have hFound := reference?_eq_some_iff.mpr hReference
  rw [substitute]
  split
  · next other tail hOther =>
      rw [hFound] at hOther
      cases hOther
      cases defined[String.ofList name]? with
      | none => rfl
      | some value => rfl
  · next hNone =>
      rw [hFound] at hNone
      cases hNone

/- Any other character stays. -/
theorem substitute_copied
    (hCopied :
      ¬ (c = '$' ∧
        ∃ tail name after,
          rest = '\x7b' :: tail ∧
            IsReference tail name after)) :
    substitute defined (c :: rest) =
      (substitute defined rest).map (c :: ·) := by
  rw [substitute.eq_def]
  split
  · next hNil => cases hNil
  · next tail hHere =>
      cases hHere
      split
      · next name after hFound =>
          exact
            absurd
              ⟨rfl, tail, name, after, rfl,
                reference?_eq_some_iff.mp hFound⟩
              hCopied
      · have hBrace :
            substitute defined ('\x7b' :: tail) =
              (substitute defined tail).map
                ('\x7b' :: ·) := by
          rw [substitute.eq_def]
          rfl
        rw [hBrace]
        cases substitute defined tail with
        | error name => rfl
        | ok found => rfl
  · next d tail hNot hHere =>
      cases hHere
      cases substitute defined rest with
      | error name => rfl
      | ok found => rfl

/- A text without dollar signs has no references. -/
theorem substitute_plain
    (hPlain : '$' ∉ cs) :
    substitute defined cs = .ok cs := by
  induction cs with
  | nil => exact substitute_nil
  | cons c cs ih =>
      rw [List.mem_cons, not_or] at hPlain
      rw [substitute_copied fun hDollar =>
          hPlain.1 hDollar.1.symm,
        ih hPlain.2]
      rfl

end Descriptor

end Componentry

------------------------------------------------------------
-- One Pass
------------------------------------------------------------

namespace Componentry

namespace Descriptor

variable {defined : Fields}
variable {cs first second : List Char}

/- What has no mark is not changed back. -/
theorem restoreDollars_append
    (hFirst : mark ∉ first)
    (second : List Char) :
    restoreDollars (first ++ second) =
      first ++ restoreDollars second := by
  unfold restoreDollars
  rw [List.map_append]
  congr 1
  rw [List.map_congr_left (g := id), List.map_id]
  intro c hMember
  apply if_neg
  rintro rfl
  exact hFirst hMember

theorem restoreDollars_unmarked
    (hPlain : mark ∉ cs) :
    restoreDollars cs = cs := by
  have hAppend := restoreDollars_append hPlain []
  rw [List.append_nil] at hAppend
  exact hAppend.trans (List.append_nil cs)

/- All marks are changed back. -/
theorem mark_not_mem_restoreDollars
    (cs : List Char) :
    mark ∉ restoreDollars cs := by
  rw [restoreDollars, List.mem_map]
  rintro ⟨c, -, hMark⟩
  split at hMark
  · revert hMark
    decide
  · next hOther => exact hOther hMark

/- Answers are changed one after the other. -/
theorem map_map_restoreDollars
    (answer : Except String (List Char))
    (hFirst : mark ∉ first) :
    (answer.map (first ++ ·)).map restoreDollars =
      (answer.map restoreDollars).map (first ++ ·) := by
  cases answer with
  | error name => rfl
  | ok found =>
      exact congrArg Except.ok (restoreDollars_append hFirst found)

/-
  A value without the mark, and with variables without it, is
  expanded in three passes to what its parts stand for.
-/
theorem substitute_markDollars
    (hPlain : mark ∉ cs)
    (hValues :
      ∀ (name value : String),
        defined[name]? = some value → mark ∉ value.toList) :
    (substitute defined (markDollars cs)).map
        restoreDollars =
      evaluateParts (defined[·]?) (parts cs) := by
  induction cs using parts_induction with
  | nil =>
      rw [parts_nil, markDollars, substitute_nil]
      rfl
  | dollar rest ih =>
      have hRest : mark ∉ rest := by
        intro hMark
        exact hPlain (by simp [hMark])
      rw [parts_dollar, evaluateParts_cons, ← ih hRest,
        markDollars,
        substitute_copied fun hDollar =>
          absurd hDollar.1 (by decide)]
      cases substitute defined (markDollars rest) with
      | error name => rfl
      | ok found => rfl
  | reference rest name after hReference ih =>
      have hAfter : mark ∉ after := by
        intro hMark
        exact hPlain (by simp [hReference.1, hMark])
      have hOpening :
          markDollars ('$' :: '\x7b' :: rest) =
            '$' :: '\x7b' :: markDollars rest := by
        rw [markDollars_copied (by simp),
          markDollars_copied (by simp)]
      rw [parts_reference hReference, evaluateParts_cons,
        ← ih hAfter, hOpening,
        substitute_reference
          (isReference_markDollars hReference)]
      cases hValue : defined[String.ofList name]? with
      | none => simp only [ValuePart.undefined?, hValue]; rfl
      | some value =>
          simp only [ValuePart.undefined?, ValuePart.value,
            hValue, Option.getD_some]
          exact
            map_map_restoreDollars _ (hValues _ value hValue)
  | copied c rest hCopied ih =>
      rw [List.mem_cons, not_or] at hPlain
      have hSingle :
          ¬ (c = '$' ∧ ∃ tail, rest = '$' :: tail) :=
        fun hDollar => hCopied ⟨hDollar.1, Or.inl hDollar.2⟩
      have hStays :
          ¬ (c = '$' ∧
            ∃ tail name after,
              markDollars rest = '\x7b' :: tail ∧
                IsReference tail name after) := by
        rintro ⟨hDollar, tail, name, after, hMarked,
          hReference⟩
        rcases exists_of_markDollars_eq_cons hMarked
            (by decide) with
          ⟨other, hRest, hOther⟩
        rw [← hOther] at hReference
        rcases exists_isReference_of_markDollars hReference
          with ⟨behind, hBehind⟩
        exact
          hCopied
            ⟨hDollar,
              Or.inr ⟨other, name, behind, hRest, hBehind⟩⟩
      have hChar : mark ∉ [c] := by
        rw [List.mem_singleton]
        exact hPlain.1
      rw [parts_copied hCopied, evaluateParts_cons,
        ← ih hPlain.2, markDollars_copied hSingle,
        substitute_copied hStays]
      exact map_map_restoreDollars _ hChar

/- So a value is expanded to what it stands for. -/
theorem expand_eq_evaluate
    (hPlain : mark ∉ cs)
    (hValues :
      ∀ (name value : String),
        defined[name]? = some value → mark ∉ value.toList) :
    expand defined cs = evaluate (defined[·]?) cs := by
  unfold expand evaluate
  rw [← substitute_markDollars hPlain hValues]
  cases substitute defined (markDollars cs) with
  | error name => rfl
  | ok found => rfl

/- Dollar signs that touch references. -/
example :
    evaluate
        (fun name => if name = "a" then some "$\x7ba\x7d" else none)
        "$$$$$\x7ba\x7d$\x7ba$$\x7d".toList =
      .ok "$$$\x7ba\x7d$\x7ba$\x7d" := by
  cbv

/- What is copied is part of the value. -/
theorem mem_of_copied_mem_parts
    {c : Char}
    (hCopied : .copied c ∈ parts cs) :
    c ∈ cs := by
  induction cs using parts_induction with
  | nil =>
      rw [parts_nil] at hCopied
      cases hCopied
  | dollar rest ih =>
      rw [parts_dollar, List.mem_cons] at hCopied
      rcases hCopied with hDollar | hRest
      · cases hDollar
      · simp [ih hRest]
  | reference rest name after hReference ih =>
      rw [parts_reference hReference, List.mem_cons]
        at hCopied
      rcases hCopied with hName | hAfter
      · cases hName
      · simp [hReference.1, ih hAfter]
  | copied d rest hOther ih =>
      rw [parts_copied hOther, List.mem_cons] at hCopied
      rcases hCopied with hHere | hRest
      · cases hHere
        exact List.mem_cons_self
      · exact List.mem_cons_of_mem d (ih hRest)

/- No mark comes about by evaluation. -/
theorem mark_not_mem_evaluate
    {lookup : String → Option String}
    {result : String}
    (hPlain : mark ∉ cs)
    (hValues :
      ∀ (name value : String),
        lookup name = some value → mark ∉ value.toList)
    (hResult : evaluate lookup cs = .ok result) :
    mark ∉ result.toList := by
  have hParts :
      ∀ part ∈ parts cs, mark ∉ part.value lookup := by
    intro part hPart
    cases part with
    | copied c =>
        rw [ValuePart.value, List.mem_singleton]
        rintro rfl
        exact hPlain (mem_of_copied_mem_parts hPart)
    | dollar =>
        rw [ValuePart.value]
        decide
    | reference name =>
        rw [ValuePart.value]
        cases hValue : lookup name with
        | none => simp
        | some value => exact hValues name value hValue
  unfold evaluate evaluateParts at hResult
  split at hResult
  · cases hResult
  · cases hResult
    rw [String.toList_ofList, List.mem_flatMap]
    rintro ⟨part, hPart, hMark⟩
    exact hParts part hPart hMark

end Descriptor

end Componentry
