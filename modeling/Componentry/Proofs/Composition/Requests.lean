import Mathlib.Data.List.Sort
import Componentry.Proofs.ByteOrder
import Componentry.Proofs.Composition.Registrations

/-
  Initializers that are asked for.

  A request is a list of names, yet only the set of them
  counts: what is selected follows the order of registration,
  and names that are not registered are told in their own
  order.  Lists that increase are the same if they have the
  same members, so requests with the same names get the same
  answer, be it a composition or an error.

  Main declarations:
    * `InitializerRegistry.mem_sortNames_iff`
    * `InitializerRegistry.pairwise_sortNames`
    * `InitializerRegistry.compose_congr`
    * `InitializerRegistry.initializers_of_compose`
    * `InitializerRegistry.IsMade.nodup_names`
    * `InitializerRegistry.DependsOnNames`
    * `InitializerRegistry.IsMade.dependsOnNames`
-/

------------------------------------------------------------
-- Names in Order
------------------------------------------------------------

namespace Componentry

/- Names in order increase once none is repeated. -/
theorem pairwise_eraseDups
    (names : List String)
    (hSorted : names.Pairwise (· ≤ ·)) :
    names.eraseDups.Pairwise (· < ·) := by
  match names with
  | [] => exact List.Pairwise.nil
  | name :: names =>
      rw [List.pairwise_cons] at hSorted
      rw [List.eraseDups_cons, List.pairwise_cons]
      constructor
      · intro other hOther
        rw [List.mem_eraseDups, List.mem_filter] at hOther
        rcases hOther with ⟨hMember, hDiffers⟩
        apply Std.lt_of_le_of_ne (hSorted.1 other hMember)
        rintro rfl
        simp at hDiffers
      · exact pairwise_eraseDups _ (hSorted.2.filter _)
termination_by names.length
decreasing_by
  exact Nat.lt_succ_of_le (List.length_filter_le _ _)

namespace InitializerRegistry

variable {names others : List String}

/- Sorting keeps the names that there are. -/
theorem mem_sortNames_iff
    {name : String} :
    name ∈ sortNames names ↔ name ∈ names := by
  rw [sortNames, List.mem_eraseDups, List.mem_mergeSort]

/- Sorted names increase, so none occurs twice. -/
theorem pairwise_sortNames
    (names : List String) :
    (sortNames names).Pairwise (· < ·) := by
  have hSorted :
      (names.mergeSort fun a b => decide (a ≤ b)).Pairwise
        fun a b => decide (a ≤ b) = true := by
    apply List.pairwise_mergeSort
    · intro first second third hFirst hSecond
      rw [decide_eq_true_eq] at hFirst hSecond ⊢
      exact String.le_trans hFirst hSecond
    · intro first second
      rw [Bool.or_eq_true, decide_eq_true_eq,
        decide_eq_true_eq]
      exact String.le_total first second
  exact
    pairwise_eraseDups _ (hSorted.imp of_decide_eq_true)

/- The same names are sorted to the same list. -/
theorem sortNames_congr
    (hSame : ∀ name, name ∈ names ↔ name ∈ others) :
    sortNames names = sortNames others := by
  apply
    (pairwise_sortNames names).eq_of_mem_iff
      (pairwise_sortNames others)
  intro name
  rw [mem_sortNames_iff, mem_sortNames_iff]
  exact hSame name

end InitializerRegistry

end Componentry

------------------------------------------------------------
-- Requests with the Same Names
------------------------------------------------------------

namespace Componentry

namespace InitializerRegistry

variable {registry : InitializerRegistry}
variable {requested others : List String}
variable {names : DeploymentNames}

/- The same names are resolved alike, known or not. -/
theorem resolve_congr
    (hSame : ∀ name, name ∈ requested ↔ name ∈ others) :
    registry.resolve requested = registry.resolve others := by
  have hUnknown :
      ∀ name,
        name ∈ requested.filter (!registry.names.contains ·) ↔
          name ∈ others.filter (!registry.names.contains ·) := by
    intro name
    rw [List.mem_filter, List.mem_filter, hSame name]
  have hEmpty :
      (requested.filter (!registry.names.contains ·)).isEmpty =
        (others.filter (!registry.names.contains ·)).isEmpty := by
    rw [Bool.eq_iff_iff, List.isEmpty_iff, List.isEmpty_iff,
      List.eq_nil_iff_forall_not_mem,
      List.eq_nil_iff_forall_not_mem]
    simp only [hUnknown]
  have hContains :
      ∀ name, requested.contains name = others.contains name := by
    intro name
    rw [Bool.eq_iff_iff, List.contains_iff_mem,
      List.contains_iff_mem]
    exact hSame name
  unfold resolve
  dsimp only
  rw [hEmpty, sortNames_congr hUnknown]
  simp only [hContains]

theorem compose_congr
    (hSame : ∀ name, name ∈ requested ↔ name ∈ others) :
    registry.compose requested names =
      registry.compose others names := by
  rw [compose, compose, resolve_congr hSame]

end InitializerRegistry

end Componentry

------------------------------------------------------------
-- Names That Are Selected
------------------------------------------------------------

namespace Componentry

namespace InitializerRegistry

variable {registry : InitializerRegistry}
variable {requested : List String}
variable {names : DeploymentNames}
variable {composed : ComposedInitializers}

/- The names asked for stand in the order of registration. -/
theorem initializers_of_compose
    (hComposed :
      registry.compose requested names = .ok composed) :
    composed.initializers =
      registry.names.filter (requested.contains ·) := by
  rw [(isComposedOf_of_compose hComposed).initializers,
    InitializerRegistry.names, List.filter_map]
  rfl

/- No name is registered twice. -/
theorem IsMade.nodup_names
    (hMade : registry.IsMade) :
    registry.names.Nodup := by
  induction hMade with
  | empty => exact List.nodup_nil
  | @register registry initializer hMade hInitializer ih =>
      rcases register_cases registry initializer with
        ⟨-, _, hRefused⟩ | ⟨⟨-, hNew⟩, hTaken⟩
      · rw [hRefused]
        exact ih
      · rw [hTaken, names, List.map_append, List.map_singleton,
          ← List.concat_eq_append, List.nodup_concat]
        exact ⟨hNew, ih⟩

end InitializerRegistry

end Componentry

------------------------------------------------------------
-- What a Composition Depends On
------------------------------------------------------------

namespace Componentry

namespace InitializerRegistry

/-
  What is composed depends on the set of names asked for, be
  they in any order and repeated.  It has these names, each
  once, as they were registered; if some are not registered,
  the error tells each of those once, in the order of their
  bytes.
-/
structure DependsOnNames
    (registry : InitializerRegistry) : Prop where
  same :
    ∀ (requested others : List String)
      (names : DeploymentNames),
      (∀ name, name ∈ requested ↔ name ∈ others) →
        registry.compose requested names =
          registry.compose others names
  composes :
    ∀ (requested : List String) (names : DeploymentNames),
      (∃ composed,
          registry.compose requested names =
            .ok composed) ↔
        ∀ name ∈ requested, name ∈ registry.names
  selected :
    ∀ (requested : List String) (names : DeploymentNames)
      (composed : ComposedInitializers),
      registry.compose requested names = .ok composed →
        composed.initializers.Sublist registry.names ∧
          composed.initializers.Nodup ∧
          ∀ name,
            name ∈ composed.initializers ↔
              name ∈ registry.names ∧ name ∈ requested
  told :
    ∀ (requested : List String) (names : DeploymentNames)
      (error : ComposeError),
      registry.compose requested names = .error error →
        ∃ unknown : List String,
          error.message =
              "configuration error: "
                ++ ("unknown global initializer(s) "
                  ++ ", ".intercalate unknown
                  ++ "; known initializers: "
                  ++ ", ".intercalate registry.names) ∧
            (unknown.Pairwise fun first second =>
              Text.bytes first < Text.bytes second) ∧
            ∀ name,
              name ∈ unknown ↔
                name ∈ requested ∧ name ∉ registry.names

theorem IsMade.dependsOnNames
    {registry : InitializerRegistry}
    (hMade : registry.IsMade) :
    registry.DependsOnNames := by
  constructor
  case same =>
    intro requested others names hSame
    exact compose_congr hSame
  case composes =>
    intro requested names
    exact exists_compose_iff names
  case selected =>
    intro requested names composed hComposed
    rw [initializers_of_compose hComposed]
    refine ⟨List.filter_sublist, ?_, ?_⟩
    · exact hMade.nodup_names.filter _
    · intro name
      rw [List.mem_filter, List.contains_iff_mem]
  case told =>
    intro requested names error hError
    rcases compose_eq_error_iff.mp hError with ⟨-, rfl⟩
    refine
      ⟨sortNames
          (requested.filter (!registry.names.contains ·)),
        rfl, (pairwise_sortNames _).imp ?_, ?_⟩
    · intro first second hLess
      exact Text.bytes_lt_iff.mpr hLess
    · intro name
      rw [mem_sortNames_iff, List.mem_filter]
      simp

/- Two initializers with code for the start and the end. -/
def sampleParts? : Option (Initializer × Initializer) := do
  let log ←
    ((Initializer.named "log").withText .init
      "start();").toOption
  let log ← (log.withText .exit "stop();").toOption
  let log ← (log.withText (.build .deployment) "").toOption
  let net ←
    ((Initializer.named "net").withText .init
      "open(\x7b\x7bproject\x7d\x7d);\n\n").toOption
  let net ← (net.withText .exit "close();\n").toOption
  let net ←
    (net.withText (.build .deployment) "link").toOption
  some (log, net)

/- A registry of both. -/
def samplePair? : Option InitializerRegistry := do
  let (log, net) ← sampleParts?
  some ((empty.register log).2.register net).2

theorem isMade_of_samplePair
    {registry : InitializerRegistry}
    (hPair : samplePair? = some registry) :
    registry.IsMade := by
  simp only [samplePair?, sampleParts?, Option.bind_eq_bind,
    Option.bind_eq_some_iff, toOption_eq_some_iff,
    Option.some.injEq] at hPair
  rcases hPair with
    ⟨_, ⟨_, hStart, _, hStop, _, hLink, _, hOpen, _, hClose, _,
      hLinked, rfl⟩, rfl⟩
  have hLog :=
    Initializer.IsMade.withText
      (.withText (.withText (.named "log") hStart) hStop) hLink
  have hNet :=
    Initializer.IsMade.withText
      (.withText (.withText (.named "net") hOpen) hClose)
      hLinked
  exact .register (.register .empty hLog) hNet

theorem sample_dependsOnNames :
    ∃ registry : InitializerRegistry,
      registry.IsMade ∧
        registry.DependsOnNames ∧
        registry.compose ["net", "log", "net"]
            ⟨"base", "rover"⟩ =
          registry.compose ["log", "net"] ⟨"base", "rover"⟩ ∧
        (∃ composed,
          registry.compose ["net", "log", "net"]
              ⟨"base", "rover"⟩ =
            .ok composed ∧
          composed.initializers = ["log", "net"]) ∧
        registry.compose ["qt", "log", "gui", "qt"]
            ⟨"base", "rover"⟩ =
          .error
            (.config (.unknownInitializers ["gui", "qt"]
              ["log", "net"])) := by
  have hNames :
      samplePair?.map (·.names) = some ["log", "net"] := by
    decide +kernel
  rcases Option.map_eq_some_iff.mp hNames with
    ⟨registry, hRegistry, hNames⟩
  have hMade := isMade_of_samplePair hRegistry
  have hDepends := hMade.dependsOnNames
  refine
    ⟨registry, hMade, hDepends,
      hDepends.same _ _ _ (by simp [or_comm]), ?_, ?_⟩
  · have hKnown :
        ∀ name ∈ ["net", "log", "net"],
          name ∈ registry.names := by
      rw [hNames]
      decide
    rcases (hDepends.composes _ ⟨"base", "rover"⟩).mpr hKnown
      with ⟨composed, hComposed⟩
    refine ⟨composed, hComposed, ?_⟩
    rw [initializers_of_compose hComposed, hNames]
    decide
  · have hTold :
        sortNames ["qt", "gui", "qt"] = ["gui", "qt"] := by
      apply (pairwise_sortNames _).eq_of_mem_iff (by decide)
      intro name
      rw [mem_sortNames_iff]
      simp only [List.mem_cons, List.not_mem_nil, or_false]
      tauto
    rw [compose_eq_error_iff, hNames]
    refine ⟨⟨"qt", by simp, by decide⟩, ?_⟩
    have hError :=
      congrArg
        (fun told =>
          ComposeError.config
            (.unknownInitializers told ["log", "net"]))
        hTold
    exact hError.symm

end InitializerRegistry

end Componentry
