import Componentry.Proofs.Composition.Requests

/-
  Compositions inside each other.

  Initializers that are registered earlier are set up first
  and torn down last.  So where the order of registration is
  cut in two, everything composed of the whole is put together
  from what is composed of both parts: the earlier part comes
  first, but for the code run at the end, where it comes last.
  Each text is put together from texts that are ended, so
  nothing happens at the cut.

  Main declarations:
    * `InitializerRegistry.composeTexts_append`
    * `InitializerRegistry.isSome_of_composeTarget_append`
    * `InitializerRegistry.getD_of_composeTarget_append`
    * `ComposedInitializers.Nests`
    * `ComposedInitializers.IsEnded`
    * `InitializerRegistry.compose_nests`
-/

------------------------------------------------------------
-- Texts Behind Each Other
------------------------------------------------------------

namespace Componentry

namespace InitializerRegistry

variable {names : DeploymentNames}
variable {xs ys : List Fragment}
variable {first second : String}

/- Texts in a row are appended in a row. -/
theorem appendTexts_append
    (firsts seconds : List String) :
    appendTexts (firsts ++ seconds) =
      appendTexts firsts ++ appendTexts seconds := by
  induction firsts with
  | nil => rw [List.nil_append, appendTexts, String.empty_append]
  | cons text firsts ih =>
      rw [List.cons_append, appendTexts, appendTexts, ih,
        String.append_assoc]

/- Whatever the texts are, the last line is ended. -/
theorem isEnded_appendTexts
    (texts : List String) :
    Text.IsEnded (appendTexts texts) := by
  induction texts with
  | nil => exact Text.isEnded_empty
  | cons text texts ih =>
      rw [appendTexts]
      apply Text.IsEnded.append _ ih
      split
      · exact Text.isEnded_empty
      · exact Text.isEnded_closed text

theorem composeTexts_eq_ok_iff
    {text : String} :
    composeTexts names xs = .ok text ↔
      ∃ texts,
        renderAll names xs = .ok texts ∧
          text = appendTexts texts := by
  unfold composeTexts
  cases renderAll names xs with
  | error fault => simp
  | ok texts => simp [eq_comm]

/- Fragments behind others give text behind theirs. -/
theorem composeTexts_append
    (hFirst : composeTexts names xs = .ok first)
    (hSecond : composeTexts names ys = .ok second) :
    composeTexts names (xs ++ ys) = .ok (first ++ second) := by
  rcases composeTexts_eq_ok_iff.mp hFirst with
    ⟨firsts, hFirsts, rfl⟩
  rcases composeTexts_eq_ok_iff.mp hSecond with
    ⟨seconds, hSeconds, rfl⟩
  rw [composeTexts_eq_ok_iff]
  refine ⟨firsts ++ seconds, ?_, ?_⟩
  · rw [renderAll] at hFirsts hSeconds ⊢
    rw [List.mapM_append, hFirsts, hSeconds]
    rfl
  · rw [appendTexts_append]

theorem isEnded_of_composeTexts
    (hFirst : composeTexts names xs = .ok first) :
    Text.IsEnded first := by
  rcases composeTexts_eq_ok_iff.mp hFirst with
    ⟨texts, -, rfl⟩
  exact isEnded_appendTexts texts

end InitializerRegistry

end Componentry

------------------------------------------------------------
-- Targets Behind Each Other
------------------------------------------------------------

namespace Componentry

namespace InitializerRegistry

variable {names : DeploymentNames}
variable {xs ys : List Initializer}
variable {target : BuildTarget}

/- A target without a text has an empty one. -/
theorem getD_of_composeTarget
    {result : Option String}
    (hResult : composeTarget names xs target = .ok result) :
    composeTexts names (xs.filterMap (·.build target)) =
      .ok (result.getD "") := by
  rcases composeTarget_eq_ok_iff.mp hResult with
    ⟨text, hText, rfl⟩
  split
  · next hNone =>
      rw [hNone]
      rfl
  · exact hText

/- Either part may give a target a text. -/
theorem isSome_of_composeTarget_append
    {first second whole : Option String}
    (hFirst : composeTarget names xs target = .ok first)
    (hSecond : composeTarget names ys target = .ok second)
    (hWhole :
      composeTarget names (xs ++ ys) target = .ok whole) :
    whole.isSome = (first.isSome || second.isSome) := by
  rw [isSome_of_composeTarget hWhole,
    isSome_of_composeTarget hFirst,
    isSome_of_composeTarget hSecond, List.any_append]

/- Its text is that of both parts. -/
theorem getD_of_composeTarget_append
    {first second whole : Option String}
    (hFirst : composeTarget names xs target = .ok first)
    (hSecond : composeTarget names ys target = .ok second)
    (hWhole :
      composeTarget names (xs ++ ys) target = .ok whole) :
    whole.getD "" = first.getD "" ++ second.getD "" := by
  have hText := getD_of_composeTarget hWhole
  rw [List.filterMap_append,
    composeTexts_append (getD_of_composeTarget hFirst)
      (getD_of_composeTarget hSecond),
    Except.ok.injEq] at hText
  exact hText.symm

end InitializerRegistry

end Componentry

------------------------------------------------------------
-- Compositions Behind Each Other
------------------------------------------------------------

namespace Componentry

namespace ComposedInitializers

/-
  One composition around another: what is set up first is
  torn down last.
-/
structure Nests
    (whole outer inner : ComposedInitializers) : Prop where
  initializers :
    whole.initializers =
      outer.initializers ++ inner.initializers
  globalScope :
    whole.globalScope = outer.globalScope ++ inner.globalScope
  init : whole.init = outer.init ++ inner.init
  present :
    ∀ target,
      (whole.build target).isSome =
        ((outer.build target).isSome ||
          (inner.build target).isSome)
  build :
    ∀ target,
      (whole.build target).getD "" =
        (outer.build target).getD ""
          ++ (inner.build target).getD ""
  exit : whole.exit = inner.exit ++ outer.exit

/- All texts are empty or end with a line feed. -/
structure IsEnded
    (composed : ComposedInitializers) : Prop where
  globalScope : Text.IsEnded composed.globalScope
  init : Text.IsEnded composed.init
  exit : Text.IsEnded composed.exit
  build :
    ∀ target text,
      composed.build target = some text → Text.IsEnded text

end ComposedInitializers

namespace InitializerRegistry

namespace IsComposedOf

variable {names : DeploymentNames}
variable {xs ys : List Initializer}
variable {composed whole outer inner : ComposedInitializers}

theorem isEnded
    (hComposed : IsComposedOf names xs composed) :
    composed.IsEnded where
  globalScope := isEnded_of_composeTexts hComposed.globalScope
  init := isEnded_of_composeTexts hComposed.init
  exit := isEnded_of_composeTexts hComposed.exit
  build := by
    intro target text hText
    have hTarget :=
      getD_of_composeTarget (hComposed.build target)
    rw [hText, Option.getD_some] at hTarget
    exact isEnded_of_composeTexts hTarget

/- The first initializers go around the others. -/
theorem nests
    (hOuter : IsComposedOf names xs outer)
    (hInner : IsComposedOf names ys inner)
    (hWhole : IsComposedOf names (xs ++ ys) whole) :
    whole.Nests outer inner := by
  constructor
  case initializers =>
    rw [hWhole.initializers, hOuter.initializers,
      hInner.initializers, List.map_append]
  case globalScope =>
    have hText := hWhole.globalScope
    rw [List.filterMap_append,
      composeTexts_append hOuter.globalScope
        hInner.globalScope,
      Except.ok.injEq] at hText
    exact hText.symm
  case init =>
    have hText := hWhole.init
    rw [List.filterMap_append,
      composeTexts_append hOuter.init hInner.init,
      Except.ok.injEq] at hText
    exact hText.symm
  case present =>
    intro target
    exact
      isSome_of_composeTarget_append (hOuter.build target)
        (hInner.build target) (hWhole.build target)
  case build =>
    intro target
    exact
      getD_of_composeTarget_append (hOuter.build target)
        (hInner.build target) (hWhole.build target)
  case exit =>
    have hText := hWhole.exit
    rw [List.reverse_append, List.filterMap_append,
      composeTexts_append hInner.exit hOuter.exit,
      Except.ok.injEq] at hText
    exact hText.symm

end IsComposedOf

end InitializerRegistry

end Componentry

------------------------------------------------------------
-- A Registry Cut in Two
------------------------------------------------------------

namespace Componentry

namespace InitializerRegistry

/- The names asked for that a registry has. -/
def known
    (registry : InitializerRegistry)
    (requested : List String) :
    List String :=
  requested.filter (registry.names.contains ·)

variable {registry outer inner : InitializerRegistry}
variable {requested : List String}
variable {names : DeploymentNames}

/- Names that a registry does not have select nothing. -/
theorem filter_known
    (registry : InitializerRegistry)
    (requested : List String) :
    (registry.initializers.filter fun initializer =>
        (registry.known requested).contains
          initializer.name) =
      registry.initializers.filter fun initializer =>
        requested.contains initializer.name := by
  apply List.filter_congr
  intro initializer hMember
  have hName : initializer.name ∈ registry.names :=
    List.mem_map_of_mem hMember
  rw [Bool.eq_iff_iff, List.contains_iff_mem,
    List.contains_iff_mem, known, List.mem_filter,
    List.contains_iff_mem]
  exact and_iff_left hName

/- A registry can be asked for all that it knows. -/
theorem exists_compose_known
    (registry : InitializerRegistry)
    (requested : List String)
    (names : DeploymentNames) :
    ∃ composed,
      registry.compose (registry.known requested) names =
        .ok composed := by
  rw [exists_compose_iff]
  intro name hName
  rw [known, List.mem_filter, List.contains_iff_mem] at hName
  exact hName.2

/-
  Where the order of registration is cut in two, what is
  composed of the second part is put inside of what is
  composed of the first.
-/
theorem compose_nests
    (names : DeploymentNames)
    (hSplit :
      registry.initializers =
        outer.initializers ++ inner.initializers)
    (hKnown : ∀ name ∈ requested, name ∈ registry.names) :
    ∃ whole first second,
      registry.compose requested names = .ok whole ∧
        outer.compose (outer.known requested) names =
          .ok first ∧
        inner.compose (inner.known requested) names =
          .ok second ∧
        whole.Nests first second ∧
        whole.IsEnded ∧ first.IsEnded ∧ second.IsEnded := by
  rcases (exists_compose_iff names).mpr hKnown with
    ⟨whole, hWhole⟩
  rcases outer.exists_compose_known requested names with
    ⟨first, hFirst⟩
  rcases inner.exists_compose_known requested names with
    ⟨second, hSecond⟩
  have hWholeParts := isComposedOf_of_compose hWhole
  have hFirstParts := isComposedOf_of_compose hFirst
  have hSecondParts := isComposedOf_of_compose hSecond
  rw [hSplit, List.filter_append] at hWholeParts
  rw [filter_known] at hFirstParts hSecondParts
  exact
    ⟨whole, first, second, hWhole, hFirst, hSecond,
      hFirstParts.nests hSecondParts hWholeParts,
      hWholeParts.isEnded, hFirstParts.isEnded,
      hSecondParts.isEnded⟩

/-
  At the cut stand an empty fragment and one that ends in a
  blank line.
-/
theorem sampleParts_nests :
    ∃ log net whole,
      sampleParts? = some (log, net) ∧
        compose ⟨[log, net]⟩ ["net", "log"]
            ⟨"base", "rover"⟩ =
          .ok whole ∧
        (∃ first second,
          compose ⟨[log]⟩ ["log"] ⟨"base", "rover"⟩ =
              .ok first ∧
            compose ⟨[net]⟩ ["net"] ⟨"base", "rover"⟩ =
              .ok second ∧
            whole.Nests first second ∧ whole.IsEnded) ∧
        whole.init = "start();\nopen(base);\n\n" ∧
        whole.exit = "close();\nstop();\n" ∧
        whole.build .deployment = some "link\n" := by
  have hSample :
      (sampleParts?.bind fun parts =>
          (compose ⟨[parts.1, parts.2]⟩ ["net", "log"]
              ⟨"base", "rover"⟩).toOption.map
            fun whole =>
              (parts.1.name, parts.2.name, whole.init,
                whole.exit, whole.build .deployment)) =
        some
          ("log", "net", "start();\nopen(base);\n\n",
            "close();\nstop();\n", some "link\n") := by
    decide +kernel
  rcases Option.bind_eq_some_iff.mp hSample with
    ⟨⟨log, net⟩, hParts, hWhole⟩
  rcases Option.map_eq_some_iff.mp hWhole with
    ⟨whole, hWhole, hTold⟩
  rw [toOption_eq_some_iff] at hWhole
  simp only [Prod.mk.injEq] at hTold
  rcases hTold with ⟨hLog, hNet, hInit, hExit, hBuild⟩
  refine
    ⟨log, net, whole, hParts, hWhole, ?_, hInit, hExit,
      hBuild⟩
  have hRegistered :
      ∀ name ∈ ["net", "log"],
        name ∈ InitializerRegistry.names ⟨[log, net]⟩ := by
    simp [InitializerRegistry.names, hLog, hNet]
  have hSplit :
      InitializerRegistry.initializers ⟨[log, net]⟩ =
        InitializerRegistry.initializers ⟨[log]⟩
          ++ InitializerRegistry.initializers ⟨[net]⟩ :=
    rfl
  rcases compose_nests ⟨"base", "rover"⟩ hSplit hRegistered
    with
    ⟨found, first, second, hFound, hFirst, hSecond, hNests,
      hEnded, -, -⟩
  cases hWhole.symm.trans hFound
  have hOuter :
      known ⟨[log]⟩ ["net", "log"] = ["log"] := by
    simp [known, InitializerRegistry.names, hLog]
  have hInner :
      known ⟨[net]⟩ ["net", "log"] = ["net"] := by
    simp [known, InitializerRegistry.names, hNet]
  rw [hOuter] at hFirst
  rw [hInner] at hSecond
  exact ⟨first, second, hFirst, hSecond, hNests, hEnded⟩

end InitializerRegistry

end Componentry
