import Componentry.Composition.QtInitializers
import Componentry.Proofs.Answers
import Componentry.Proofs.Text.Layouts

/-
  Initializers that are composed.

  A fragment is checked when it is made, and every deployment
  has a value for each of its parameters; so whatever
  initializers are registered, composing them fails only if
  some are asked for that are not.  The built-in initializers
  are made of texts that pass the check.

  Main declarations:
    * `Template.exists_render`
    * `Template.accepts`, `Fragment.exists_ofText`
    * `InitializerRegistry.composeTarget_eq_ok_iff`
    * `InitializerRegistry.IsComposedOf`
    * `InitializerRegistry.resolve_eq_ok_iff`
    * `InitializerRegistry.resolve_of_unknown`
    * `InitializerRegistry.exists_compose_iff`
    * `InitializerRegistry.compose_eq_error_iff`
    * `InitializerRegistry.exists_builtin`
-/

------------------------------------------------------------
-- Filling In
------------------------------------------------------------

namespace Componentry

namespace Template

variable {values : String → Option String}

/- Holes are filled in if all of them have values. -/
theorem exists_renderHoles
    {holes : List Hole}
    (hValues :
      ∀ hole ∈ holes, (values hole.name).isSome = true) :
    ∃ text, renderHoles values holes = .ok text := by
  induction holes with
  | nil => exact ⟨"", rfl⟩
  | cons hole holes ih =>
      rw [List.forall_mem_cons] at hValues
      rcases Option.isSome_iff_exists.mp hValues.1 with
        ⟨value, hValue⟩
      rcases ih hValues.2 with ⟨tail, hTail⟩
      simp only [renderHoles, hValue, hTail]
      exact ⟨_, rfl⟩

/- A template is filled in if its parameters have values. -/
theorem exists_render
    {template : Template}
    (hValues :
      ∀ parameter ∈ template.parameters,
        (values parameter).isSome = true) :
    ∃ text, template.render values = .ok text := by
  have hHoles :
      ∃ text,
        renderHoles values template.holes = .ok text := by
    apply exists_renderHoles
    intro hole hMember
    exact hValues _ (template.declared hole hMember)
  rcases hHoles with ⟨text, hText⟩
  simp only [render, hText]
  exact ⟨_, rfl⟩

end Template

/- A deployment has a value for each parameter. -/
theorem DeploymentNames.isSome_value?
    (names : DeploymentNames)
    {parameter : String}
    (hDeclared : parameter ∈ fragmentParameters) :
    (names.value? parameter).isSome = true := by
  simp only [fragmentParameters, List.mem_cons,
    List.not_mem_nil, or_false] at hDeclared
  rcases hDeclared with rfl | rfl
  · rfl
  · rfl

theorem Fragment.exists_render
    (fragment : Fragment)
    (names : DeploymentNames) :
    ∃ text, fragment.val.render names.value? = .ok text := by
  apply Template.exists_render
  intro parameter hParameter
  rw [fragment.property] at hParameter
  exact names.isSome_value? hParameter

end Componentry

------------------------------------------------------------
-- Composing
------------------------------------------------------------

namespace Componentry

namespace InitializerRegistry

theorem exists_renderAll
    (names : DeploymentNames)
    (fragments : List Fragment) :
    ∃ texts, renderAll names fragments = .ok texts := by
  induction fragments with
  | nil => exact ⟨[], rfl⟩
  | cons fragment fragments ih =>
      rcases fragment.exists_render names with ⟨text, hText⟩
      rcases ih with ⟨texts, hTexts⟩
      unfold renderAll at hTexts
      refine ⟨text :: texts, ?_⟩
      rw [renderAll, List.mapM_cons, hText, hTexts]
      rfl

theorem exists_composeTexts
    (names : DeploymentNames)
    (fragments : List Fragment) :
    ∃ text, composeTexts names fragments = .ok text := by
  rcases exists_renderAll names fragments with
    ⟨texts, hTexts⟩
  simp only [composeTexts, hTexts]
  exact ⟨_, rfl⟩

/- A target has a text unless nothing contributes to it. -/
theorem composeTarget_eq_ok_iff
    {names : DeploymentNames}
    {selected : List Initializer}
    {target : BuildTarget}
    {result : Option String} :
    composeTarget names selected target = .ok result ↔
      ∃ text,
        composeTexts names
              (selected.filterMap (·.build target)) =
            .ok text ∧
          result =
            if selected.filterMap (·.build target) = [] then
              none
            else some text := by
  unfold composeTarget
  cases selected.filterMap (·.build target) with
  | nil =>
      have hEmpty : composeTexts names [] = .ok "" := rfl
      simp [hEmpty, eq_comm]
  | cons fragment fragments =>
      simp only [bind_eq_ok_iff, reduceCtorEq, if_false,
        Except.ok.injEq]
      simp only [eq_comm]

theorem exists_composeTarget
    (names : DeploymentNames)
    (selected : List Initializer)
    (target : BuildTarget) :
    ∃ text, composeTarget names selected target = .ok text := by
  rcases exists_composeTexts names
      (selected.filterMap (·.build target)) with
    ⟨text, hText⟩
  exact ⟨_, composeTarget_eq_ok_iff.mpr ⟨text, hText, rfl⟩⟩

/- A target has a text if something contributes to it. -/
theorem isSome_of_composeTarget
    {names : DeploymentNames}
    {selected : List Initializer}
    {target : BuildTarget}
    {text : Option String}
    (hComposed :
      composeTarget names selected target = .ok text) :
    text.isSome =
      selected.any fun initializer =>
        (initializer.build target).isSome := by
  rcases composeTarget_eq_ok_iff.mp hComposed with
    ⟨made, -, rfl⟩
  symm
  split
  · next hNone =>
      rw [List.filterMap_eq_nil_iff] at hNone
      rw [Option.isSome_none, List.any_eq_false]
      intro initializer hMember
      rw [hNone initializer hMember]
      decide
  · next hSome =>
      rw [Option.isSome_some, List.any_eq_true]
      by_contra hNone
      push Not at hNone
      apply hSome
      rw [List.filterMap_eq_nil_iff]
      intro initializer hMember
      exact
        Option.not_isSome_iff_eq_none.mp
          (hNone initializer hMember)

/- What is selected can be composed. -/
theorem exists_composeSelected
    (names : DeploymentNames)
    (selected : List Initializer) :
    ∃ composed,
      composeSelected names selected = .ok composed := by
  have hTexts := exists_composeTexts names
  have hTargets := exists_composeTarget names selected
  rcases hTexts (selected.filterMap (·.globalScope)) with
    ⟨globalScope, hGlobalScope⟩
  rcases hTexts (selected.filterMap (·.init)) with
    ⟨init, hInit⟩
  rcases hTexts (selected.reverse.filterMap (·.exit)) with
    ⟨exit, hExit⟩
  rcases hTargets .taskLibrary with ⟨library, hLibrary⟩
  rcases hTargets .deployment with ⟨deployment, hDeployment⟩
  rcases hTargets .taskLibraryDependencies with
    ⟨dependencies, hDependencies⟩
  unfold composeSelected
  rw [hGlobalScope, hInit, hLibrary, hDeployment,
    hDependencies, hExit]
  exact ⟨_, rfl⟩

/- What initializers are composed to, part by part. -/
structure IsComposedOf
    (names : DeploymentNames)
    (selected : List Initializer)
    (composed : ComposedInitializers) : Prop where
  initializers :
    composed.initializers = selected.map (·.name)
  globalScope :
    composeTexts names (selected.filterMap (·.globalScope)) =
      .ok composed.globalScope
  init :
    composeTexts names (selected.filterMap (·.init)) =
      .ok composed.init
  exit :
    composeTexts names (selected.reverse.filterMap (·.exit)) =
      .ok composed.exit
  build :
    ∀ target,
      composeTarget names selected target =
        .ok (composed.build target)

theorem isComposedOf_of_composeSelected
    {names : DeploymentNames}
    {selected : List Initializer}
    {composed : ComposedInitializers}
    (hComposed : composeSelected names selected = .ok composed) :
    IsComposedOf names selected composed := by
  unfold composeSelected at hComposed
  simp only [bind_eq_ok_iff] at hComposed
  rcases hComposed with
    ⟨_, hGlobalScope, _, hInit, _, hLibrary, _, hDeployment,
      _, hDependencies, _, hExit, hSame⟩
  cases hSame
  constructor
  case initializers => rfl
  case globalScope => exact hGlobalScope
  case init => exact hInit
  case exit => exact hExit
  case build =>
    intro target
    cases target with
    | taskLibrary => exact hLibrary
    | deployment => exact hDeployment
    | taskLibraryDependencies => exact hDependencies

/-
  Names are resolved if all of them are registered.  What they
  select depends only on which names there are.
-/
theorem resolve_eq_ok_iff
    {registry : InitializerRegistry}
    {requested : List String}
    {selected : List Initializer} :
    registry.resolve requested = .ok selected ↔
      (∀ name ∈ requested, name ∈ registry.names) ∧
        selected =
          registry.initializers.filter fun initializer =>
            requested.contains initializer.name := by
  have hKnown :
      (requested.filter
          (!registry.names.contains ·)).isEmpty = true ↔
        ∀ name ∈ requested, name ∈ registry.names := by
    rw [List.isEmpty_iff, List.filter_eq_nil_iff]
    simp
  rw [← hKnown]
  unfold resolve
  by_cases hEmpty :
      (requested.filter
        (!registry.names.contains ·)).isEmpty = true
  · rw [if_pos hEmpty, Except.ok.injEq, eq_comm]
    exact (and_iff_right hEmpty).symm
  · rw [if_neg hEmpty]
    simp only [reduceCtorEq, hEmpty, false_and]

theorem exists_resolve_iff
    {registry : InitializerRegistry}
    {requested : List String} :
    (∃ selected, registry.resolve requested = .ok selected) ↔
      ∀ name ∈ requested, name ∈ registry.names := by
  simp only [resolve_eq_ok_iff, exists_and_left, exists_eq,
    and_true]

/- If some names are not registered, all of them are told. -/
theorem resolve_of_unknown
    {registry : InitializerRegistry}
    {requested : List String}
    (hUnknown :
      requested.filter (!registry.names.contains ·) ≠ []) :
    registry.resolve requested =
      .error (.config (.unknownInitializers
        (sortNames
          (requested.filter (!registry.names.contains ·)))
        registry.names)) := by
  have hSome :
      ¬(requested.filter
          (!registry.names.contains ·)).isEmpty = true := by
    rw [List.isEmpty_iff]
    exact hUnknown
  exact if_neg hSome

/- What is asked for is composed as it was registered. -/
theorem isComposedOf_of_compose
    {registry : InitializerRegistry}
    {requested : List String}
    {names : DeploymentNames}
    {composed : ComposedInitializers}
    (hComposed :
      registry.compose requested names = .ok composed) :
    IsComposedOf names
      (registry.initializers.filter fun initializer =>
        requested.contains initializer.name)
      composed := by
  rw [compose, bind_eq_ok_iff] at hComposed
  rcases hComposed with ⟨selected, hResolved, hComposed⟩
  rw [← (resolve_eq_ok_iff.mp hResolved).2]
  exact isComposedOf_of_composeSelected hComposed

theorem exists_compose_iff
    {registry : InitializerRegistry}
    {requested : List String}
    (names : DeploymentNames) :
    (∃ composed,
        registry.compose requested names = .ok composed) ↔
      ∀ name ∈ requested, name ∈ registry.names := by
  rw [← exists_resolve_iff]
  simp only [compose, bind_eq_ok_iff]
  constructor
  · rintro ⟨_, selected, hSelected, -⟩
    exact ⟨selected, hSelected⟩
  · rintro ⟨selected, hSelected⟩
    rcases exists_composeSelected names selected with
      ⟨composed, hComposed⟩
    exact ⟨composed, selected, hSelected, hComposed⟩

/- Only unknown names fail, and all of them are told. -/
theorem compose_eq_error_iff
    {registry : InitializerRegistry}
    {requested : List String}
    {names : DeploymentNames}
    {error : ComposeError} :
    registry.compose requested names = .error error ↔
      (∃ name ∈ requested, name ∉ registry.names) ∧
        error =
          .config (.unknownInitializers
            (sortNames
              (requested.filter (!registry.names.contains ·)))
            registry.names) := by
  by_cases hKnown : ∀ name ∈ requested, name ∈ registry.names
  · rcases (exists_compose_iff names).mpr hKnown with
      ⟨composed, hComposed⟩
    rw [hComposed]
    constructor
    · intro hError
      cases hError
    · rintro ⟨⟨name, hName, hUnknown⟩, -⟩
      exact (hUnknown (hKnown name hName)).elim
  · have hUnknown :
        ∃ name ∈ requested, name ∉ registry.names := by
      push Not at hKnown
      exact hKnown
    have hFound :
        requested.filter (!registry.names.contains ·) ≠ [] := by
      rcases hUnknown with ⟨name, hName, hNot⟩
      rw [ne_eq, List.filter_eq_nil_iff]
      intro hNone
      exact hNone name hName (by simpa using hNot)
    have hCompose :
        registry.compose requested names =
          .error
            (.config (.unknownInitializers
              (sortNames
                (requested.filter
                  (!registry.names.contains ·)))
              registry.names)) := by
      unfold compose
      rw [resolve_of_unknown hFound]
      rfl
    rw [hCompose, Except.error.injEq, eq_comm]
    exact (and_iff_right hUnknown).symm

end InitializerRegistry

end Componentry

------------------------------------------------------------
-- Texts That Make Fragments
------------------------------------------------------------

namespace Componentry

/- Does a text make a template over some parameters? -/
def Template.accepts
    (parameters : List String)
    (cs : List Char) :
    Bool :=
  (checkLiteral (split cs).lead).isOk
    && (checkHoles parameters (split cs).holes).isOk

theorem exists_of_isOk
    {ε α : Type}
    {answer : Except ε α}
    (hOk : answer.isOk = true) :
    ∃ value, answer = .ok value := by
  cases answer with
  | error error => cases hOk
  | ok value => exact ⟨value, rfl⟩

/- A text that is accepted makes a template. -/
theorem Template.exists_ofText
    {source : String}
    {parameters : List String}
    (hAccepts : accepts parameters source.toList = true) :
    ∃ template, ofText source parameters = .ok template := by
  unfold accepts at hAccepts
  rw [Bool.and_eq_true] at hAccepts
  rcases exists_of_isOk hAccepts.1 with ⟨lead, hLead⟩
  rcases exists_of_isOk hAccepts.2 with ⟨holes, hHoles⟩
  unfold ofText
  simp only [hLead, hHoles]
  exact ⟨_, rfl⟩

theorem Fragment.exists_ofText
    {source : String}
    (hAccepts :
      Template.accepts fragmentParameters source.toList =
        true) :
    ∃ fragment, Fragment.ofText source = .ok fragment := by
  rcases Template.exists_ofText hAccepts with
    ⟨template, hTemplate⟩
  unfold Fragment.ofText
  split
  · next fault hFault =>
      rw [hTemplate] at hFault
      cases hFault
  · exact ⟨_, rfl⟩

end Componentry

------------------------------------------------------------
-- Built-in Texts
------------------------------------------------------------

namespace Componentry

namespace Qt

/- The texts that the built-in initializers are made of. -/
def texts : List String :=
  [globalScope, init, exit, qt4TaskLibrary, qt4Deployment,
   qt5TaskLibrary, qt5Deployment, qt5Dependencies]

theorem accepts_texts :
    ∀ text ∈ texts,
      Template.accepts fragmentParameters text.toList =
        true := by
  -- The texts are spelled out, literal by literal, before
  -- they are checked: to decode a long text takes much longer.
  simp only [texts, List.forall_mem_cons, List.not_mem_nil,
    false_implies, implies_true, and_true,
    globalScope, init, exit, qt4Directories, qt4TaskLibrary,
    qt4Deployment, qt5Package, qt5TaskLibrary,
    qt5Deployment, qt5Modules, qt5Dependencies, valueOf,
    upperProject, dependentLibraries, Text.toList_unlines,
    String.toList_append, List.flatMap_cons,
    List.flatMap_nil, List.map_cons, List.map_nil,
    List.cons_append, List.nil_append]
  repeat rw [String.toList_ofList]
  decide +kernel

theorem exists_fragment
    (text : String)
    (hText : text ∈ texts) :
    ∃ fragment, Fragment.ofText text = .ok fragment :=
  Fragment.exists_ofText (accepts_texts text hText)

/- Both event loops are made of accepted texts. -/
theorem exists_eventLoop
    (name : String) :
    ∃ initializer,
      eventLoop name = .ok initializer ∧
        initializer.name = name := by
  rcases exists_fragment globalScope (by simp [texts]) with
    ⟨atScope, hScope⟩
  rcases exists_fragment init (by simp [texts]) with
    ⟨atStart, hStart⟩
  rcases exists_fragment exit (by simp [texts]) with
    ⟨atEnd, hEnd⟩
  unfold eventLoop Initializer.withGlobalScope
    Initializer.withInit Initializer.withExit
  rw [hScope, hStart, hEnd]
  exact ⟨_, rfl, rfl⟩

/- A part of a build description keeps the name. -/
theorem exists_withBuild
    (initializer : Initializer)
    (target : BuildTarget)
    (text : String)
    (hText : text ∈ texts) :
    ∃ next,
      initializer.withBuild target text = .ok next ∧
        next.name = initializer.name := by
  rcases exists_fragment text hText with ⟨fragment, hFragment⟩
  unfold Initializer.withBuild
  rw [hFragment]
  exact ⟨_, rfl, rfl⟩

theorem exists_qt4 :
    ∃ initializer,
      qt4 = .ok initializer ∧ initializer.name = "qt" := by
  rcases exists_eventLoop "qt" with ⟨first, hFirst, hName⟩
  rcases exists_withBuild first .taskLibrary
      qt4TaskLibrary (by simp [texts]) with
    ⟨second, hSecond, hSecondName⟩
  rcases exists_withBuild second .deployment
      qt4Deployment (by simp [texts]) with
    ⟨third, hThird, hThirdName⟩
  refine ⟨third, ?_, ?_⟩
  · simp only [qt4, bind_eq_ok_iff]
    exact ⟨first, hFirst, second, hSecond, hThird⟩
  · rw [hThirdName, hSecondName, hName]

theorem exists_qt5 :
    ∃ initializer,
      qt5 = .ok initializer ∧ initializer.name = "qt5" := by
  rcases exists_eventLoop "qt5" with ⟨first, hFirst, hName⟩
  rcases exists_withBuild first .taskLibrary
      qt5TaskLibrary (by simp [texts]) with
    ⟨second, hSecond, hSecondName⟩
  rcases exists_withBuild second .deployment
      qt5Deployment (by simp [texts]) with
    ⟨third, hThird, hThirdName⟩
  rcases exists_withBuild third .taskLibraryDependencies
      qt5Dependencies (by simp [texts]) with
    ⟨fourth, hFourth, hFourthName⟩
  refine ⟨fourth, ?_, ?_⟩
  · simp only [qt5, bind_eq_ok_iff]
    exact
      ⟨first, hFirst, second, hSecond, third, hThird, hFourth⟩
  · rw [hFourthName, hThirdName, hSecondName, hName]

end Qt

/- A new name that is not blank is registered at the end. -/
theorem InitializerRegistry.register_of_new
    {registry : InitializerRegistry}
    {initializer : Initializer}
    (hBlank : Text.isBlankText initializer.name = false)
    (hNew : initializer.name ∉ registry.names) :
    registry.register initializer =
      (.ok (), ⟨registry.initializers ++ [initializer]⟩) := by
  unfold register
  rw [hBlank]
  simp [hNew]

/- A chain goes on with the registry that it makes. -/
theorem InitializerRegistry.registerChecked_of_new
    {registry : InitializerRegistry}
    {initializer : Initializer}
    (hBlank : Text.isBlankText initializer.name = false)
    (hNew : initializer.name ∉ registry.names) :
    registry.registerChecked (.ok initializer) =
      .ok ⟨registry.initializers ++ [initializer]⟩ := by
  unfold registerChecked
  dsimp only
  rw [register_of_new hBlank hNew]

/- The built-in initializers are those of Qt 4 and Qt 5. -/
theorem InitializerRegistry.exists_builtin :
    ∃ registry : InitializerRegistry,
      builtin = .ok registry ∧
        registry.names = ["qt", "qt5"] := by
  rcases Qt.exists_qt4 with ⟨first, hFirst, hFirstName⟩
  rcases Qt.exists_qt5 with ⟨second, hSecond, hSecondName⟩
  have hOne :
      empty.registerChecked (.ok first) = .ok ⟨[first]⟩ := by
    apply registerChecked_of_new
    · rw [hFirstName]
      decide +kernel
    · simp [names, empty]
  have hTwo :
      registerChecked ⟨[first]⟩ (.ok second) =
        .ok ⟨[first, second]⟩ := by
    apply registerChecked_of_new
    · rw [hSecondName]
      decide +kernel
    · simp [names, hFirstName, hSecondName]
  refine ⟨⟨[first, second]⟩, ?_, ?_⟩
  · rw [builtin, hFirst, hSecond, bind_eq_ok_iff]
    exact ⟨⟨[first]⟩, hOne, hTwo⟩
  · simp [names, hFirstName, hSecondName]

end Componentry
