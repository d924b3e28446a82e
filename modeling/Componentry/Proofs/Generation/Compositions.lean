import Componentry.Proofs.Composition.Registrations
import Componentry.Proofs.Generation.Outputs

/-
  Initializers that are composed for deployments.

  Composing initializers fails only for names that are not
  registered, and a run has checked all names before anything
  is composed.  So behind the checks a deployment can only
  fail at a file whose place is taken, with the texts of its
  initializers at hand.

  Main declarations:
    * `Artifacts.exists_of_insertAll_eq_error`
    * `Run.RepeatsFile`, `Run.generate_eq_error_cases`
    * `InitializerRegistry.ComposesRegistered`
    * `IsMade.composesRegistered`
-/

------------------------------------------------------------
-- Files That Are in the Way
------------------------------------------------------------

namespace Componentry

/- Files fail to be added only where one is already. -/
theorem Artifacts.exists_of_insertAll_eq_error
    {artifacts : Artifacts}
    {files : List (Path × String)}
    {error : GenerateError}
    (hError : artifacts.insertAll files = .error error) :
    ∃ file ∈ files,
      error = .request (.repeatedPath file.1) := by
  rcases exists_of_foldlM_eq_error hError with
    ⟨file, hFile, _, hInsert⟩
  exact ⟨file, hFile, eq_of_insertFile_eq_error hInsert⟩

namespace Run

variable {registry : Registry} {store : Store}
variable {extensions : Extensions} {request : Request}
variable {error : GenerateError}

/-
  The initializers of a deployment have been composed, and
  one of its files has no place.
-/
def RepeatsFile
    (registry : Registry)
    (initializers : InitializerRegistry)
    (deployment : DeploymentRequest)
    (error : GenerateError) : Prop :=
  ∃ composed,
    initializers.compose deployment.initializers
        ⟨(registry.projectOwning? deployment.name).getD "",
          deployment.name⟩ =
      .ok composed ∧
    ∃ file ∈ deploymentFiles deployment.name composed,
      error = .request (.repeatedPath file.1)

/- With registered initializers only files are in the way. -/
theorem repeatsFile_of_deployment_eq_error
    {initializers : InitializerRegistry}
    {artifacts : Artifacts}
    {deployment : DeploymentRequest}
    (hKnown :
      ∀ name ∈ deployment.initializers,
        name ∈ initializers.names)
    (hError :
      Run.deployment registry initializers artifacts
          deployment =
        .error error) :
    RepeatsFile registry initializers deployment error := by
  rcases (InitializerRegistry.exists_compose_iff
      ⟨(registry.projectOwning? deployment.name).getD "",
        deployment.name⟩).mpr hKnown with
    ⟨composed, hComposed⟩
  refine ⟨composed, hComposed, ?_⟩
  unfold Run.deployment at hError
  dsimp only at hError
  rw [hComposed] at hError
  rcases bind_eq_error_iff.mp hError with
    hCompose | ⟨found, hFound, hRest⟩
  · cases hCompose
  cases hFound
  rcases bind_eq_error_iff.mp hRest with
    hFiles | ⟨added, -, hNote⟩
  · exact Artifacts.exists_of_insertAll_eq_error hFiles
  · cases hNote

/-
  A run fails at its checks, or else as it does without the
  deployments, or else at a file of a deployment.
-/
theorem generate_eq_error_cases
    (hError :
      generate registry store extensions request =
        .error error) :
    validate registry extensions.initializers request =
        .error error ∨
      generate registry store extensions
          { request with deployments := [] } =
        .error error ∨
      ∃ deployment ∈ request.deployments,
        RepeatsFile registry extensions.initializers
          deployment error := by
  unfold generate at hError
  rcases bind_eq_error_iff.mp hError with
    hInvalid | ⟨_, hPasses, hItems⟩
  · exact Or.inl hInvalid
  have hValid := validate_eq_ok_iff.mp hPasses
  have hOthers :
      validate registry extensions.initializers
          { request with deployments := [] } =
        .ok () := by
    rw [validate_eq_ok_iff]
    exact
      { deploymentsDiffer := List.nodup_nil
        deployments := by simp
        typekits := hValid.typekits
        tasksDiffer := hValid.tasksDiffer }
  refine Or.inr ?_
  rcases bind_eq_error_iff.mp hItems with
    hTypekits | ⟨made, hTypekits, hItems⟩
  · refine Or.inl (bind_eq_error_iff.mpr (Or.inr ?_))
    exact
      ⟨(), hOthers, bind_eq_error_iff.mpr (Or.inl hTypekits)⟩
  rcases bind_eq_error_iff.mp hItems with
    hTasks | ⟨next, -, hDeployments⟩
  · refine Or.inl (bind_eq_error_iff.mpr (Or.inr ?_))
    refine
      ⟨(), hOthers, bind_eq_error_iff.mpr (Or.inr ?_)⟩
    exact
      ⟨made, hTypekits, bind_eq_error_iff.mpr (Or.inl hTasks)⟩
  rcases exists_of_foldlM_eq_error hDeployments with
    ⟨deployment, hMember, artifacts, hStep⟩
  exact
    Or.inr
      ⟨deployment, hMember,
        repeatsFile_of_deployment_eq_error
          (hValid.deployments deployment hMember).2 hStep⟩

/- The same of a run that may have to scan the store first. -/
theorem execute_eq_error_cases
    (hError :
      (execute registry store extensions request).1 =
        .error error) :
    validate
          (execute registry store extensions request).2
          extensions.initializers request =
        .error error ∨
      (execute registry store extensions
            { request with deployments := [] }).1 =
        .error error ∨
      ∃ deployment ∈ request.deployments,
        RepeatsFile
          (execute registry store extensions request).2
          extensions.initializers deployment error := by
  unfold execute at hError ⊢
  by_cases hBuilt : registry.isBuilt = true
  · rw [if_pos hBuilt] at hError ⊢
    rw [if_pos hBuilt]
    exact generate_eq_error_cases hError
  · rw [if_neg hBuilt] at hError ⊢
    rw [if_neg hBuilt]
    rcases hRebuild : registry.rebuild store with
      ⟨answer, rebuilt⟩
    rw [hRebuild] at hError
    cases answer with
    | error fault => exact Or.inr (Or.inl hError)
    | ok report => exact generate_eq_error_cases hError

end Run

end Componentry

------------------------------------------------------------
-- Composing What Is Registered
------------------------------------------------------------

namespace Componentry

namespace InitializerRegistry

/-
  Initializers are composed whenever they are registered, for
  every deployment, and a run that fails does not fail there.
-/
structure ComposesRegistered
    (registry : InitializerRegistry) : Prop where
  -- No fragment is without a value.
  rendered :
    ∀ initializer ∈ registry.initializers,
      ∀ (part : Initializer.Part) (fragment : Fragment),
        initializer.fragment? part = some fragment →
          ∃ page : Template.Page,
            page.IsOver fragmentParameters ∧
              Template.ofText page.source
                  fragmentParameters =
                .ok fragment.val ∧
              ∀ names : DeploymentNames,
                fragment.val.render names.value? =
                  .ok (page.filledIn names.value?)
  composed :
    ∀ (requested : List String) (names : DeploymentNames),
      (∃ composed,
          registry.compose requested names =
            .ok composed) ↔
        ∀ name ∈ requested, name ∈ registry.names
  refused :
    ∀ (requested : List String) (names : DeploymentNames)
      (error : ComposeError),
      registry.compose requested names = .error error ↔
        (∃ name ∈ requested, name ∉ registry.names) ∧
          error =
            .config (.unknownInitializers
              (sortNames
                (requested.filter
                  (!registry.names.contains ·)))
              registry.names)
  validated :
    ∀ (components : Registry) (request : Request),
      Run.validate components registry request = .ok () →
        ∀ deployment ∈ request.deployments,
          ∀ names : DeploymentNames,
            ∃ composed,
              registry.compose deployment.initializers
                  names =
                .ok composed
  ran :
    ∀ (components : Registry) (store : Store)
      (extensions : Extensions) (request : Request)
      (error : GenerateError),
      extensions.initializers = registry →
        (Run.execute components store extensions request).1 =
            .error error →
          Run.validate
                (Run.execute components store extensions
                  request).2
                registry request =
              .error error ∨
            (Run.execute components store extensions
                  { request with deployments := [] }).1 =
              .error error ∨
            ∃ deployment ∈ request.deployments,
              Run.RepeatsFile
                (Run.execute components store extensions
                  request).2
                registry deployment error

theorem IsMade.composesRegistered
    {registry : InitializerRegistry}
    (hMade : registry.IsMade) :
    registry.ComposesRegistered := by
  constructor
  case rendered =>
    intro initializer hMember part fragment hFragment
    rcases
        hMade.isRead initializer hMember part fragment
          hFragment with
      ⟨text, hText⟩
    rcases Fragment.exists_page hText with
      ⟨page, hPage, hSource, hRendered⟩
    subst hSource
    exact
      ⟨page, hPage, Fragment.template_of_ofText hText,
        hRendered⟩
  case composed =>
    intro requested names
    exact exists_compose_iff names
  case refused =>
    intro requested names error
    exact compose_eq_error_iff
  case validated =>
    intro components request hPasses deployment hMember names
    have hValid := Run.validate_eq_ok_iff.mp hPasses
    exact
      (exists_compose_iff names).mpr
        (hValid.deployments deployment hMember).2
  case ran =>
    intro components store extensions request error hSame
      hError
    subst hSame
    exact Run.execute_eq_error_cases hError

/- A registry of one initializer that is made of two texts. -/
def sample? : Option InitializerRegistry := do
  let started ←
    ((Initializer.named "log").withText .init
      "start(\x7b\x7b deployment | upper \x7d\x7d);").toOption
  let linked ←
    (started.withText (.build .deployment)
      "link(\x7b\x7bproject\x7d\x7d)\n").toOption
  some (empty.register linked).2

theorem sample_composesRegistered :
    ∃ registry : InitializerRegistry,
      registry.IsMade ∧
        registry.ComposesRegistered ∧
        (∃ composed,
          registry.compose ["log", "log"] ⟨"base", "rover"⟩ =
              .ok composed ∧
            composed.init = "start(ROVER);\n" ∧
            composed.build .deployment =
              some "link(base)\n") ∧
        registry.compose ["qt", "log"] ⟨"base", "rover"⟩ =
          .error
            (.config (.unknownInitializers ["qt"] ["log"])) := by
  have hSample :
      (sample?.bind fun registry =>
          (registry.compose ["log", "log"]
              ⟨"base", "rover"⟩).toOption.map
            fun composed =>
              (registry.names, composed.init,
                composed.build .deployment)) =
        some
          (["log"], "start(ROVER);\n",
            some "link(base)\n") := by
    decide +kernel
  rcases Option.bind_eq_some_iff.mp hSample with
    ⟨registry, hRegistry, hComposed⟩
  rcases Option.map_eq_some_iff.mp hComposed with
    ⟨composed, hComposed, hTold⟩
  simp only [Prod.mk.injEq] at hTold
  rcases hTold with ⟨hNames, hInit, hBuild⟩
  have hMade : registry.IsMade := by
    simp only [sample?, Option.bind_eq_bind,
      Option.bind_eq_some_iff, toOption_eq_some_iff]
      at hRegistry
    rcases hRegistry with
      ⟨started, hStarted, linked, hLinked, hRegistered⟩
    cases hRegistered
    exact
      .register .empty
        (.withText (.withText (.named "log") hStarted) hLinked)
  refine
    ⟨registry, hMade, hMade.composesRegistered,
      ⟨composed, toOption_eq_some_iff.mp hComposed, hInit,
        hBuild⟩,
      ?_⟩
  rw [compose_eq_error_iff, hNames]
  exact ⟨⟨"qt", by simp, by decide⟩, by decide +kernel⟩

end InitializerRegistry

end Componentry
