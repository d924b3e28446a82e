import Componentry.Proofs.Composition.Initializers
import Componentry.Proofs.Generation.Places

/-
  Which deployments are generated.

  A deployment with a plain name is generated exactly if the
  initializers that it asks for are registered: no fragment of
  them fails, and its files differ from each other.

  Main declarations:
    * `deploymentRelative`, `components_deploymentFiles`
    * `fills_deployment`
-/

------------------------------------------------------------
-- Files of Deployments
------------------------------------------------------------

namespace Componentry

/- The files of a deployment, below its place. -/
def deploymentRelative
    (composed : ComposedInitializers) :
    List (List String) :=
  [["global_scope.fragment"],
   ["init.fragment"],
   ["exit.fragment"]]
    ++ composed.buildTexts.map fun (target, _) =>
      ["build", target.key ++ ".fragment"]

theorem components_deploymentFiles
    {name : String}
    {composed : ComposedInitializers}
    (hName : Path.IsPlainName name) :
    (Run.deploymentFiles name composed).map
        (·.1.components) =
      (deploymentRelative composed).map
        (below "deployments" name) := by
  have hKind : Path.IsPlainName "deployments" := by
    constructor <;> simp
  have hDirectory := directory_isMadeOf hKind hName
  have hFragment (file : String) (hFile : '/' ∉ file.toList) :
      (Run.fragmentPath
          ((Path.mk "deployments").join ⟨name⟩)
          file).components =
        below "deployments" name [file ++ ".fragment"] :=
    fragmentPath_isMadeOf hDirectory hFile
  have hPlainBuild : Path.IsPlainName "build" := by
    constructor <;> simp
  have hBuildDirectory :=
    hDirectory.join hPlainBuild.isMadeOf (by simp)
  have hBuild (target : BuildTarget) :
      (Run.fragmentPath
          (((Path.mk "deployments").join ⟨name⟩).join
            ⟨"build"⟩)
          target.key).components =
        below "deployments" name
          ["build", target.key ++ ".fragment"] := by
    apply fragmentPath_isMadeOf hBuildDirectory
    cases target <;> simp [BuildTarget.key]
  simp only [Run.deploymentFiles, deploymentRelative,
    List.map_append, List.map_cons, List.map_nil,
    List.map_map]
  rw [hFragment _ (by simp), hFragment _ (by simp),
    hFragment _ (by simp)]
  exact
    congrArg
      ([below "deployments" name ["global_scope.fragment"],
        below "deployments" name ["init.fragment"],
        below "deployments" name ["exit.fragment"]] ++ ·)
      (List.map_congr_left fun made _ => hBuild made.1)

/- The files of a deployment differ from each other. -/
theorem nodup_deploymentRelative
    (composed : ComposedInitializers) :
    (deploymentRelative composed).Nodup := by
  have hBuild :
      (composed.buildTexts.map fun (target, _) =>
        ["build", target.key ++ ".fragment"]).Nodup := by
    unfold ComposedInitializers.buildTexts
    rw [List.map_filterMap]
    refine List.Nodup.filterMap ?_ (by decide)
    intro first second names hFirst hSecond
    simp only [Option.map_map, Option.mem_def,
      Option.map_eq_some_iff, Function.comp_apply]
      at hFirst hSecond
    rcases hFirst with ⟨_, -, rfl⟩
    rcases hSecond with ⟨_, -, hSame⟩
    have hKeys :
        second.key ++ ".fragment" =
          first.key ++ ".fragment" := by
      simpa using hSame
    rw [String.append_left_inj] at hKeys
    revert hKeys
    cases first <;> cases second <;> decide
  unfold deploymentRelative
  rw [List.nodup_append]
  refine ⟨by decide, hBuild, ?_⟩
  intro first hFirst second hSecond hSame
  rcases List.mem_map.mp hSecond with ⟨target, -, rfl⟩
  have hLength := congrArg List.length hSame
  simp only [List.mem_cons, List.not_mem_nil, or_false]
    at hFirst
  rcases hFirst with rfl | rfl | rfl
  · cases hLength
  · cases hLength
  · cases hLength

end Componentry

------------------------------------------------------------
-- Deployments
------------------------------------------------------------

namespace Componentry

/- With registered initializers a deployment fills its place. -/
theorem fills_deployment
    {registry : Registry}
    {initializers : InitializerRegistry}
    {request : DeploymentRequest}
    (hName : Path.IsPlainName request.name) :
    Fills (Run.deployment registry initializers)
      "deployments" DeploymentRequest.name
      (fun request =>
        ∀ name ∈ request.initializers,
          name ∈ initializers.names)
      request := by
  refine
    fills_of_files
      (fun files =>
        ∃ composed,
          initializers.compose request.initializers
              ⟨(registry.projectOwning?
                  request.name).getD "",
                request.name⟩ =
              .ok composed ∧
            Run.deploymentFiles request.name composed =
              files)
      (fun artifacts =>
        artifacts.resolve request.name
          (request.taskModels.foldl
            (Run.resolveModel registry)
            ⟨(registry.projectOwning?
                request.name).getD "", ∅, []⟩))
      ?_ (fun _ => rfl) ?_ ?_
  · intro artifacts next
    simp only [Run.deployment, bind_eq_ok_iff,
      mapError_eq_ok_iff, Except.ok.injEq]
    constructor
    · rintro ⟨composed, hCompose, hRest⟩
      exact ⟨_, ⟨composed, hCompose, rfl⟩, hRest⟩
    · rintro ⟨_, ⟨composed, hCompose, rfl⟩, hRest⟩
      exact ⟨composed, hCompose, hRest⟩
  · rintro _ ⟨composed, -, rfl⟩ file hFile
    exact
      place_prefix_of_map_eq
        (components_deploymentFiles hName) hFile
  · rw [← InitializerRegistry.exists_compose_iff]
    constructor
    · rintro ⟨_, ⟨composed, hCompose, -⟩, -⟩
      exact ⟨composed, hCompose⟩
    · rintro ⟨composed, hCompose⟩
      refine ⟨_, ⟨composed, hCompose, rfl⟩, ?_⟩
      rw [components_deploymentFiles hName,
        nodup_map_below_iff]
      exact nodup_deploymentRelative composed

end Componentry
