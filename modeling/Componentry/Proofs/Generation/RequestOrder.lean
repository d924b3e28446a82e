import Mathlib.Data.List.Perm.Basic
import Componentry.Proofs.Composition.Requests
import Componentry.Proofs.Generation.Outputs

/-
  Requests that ask for the same.

  It does not matter in which order a request asks for
  deployments, task contexts, typekits and the initializers of
  a deployment, nor how often it asks for a typekit or an
  initializer.  Requests that differ in nothing else make the
  same items, so the files of both can be added or those of
  neither, and what is there then is the same.

  Main declarations:
    * `DeploymentRequest.Alike`, `Request.Alike`
    * `Request.Alike.symm`, `Request.Alike.isValid`
    * `Request.Alike.makes`
    * `execute_eq_ok_iff_of_alike`
-/

------------------------------------------------------------
-- Alike Requests
------------------------------------------------------------

namespace Componentry

/-
  Deployments that differ at most in the order and the
  repetition of their initializers.
-/
structure DeploymentRequest.Alike
    (first second : DeploymentRequest) : Prop where
  name : first.name = second.name
  taskModels : first.taskModels = second.taskModels
  initializers :
    ∀ initializer,
      initializer ∈ first.initializers ↔
        initializer ∈ second.initializers

/- Requests that ask for the same, maybe in another order. -/
structure Request.Alike (first second : Request) : Prop where
  typekits :
    ∀ name, name ∈ first.typekits ↔ name ∈ second.typekits
  deployments :
    ∃ ordered,
      first.deployments.Perm ordered ∧
        List.Forall₂ DeploymentRequest.Alike ordered
          second.deployments
  taskContexts :
    first.taskContexts.Perm second.taskContexts

theorem DeploymentRequest.Alike.symm
    {first second : DeploymentRequest}
    (hAlike : first.Alike second) :
    second.Alike first where
  name := hAlike.name.symm
  taskModels := hAlike.taskModels.symm
  initializers := fun initializer =>
    (hAlike.initializers initializer).symm

namespace Request.Alike

variable {first second : Request}

theorem symm
    (hAlike : first.Alike second) :
    second.Alike first where
  typekits := fun name => (hAlike.typekits name).symm
  deployments := by
    rcases hAlike.deployments with ⟨ordered, hPerm, hEach⟩
    have hBack :
        List.Forall₂ DeploymentRequest.Alike
          second.deployments ordered :=
      hEach.flip.imp fun _ _ hPair => hPair.symm
    have hComp :
        Relation.Comp
          (List.Forall₂ DeploymentRequest.Alike) List.Perm
          second.deployments first.deployments :=
      ⟨ordered, hBack, hPerm.symm⟩
    rw [List.forall₂_comp_perm_eq_perm_comp_forall₂] at hComp
    exact hComp
  taskContexts := hAlike.taskContexts.symm

/- Every deployment has one that is like it. -/
theorem exists_deployment
    (hAlike : first.Alike second)
    {deployment : DeploymentRequest}
    (hMember : deployment ∈ second.deployments) :
    ∃ other ∈ first.deployments, other.Alike deployment := by
  rcases hAlike.deployments with ⟨ordered, hPerm, hEach⟩
  rcases exists_left_of_mem hEach hMember with
    ⟨other, hOther, hLike⟩
  exact ⟨other, hPerm.mem_iff.mpr hOther, hLike⟩

theorem deploymentNames_perm
    (hAlike : first.Alike second) :
    (first.deployments.map (·.name)).Perm
      (second.deployments.map (·.name)) := by
  rcases hAlike.deployments with ⟨ordered, hPerm, hEach⟩
  have hNames :
      ordered.map (·.name) =
        second.deployments.map (·.name) := by
    rw [← List.forall₂_eq_eq_eq, List.forall₂_map_left_iff,
      List.forall₂_map_right_iff]
    exact hEach.imp fun _ _ hPair => hPair.name
  rw [← hNames]
  exact hPerm.map _

/- Both requests pass the checks, or none of them does. -/
theorem isValid
    {snapshot : Snapshot}
    {initializers : InitializerRegistry}
    (hAlike : first.Alike second)
    (hValid : first.IsValid snapshot initializers) :
    second.IsValid snapshot initializers where
  deploymentsDiffer :=
    hAlike.deploymentNames_perm.nodup_iff.mp
      hValid.deploymentsDiffer
  deployments := by
    intro deployment hMember
    rcases hAlike.exists_deployment hMember with
      ⟨other, hOther, hLike⟩
    rcases hValid.deployments other hOther with
      ⟨hInstalled, hRegistered⟩
    rw [hLike.name] at hInstalled
    refine ⟨hInstalled, ?_⟩
    intro name hName
    exact hRegistered name ((hLike.initializers name).mpr hName)
  typekits := by
    intro name hName
    exact hValid.typekits name ((hAlike.typekits name).mpr hName)
  tasksDiffer :=
    (hAlike.taskContexts.map (·.name)).nodup_iff.mp
      hValid.tasksDiffer

end Request.Alike

end Componentry

------------------------------------------------------------
-- Alike Items
------------------------------------------------------------

namespace Componentry

namespace Run

/- Items of requests that ask for the same. -/
inductive Item.Alike : Item → Item → Prop where
  | typekit (name : String) :
      Alike (.typekit name) (.typekit name)
  | task (context : TaskContext) :
      Alike (.task context) (.task context)
  | deployment
      {first second : DeploymentRequest}
      (hAlike : first.Alike second) :
      Alike (.deployment first) (.deployment second)

variable {registry : Registry}
variable {store : Store}
variable {extensions : Extensions}

/- Items that are alike make the same files. -/
theorem Item.Alike.makes
    {first second : Item}
    {files : List (Path × String)}
    (hAlike : first.Alike second)
    (hMakes : first.Makes registry store extensions files) :
    second.Makes registry store extensions files := by
  cases hAlike with
  | typekit name => exact hMakes
  | task context => exact hMakes
  | deployment hDeployment =>
      cases hMakes with
      | deployment hComposed =>
          rw [hDeployment.name,
            InitializerRegistry.compose_congr
              hDeployment.initializers]
            at hComposed
          rw [hDeployment.name]
          exact .deployment hComposed

/- Deployments that are alike are resolved alike. -/
theorem resolution_of_alike
    {first second : DeploymentRequest}
    (hAlike : first.Alike second) :
    resolution registry first =
      resolution registry second := by
  unfold resolution
  rw [hAlike.name, hAlike.taskModels]

/- The same typekits are generated in the same order. -/
theorem distinct_of_mem_iff
    {first second : List String}
    (hSame : ∀ name, name ∈ first ↔ name ∈ second) :
    distinct first = distinct second := by
  have hSets :
      Std.ExtTreeSet.ofList first =
        Std.ExtTreeSet.ofList second := by
    apply Std.ExtTreeSet.ext_mem
    intro name
    rw [Std.ExtTreeSet.mem_ofList, Std.ExtTreeSet.mem_ofList,
      List.contains_iff_mem, List.contains_iff_mem]
    exact hSame name
  unfold distinct
  rw [hSets]

end Run

namespace Request.Alike

open Run (Item)

variable {registry : Registry}
variable {store : Store}
variable {extensions : Extensions}
variable {first second : Request}

/- Requests that are alike have alike items, in some order. -/
theorem items
    (hAlike : first.Alike second) :
    ∃ ordered,
      first.items.Perm ordered ∧
        List.Forall₂ Item.Alike ordered second.items := by
  rcases hAlike.deployments with ⟨ordered, hPerm, hEach⟩
  refine
    ⟨(Run.distinct second.typekits).map .typekit
        ++ second.taskContexts.map .task
        ++ ordered.map .deployment,
      ?_, ?_⟩
  · unfold Request.items
    rw [Run.distinct_of_mem_iff hAlike.typekits]
    exact
      ((hAlike.taskContexts.map Item.task).append_left
        _).append (hPerm.map Item.deployment)
  · unfold Request.items
    apply List.rel_append
    · apply List.rel_append
      · rw [List.forall₂_map_left_iff,
          List.forall₂_map_right_iff, List.forall₂_same]
        intro name _
        exact .typekit name
      · rw [List.forall₂_map_left_iff,
          List.forall₂_map_right_iff, List.forall₂_same]
        intro context _
        exact .task context
    · rw [List.forall₂_map_left_iff,
        List.forall₂_map_right_iff]
      exact hEach.imp fun _ _ hPair => .deployment hPair

/- The items of both make the same files, in some order. -/
theorem makes
    (hAlike : first.Alike second)
    {made : List (List (Path × String))}
    (hMade :
      List.Forall₂ (Item.Makes registry store extensions)
        first.items made) :
    ∃ others,
      List.Forall₂ (Item.Makes registry store extensions)
          second.items others ∧
        others.Perm made := by
  rcases hAlike.items with ⟨ordered, hPerm, hEach⟩
  rcases List.perm_comp_forall₂ hPerm.symm hMade with
    ⟨others, hOthers, hOrder⟩
  have hTransfer :
      List.Forall₂ (Item.Makes registry store extensions)
        second.items others := by
    clear hPerm hMade hOrder hAlike
    generalize second.items = items at hEach ⊢
    induction hEach generalizing others with
    | nil =>
        cases hOthers
        exact .nil
    | cons hPair hRest ih =>
        cases hOthers with
        | cons hFiles hOthers =>
            exact .cons (hPair.makes hFiles) (ih _ hOthers)
  exact ⟨others, hTransfer, hOrder⟩

/- What both leave is the same. -/
theorem output
    (hAlike : first.Alike second)
    (hNames : (first.deployments.map (·.name)).Nodup)
    {files others : List (Path × String)}
    (hAdmits : Artifacts.empty.Admits files)
    (hPerm : files.Perm others) :
    Run.output registry first files =
      Run.output registry second others := by
  have hFiles :
      (Run.output registry first files).files =
        (Run.output registry second others).files := by
    rw [Run.files_output, Run.files_output,
      Artifacts.withFiles_of_perm hAdmits hPerm]
  have hOtherNames :=
    hAlike.deploymentNames_perm.nodup_iff.mp hNames
  -- Either request notes what the other one notes.
  have hNoted
      {some other : Request}
      (hPair : some.Alike other)
      {name : String}
      {found : Resolution}
      (hFound :
        ∃ deployment ∈ other.deployments,
          deployment.name = name ∧
            Run.resolution registry deployment = found) :
      ∃ deployment ∈ some.deployments,
        deployment.name = name ∧
          Run.resolution registry deployment = found := by
    rcases hFound with ⟨deployment, hMember, hName, hIs⟩
    rcases hPair.exists_deployment hMember with
      ⟨similar, hSimilar, hLike⟩
    refine ⟨similar, hSimilar, hLike.name.trans hName, ?_⟩
    rw [Run.resolution_of_alike hLike, hIs]
  have hDeployments :
      (Run.output registry first files).deployments =
        (Run.output registry second others).deployments := by
    apply Std.ExtTreeMap.ext_getElem?
    intro name
    apply Option.ext
    intro found
    rw [Run.getElem?_deployments_iff hNames,
      Run.getElem?_deployments_iff hOtherNames]
    exact ⟨hNoted hAlike.symm, hNoted hAlike⟩
  calc
    Run.output registry first files =
        ⟨(Run.output registry first files).files,
          (Run.output registry first files).deployments⟩ :=
      rfl
    _ = ⟨(Run.output registry second others).files,
          (Run.output registry second
            others).deployments⟩ := by
      rw [hFiles, hDeployments]
    _ = Run.output registry second others := rfl

/- What one of them generates, the other one generates too. -/
theorem generate_eq_ok
    (hAlike : first.Alike second)
    {artifacts : Artifacts}
    (hGenerated :
      Run.generate registry store extensions first =
        .ok artifacts) :
    Run.generate registry store extensions second =
      .ok artifacts := by
  rw [Run.generate_eq_ok_iff] at hGenerated ⊢
  rcases hGenerated with
    ⟨hValid, made, hMade, hAdmits, hArtifacts⟩
  rcases hAlike.makes hMade with ⟨others, hOthers, hPerm⟩
  have hFiles : made.flatten.Perm others.flatten :=
    hPerm.symm.flatten
  refine
    ⟨hAlike.isValid hValid, others, hOthers,
      hAdmits.of_perm hFiles, ?_⟩
  rw [hArtifacts]
  exact hAlike.output hValid.deploymentsDiffer hAdmits hFiles

end Request.Alike

end Componentry

------------------------------------------------------------
-- Runs of Alike Requests
------------------------------------------------------------

namespace Componentry

/-
  A run succeeds for both of two requests that ask for the
  same, and with the same files and resolutions, or for none
  of them.
-/
theorem execute_eq_ok_iff_of_alike
    {first second : Request}
    (registry : Registry)
    (store : Store)
    (extensions : Extensions)
    (artifacts : Artifacts)
    (hAlike : first.Alike second) :
    (Run.execute registry store extensions first).1 =
        .ok artifacts ↔
      (Run.execute registry store extensions second).1 =
        .ok artifacts := by
  have hGenerate (registry : Registry) :
      Run.generate registry store extensions first =
          .ok artifacts ↔
        Run.generate registry store extensions second =
          .ok artifacts :=
    ⟨hAlike.generate_eq_ok, hAlike.symm.generate_eq_ok⟩
  unfold Run.execute
  by_cases hBuilt : registry.isBuilt = true
  · rw [if_pos hBuilt, if_pos hBuilt]
    exact hGenerate registry
  · rw [if_neg hBuilt, if_neg hBuilt]
    rcases registry.rebuild store with ⟨report, rebuilt⟩
    cases report with
    | error error => exact Iff.rfl
    | ok report => exact hGenerate rebuilt

/- What `Request.sample` asks for, in another order. -/
def Request.sampleReordered : Request :=
  { Request.sample with
    typekits := ["base", "more"]
    deployments :=
      [⟨"rover", ["qt", "qt5", "qt"], ["base::Task"]⟩] }

theorem Request.sample_alike_sampleReordered :
    Request.sample.Alike .sampleReordered where
  typekits := by
    intro name
    simp only [sample, sampleReordered, List.mem_cons]
    grind
  deployments := by
    refine ⟨_, List.Perm.refl _, .cons ⟨rfl, rfl, ?_⟩ .nil⟩
    intro initializer
    simp only [List.mem_cons]
    grind
  taskContexts := List.Perm.refl _

theorem sampleReordered_eq_ok :
    ∃ registry extensions artifacts,
      Request.sample.Alike .sampleReordered ∧
        (Run.execute registry
            MemoryStore.sampleWithTypes.view extensions
            .sample).1 =
          .ok artifacts ∧
        (Run.execute registry
            MemoryStore.sampleWithTypes.view extensions
            .sampleReordered).1 =
          .ok artifacts := by
  rcases Run.exists_execute_sample with
    ⟨_, registry, extensions, artifacts, -, -, hArtifacts⟩
  have hReordered :=
    (execute_eq_ok_iff_of_alike registry
      MemoryStore.sampleWithTypes.view extensions artifacts
      Request.sample_alike_sampleReordered).mp hArtifacts
  exact
    ⟨registry, extensions, artifacts,
      Request.sample_alike_sampleReordered, hArtifacts,
      hReordered⟩

end Componentry
