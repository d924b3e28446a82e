import Componentry.Proofs.Generation.Acceptance
import Componentry.Proofs.Generation.Items

/-
  What a run generates.

  A run succeeds exactly if the request passes the checks and
  the files of all its items can be added to nothing at all.
  Then the files are those of the items, and the notes are
  those on the deployments.

  Main declarations:
    * `Run.generate_eq_ok_iff`, `Run.execute_eq_ok_iff`
    * `Run.getElem?_deployments_iff`,
      `Run.mem_deployments_iff`
    * `Run.exists_execute_sample`
-/

------------------------------------------------------------
-- Runs
------------------------------------------------------------

namespace Componentry

namespace Run

variable {registry : Registry}
variable {store : Store}
variable {extensions : Extensions}
variable {request : Request}
variable {artifacts : Artifacts}

/- The three phases of a run are one walk over all items. -/
theorem generate_eq_foldlM
    (registry : Registry)
    (store : Store)
    (extensions : Extensions)
    (request : Request) :
    generate registry store extensions request =
      (validate registry extensions.initializers request
        >>= fun _ =>
          request.items.foldlM
            (Item.step registry store extensions) .empty) := by
  unfold generate Request.items
  cases validate registry extensions.initializers request with
  | error error => rfl
  | ok _ =>
      simp only [List.foldlM_append, List.foldlM_map,
        bind_assoc]
      rfl

/-
  What is left once the files of all items have been added and
  all deployments have been noted.
-/
def output
    (registry : Registry)
    (request : Request)
    (files : List (Path × String)) :
    Artifacts :=
  request.items.foldl (Item.note registry)
    (Artifacts.empty.withFiles files)

/- A request is generated if its files can be added. -/
theorem generate_eq_ok_iff :
    generate registry store extensions request =
        .ok artifacts ↔
      request.IsValid registry.view
          extensions.initializers ∧
        ∃ made,
          List.Forall₂
              (Item.Makes registry store extensions)
              request.items made ∧
            Artifacts.empty.Admits made.flatten ∧
            artifacts =
              output registry request made.flatten := by
  rw [generate_eq_foldlM, bind_check_eq_ok_iff,
    validate_eq_ok_iff, foldlM_step_eq_ok_iff]
  rfl

/- Over a registry that is built a run only generates. -/
theorem execute_eq_generate
    (hBuilt : registry.isBuilt = true) :
    execute registry store extensions request =
      (generate registry store extensions request,
        registry) := by
  unfold execute
  rw [if_pos hBuilt]

end Run

end Componentry

------------------------------------------------------------
-- Files and Notes
------------------------------------------------------------

namespace Componentry

namespace Run

variable {registry : Registry}
variable {request : Request}
variable {files : List (Path × String)}

theorem files_foldl_note
    (items : List Item)
    (artifacts : Artifacts) :
    (items.foldl (Item.note registry) artifacts).files =
      artifacts.files := by
  induction items generalizing artifacts with
  | nil => rfl
  | cons item items ih =>
      rw [List.foldl_cons, ih, Item.files_note]

@[simp] theorem files_output :
    (output registry request files).files =
      (Artifacts.empty.withFiles files).files :=
  files_foldl_note _ _

/- Typekits and task contexts leave no notes. -/
theorem deployments_output :
    (output registry request files).deployments =
      request.deployments.foldl
        (fun found deployment =>
          found.insert deployment.name
            (resolution registry deployment))
        ∅ := by
  have hQuiet
      (items : List Item)
      (artifacts : Artifacts)
      (hItems :
        ∀ item ∈ items,
          ∀ before, Item.note registry before item = before) :
      items.foldl (Item.note registry) artifacts =
        artifacts := by
    induction items generalizing artifacts with
    | nil => rfl
    | cons item items ih =>
        rw [List.forall_mem_cons] at hItems
        rw [List.foldl_cons, hItems.1, ih _ hItems.2]
  have hNoted
      (deployments : List DeploymentRequest)
      (artifacts : Artifacts) :
      ((deployments.map Item.deployment).foldl
          (Item.note registry) artifacts).deployments =
        deployments.foldl
          (fun found deployment =>
            found.insert deployment.name
              (resolution registry deployment))
          artifacts.deployments := by
    induction deployments generalizing artifacts with
    | nil => rfl
    | cons deployment deployments ih =>
        rw [List.map_cons, List.foldl_cons, ih]
        rfl
  unfold output Request.items
  rw [List.foldl_append, List.foldl_append, hNoted,
    hQuiet _ _ (by simp [Item.note]),
    hQuiet _ _ (by simp [Item.note])]
  rfl

/- Every deployment is noted under its name. -/
theorem getElem?_deployments_iff
    (hNames : (request.deployments.map (·.name)).Nodup)
    {name : String}
    {found : Resolution} :
    (output registry request files).deployments[name]? =
        some found ↔
      ∃ deployment ∈ request.deployments,
        deployment.name = name ∧
          resolution registry deployment = found := by
  rw [deployments_output]
  exact ByName.getElem?_foldl_put_iff hNames

/- Notes are on the deployments that are requested. -/
theorem mem_deployments_iff
    (hNames : (request.deployments.map (·.name)).Nodup)
    {name : String} :
    name ∈ (output registry request files).deployments ↔
      name ∈ request.deployments.map (·.name) := by
  rw [Std.ExtTreeMap.mem_iff_isSome_getElem?,
    Option.isSome_iff_exists]
  simp only [getElem?_deployments_iff hNames, List.mem_map]
  constructor
  · intro hFound
    rcases hFound with ⟨_, deployment, hMember, hName, -⟩
    exact ⟨deployment, hMember, hName⟩
  · intro hName
    rcases hName with ⟨deployment, hMember, hSame⟩
    exact ⟨_, deployment, hMember, hSame, rfl⟩

/- What is found is at the place of a file. -/
theorem getElem?_files_iff
    (hAdmits : Artifacts.empty.Admits files)
    {key : List Path.Component}
    {artifact : Artifact} :
    (output registry request files).files[key]? =
        some artifact ↔
      ∃ file ∈ files,
        file.1.components = key ∧
          artifact = ⟨file.1, file.2⟩ := by
  rw [files_output, Artifacts.getElem?_withFiles_iff hAdmits]
  simp [Artifacts.empty]

end Run

end Componentry

------------------------------------------------------------
-- A Run over the Small Installation
------------------------------------------------------------

namespace Componentry

/- The typekits of the small installation have plain names. -/
theorem Request.isPlainName_of_mem_sample :
    ∀ name ∈ Request.sample.typekits,
      Path.IsPlainName name := by
  intro name hName
  simp only [sample, List.mem_cons, List.not_mem_nil,
    or_false] at hName
  rcases hName with hName | hName | hName
  all_goals
    subst hName
    constructor <;> simp

/-
  With the built-in extensions everything in the small
  installation can be generated.
-/
theorem Run.exists_execute_sample :
    ∃ report registry extensions artifacts,
      Registry.rebuild ⟨.standard, none⟩
            MemoryStore.sample.view =
          (.ok report, registry) ∧
        Extensions.builtin = .ok extensions ∧
        (execute registry MemoryStore.sampleWithTypes.view
            extensions .sample).1 =
          .ok artifacts := by
  rcases Request.sample_isAcceptable with
    ⟨draft, hScan, hAcceptable⟩
  rcases InitializerRegistry.exists_builtin with
    ⟨initializers, hBuiltin, hNames⟩
  have hRebuild :=
    Registry.rebuild_eq_of_scan ⟨.standard, none⟩ hScan
  rw [Request.isAcceptable_iff hNames] at hAcceptable
  rcases
      (exists_generate_iff
          Request.isPlainName_of_mem_sample fun name hName =>
        isPlainName_of_rebuild hRebuild hName).mpr
        hAcceptable with
    ⟨artifacts, hArtifacts⟩
  refine
    ⟨_, _, ⟨.builtin, initializers, .builtin⟩, artifacts,
      hRebuild, ?_, ?_⟩
  · simp only [Extensions.builtin, hBuiltin]
    rfl
  · rw [execute_eq_generate rfl]
    exact hArtifacts

end Componentry
