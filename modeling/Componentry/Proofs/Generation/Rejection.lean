import Componentry.Proofs.Generation.Outputs

/-
  Requests that are rejected.

  A request is checked as a whole before anything else is
  done.  What a rejected request fails with is told by the
  first of its items that does not pass: it depends on what is
  installed and on the names of the initializers, and neither
  on what plugins, templates and generators would do nor on
  what can be read from a store.

  Main declarations:
    * `Request.IsRejected`, `Request.FirstFault`
    * `Run.validate_of_firstFault`
    * `Request.valid_or_exists_firstFault`
    * `execute_eq_error_of_isRejected`
-/

------------------------------------------------------------
-- Rejected Requests
------------------------------------------------------------

namespace Componentry

/- Something that is requested is not acceptable. -/
inductive Request.IsRejected
    (snapshot : Snapshot)
    (known : List String)
    (request : Request) : Prop where
  | repeatedDeployment
      (hTwice : ¬(request.deployments.map (·.name)).Nodup)
  | unknownInitializer
      {deployment : DeploymentRequest}
      {name : String}
      (hMember : deployment ∈ request.deployments)
      (hRequested : name ∈ deployment.initializers)
      (hUnknown : name ∉ known)
  | deploymentNotInstalled
      {deployment : DeploymentRequest}
      (hMember : deployment ∈ request.deployments)
      (hMissing : deployment.name ∉ snapshot.deployments)
  | typekitNotInstalled
      {name : String}
      (hMember : name ∈ request.typekits)
      (hMissing : name ∉ snapshot.typekits)
  | repeatedTask
      (hTwice : ¬(request.taskContexts.map (·.name)).Nodup)

/- Deployments that pass the checks. -/
structure DeploymentRequest.AreValid
    (snapshot : Snapshot)
    (known : List String)
    (deployments : List DeploymentRequest) : Prop where
  differ : (deployments.map (·.name)).Nodup
  known :
    ∀ deployment ∈ deployments,
      ∀ name ∈ deployment.initializers, name ∈ known
  installed :
    ∀ deployment ∈ deployments,
      deployment.name ∈ snapshot.deployments

/- The initializers of a deployment that are not known. -/
def DeploymentRequest.unknown
    (known : List String)
    (deployment : DeploymentRequest) :
    List String :=
  deployment.initializers.filter (!known.contains ·)

/-
  The fault of a deployment behind others that pass: it is
  repeated, or else its initializers are not known, or else it
  is not installed.
-/
inductive DeploymentRequest.FirstFault
    (snapshot : Snapshot)
    (known : List String)
    (deployments : List DeploymentRequest) :
    GenerateError → Prop where
  | repeated
      {before after : List DeploymentRequest}
      {deployment : DeploymentRequest}
      (hHere : deployments = before ++ deployment :: after)
      (hBefore : AreValid snapshot known before)
      (hRepeated : deployment.name ∈ before.map (·.name)) :
      FirstFault snapshot known deployments
        (.request (.repeatedDeployment deployment.name))
  | unknownInitializers
      {before after : List DeploymentRequest}
      {deployment : DeploymentRequest}
      (hHere : deployments = before ++ deployment :: after)
      (hBefore : AreValid snapshot known before)
      (hNew : deployment.name ∉ before.map (·.name))
      (hUnknown : deployment.unknown known ≠ []) :
      FirstFault snapshot known deployments
        (.compose <| .config <| .unknownInitializers
          (InitializerRegistry.sortNames
            (deployment.unknown known))
          known)
  | notInstalled
      {before after : List DeploymentRequest}
      {deployment : DeploymentRequest}
      (hHere : deployments = before ++ deployment :: after)
      (hBefore : AreValid snapshot known before)
      (hNew : deployment.name ∉ before.map (·.name))
      (hKnown : deployment.unknown known = [])
      (hMissing : deployment.name ∉ snapshot.deployments) :
      FirstFault snapshot known deployments
        (.registry (.notFound .deployment deployment.name))

/-
  The fault of the first item that does not pass: deployments
  come first, then typekits, then task contexts.
-/
inductive Request.FirstFault
    (snapshot : Snapshot)
    (known : List String)
    (request : Request) :
    GenerateError → Prop where
  | deployment
      {error : GenerateError}
      (hFault :
        DeploymentRequest.FirstFault snapshot known
          request.deployments error) :
      FirstFault snapshot known request error
  | typekit
      {before after : List String}
      {name : String}
      (hDeployments :
        DeploymentRequest.AreValid snapshot known
          request.deployments)
      (hHere : request.typekits = before ++ name :: after)
      (hBefore : ∀ other ∈ before, other ∈ snapshot.typekits)
      (hMissing : name ∉ snapshot.typekits) :
      FirstFault snapshot known request
        (.registry (.notFound .typekit name))
  | task
      {before after : List TaskContext}
      {context : TaskContext}
      (hDeployments :
        DeploymentRequest.AreValid snapshot known
          request.deployments)
      (hTypekits :
        ∀ name ∈ request.typekits, name ∈ snapshot.typekits)
      (hHere :
        request.taskContexts = before ++ context :: after)
      (hBefore : (before.map (·.name)).Nodup)
      (hRepeated : context.name ∈ before.map (·.name)) :
      FirstFault snapshot known request
        (.request (.repeatedTask context.name))

end Componentry

------------------------------------------------------------
-- Something Fails First
------------------------------------------------------------

namespace Componentry

variable {snapshot : Snapshot}
variable {known : List String}

namespace DeploymentRequest

theorem unknown_eq_nil_iff
    {deployment : DeploymentRequest} :
    deployment.unknown known = [] ↔
      ∀ name ∈ deployment.initializers, name ∈ known := by
  simp [unknown, List.filter_eq_nil_iff]

/- One more deployment passes if it has no fault. -/
theorem areValid_append_singleton_iff
    {deployments : List DeploymentRequest}
    {last : DeploymentRequest} :
    AreValid snapshot known (deployments ++ [last]) ↔
      AreValid snapshot known deployments ∧
        last.name ∉ deployments.map (·.name) ∧
        last.unknown known = [] ∧
        last.name ∈ snapshot.deployments := by
  have hDiffer :
      ((deployments ++ [last]).map (·.name)).Nodup ↔
        (deployments.map (·.name)).Nodup ∧
          last.name ∉ deployments.map (·.name) := by
    rw [List.map_append, List.map_singleton,
      ← List.concat_eq_append, List.nodup_concat, and_comm]
  rw [unknown_eq_nil_iff]
  constructor
  · intro hValid
    have hKnown := hValid.known
    have hInstalled := hValid.installed
    simp only [List.forall_mem_append,
      List.forall_mem_singleton] at hKnown hInstalled
    rcases hDiffer.mp hValid.differ with ⟨hBefore, hNew⟩
    exact
      ⟨⟨hBefore, hKnown.1, hInstalled.1⟩, hNew, hKnown.2,
        hInstalled.2⟩
  · intro hParts
    rcases hParts with ⟨hBefore, hNew, hKnown, hInstalled⟩
    constructor
    case differ => exact hDiffer.mpr ⟨hBefore.differ, hNew⟩
    case known =>
      rw [List.forall_mem_append, List.forall_mem_singleton]
      exact ⟨hBefore.known, hKnown⟩
    case installed =>
      rw [List.forall_mem_append, List.forall_mem_singleton]
      exact ⟨hBefore.installed, hInstalled⟩

/- What fails first does so whatever else is requested. -/
theorem FirstFault.append
    {deployments : List DeploymentRequest}
    {error : GenerateError}
    (hFault : FirstFault snapshot known deployments error)
    (others : List DeploymentRequest) :
    FirstFault snapshot known (deployments ++ others)
      error := by
  cases hFault with
  | repeated hHere hBefore hRepeated =>
      subst hHere
      exact
        .repeated (List.append_assoc _ _ _) hBefore hRepeated
  | unknownInitializers hHere hBefore hNew hUnknown =>
      subst hHere
      exact
        .unknownInitializers (List.append_assoc _ _ _)
          hBefore hNew hUnknown
  | notInstalled hHere hBefore hNew hKnown hMissing =>
      subst hHere
      exact
        .notInstalled (List.append_assoc _ _ _) hBefore hNew
          hKnown hMissing

/- Deployments pass, or one of them is the first to fail. -/
theorem areValid_or_exists_firstFault
    (snapshot : Snapshot)
    (known : List String)
    (deployments : List DeploymentRequest) :
    AreValid snapshot known deployments ∨
      ∃ error,
        FirstFault snapshot known deployments error := by
  induction deployments using List.reverseRecOn with
  | nil =>
      left
      constructor
      case differ => exact List.nodup_nil
      case known => simp
      case installed => simp
  | append_singleton deployments last ih =>
      rcases ih with hValid | hFault
      · by_cases hNew :
            last.name ∈ deployments.map (·.name)
        · exact Or.inr ⟨_, .repeated rfl hValid hNew⟩
        · by_cases hKnown : last.unknown known = []
          · by_cases hInstalled :
                last.name ∈ snapshot.deployments
            · left
              rw [areValid_append_singleton_iff]
              exact ⟨hValid, hNew, hKnown, hInstalled⟩
            · exact
                Or.inr
                  ⟨_, .notInstalled rfl hValid hNew hKnown
                    hInstalled⟩
          · exact
              Or.inr
                ⟨_, .unknownInitializers rfl hValid hNew
                  hKnown⟩
      · rcases hFault with ⟨error, hFault⟩
        exact Or.inr ⟨error, hFault.append [last]⟩

end DeploymentRequest

namespace Request

variable {request : Request}

/- Typekits are installed, or one is the first that is not. -/
theorem installed_or_exists_first
    (snapshot : Snapshot)
    (names : List String) :
    (∀ name ∈ names, name ∈ snapshot.typekits) ∨
      ∃ before name after,
        names = before ++ name :: after ∧
          (∀ other ∈ before, other ∈ snapshot.typekits) ∧
          name ∉ snapshot.typekits := by
  induction names with
  | nil => simp
  | cons name names ih =>
      by_cases hInstalled : name ∈ snapshot.typekits
      · rcases ih with hAll | hFirst
        · left
          rw [List.forall_mem_cons]
          exact ⟨hInstalled, hAll⟩
        · rcases hFirst with
            ⟨before, other, after, hHere, hBefore, hMissing⟩
          right
          refine
            ⟨name :: before, other, after, ?_, ?_, hMissing⟩
          · rw [hHere]
            rfl
          · rw [List.forall_mem_cons]
            exact ⟨hInstalled, hBefore⟩
      · right
        exact ⟨[], name, names, rfl, by simp, hInstalled⟩

/- Task contexts differ, or one is the first repetition. -/
theorem nodup_or_exists_first
    (tasks : List TaskContext) :
    (tasks.map (·.name)).Nodup ∨
      ∃ before context after,
        tasks = before ++ context :: after ∧
          (before.map (·.name)).Nodup ∧
          context.name ∈ before.map (·.name) := by
  induction tasks using List.reverseRecOn with
  | nil => simp
  | append_singleton tasks last ih =>
      rcases ih with hDiffer | hFirst
      · by_cases hNew : last.name ∈ tasks.map (·.name)
        · exact Or.inr ⟨tasks, last, [], rfl, hDiffer, hNew⟩
        · left
          rw [List.map_append, List.map_singleton,
            ← List.concat_eq_append, List.nodup_concat]
          exact ⟨hNew, hDiffer⟩
      · rcases hFirst with
          ⟨before, context, after, hHere, hBefore, hAgain⟩
        right
        refine
          ⟨before, context, after ++ [last], ?_, hBefore,
            hAgain⟩
        rw [hHere, List.append_assoc]
        rfl

/- One of the items of a rejected request fails first. -/
theorem IsRejected.exists_firstFault
    (hRejected : request.IsRejected snapshot known) :
    ∃ error, request.FirstFault snapshot known error := by
  rcases
      DeploymentRequest.areValid_or_exists_firstFault
        snapshot known request.deployments with
    hDeployments | hFault
  · rcases
        installed_or_exists_first snapshot request.typekits
      with hTypekits | hFirst
    · rcases nodup_or_exists_first request.taskContexts with
        hTasks | hFirst
      · exfalso
        cases hRejected with
        | repeatedDeployment hTwice =>
            exact hTwice hDeployments.differ
        | unknownInitializer hMember hRequested hUnknown =>
            exact
              hUnknown
                (hDeployments.known _ hMember _ hRequested)
        | deploymentNotInstalled hMember hMissing =>
            exact
              hMissing (hDeployments.installed _ hMember)
        | typekitNotInstalled hMember hMissing =>
            exact hMissing (hTypekits _ hMember)
        | repeatedTask hTwice => exact hTwice hTasks
      · rcases hFirst with
          ⟨before, context, after, hHere, hBefore, hAgain⟩
        exact
          ⟨_, .task hDeployments hTypekits hHere hBefore
            hAgain⟩
    · rcases hFirst with
        ⟨before, name, after, hHere, hBefore, hMissing⟩
      exact
        ⟨_, .typekit hDeployments hHere hBefore hMissing⟩
  · rcases hFault with ⟨error, hFault⟩
    exact ⟨error, .deployment hFault⟩

end Request

end Componentry

------------------------------------------------------------
-- Checks Stop There
------------------------------------------------------------

namespace Componentry

namespace Run

variable {registry : Registry}
variable {initializers : InitializerRegistry}
variable {error : GenerateError}

/- Deployments that pass are seen by those behind them. -/
theorem validateDeployments_append
    {seen : List String}
    {before : List DeploymentRequest}
    (after : List DeploymentRequest)
    (hBefore :
      validateDeployments registry initializers seen before =
        .ok ()) :
    validateDeployments registry initializers seen
        (before ++ after) =
      validateDeployments registry initializers
        ((before.map (·.name)).reverse ++ seen) after := by
  induction before generalizing seen with
  | nil => rfl
  | cons deployment before ih =>
      rw [validateDeployments] at hBefore
      rw [List.cons_append, validateDeployments]
      by_cases hSeen : seen.contains deployment.name = true
      · rw [if_pos hSeen] at hBefore
        cases hBefore
      · rw [if_neg hSeen] at hBefore ⊢
        cases hResolve :
            initializers.resolve
              deployment.initializers with
        | error error =>
            simp only [hResolve, reduceCtorEq] at hBefore
        | ok selected =>
            cases hOwner :
                registry.projectOwning?
                  deployment.name with
            | none =>
                simp only [hResolve, hOwner, reduceCtorEq]
                  at hBefore
            | some project =>
                simp only [hResolve, hOwner] at hBefore
                rw [ih hBefore, List.map_cons,
                  List.reverse_cons, List.append_assoc]
                rfl

theorem validateTypekits_append
    {before : List String}
    (after : List String)
    (hBefore : validateTypekits registry before = .ok ()) :
    validateTypekits registry (before ++ after) =
      validateTypekits registry after := by
  induction before with
  | nil => rfl
  | cons name before ih =>
      rw [validateTypekits] at hBefore
      rw [List.cons_append, validateTypekits]
      by_cases hInstalled : registry.hasTypekit name = true
      · rw [if_pos hInstalled] at hBefore ⊢
        exact ih hBefore
      · rw [if_neg hInstalled] at hBefore
        cases hBefore

theorem validateTasks_append
    {seen : List String}
    {before : List TaskContext}
    (after : List TaskContext)
    (hBefore : validateTasks seen before = .ok ()) :
    validateTasks seen (before ++ after) =
      validateTasks ((before.map (·.name)).reverse ++ seen)
        after := by
  induction before generalizing seen with
  | nil => rfl
  | cons task before ih =>
      rw [validateTasks] at hBefore
      rw [List.cons_append, validateTasks]
      by_cases hSeen : seen.contains task.name = true
      · rw [if_pos hSeen] at hBefore
        cases hBefore
      · rw [if_neg hSeen] at hBefore ⊢
        rw [ih hBefore, List.map_cons, List.reverse_cons,
          List.append_assoc]
        rfl

theorem validateDeployments_of_areValid
    {deployments : List DeploymentRequest}
    (hValid :
      DeploymentRequest.AreValid registry.view
        initializers.names deployments) :
    validateDeployments registry initializers []
        deployments =
      .ok () := by
  rw [validateDeployments_eq_ok_iff, areNew_iff_nodup]
  refine ⟨hValid.differ, ?_⟩
  intro deployment hMember
  exact
    ⟨hValid.installed deployment hMember,
      hValid.known deployment hMember⟩

/- The checks of deployments stop at the first fault. -/
theorem validateDeployments_of_firstFault
    {deployments : List DeploymentRequest}
    (hFault :
      DeploymentRequest.FirstFault registry.view
        initializers.names deployments error) :
    validateDeployments registry initializers []
        deployments =
      .error error := by
  have hSeen
      {before : List DeploymentRequest}
      {name : String} :
      ((before.map DeploymentRequest.name).reverse
            ++ []).contains name =
          true ↔
        name ∈ before.map DeploymentRequest.name := by
    simp
  cases hFault with
  | repeated hHere hBefore hRepeated =>
      rw [hHere, validateDeployments_append _
        (validateDeployments_of_areValid hBefore)]
      exact if_pos (hSeen.mpr hRepeated)
  | unknownInitializers hHere hBefore hNew hUnknown =>
      rw [hHere, validateDeployments_append _
        (validateDeployments_of_areValid hBefore),
        validateDeployments, if_neg (mt hSeen.mp hNew),
        InitializerRegistry.resolve_of_unknown hUnknown]
      rfl
  | notInstalled hHere hBefore hNew hKnown hMissing =>
      rcases
          InitializerRegistry.exists_resolve_iff.mpr
            (DeploymentRequest.unknown_eq_nil_iff.mp hKnown)
        with ⟨selected, hResolve⟩
      rw [hHere, validateDeployments_append _
        (validateDeployments_of_areValid hBefore),
        validateDeployments, if_neg (mt hSeen.mp hNew),
        hResolve]
      simp only [
        Registry.projectOwning?_eq_none_iff.mpr hMissing]

/- A request fails with the fault of its first item that does. -/
theorem validate_of_firstFault
    {request : Request}
    (hFault :
      request.FirstFault registry.view initializers.names
        error) :
    validate registry initializers request =
      .error error := by
  unfold validate
  cases hFault with
  | deployment hFault =>
      rw [validateDeployments_of_firstFault hFault]
      rfl
  | @typekit before after name hDeployments hHere hBefore
      hMissing =>
      have hFails :
          validateTypekits registry request.typekits =
            .error (.registry (.notFound .typekit name)) := by
        rw [hHere, validateTypekits_append _
          (validateTypekits_eq_ok_iff.mpr hBefore)]
        apply if_neg
        rw [Registry.hasTypekit,
          Std.ExtTreeMap.contains_iff_mem]
        exact hMissing
      rw [validateDeployments_of_areValid hDeployments,
        hFails]
      rfl
  | @task before after context hDeployments hTypekits hHere
      hBefore hRepeated =>
      have hPasses : validateTasks [] before = .ok () := by
        rw [validateTasks_eq_ok_iff, areNew_iff_nodup]
        exact hBefore
      have hFails :
          validateTasks [] request.taskContexts =
            .error
              (.request (.repeatedTask context.name)) := by
        rw [hHere, validateTasks_append _ hPasses]
        apply if_pos
        simpa using hRepeated
      rw [validateDeployments_of_areValid hDeployments,
        validateTypekits_eq_ok_iff.mpr hTypekits]
      exact hFails

end Run

end Componentry

------------------------------------------------------------
-- Runs
------------------------------------------------------------

namespace Componentry

/-
  Over a registry that is built, a request that is rejected
  fails with the fault of its first item that does, whatever
  the store holds and whatever the extensions do, as long as
  the names of the initializers are the same.
-/
theorem execute_eq_error_of_isRejected
    {registry : Registry}
    {known : List String}
    {request : Request}
    (hBuilt : registry.isBuilt = true)
    (hRejected : request.IsRejected registry.view known) :
    ∃ error,
      request.FirstFault registry.view known error ∧
        ∀ extensions store,
          extensions.initializers.names = known →
            Run.execute registry store extensions request =
              (.error error, registry) := by
  rcases hRejected.exists_firstFault with ⟨error, hFault⟩
  refine ⟨error, hFault, ?_⟩
  intro extensions store hNames
  rw [← hNames] at hFault
  rw [Run.execute_eq_generate hBuilt, Run.generate,
    Run.validate_of_firstFault hFault]
  rfl

/- A request in which nothing is acceptable. -/
def Request.sampleRejected : Request where
  typekits := ["absent"]
  deployments :=
    [⟨"rover", ["qt"], []⟩, ⟨"rover", ["other"], []⟩]
  taskContexts := [⟨"Drive", []⟩, ⟨"Drive", []⟩]

theorem sampleRejected_eq_error :
    ∃ registry : Registry,
      registry.isBuilt = true ∧
        Request.sampleRejected.IsRejected registry.view
          ["qt", "qt5"] ∧
        ∃ error,
          Request.sampleRejected.FirstFault registry.view
              ["qt", "qt5"] error ∧
            ∀ extensions store,
              extensions.initializers.names =
                  ["qt", "qt5"] →
                Run.execute registry store extensions
                    .sampleRejected =
                  (.error error, registry) := by
  have hBuilt :
      (⟨.standard, some (.empty "gnulinux")⟩ :
        Registry).isBuilt = true :=
    rfl
  have hRejected
      (snapshot : Snapshot) :
      Request.sampleRejected.IsRejected snapshot
        ["qt", "qt5"] :=
    .repeatedDeployment (by decide)
  exact
    ⟨_, hBuilt, hRejected _,
      execute_eq_error_of_isRejected hBuilt (hRejected _)⟩

end Componentry
