import Componentry.Proofs.Generation.Deployments
import Componentry.Proofs.Generation.Tasks
import Componentry.Proofs.Generation.Typekits
import Componentry.Proofs.MemoryStores
import Componentry.Proofs.Registry.Survey

/-
  Which requests are generated.

  A run checks a request as a whole and then generates its
  items one after the other.  With the built-in extensions
  nothing that passes the checks gets in the way of anything
  else but the types of one typekit; so a request is generated
  exactly if each of its items is acceptable by itself and the
  names of its deployments and task contexts differ.

  Main declarations:
    * `Run.validate_eq_ok_iff`
    * `isPlainName_of_rebuild`
    * `exists_generate_iff`
    * `Request.IsAcceptable`, `TypeList.Clashes`
    * `Run.AcceptsExactly`, `execute_acceptsExactly`
-/

------------------------------------------------------------
-- Validation
------------------------------------------------------------

namespace Componentry

/- A deployment is installed if it belongs to a project. -/
theorem Registry.projectOwning?_eq_none_iff
    {registry : Registry}
    {name : String} :
    registry.projectOwning? name = none ↔
      name ∉ registry.view.deployments := by
  unfold projectOwning?
  rw [Option.map_eq_none_iff, getElem?_eq_none_iff]

namespace Run

variable {registry : Registry}
variable {initializers : InitializerRegistry}
variable {seen : List String}

/- Deployments are checked one by one, each name once. -/
theorem validateDeployments_eq_ok_iff
    {deployments : List DeploymentRequest} :
    validateDeployments registry initializers seen
          deployments =
        .ok () ↔
      AreNew seen (deployments.map (·.name)) ∧
        ∀ deployment ∈ deployments,
          deployment.name ∈ registry.view.deployments ∧
            ∀ name ∈ deployment.initializers,
              name ∈ initializers.names := by
  induction deployments generalizing seen with
  | nil => simp [validateDeployments, areNew_nil]
  | cons deployment rest ih =>
      rw [List.map_cons, areNew_cons_iff,
        List.forall_mem_cons,
        ← InitializerRegistry.exists_resolve_iff]
      unfold validateDeployments
      by_cases hSeen : deployment.name ∈ seen
      · rw [if_pos (List.contains_iff_mem.mpr hSeen)]
        simp [hSeen]
      · rw [if_neg (mt List.contains_iff_mem.mp hSeen)]
        cases hResolve :
            initializers.resolve
              deployment.initializers with
        | error error => simp
        | ok selected =>
            cases hOwner :
                registry.projectOwning?
                  deployment.name with
            | none =>
                have hUnknown :=
                  Registry.projectOwning?_eq_none_iff.mp
                    hOwner
                simp [hUnknown]
            | some project =>
                have hKnown :
                    deployment.name ∈
                      registry.view.deployments := by
                  by_contra hUnknown
                  rw [Registry.projectOwning?_eq_none_iff.mpr
                    hUnknown] at hOwner
                  cases hOwner
                simp only [ih, hSeen, hKnown,
                  not_false_eq_true, true_and,
                  Except.ok.injEq, exists_eq']

/- Typekits are checked one by one. -/
theorem validateTypekits_eq_ok_iff
    {names : List String} :
    validateTypekits registry names = .ok () ↔
      ∀ name ∈ names, name ∈ registry.view.typekits := by
  induction names with
  | nil => simp [validateTypekits]
  | cons name names ih =>
      rw [List.forall_mem_cons, ← ih, validateTypekits,
        Registry.hasTypekit, ← Std.ExtTreeMap.contains_iff_mem]
      by_cases hKnown :
          registry.view.typekits.contains name = true
      · simp [hKnown]
      · simp [hKnown]

/- Task contexts are checked one by one, each name once. -/
theorem validateTasks_eq_ok_iff
    {tasks : List TaskContext} :
    validateTasks seen tasks = .ok () ↔
      AreNew seen (tasks.map (·.name)) := by
  induction tasks generalizing seen with
  | nil => simp [validateTasks, areNew_nil]
  | cons task tasks ih =>
      rw [List.map_cons, areNew_cons_iff, ← ih, validateTasks]
      by_cases hSeen : task.name ∈ seen
      · rw [if_pos (List.contains_iff_mem.mpr hSeen)]
        simp [hSeen]
      · rw [if_neg (mt List.contains_iff_mem.mp hSeen)]
        simp [hSeen]

end Run

/- A request that passes the checks of a run. -/
structure Request.IsValid
    (request : Request)
    (snapshot : Snapshot)
    (initializers : InitializerRegistry) : Prop where
  deploymentsDiffer :
    (request.deployments.map (·.name)).Nodup
  deployments :
    ∀ deployment ∈ request.deployments,
      deployment.name ∈ snapshot.deployments ∧
        ∀ name ∈ deployment.initializers,
          name ∈ initializers.names
  typekits :
    ∀ name ∈ request.typekits, name ∈ snapshot.typekits
  tasksDiffer :
    (request.taskContexts.map (·.name)).Nodup

theorem Run.validate_eq_ok_iff
    {registry : Registry}
    {initializers : InitializerRegistry}
    {request : Request} :
    validate registry initializers request = .ok () ↔
      request.IsValid registry.view initializers := by
  simp only [validate, bind_check_eq_ok_iff,
    validateDeployments_eq_ok_iff,
    validateTypekits_eq_ok_iff, validateTasks_eq_ok_iff,
    areNew_iff_nodup]
  constructor
  · rintro ⟨⟨hDiffer, hDeployments⟩, hTypekits, hTasks⟩
    exact ⟨hDiffer, hDeployments, hTypekits, hTasks⟩
  · intro hValid
    exact
      ⟨⟨hValid.deploymentsDiffer, hValid.deployments⟩,
        hValid.typekits, hValid.tasksDiffer⟩

end Componentry

------------------------------------------------------------
-- Published Deployments
------------------------------------------------------------

namespace Componentry

/- A deployment is named by a word. -/
theorem not_mem_of_isEntityName
    {name : String}
    {c : Char}
    (hName : IsEntityName .deployment name)
    (hNoWord : Text.isWordChar c = false) :
    c ∉ name.toList := by
  intro hMember
  rw [hName.2 rfl c hMember] at hNoWord
  cases hNoWord

/- So its name is plain. -/
theorem isPlainName_of_isEntityName
    {name : String}
    (hName : IsEntityName .deployment name) :
    Path.IsPlainName name := by
  have hDot : '.' ∉ name.toList :=
    not_mem_of_isEntityName hName (by decide +kernel)
  refine
    { not_empty := hName.1
      no_slash :=
        not_mem_of_isEntityName hName (by decide +kernel)
      not_current := ?_
      not_parent := ?_ }
  · rintro rfl
    simp at hDot
  · rintro rfl
    simp at hDot

/- The deployments of a survey have legal names. -/
theorem Survey.isEntityName_of_mem_deployments
    {store : Store}
    {naming : Naming}
    {names : List String}
    {deployment : Deployment}
    (hMember : deployment ∈ deployments store naming names) :
    IsEntityName .deployment deployment.name := by
  rcases List.mem_filterMap.mp hMember with
    ⟨record, -, hRecord⟩
  have hRead := (deploymentOf?_eq_some_iff.mp hRecord).1
  have hName := (readDeployment_eq_ok_iff.mp hRead).1
  exact (Naming.entityName?_eq_some_iff.mp hName).2

/- A rebuild that succeeds leaves a registry with a snapshot. -/
theorem Registry.isBuilt_of_rebuild
    {before registry : Registry}
    {store : Store}
    {report : RebuildReport}
    (hRebuild :
      before.rebuild store = (.ok report, registry)) :
    registry.isBuilt = true := by
  rcases exists_scan_of_rebuild hRebuild with
    ⟨draft, -, hCurrent⟩
  rw [isBuilt, hCurrent]
  rfl

/- A rebuild publishes deployments with legal names. -/
theorem isEntityName_of_rebuild
    {before registry : Registry}
    {store : Store}
    {report : RebuildReport}
    (hRebuild :
      before.rebuild store = (.ok report, registry))
    {name : String}
    (hName : name ∈ registry.view.deployments) :
    IsEntityName .deployment name := by
  rcases Registry.exists_scan_of_rebuild hRebuild with
    ⟨draft, hScan, hCurrent⟩
  rcases recordNames_of_scan hScan with ⟨names, hNames⟩
  have hSnapshot :
      registry.view =
        Survey.snapshot store before.naming names := by
    rw [← scan_snapshot hNames hScan, Registry.view, hCurrent]
    rfl
  rw [hSnapshot] at hName
  have hFound :=
    Std.ExtTreeMap.getElem?_eq_some_getElem hName
  rcases ByName.mem_of_getElem?_ofValues hFound with
    ⟨hMember, hSame⟩
  rw [← hSame]
  exact Survey.isEntityName_of_mem_deployments hMember

theorem isPlainName_of_rebuild
    {before registry : Registry}
    {store : Store}
    {report : RebuildReport}
    (hRebuild :
      before.rebuild store = (.ok report, registry))
    {name : String}
    (hName : name ∈ registry.view.deployments) :
    Path.IsPlainName name :=
  isPlainName_of_isEntityName
    (isEntityName_of_rebuild hRebuild hName)

end Componentry

------------------------------------------------------------
-- Generating Everything
------------------------------------------------------------

namespace Componentry

/- Each name once. -/
theorem mem_distinct_iff
    {names : List String}
    {name : String} :
    name ∈ Run.distinct names ↔ name ∈ names := by
  unfold Run.distinct
  rw [Std.ExtTreeSet.mem_toList, Std.ExtTreeSet.mem_ofList]
  exact List.contains_iff_mem

theorem nodup_distinct
    (names : List String) :
    (Run.distinct names).Nodup := by
  refine Std.ExtTreeSet.distinct_toList.imp ?_
  rintro first _ hDiffer rfl
  exact hDiffer (Std.LawfulEqOrd.compare_eq_iff_eq.mpr rfl)

/- Nothing is in the way before anything is generated. -/
theorem Artifacts.empty_isFree
    (kind name : String) :
    Artifacts.empty.IsFree kind name := by
  intro key hKey
  simp [Artifacts.empty] at hKey

variable {registry : Registry} {store : Store}
variable {initializers : InitializerRegistry}
variable {request : Request} {start finish : Artifacts}

/- Requested typekits fill their places. -/
theorem fills_distinct
    {names : List String}
    (hPlain : ∀ name ∈ names, Path.IsPlainName name) :
    ∀ name ∈ Run.distinct names,
      Fills (Run.typekit registry store .builtin) "typekits"
        id (registry.view.OffersTypekit store) name := by
  intro name hName
  exact
    fills_typekit (hPlain name (mem_distinct_iff.mp hName))

/- Typekits are generated first, where nothing is yet. -/
theorem exists_typekits_iff
    {names : List String}
    (hPlain : ∀ name ∈ names, Path.IsPlainName name) :
    (∃ finish,
        (Run.distinct names).foldlM
            (Run.typekit registry store .builtin) .empty =
          .ok finish) ↔
      ∀ name ∈ names,
        registry.view.OffersTypekit store name := by
  have hDistinct : ((Run.distinct names).map id).Nodup := by
    rw [List.map_id]
    exact nodup_distinct names
  rw [exists_foldlM_iff_of_fills (fills_distinct hPlain)
    hDistinct fun _ _ => Artifacts.empty_isFree _ _]
  simp only [mem_distinct_iff]

/- They leave the places of everything else free. -/
theorem isFree_of_typekits
    {names : List String}
    {kind name : String}
    (hPlain : ∀ name ∈ names, Path.IsPlainName name)
    (hKind : "typekits" ≠ kind)
    (hRun :
      (Run.distinct names).foldlM
          (Run.typekit registry store .builtin) .empty =
        .ok finish) :
    finish.IsFree kind name :=
  isFree_of_foldlM hKind (fills_distinct hPlain) hRun
    (Artifacts.empty_isFree kind name)

/- Task contexts with different names are generated next. -/
theorem exists_tasks_iff
    {tasks : List TaskContext}
    (hFree : ∀ name, start.IsFree "tasks" name)
    (hDiffer : (tasks.map (·.name)).Nodup) :
    (∃ finish,
        tasks.foldlM (Run.task .builtin) start =
          .ok finish) ↔
      ∀ task ∈ tasks, task.IsSound :=
  exists_foldlM_iff_of_fills (fun task _ => fills_task task)
    hDiffer fun task _ => hFree task.name

theorem isFree_of_tasks
    {tasks : List TaskContext}
    {kind name : String}
    (hKind : "tasks" ≠ kind)
    (hRun :
      tasks.foldlM (Run.task .builtin) start = .ok finish)
    (hStart : start.IsFree kind name) :
    finish.IsFree kind name :=
  isFree_of_foldlM hKind (fun task _ => fills_task task) hRun
    hStart

/- Deployments with different names are generated last. -/
theorem exists_deployments_iff
    {deployments : List DeploymentRequest}
    (hFree : ∀ name, start.IsFree "deployments" name)
    (hDiffer : (deployments.map (·.name)).Nodup)
    (hPlain :
      ∀ deployment ∈ deployments,
        Path.IsPlainName deployment.name) :
    (∃ finish,
        deployments.foldlM
            (Run.deployment registry initializers) start =
          .ok finish) ↔
      ∀ deployment ∈ deployments,
        ∀ name ∈ deployment.initializers,
          name ∈ initializers.names :=
  exists_foldlM_iff_of_fills
    (fun deployment hMember =>
      fills_deployment (hPlain deployment hMember))
    hDiffer fun deployment _ => hFree deployment.name

/-
  A valid request is generated exactly if every typekit and
  every task context is acceptable by itself.
-/
theorem exists_generate_iff
    (hTypekits :
      ∀ name ∈ request.typekits, Path.IsPlainName name)
    (hDeployments :
      ∀ name ∈ registry.view.deployments,
        Path.IsPlainName name) :
    (∃ artifacts,
        Run.generate registry store
            ⟨.builtin, initializers, .builtin⟩ request =
          .ok artifacts) ↔
      request.IsValid registry.view initializers ∧
        (∀ name ∈ request.typekits,
          registry.view.OffersTypekit store name) ∧
        ∀ task ∈ request.taskContexts, task.IsSound := by
  unfold Run.generate
  simp only [bind_check_eq_ok_iff, Run.validate_eq_ok_iff]
  simp only [bind_eq_ok_iff]
  constructor
  · rintro ⟨_, hValid, first, hFirst, second, hSecond, -⟩
    have hFree (name : String) : first.IsFree "tasks" name :=
      isFree_of_typekits hTypekits (by decide) hFirst
    exact
      ⟨hValid,
        (exists_typekits_iff hTypekits).mp ⟨first, hFirst⟩,
        (exists_tasks_iff hFree hValid.tasksDiffer).mp
          ⟨second, hSecond⟩⟩
  · rintro ⟨hValid, hOffered, hSound⟩
    rcases (exists_typekits_iff hTypekits).mpr hOffered with
      ⟨first, hFirst⟩
    have hFreeTasks (name : String) :
        first.IsFree "tasks" name :=
      isFree_of_typekits hTypekits (by decide) hFirst
    rcases
        (exists_tasks_iff hFreeTasks hValid.tasksDiffer).mpr
          hSound with
      ⟨second, hSecond⟩
    have hFreeDeployments (name : String) :
        second.IsFree "deployments" name :=
      isFree_of_tasks (by decide) hSecond
        (isFree_of_typekits hTypekits (by decide) hFirst)
    have hPlain :
        ∀ deployment ∈ request.deployments,
          Path.IsPlainName deployment.name := by
      intro deployment hMember
      exact
        hDeployments _ (hValid.deployments _ hMember).1
    have hRegistered :
        ∀ deployment ∈ request.deployments,
          ∀ name ∈ deployment.initializers,
            name ∈ initializers.names := by
      intro deployment hMember
      exact (hValid.deployments _ hMember).2
    rcases
        (exists_deployments_iff hFreeDeployments
          hValid.deploymentsDiffer hPlain).mpr hRegistered
      with ⟨third, hThird⟩
    exact
      ⟨third, hValid, first, hFirst, second, hSecond, hThird⟩

end Componentry

------------------------------------------------------------
-- Acceptable Requests
------------------------------------------------------------

namespace Componentry

/-
  Every item of a request is acceptable by itself, and no
  deployment or task context is requested twice.
-/
structure Request.IsAcceptable
    (request : Request)
    (snapshot : Snapshot)
    (store : Store) : Prop where
  deploymentsDiffer :
    (request.deployments.map (·.name)).Nodup
  deployments :
    ∀ deployment ∈ request.deployments,
      deployment.name ∈ snapshot.deployments ∧
        ∀ name ∈ deployment.initializers,
          name = "qt" ∨ name = "qt5"
  typekits :
    ∀ name ∈ request.typekits,
      snapshot.OffersTypekit store name
  tasksDiffer :
    (request.taskContexts.map (·.name)).Nodup
  tasks :
    ∀ task ∈ request.taskContexts, task.IsSound

instance
    (request : Request)
    (snapshot : Snapshot)
    (store : Store) :
    Decidable (request.IsAcceptable snapshot store) :=
  decidable_of_iff
    ((request.deployments.map (·.name)).Nodup ∧
      (∀ deployment ∈ request.deployments,
        deployment.name ∈ snapshot.deployments ∧
          ∀ name ∈ deployment.initializers,
            name = "qt" ∨ name = "qt5") ∧
      (∀ name ∈ request.typekits,
        snapshot.OffersTypekit store name) ∧
      (request.taskContexts.map (·.name)).Nodup ∧
      ∀ task ∈ request.taskContexts, task.IsSound)
    ⟨fun ⟨hDiffer, hDeployments, hTypekits, hTasksDiffer,
          hTasks⟩ =>
        ⟨hDiffer, hDeployments, hTypekits, hTasksDiffer,
          hTasks⟩,
      fun hAcceptable =>
        ⟨hAcceptable.deploymentsDiffer,
          hAcceptable.deployments, hAcceptable.typekits,
          hAcceptable.tasksDiffer, hAcceptable.tasks⟩⟩

/- A typekit that is offered is installed. -/
theorem Snapshot.OffersTypekit.mem_typekits
    {snapshot : Snapshot}
    {store : Store}
    {name : String}
    (hOffers : snapshot.OffersTypekit store name) :
    name ∈ snapshot.typekits := by
  rcases hOffers with ⟨typekit, _, _, hFound, -⟩
  rw [Std.ExtTreeMap.mem_iff_isSome_getElem?, hFound]
  rfl

/- What a run checks and generates adds up to acceptance. -/
theorem Request.isAcceptable_iff
    {request : Request}
    {snapshot : Snapshot}
    {store : Store}
    {initializers : InitializerRegistry}
    (hNames : initializers.names = ["qt", "qt5"]) :
    request.IsAcceptable snapshot store ↔
      request.IsValid snapshot initializers ∧
        (∀ name ∈ request.typekits,
          snapshot.OffersTypekit store name) ∧
        ∀ task ∈ request.taskContexts, task.IsSound := by
  have hRegistered (name : String) :
      name ∈ initializers.names ↔
        name = "qt" ∨ name = "qt5" := by
    rw [hNames]
    simp
  constructor
  · intro hAcceptable
    refine ⟨?_, hAcceptable.typekits, hAcceptable.tasks⟩
    refine
      { deploymentsDiffer := hAcceptable.deploymentsDiffer
        deployments := ?_
        typekits := ?_
        tasksDiffer := hAcceptable.tasksDiffer }
    · simp only [hRegistered]
      exact hAcceptable.deployments
    · intro name hName
      exact (hAcceptable.typekits name hName).mem_typekits
  · rintro ⟨hValid, hTypekits, hTasks⟩
    have hDeployments := hValid.deployments
    simp only [hRegistered] at hDeployments
    exact
      { deploymentsDiffer := hValid.deploymentsDiffer
        deployments := hDeployments
        typekits := hTypekits
        tasksDiffer := hValid.tasksDiffer
        tasks := hTasks }

end Componentry

------------------------------------------------------------
-- Runs with the Built-in Extensions
------------------------------------------------------------

namespace Componentry

/-
  A run succeeds exactly for acceptable requests.  So it fails
  if the type list of a requested typekit has entries that
  clash.
-/
structure Run.AcceptsExactly
    (registry : Registry)
    (store : Store)
    (extensions : Extensions)
    (request : Request) : Prop where
  accepted :
    (∃ artifacts,
        (execute registry store extensions request).1 =
          .ok artifacts) ↔
      request.IsAcceptable registry.view store
  clashing :
    ∀ name ∈ request.typekits,
      ∀ list, registry.typeList store name = .ok list →
        list.Clashes →
          ∃ error,
            (execute registry store extensions request).1 =
              .error error

/- A run with entries that clash is not acceptable. -/
theorem Run.acceptsExactly_of_iff
    {registry : Registry}
    {store : Store}
    {extensions : Extensions}
    {request : Request}
    (hAccepted :
      (∃ artifacts,
          (execute registry store extensions request).1 =
            .ok artifacts) ↔
        request.IsAcceptable registry.view store) :
    AcceptsExactly registry store extensions request where
  accepted := hAccepted
  clashing := by
    intro name hName list hList hClashes
    cases hRun :
        (execute registry store extensions request).1 with
    | error error => exact ⟨error, rfl⟩
    | ok artifacts =>
        have hAcceptable :=
          hAccepted.mp ⟨artifacts, hRun⟩
        rcases
            offersTypekit_iff.mp
              (hAcceptable.typekits name hName) with
          ⟨_, found, -, hFound, hNames⟩
        rw [hList, Except.ok.injEq] at hFound
        subst hFound
        exact (hClashes.not_namesFiles hNames).elim

theorem execute_acceptsExactly
    {before registry : Registry}
    {source : Store}
    {report : RebuildReport}
    (store : Store)
    (request : Request)
    (hRebuild :
      before.rebuild source = (.ok report, registry))
    (hPlain :
      ∀ name ∈ request.typekits, Path.IsPlainName name) :
    ∃ extensions,
      Extensions.builtin = .ok extensions ∧
        Run.AcceptsExactly registry store extensions
          request := by
  rcases InitializerRegistry.exists_builtin with
    ⟨initializers, hBuiltin, hNames⟩
  refine
    ⟨⟨.builtin, initializers, .builtin⟩, ?_,
      Run.acceptsExactly_of_iff ?_⟩
  · simp only [Extensions.builtin, hBuiltin]
    rfl
  · unfold Run.execute
    rw [if_pos (Registry.isBuilt_of_rebuild hRebuild),
      Request.isAcceptable_iff hNames]
    exact
      exists_generate_iff hPlain fun name hName =>
        isPlainName_of_rebuild hRebuild hName

/- A request for everything in the small installation. -/
def Request.sample : Request where
  typekits := ["more", "base", "more"]
  deployments := [⟨"rover", ["qt5", "qt"], ["base::Task"]⟩]
  taskContexts :=
    [⟨"Drive",
      [⟨.property, "gain", "/double"⟩,
       ⟨.inputPort, "command", "/base/Pose"⟩]⟩]

/- The small installation with its type registries. -/
def MemoryStore.sampleWithTypes : MemoryStore :=
  (sample.putText ⟨"/base/base.tlb"⟩ "<typelib/>").putText
    ⟨"/more/more.tlb"⟩ "<typelib/>"

theorem Request.sample_isAcceptable :
    ∃ draft,
      scan MemoryStore.sample.view .standard = .ok draft ∧
        sample.IsAcceptable draft.snapshot
          MemoryStore.sampleWithTypes.view := by
  have hSample :
      (scan MemoryStore.sample.view .standard).toOption.any
          (fun draft =>
            decide
              (sample.IsAcceptable draft.snapshot
                MemoryStore.sampleWithTypes.view)) =
        true := by
    decide +kernel
  rcases (Option.any_eq_true _ _).mp hSample with
    ⟨draft, hScan, hAcceptable⟩
  exact
    ⟨draft, toOption_eq_some_iff.mp hScan,
      of_decide_eq_true hAcceptable⟩

theorem sample_acceptsExactly :
    ∃ report registry extensions artifacts,
      Registry.rebuild ⟨.standard, none⟩
            MemoryStore.sample.view =
          (.ok report, registry) ∧
        (∀ name ∈ Request.sample.typekits,
          Path.IsPlainName name) ∧
        Extensions.builtin = .ok extensions ∧
        Run.AcceptsExactly registry
          MemoryStore.sampleWithTypes.view extensions
          .sample ∧
        (Run.execute registry
            MemoryStore.sampleWithTypes.view extensions
            .sample).1 =
          .ok artifacts := by
  rcases Request.sample_isAcceptable with
    ⟨draft, hScan, hAcceptable⟩
  have hRebuild :
      Registry.rebuild ⟨.standard, none⟩
          MemoryStore.sample.view =
        (.ok (.ofDraft draft),
          ⟨.standard, some draft.snapshot⟩) :=
    Registry.rebuild_eq_of_scan ⟨.standard, none⟩ hScan
  have hPlain :
      ∀ name ∈ Request.sample.typekits,
        Path.IsPlainName name := by
    intro name hName
    simp only [Request.sample, List.mem_cons,
      List.not_mem_nil, or_false] at hName
    rcases hName with rfl | rfl | rfl
    all_goals constructor <;> simp
  rcases
      execute_acceptsExactly MemoryStore.sampleWithTypes.view
        .sample hRebuild hPlain with
    ⟨extensions, hBuiltin, hAccepts⟩
  rcases hAccepts.accepted.mpr hAcceptable with
    ⟨artifacts, hArtifacts⟩
  exact
    ⟨_, _, extensions, artifacts, hRebuild, hPlain, hBuiltin,
      hAccepts, hArtifacts⟩

end Componentry
