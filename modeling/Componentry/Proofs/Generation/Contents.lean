import Mathlib.Algebra.BigOperators.Group.Finset.Basic
import Componentry.Proofs.Generation.Outputs

/-
  Everything that a run generates.

  What a run leaves is told without the run: which file each
  typekit, task context and deployment calls for, how many
  files that makes, and how the task models of a deployment
  are resolved.  A run that succeeds leaves exactly that; no
  file takes the place of another one.

  Main declarations:
    * `Run.Generates`, `Run.fileCount`
    * `Resolution.IsFor`
    * `Run.IsExactOutput`, `execute_isExactOutput`
-/

------------------------------------------------------------
-- Contributions
------------------------------------------------------------

namespace Componentry

/- Does an initializer asked for contribute to a target? -/
def InitializerRegistry.contributesTo
    (registry : InitializerRegistry)
    (requested : List String)
    (target : BuildTarget) :
    Bool :=
  registry.initializers.any fun initializer =>
    requested.contains initializer.name
      && (initializer.build target).isSome

namespace Run

section

variable (registry : Registry)
variable (store : Store)
variable (extensions : Extensions)

/- What the plugins contribute to an installed typekit. -/
def contributions?
    (name : String) :
    Option KitContributions := do
  let typekit ← registry.view.typekits[name]?
  let list ← (registry.typeList store name).toOption
  (extensions.plugins.run
    (.ofTypeList name typekit.project list)).toOption

/- What the initializers make for a deployment. -/
def composed?
    (request : DeploymentRequest) :
    Option ComposedInitializers :=
  (extensions.initializers.compose request.initializers
    ⟨(registry.projectOwning? request.name).getD "",
      request.name⟩).toOption

/- The number of files that plugins contribute. -/
def sourceCount (name : String) : Nat :=
  match contributions? registry store extensions name with
  | none => 0
  | some made =>
      made.contributions.countP (·.kind = .source)

/- The number of targets that are contributed to. -/
def targetCount (request : DeploymentRequest) : Nat :=
  BuildTarget.all.countP
    (extensions.initializers.contributesTo
      request.initializers)

end

end Run

end Componentry

------------------------------------------------------------
-- Files That Are Called For
------------------------------------------------------------

namespace Componentry

namespace Run

section

variable (registry : Registry)
variable (store : Store)
variable (extensions : Extensions)
variable (request : Request)

/- The files that a request calls for. -/
inductive Generates : Path → String → Prop where
  | source
      {name : String}
      {made : KitContributions}
      {contribution : Contribution}
      (hRequested : name ∈ request.typekits)
      (hMade :
        contributions? registry store extensions name =
          some made)
      (hMember : contribution ∈ made.contributions)
      (hKind : contribution.kind = .source) :
      Generates
        (((Path.mk "typekits").join ⟨name⟩).join
          contribution.path)
        contribution.text
  | typekitBuild
      {name : String}
      {made : KitContributions}
      (hRequested : name ∈ request.typekits)
      (hMade :
        contributions? registry store extensions name =
          some made) :
      Generates
        (((Path.mk "typekits").join ⟨name⟩).join
          ⟨"build.fragment"⟩)
        made.buildFragment
  | declarations
      {context : TaskContext}
      {code : TaskCode}
      (hRequested : context ∈ request.taskContexts)
      (hCode :
        extensions.capabilities.task context = .ok code) :
      Generates
        (((Path.mk "tasks").join ⟨context.name⟩).join
          ⟨"declarations.fragment"⟩)
        code.declarations
  | initializers
      {context : TaskContext}
      {code : TaskCode}
      (hRequested : context ∈ request.taskContexts)
      (hCode :
        extensions.capabilities.task context = .ok code) :
      Generates
        (((Path.mk "tasks").join ⟨context.name⟩).join
          ⟨"initializers.fragment"⟩)
        code.initializers
  | registrations
      {context : TaskContext}
      {code : TaskCode}
      (hRequested : context ∈ request.taskContexts)
      (hCode :
        extensions.capabilities.task context = .ok code) :
      Generates
        (((Path.mk "tasks").join ⟨context.name⟩).join
          ⟨"registrations.fragment"⟩)
        code.registrations
  | globalScope
      {deployment : DeploymentRequest}
      {composed : ComposedInitializers}
      (hRequested : deployment ∈ request.deployments)
      (hComposed :
        composed? registry extensions deployment =
          some composed) :
      Generates
        (((Path.mk "deployments").join
            ⟨deployment.name⟩).join
          ⟨"global_scope.fragment"⟩)
        composed.globalScope
  | init
      {deployment : DeploymentRequest}
      {composed : ComposedInitializers}
      (hRequested : deployment ∈ request.deployments)
      (hComposed :
        composed? registry extensions deployment =
          some composed) :
      Generates
        (((Path.mk "deployments").join
            ⟨deployment.name⟩).join
          ⟨"init.fragment"⟩)
        composed.init
  | exit
      {deployment : DeploymentRequest}
      {composed : ComposedInitializers}
      (hRequested : deployment ∈ request.deployments)
      (hComposed :
        composed? registry extensions deployment =
          some composed) :
      Generates
        (((Path.mk "deployments").join
            ⟨deployment.name⟩).join
          ⟨"exit.fragment"⟩)
        composed.exit
  | build
      {deployment : DeploymentRequest}
      {composed : ComposedInitializers}
      {target : BuildTarget}
      {text : String}
      (hRequested : deployment ∈ request.deployments)
      (hComposed :
        composed? registry extensions deployment =
          some composed)
      (hText : composed.build target = some text) :
      Generates
        ((((Path.mk "deployments").join
            ⟨deployment.name⟩).join ⟨"build"⟩).join
          ⟨target.key ++ ".fragment"⟩)
        text

/- The number of files that a request calls for. -/
def fileCount : Nat :=
  (∑ name ∈ request.typekits.toFinset,
      (sourceCount registry store extensions name + 1))
    + 3 * request.taskContexts.length
    + (request.deployments.map fun deployment =>
        3 + targetCount extensions deployment).sum

end

end Run

end Componentry

------------------------------------------------------------
-- Exact Outputs
------------------------------------------------------------

namespace Componentry

/- The task models of a deployment are told as installed. -/
structure Resolution.IsFor
    (resolution : Resolution)
    (snapshot : Snapshot)
    (request : DeploymentRequest) : Prop where
  project :
    ∃ deployment,
      snapshot.deployments[request.name]? =
          some deployment ∧
        resolution.project = deployment.project
  taskLibraries :
    ∀ model library,
      resolution.taskLibraries[model]? = some library ↔
        model ∈ request.taskModels ∧
          snapshot.taskModels[model]? = some library
  -- In the order of the request, and as often.
  unresolvedModels :
    resolution.unresolvedModels =
      request.taskModels.filter fun model =>
        !snapshot.taskModels.contains model

/- A run has left what the request calls for, all apart. -/
structure Run.IsExactOutput
    (registry : Registry)
    (store : Store)
    (extensions : Extensions)
    (request : Request)
    (artifacts : Artifacts) : Prop where
  -- Every item of the request is generated.
  contributions :
    ∀ name ∈ request.typekits,
      (contributions? registry store extensions
        name).isSome = true
  code :
    ∀ context ∈ request.taskContexts,
      ∃ code,
        extensions.capabilities.task context = .ok code
  composed :
    ∀ deployment ∈ request.deployments,
      ∃ composed,
        composed? registry extensions deployment =
            some composed ∧
          ∀ target,
            (composed.build target).isSome =
              extensions.initializers.contributesTo
                deployment.initializers target
  -- Every file is found at its place, and nothing else.
  files :
    ∀ key path text,
      artifacts.files[key]? = some ⟨path, text⟩ ↔
        path.components = key ∧
          Generates registry store extensions request path
            text
  -- No file stands for two that are called for.
  count :
    artifacts.files.size =
      fileCount registry store extensions request
  deployments :
    ∀ name,
      name ∈ artifacts.deployments ↔
        name ∈ request.deployments.map (·.name)
  resolutions :
    ∀ deployment ∈ request.deployments,
      ∃ resolution,
        artifacts.deployments[deployment.name]? =
            some resolution ∧
          resolution.IsFor registry.view deployment

end Componentry

------------------------------------------------------------
-- Made Files Are Called For
------------------------------------------------------------

namespace Componentry

namespace InitializerRegistry

variable {names : DeploymentNames}

/- Exactly the targets with contributions have texts. -/
theorem isSome_build_of_compose
    {registry : InitializerRegistry}
    {requested : List String}
    {composed : ComposedInitializers}
    (hComposed :
      registry.compose requested names = .ok composed)
    (target : BuildTarget) :
    (composed.build target).isSome =
      registry.contributesTo requested target := by
  have hParts := isComposedOf_of_compose hComposed
  rw [isSome_of_composeTarget (hParts.build target),
    List.any_filter]
  rfl

end InitializerRegistry

namespace Run

variable {registry : Registry}
variable {store : Store}
variable {extensions : Extensions}
variable {request : Request}

theorem contributions?_eq_some_iff
    {name : String}
    {made : KitContributions} :
    contributions? registry store extensions name =
        some made ↔
      ∃ entity list,
        registry.view.typekits[name]? = some entity ∧
          registry.typeList store name = .ok list ∧
          extensions.plugins.run
              (.ofTypeList name entity.project list) =
            .ok made := by
  simp only [contributions?, Option.bind_eq_bind,
    Option.bind_eq_some_iff, toOption_eq_some_iff]
  constructor
  · intro hMade
    rcases hMade with ⟨entity, hFound, list, hList, hMade⟩
    exact ⟨entity, list, hFound, hList, hMade⟩
  · intro hMade
    rcases hMade with ⟨entity, list, hFound, hList, hMade⟩
    exact ⟨entity, hFound, list, hList, hMade⟩

theorem composed?_eq_some_iff
    {deployment : DeploymentRequest}
    {composed : ComposedInitializers} :
    composed? registry extensions deployment =
        some composed ↔
      extensions.initializers.compose
          deployment.initializers
          ⟨(registry.projectOwning? deployment.name).getD "",
            deployment.name⟩ =
        .ok composed :=
  toOption_eq_some_iff

/- Each target that has a text is listed with it. -/
theorem mem_buildTexts_iff
    {composed : ComposedInitializers}
    {target : BuildTarget}
    {text : String} :
    (target, text) ∈ composed.buildTexts ↔
      composed.build target = some text := by
  unfold ComposedInitializers.buildTexts
  rw [List.mem_filterMap]
  constructor
  · intro hListed
    rcases hListed with ⟨other, -, hIs⟩
    rcases Option.map_eq_some_iff.mp hIs with
      ⟨found, hFound, hPair⟩
    cases hPair
    exact hFound
  · intro hText
    refine ⟨target, ?_, ?_⟩
    · cases target with
      | taskLibrary => decide
      | deployment => decide
      | taskLibraryDependencies => decide
    · rw [hText]
      rfl

/- What is made for an item that is requested is called for. -/
theorem generates_of_makes
    {item : Item}
    {files : List (Path × String)}
    {path : Path}
    {text : String}
    (hItem : item ∈ request.items)
    (hMakes : item.Makes registry store extensions files)
    (hFile : (path, text) ∈ files) :
    Generates registry store extensions request path text := by
  simp only [Request.items, List.mem_append, List.mem_map,
    mem_distinct_iff] at hItem
  cases hMakes with
  | @typekit name entity list made hFound hList hMade =>
      have hRequested : name ∈ request.typekits := by
        simpa using hItem
      have hContributes :
          contributions? registry store extensions name =
            some made :=
        contributions?_eq_some_iff.mpr
          ⟨entity, list, hFound, hList, hMade⟩
      rcases List.mem_append.mp hFile with hSource | hBuild
      · rcases List.mem_map.mp hSource with
          ⟨⟨below, found⟩, hMember, hIs⟩
        cases hIs
        rcases KitContributions.mem_sources_iff.mp hMember with
          ⟨contribution, hContributed, hKind, hIs⟩
        cases hIs
        exact
          .source hRequested hContributes hContributed hKind
      · cases List.mem_singleton.mp hBuild
        exact .typekitBuild hRequested hContributes
  | @task context code hCode =>
      have hRequested : context ∈ request.taskContexts := by
        simpa using hItem
      simp only [taskFiles, List.mem_cons, List.not_mem_nil,
        or_false] at hFile
      rcases hFile with hIs | hIs | hIs
      · cases hIs
        exact .declarations hRequested hCode
      · cases hIs
        exact .initializers hRequested hCode
      · cases hIs
        exact .registrations hRequested hCode
  | @deployment deployment composed hComposed =>
      have hRequested : deployment ∈ request.deployments := by
        simpa using hItem
      have hMade :=
        composed?_eq_some_iff.mpr hComposed
      rcases List.mem_append.mp hFile with hCode | hBuild
      · simp only [List.mem_cons, List.not_mem_nil,
          or_false] at hCode
        rcases hCode with hIs | hIs | hIs
        · cases hIs
          exact .globalScope hRequested hMade
        · cases hIs
          exact .init hRequested hMade
        · cases hIs
          exact .exit hRequested hMade
      · rcases List.mem_map.mp hBuild with
          ⟨⟨target, found⟩, hMember, hIs⟩
        cases hIs
        exact
          .build hRequested hMade
            (mem_buildTexts_iff.mp hMember)

/- What is called for is made for an item. -/
theorem exists_makes_of_generates
    {path : Path}
    {text : String}
    (hGenerates :
      Generates registry store extensions request path text) :
    ∃ item ∈ request.items,
      ∃ files,
        item.Makes registry store extensions files ∧
          (path, text) ∈ files := by
  have hTypekit {name : String} {made : KitContributions}
      (hRequested : name ∈ request.typekits)
      (hMade :
        contributions? registry store extensions name =
          some made) :
      Item.typekit name ∈ request.items ∧
        (Item.typekit name).Makes registry store extensions
          (typekitFiles name made) := by
    rcases contributions?_eq_some_iff.mp hMade with
      ⟨entity, list, hFound, hList, hRun⟩
    refine ⟨?_, .typekit hFound hList hRun⟩
    simp [Request.items, mem_distinct_iff, hRequested]
  have hTask {context : TaskContext}
      (hRequested : context ∈ request.taskContexts) :
      Item.task context ∈ request.items := by
    simp [Request.items, hRequested]
  have hDeployment {deployment : DeploymentRequest}
      (hRequested : deployment ∈ request.deployments) :
      Item.deployment deployment ∈ request.items := by
    simp [Request.items, hRequested]
  cases hGenerates with
  | source hRequested hMade hMember hKind =>
      rcases hTypekit hRequested hMade with ⟨hItem, hMakes⟩
      refine ⟨_, hItem, _, hMakes, ?_⟩
      apply List.mem_append_left
      have hSource :=
        KitContributions.mem_sources_iff.mpr
          ⟨_, hMember, hKind, rfl⟩
      exact List.mem_map.mpr ⟨_, hSource, rfl⟩
  | typekitBuild hRequested hMade =>
      rcases hTypekit hRequested hMade with ⟨hItem, hMakes⟩
      refine ⟨_, hItem, _, hMakes, ?_⟩
      apply List.mem_append_right
      exact List.mem_singleton_self _
  | declarations hRequested hCode =>
      refine ⟨_, hTask hRequested, _, .task hCode, ?_⟩
      simp [taskFiles, fragmentPath]
  | initializers hRequested hCode =>
      refine ⟨_, hTask hRequested, _, .task hCode, ?_⟩
      simp [taskFiles, fragmentPath]
  | registrations hRequested hCode =>
      refine ⟨_, hTask hRequested, _, .task hCode, ?_⟩
      simp [taskFiles, fragmentPath]
  | globalScope hRequested hComposed =>
      refine
        ⟨_, hDeployment hRequested, _,
          .deployment (composed?_eq_some_iff.mp hComposed),
          ?_⟩
      simp [deploymentFiles, fragmentPath]
  | init hRequested hComposed =>
      refine
        ⟨_, hDeployment hRequested, _,
          .deployment (composed?_eq_some_iff.mp hComposed),
          ?_⟩
      simp [deploymentFiles, fragmentPath]
  | exit hRequested hComposed =>
      refine
        ⟨_, hDeployment hRequested, _,
          .deployment (composed?_eq_some_iff.mp hComposed),
          ?_⟩
      simp [deploymentFiles, fragmentPath]
  | build hRequested hComposed hText =>
      refine
        ⟨_, hDeployment hRequested, _,
          .deployment (composed?_eq_some_iff.mp hComposed),
          ?_⟩
      apply List.mem_append_right
      exact
        List.mem_map.mpr
          ⟨(_, _), mem_buildTexts_iff.mpr hText, rfl⟩

end Run

end Componentry

------------------------------------------------------------
-- Counting Files
------------------------------------------------------------

namespace Componentry

namespace Run

variable {registry : Registry}
variable {store : Store}
variable {extensions : Extensions}
variable {request : Request}

/- The number of files of one item. -/
def Item.fileCount
    (registry : Registry)
    (store : Store)
    (extensions : Extensions) :
    Item → Nat
  | .typekit name =>
      sourceCount registry store extensions name + 1
  | .task _ => 3
  | .deployment request => 3 + targetCount extensions request

theorem sourceCount_of_contributions
    {name : String}
    {made : KitContributions}
    (hMade :
      contributions? registry store extensions name =
        some made) :
    sourceCount registry store extensions name =
      made.sources.length := by
  unfold sourceCount
  rw [hMade, KitContributions.sources,
    List.length_filterMap_eq_countP]
  apply List.countP_congr
  intro contribution _
  cases hKind : contribution.kind <;>
    simp [Contribution.source?, hKind]

theorem targetCount_of_compose
    {request : DeploymentRequest}
    {names : DeploymentNames}
    {composed : ComposedInitializers}
    (hComposed :
      extensions.initializers.compose request.initializers
          names =
        .ok composed) :
    targetCount extensions request =
      composed.buildTexts.length := by
  unfold targetCount ComposedInitializers.buildTexts
  rw [List.length_filterMap_eq_countP]
  apply List.countP_congr
  intro target _
  rw [Option.isSome_map,
    InitializerRegistry.isSome_build_of_compose hComposed]

theorem length_of_makes
    {item : Item}
    {files : List (Path × String)}
    (hMakes : item.Makes registry store extensions files) :
    files.length =
      item.fileCount registry store extensions := by
  cases hMakes with
  | @typekit name entity list made hFound hList hMade =>
      have hContributes :=
        contributions?_eq_some_iff.mpr
          ⟨_, _, hFound, hList, hMade⟩
      change
        (typekitFiles name made).length =
          sourceCount registry store extensions name + 1
      rw [sourceCount_of_contributions hContributes,
        typekitFiles, List.length_append, List.length_map]
      rfl
  | task hCode => rfl
  | @deployment request composed hComposed =>
      change
        (deploymentFiles request.name composed).length =
          3 + targetCount extensions request
      rw [targetCount_of_compose hComposed, deploymentFiles,
        List.length_append, List.length_map]
      rfl

theorem length_flatten_of_makes
    {items : List Item}
    {made : List (List (Path × String))}
    (hMade :
      List.Forall₂ (Item.Makes registry store extensions)
        items made) :
    made.flatten.length =
      (items.map
        (Item.fileCount registry store extensions)).sum := by
  induction hMade with
  | nil => rfl
  | cons hMakes hRest ih =>
      rw [List.flatten_cons, List.length_append, ih,
        length_of_makes hMakes, List.map_cons, List.sum_cons]

/- The files of all items together. -/
theorem sum_fileCount :
    (request.items.map
        (Item.fileCount registry store extensions)).sum =
      fileCount registry store extensions request := by
  have hTypekits :
      ((distinct request.typekits).map fun name =>
          sourceCount registry store extensions name
            + 1).sum =
        ∑ name ∈ request.typekits.toFinset,
          (sourceCount registry store extensions name
            + 1) := by
    have hSame :
        request.typekits.toFinset =
          (distinct request.typekits).toFinset := by
      ext name
      rw [List.mem_toFinset, List.mem_toFinset,
        mem_distinct_iff]
    rw [hSame,
      List.sum_toFinset _ (nodup_distinct request.typekits)]
  have hTasks (tasks : List TaskContext) :
      (tasks.map fun _ => 3).sum = 3 * tasks.length := by
    rw [List.map_const', List.sum_replicate_nat,
      Nat.mul_comm]
  unfold Request.items fileCount
  rw [List.map_append, List.map_append, List.sum_append,
    List.sum_append, List.map_map, List.map_map,
    List.map_map, ← hTypekits, ← hTasks]
  rfl

/- The files that are made are those that are called for. -/
theorem mem_flatten_iff_generates
    {made : List (List (Path × String))}
    (hMade :
      List.Forall₂ (Item.Makes registry store extensions)
        request.items made)
    {path : Path}
    {text : String} :
    (path, text) ∈ made.flatten ↔
      Generates registry store extensions request path
        text := by
  rw [List.mem_flatten]
  constructor
  · intro hFile
    rcases hFile with ⟨files, hFiles, hFile⟩
    rcases exists_left_of_mem hMade hFiles with
      ⟨item, hItem, hMakes⟩
    exact generates_of_makes hItem hMakes hFile
  · intro hGenerates
    rcases exists_makes_of_generates hGenerates with
      ⟨item, hItem, files, hMakes, hFile⟩
    rcases exists_right_of_mem hMade hItem with
      ⟨others, hOthers, hOther⟩
    rw [hMakes.unique hOther] at hFile
    exact ⟨others, hOthers, hFile⟩

end Run

end Componentry

------------------------------------------------------------
-- Resolved Task Models
------------------------------------------------------------

namespace Componentry

namespace Run

variable {registry : Registry}

/- One more model is resolved by its library, if it has one. -/
theorem foldl_resolveModel
    (registry : Registry)
    (models : List String)
    (start : Resolution) :
    (models.foldl (resolveModel registry) start).project =
        start.project ∧
      (models.foldl (resolveModel registry)
            start).unresolvedModels =
        start.unresolvedModels
          ++ models.filter fun model =>
            !registry.view.taskModels.contains model := by
  induction models generalizing start with
  | nil => simp
  | cons model models ih =>
      rcases ih (resolveModel registry start model) with
        ⟨hProject, hUnresolved⟩
      rw [List.foldl_cons, hProject, hUnresolved]
      unfold resolveModel Registry.taskLibraryOwning?
      cases hOwner : registry.view.taskModels[model]? with
      | none =>
          have hUnknown :=
            Std.ExtTreeMap.contains_eq_isSome_getElem?
              (t := registry.view.taskModels) (a := model)
          rw [hOwner] at hUnknown
          simp [hUnknown]
      | some library =>
          have hKnown :=
            Std.ExtTreeMap.contains_eq_isSome_getElem?
              (t := registry.view.taskModels) (a := model)
          rw [hOwner] at hKnown
          simp [hKnown]

/- The libraries that are found are those of the models. -/
theorem getElem?_foldl_resolveModel_iff
    (models : List String)
    (start : Resolution)
    {model library : String} :
    (models.foldl (resolveModel registry)
          start).taskLibraries[model]? =
        some library ↔
      (model ∈ models ∧
          registry.view.taskModels[model]? = some library) ∨
        ((model ∈ models →
            registry.view.taskModels[model]? = none) ∧
          start.taskLibraries[model]? = some library) := by
  induction models generalizing start with
  | nil => simp
  | cons first models ih =>
      rw [List.foldl_cons, ih]
      unfold resolveModel Registry.taskLibraryOwning?
      cases hOwner : registry.view.taskModels[first]? with
      | none =>
          by_cases hFirst : model = first
          · subst hFirst
            simp [hOwner]
          · simp [hFirst]
      | some found =>
          by_cases hFirst : model = first
          · subst hFirst
            by_cases hLater : model ∈ models
            · simp [hOwner, hLater]
            · simp [hOwner, hLater]
          · simp [hFirst, Std.ExtTreeMap.getElem?_insert,
              Ne.symm hFirst]

/- A deployment that is installed is resolved as it should. -/
theorem resolution_isFor
    {request : DeploymentRequest}
    (hInstalled :
      request.name ∈ registry.view.deployments) :
    (resolution registry request).IsFor registry.view
      request := by
  rcases foldl_resolveModel registry request.taskModels
      ⟨(registry.projectOwning? request.name).getD "", ∅, []⟩
    with ⟨hProject, hUnresolved⟩
  constructor
  case project =>
    refine
      ⟨_, Std.ExtTreeMap.getElem?_eq_some_getElem hInstalled,
        ?_⟩
    unfold resolution
    rw [hProject, Registry.projectOwning?,
      Std.ExtTreeMap.getElem?_eq_some_getElem hInstalled]
    rfl
  case taskLibraries =>
    intro model library
    unfold resolution
    rw [getElem?_foldl_resolveModel_iff]
    simp
  case unresolvedModels => exact hUnresolved

end Run

end Componentry

------------------------------------------------------------
-- Runs
------------------------------------------------------------

namespace Componentry

/-
  A run over a registry that is built, if it succeeds, leaves
  exactly what the request calls for.
-/
theorem execute_isExactOutput
    {registry : Registry}
    {store : Store}
    {extensions : Extensions}
    {request : Request}
    {artifacts : Artifacts}
    (hBuilt : registry.isBuilt = true)
    (hRun :
      (Run.execute registry store extensions request).1 =
        .ok artifacts) :
    Run.IsExactOutput registry store extensions request
      artifacts := by
  rw [Run.execute_eq_generate hBuilt,
    Run.generate_eq_ok_iff] at hRun
  rcases hRun with ⟨hValid, made, hMade, hAdmits, hOutput⟩
  subst hOutput
  -- Each item of the request has been made.
  have hItem
      (item : Run.Item)
      (hMember : item ∈ request.items) :
      ∃ files,
        item.Makes registry store extensions files := by
    rcases exists_right_of_mem hMade hMember with
      ⟨files, -, hMakes⟩
    exact ⟨files, hMakes⟩
  constructor
  case contributions =>
    intro name hName
    rcases
        hItem (.typekit name)
          (by simp [Request.items, mem_distinct_iff, hName])
      with ⟨files, hMakes⟩
    cases hMakes with
    | typekit hFound hList hKit =>
        rw [Run.contributions?_eq_some_iff.mpr
          ⟨_, _, hFound, hList, hKit⟩]
        rfl
  case code =>
    intro context hContext
    rcases
        hItem (.task context)
          (by simp [Request.items, hContext])
      with ⟨files, hMakes⟩
    cases hMakes with
    | task hCode => exact ⟨_, hCode⟩
  case composed =>
    intro deployment hDeployment
    rcases
        hItem (.deployment deployment)
          (by simp [Request.items, hDeployment])
      with ⟨files, hMakes⟩
    cases hMakes with
    | deployment hComposed =>
        exact
          ⟨_, Run.composed?_eq_some_iff.mpr hComposed,
            InitializerRegistry.isSome_build_of_compose
              hComposed⟩
  case files =>
    intro key path text
    rw [Run.getElem?_files_iff hAdmits,
      ← Run.mem_flatten_iff_generates hMade]
    constructor
    · intro hFound
      rcases hFound with ⟨⟨_, _⟩, hFile, hKey, hIs⟩
      cases hIs
      exact ⟨hKey, hFile⟩
    · intro hFile
      exact ⟨(path, text), hFile.2, hFile.1, rfl⟩
  case count =>
    rw [Run.files_output, Artifacts.size_withFiles hAdmits,
      Run.length_flatten_of_makes hMade, Run.sum_fileCount]
    exact Nat.zero_add _
  case deployments =>
    intro name
    exact Run.mem_deployments_iff hValid.deploymentsDiffer
  case resolutions =>
    intro deployment hMember
    refine
      ⟨Run.resolution registry deployment, ?_,
        Run.resolution_isFor
          (hValid.deployments deployment hMember).1⟩
    rw [Run.getElem?_deployments_iff
      hValid.deploymentsDiffer]
    exact ⟨deployment, hMember, rfl, rfl⟩

theorem sample_isExactOutput :
    ∃ registry extensions artifacts,
      registry.isBuilt = true ∧
        (Run.execute registry
            MemoryStore.sampleWithTypes.view extensions
            .sample).1 =
          .ok artifacts ∧
        Run.IsExactOutput registry
          MemoryStore.sampleWithTypes.view extensions
          .sample artifacts := by
  rcases Run.exists_execute_sample with
    ⟨report, registry, extensions, artifacts, hRebuild, -,
      hRun⟩
  have hBuilt := Registry.isBuilt_of_rebuild hRebuild
  exact
    ⟨registry, extensions, artifacts, hBuilt, hRun,
      execute_isExactOutput hBuilt hRun⟩

end Componentry
