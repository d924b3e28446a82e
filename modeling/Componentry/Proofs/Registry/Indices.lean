import Mathlib.Data.Finset.Card
import Mathlib.Data.Finset.Dedup
import Componentry.Proofs.MemoryStores
import Componentry.Proofs.Registry.Counts
import Componentry.Registry.Basic

/-
  What the indices of a snapshot tell.

  The index of task models names, for each model, the library
  from the greatest record that lists it.  The index of tasks
  is the inverse of the lists of the deployments.  Both are
  filled beside the tables, and agree with them.

  Main declarations:
    * `Snapshot.OwnsModel`, `Snapshot.Runs`
    * `getElem?_foldl_indexModels`
    * `runsIn_foldl_indexTasks`
    * `IndicesOfEntities`
    * `rebuild_indicesOfEntities`
-/

------------------------------------------------------------
-- The Index of Task Models
------------------------------------------------------------

namespace Componentry

/- What an index finds once models have got one owner. -/
theorem getElem?_foldl_insert
    (owners : ByName String)
    (owner : String)
    (models : List String)
    (key : String) :
    (models.foldl
        (fun owners model => owners.insert model owner)
        owners)[key]? =
      if key ∈ models then some owner else owners[key]? := by
  induction models generalizing owners with
  | nil => simp
  | cons model models ih =>
      rw [List.foldl_cons, ih, ByName.getElem?_insert]
      by_cases hKey : key ∈ models
      · simp [hKey]
      · by_cases hModel : model = key
        · simp [hModel]
        · simp [hKey, hModel, Ne.symm hModel]

theorem getElem?_indexModels
    (owners : ByName String)
    (library : TaskLibrary)
    (model : String) :
    (indexModels owners library)[model]? =
      if model ∈ library.taskModels then some library.name
      else owners[model]? :=
  getElem?_foldl_insert owners library.name _ model

/- The last library that lists a model owns it. -/
theorem getElem?_foldl_indexModels
    (libraries : List TaskLibrary)
    (model : String) :
    (libraries.foldl indexModels ∅)[model]? =
      (libraries.reverse.find?
        (·.taskModels.contains model)).map (·.name) := by
  induction libraries using List.reverseRecOn with
  | nil => simp
  | append_singleton libraries last ih =>
      rw [List.foldl_append, List.foldl_cons,
        List.foldl_nil, getElem?_indexModels, ih,
        List.reverse_append, List.reverse_singleton,
        List.singleton_append]
      by_cases hModel : model ∈ last.taskModels
      · rw [if_pos hModel,
          List.find?_cons_of_pos (by simpa using hModel)]
        rfl
      · rw [if_neg hModel,
          List.find?_cons_of_neg (by simpa using hModel)]

/- The models of the index are those that are listed. -/
theorem mem_foldl_indexModels_iff
    {libraries : List TaskLibrary}
    {model : String} :
    model ∈ libraries.foldl indexModels ∅ ↔
      ∃ library ∈ libraries, model ∈ library.taskModels := by
  rw [Std.ExtTreeMap.mem_iff_isSome_getElem?,
    getElem?_foldl_indexModels, Option.isSome_map,
    List.find?_isSome]
  simp only [List.mem_reverse, List.contains_iff_mem]

end Componentry

------------------------------------------------------------
-- The Index of Tasks
------------------------------------------------------------

namespace Componentry

/- An index tells that a deployment runs a task. -/
def RunsIn
    (tasks : ByName Names)
    (task deployment : String) : Prop :=
  ∃ names,
    tasks[task]? = some names ∧ deployment ∈ names

/- No task of an index stands without a deployment. -/
def IsInhabited (tasks : ByName Names) : Prop :=
  ∀ (task : String) (names : Names),
    tasks[task]? = some names →
      ∃ deployment, deployment ∈ names

/- What an index finds once a task has got a deployment. -/
theorem getElem?_deployTask
    (deployment : String)
    (tasks : ByName Names)
    (task key : String) :
    (Draft.deployTask deployment tasks task)[key]? =
      if task = key then
        some ((tasks[key]?.getD ∅).insert deployment)
      else tasks[key]? := by
  rw [Draft.deployTask, Std.ExtTreeMap.getElem?_alter]
  by_cases hKey : task = key
  · subst hKey
    simp
  · simp [hKey]

theorem mem_getD_iff
    {tasks : ByName Names}
    {task deployment : String} :
    deployment ∈ (tasks[task]?.getD ∅) ↔
      RunsIn tasks task deployment := by
  unfold RunsIn
  cases tasks[task]? with
  | none => simp
  | some names => simp

theorem runsIn_deployTask_iff
    {tasks : ByName Names}
    {deployment task key name : String} :
    RunsIn (Draft.deployTask deployment tasks task) key
        name ↔
      RunsIn tasks key name ∨
        (task = key ∧ deployment = name) := by
  rw [← mem_getD_iff, ← mem_getD_iff, getElem?_deployTask]
  by_cases hKey : task = key
  · subst hKey
    simp [Std.ExtTreeSet.mem_insert, or_comm]
  · simp [hKey]

theorem runsIn_foldl_deployTask_iff
    {tasks : ByName Names}
    {deployment key name : String}
    {names : List String} :
    RunsIn
        (names.foldl (Draft.deployTask deployment) tasks)
        key name ↔
      RunsIn tasks key name ∨
        (key ∈ names ∧ deployment = name) := by
  induction names generalizing tasks with
  | nil => simp
  | cons task names ih =>
      rw [List.foldl_cons, ih, runsIn_deployTask_iff,
        List.mem_cons, or_assoc, ← or_and_right,
        eq_comm (a := task)]

/- The index of tasks is the inverse of the lists. -/
theorem runsIn_foldl_indexTasks
    {deployments : List Deployment}
    {tasks : ByName Names}
    {task name : String} :
    RunsIn (deployments.foldl indexTasks tasks) task name ↔
      RunsIn tasks task name ∨
        ∃ deployment ∈ deployments,
          deployment.name = name ∧
            task ∈ deployment.deployedTasks := by
  induction deployments generalizing tasks with
  | nil => simp
  | cons deployment deployments ih =>
      rw [List.foldl_cons, ih, indexTasks,
        runsIn_foldl_deployTask_iff, or_assoc]
      simp only [List.mem_cons, exists_eq_or_imp]
      rw [and_comm (a := task ∈ deployment.deployedTasks)]

theorem IsInhabited.deployTask
    {tasks : ByName Names}
    (hTasks : IsInhabited tasks)
    (deployment task : String) :
    IsInhabited
      (Draft.deployTask deployment tasks task) := by
  intro key names hFound
  rw [getElem?_deployTask] at hFound
  by_cases hKey : task = key
  · rw [if_pos hKey] at hFound
    cases hFound
    exact ⟨deployment, by simp⟩
  · rw [if_neg hKey] at hFound
    exact hTasks key names hFound

theorem IsInhabited.foldl_indexTasks
    {tasks : ByName Names}
    (hTasks : IsInhabited tasks)
    (deployments : List Deployment) :
    IsInhabited (deployments.foldl indexTasks tasks) := by
  refine List.foldlRecOn deployments indexTasks hTasks ?_
  intro tasks hTasks deployment _
  refine
    List.foldlRecOn deployment.deployedTasks
      (Draft.deployTask deployment.name) hTasks ?_
  intro tasks hTasks task _
  exact hTasks.deployTask deployment.name task

end Componentry

------------------------------------------------------------
-- Duplicates
------------------------------------------------------------

namespace Componentry

namespace Draft

/- The models of a draft and the duplicates it has noted. -/
def modelMeasure (draft : Draft) : Nat :=
  draft.kindCount .duplicateTaskModel
    + draft.snapshot.taskModels.size

/- A claim enters a model, notes a duplicate or repeats. -/
theorem claimModel_measure
    (library : TaskLibrary)
    (draft : Draft)
    (model : String) :
    (claimModel library draft model).modelMeasure =
      draft.modelMeasure +
        if draft.snapshot.taskModels[model]? =
          some library.name then 0 else 1 := by
  unfold claimModel
  cases hFound : draft.snapshot.taskModels[model]? with
  | none =>
      simp only [modelMeasure, kindCount,
        ByName.size_insert_of_none hFound, reduceCtorEq,
        if_false]
      omega
  | some previous =>
      by_cases hPrevious : previous = library.name
      · simp only [hPrevious, if_true, modelMeasure,
          kindCount, ByName.size_insert_of_some hFound]
        omega
      · simp only [hPrevious, if_false, Option.some.injEq,
          modelMeasure, kindCount, diagnose,
          Diagnostic.duplicateTaskModel, List.countP_append,
          List.countP_singleton,
          ByName.size_insert_of_some hFound,
          beq_self_eq_true, if_true]
        omega

/-
  The claims of a library that owns no model yet count each
  of its models once.
-/
theorem claimModels_measure
    (library : TaskLibrary)
    (draft : Draft)
    (models : List String)
    (hFresh :
      ∀ model : String,
        draft.snapshot.taskModels[model]? ≠
          some library.name) :
    (models.foldl (claimModel library) draft).modelMeasure =
      draft.modelMeasure + models.toFinset.card := by
  induction models using List.reverseRecOn with
  | nil => rfl
  | append_singleton models model ih =>
      rw [List.foldl_append, List.foldl_cons,
        List.foldl_nil, claimModel_measure, ih,
        claimModels_snapshot, getElem?_foldl_insert,
        List.toFinset_append, List.toFinset_cons,
        List.toFinset_nil, insert_empty_eq]
      by_cases hModel : model ∈ models
      · have hSame :
            models.toFinset ∪ {model} = models.toFinset := by
          simpa using hModel
        rw [if_pos hModel, if_pos rfl, hSame, Nat.add_zero]
      · have hCard :
            (models.toFinset ∪ {model}).card =
              models.toFinset.card + 1 := by
          rw [Finset.union_comm, Finset.singleton_union,
            Finset.card_insert_of_notMem (by simpa)]
        rw [if_neg hModel, if_neg (hFresh model), hCard]
        omega

/- A library that owns no model yet counts its models. -/
theorem enterTaskLibrary_measure
    (draft : Draft)
    (library : TaskLibrary)
    (hFresh :
      ∀ model : String,
        draft.snapshot.taskModels[model]? ≠
          some library.name) :
    (draft.enterTaskLibrary library).modelMeasure =
      draft.modelMeasure
        + library.taskModels.toFinset.card :=
  claimModels_measure library draft library.taskModels hFresh

end Draft

/- The owners in an index are names of its libraries. -/
theorem getElem?_foldl_indexModels_ne
    {libraries : List TaskLibrary}
    {name : String}
    (hName : name ∉ libraries.map (·.name))
    (model : String) :
    (libraries.foldl indexModels ∅)[model]? ≠ some name := by
  rw [getElem?_foldl_indexModels]
  intro hFound
  rcases Option.map_eq_some_iff.mp hFound with
    ⟨library, hLibrary, rfl⟩
  have hMember := List.mem_of_find?_eq_some hLibrary
  exact
    hName
      (List.mem_map_of_mem (List.mem_reverse.mp hMember))

namespace Phases

variable {store : Store} {naming : Naming}
variable {names : List String}
variable {first second third draft : Draft}

/- After the second phase each library counts its models. -/
theorem second_modelMeasure
    (hPhases :
      Phases store naming names first second third draft)
    (hStore : store.IsOrderly)
    (hNames : store.recordNames = .ok names) :
    second.modelMeasure =
      ((Survey.taskLibraries store naming names).map
        (·.taskModels.toFinset.card)).sum := by
  have hKind : DiagnosticKind.duplicateTaskModel.IsOfIndex :=
    Or.inl rfl
  have hOrder :
      InOrder naming .taskLibrary TaskLibrary.name
        TaskLibrary.record
        (Survey.taskLibraries store naming names) :=
    Survey.taskLibraries_inOrder hStore hNames
  rcases scanClass_run hPhases.taskLibraries with
    ⟨loaded, hLoad, hRun⟩
  have hInv :=
    admits_taskLibrary.run_invariant
      (fun entered draft =>
        draft.snapshot.taskModels =
            entered.foldl indexModels ∅ ∧
          draft.modelMeasure =
            (entered.map (·.taskModels.toFinset.card)).sum)
      ?_ ?_ ?_ hRun
  · rw [Draft.diagnoseAll_snapshot, hPhases.first_projects]
      at hInv
    exact hInv.2
  · have hModels : first.snapshot.taskModels = ∅ := by
      rw [hPhases.first_snapshot]
      rfl
    have hCount :
        (first.diagnoseAll loaded.diagnostics).kindCount
          .duplicateTaskModel = 0 := by
      rw [Draft.kindCount_diagnoseAll_of_rejects _ hKind
          (loadAll_rejects hLoad),
        scanClass_project_kindCount hKind hPhases.projects]
      rfl
    refine ⟨hModels, ?_⟩
    rw [Draft.modelMeasure, hCount,
      Draft.diagnoseAll_snapshot, hModels]
    rfl
  · rintro entered draft diagnostic record hRejects
      ⟨hModels, hMeasure⟩
    refine ⟨hModels, ?_⟩
    rw [← hMeasure, Draft.modelMeasure,
      Draft.kindCount_diagnose _
        (hKind.ne_of_rejectsRecord hRejects.1)]
    rfl
  · rintro entered library draft hPrefix ⟨hModels, hMeasure⟩
    rw [Draft.diagnoseAll_snapshot, hPhases.first_projects]
      at hPrefix
    -- A library is entered once, so it owns no model before.
    have hNew : library.name ∉ entered.map (·.name) := by
      have hNames :=
        hOrder.nodup_names.sublist
          (hPrefix.map TaskLibrary.name).sublist
      rw [List.map_append, List.nodup_append] at hNames
      intro hMember
      exact hNames.2.2 _ hMember _ (by simp) rfl
    have hFresh :=
      getElem?_foldl_indexModels_ne hNew
    rw [← hModels] at hFresh
    constructor
    · rw [Draft.enterTaskLibrary_snapshot,
        Snapshot.withTaskLibrary, hModels, List.foldl_append]
      rfl
    · rw [draft.enterTaskLibrary_measure library hFresh,
        hMeasure, List.map_append, List.sum_append]
      simp

/- The later phases note no task model twice. -/
theorem draft_modelMeasure
    (hPhases :
      Phases store naming names first second third draft)
    (hStore : store.IsOrderly)
    (hNames : store.recordNames = .ok names) :
    draft.modelMeasure =
      ((Survey.taskLibraries store naming names).map
        (·.taskModels.toFinset.card)).sum := by
  have hKind : DiagnosticKind.duplicateTaskModel.IsOfIndex :=
    Or.inl rfl
  have hCount :
      draft.kindCount .duplicateTaskModel =
        second.kindCount .duplicateTaskModel := by
    rw [admits_typekit.scanClass_kindCount
        (fun draft listed =>
          draft.addTypekit_notes listed.1 listed.2)
        hKind (by decide) hPhases.typekits,
      admits_deployment.scanClass_kindCount
        (Draft.enterDeployment_notes .missingOptionalField)
        hKind (by decide) hPhases.deployments]
  have hModels :
      draft.snapshot.taskModels =
        second.snapshot.taskModels := by
    rw [hPhases.draft_snapshot, hPhases.second_snapshot]
    rfl
  rw [← hPhases.second_modelMeasure hStore hNames,
    Draft.modelMeasure, hCount, hModels]
  rfl

end Phases

end Componentry

------------------------------------------------------------
-- Counting Listings
------------------------------------------------------------

namespace Componentry

theorem sum_map_ite_eq_countP
    {α : Type}
    (counted : α → Bool)
    (items : List α) :
    (items.map fun item =>
        if counted item then 1 else 0).sum =
      items.countP counted := by
  induction items with
  | nil => rfl
  | cons item items ih =>
      rw [List.map_cons, List.sum_cons, ih, List.countP_cons,
        Nat.add_comm]

/- Pairs are counted by their first or their second part. -/
theorem sum_countP_comm
    {α β : Type}
    (related : α → β → Bool)
    (keys : List α)
    (items : List β) :
    (keys.map fun key => items.countP (related key)).sum =
      (items.map fun item =>
        keys.countP (related · item)).sum := by
  induction keys with
  | nil => simp
  | cons key keys ih =>
      simp only [List.map_cons, List.sum_cons, ih,
        List.countP_cons, List.sum_map_add,
        sum_map_ite_eq_countP]
      omega

/- Numbers that are not zero, each less one. -/
theorem sum_map_sub_one
    {α : Type}
    {number : α → Nat}
    {items : List α}
    (hPositive : ∀ item ∈ items, 0 < number item) :
    (items.map fun item => number item - 1).sum
        + items.length =
      (items.map number).sum := by
  induction items with
  | nil => rfl
  | cons item items ih =>
      have hItem := hPositive item List.mem_cons_self
      have hItems :=
        ih fun other hOther =>
          hPositive other (List.mem_cons_of_mem _ hOther)
      simp only [List.map_cons, List.sum_cons,
        List.length_cons]
      omega

/- A library counts as often as keys are models of it. -/
theorem countP_keys_indexModels
    {libraries : List TaskLibrary}
    {library : TaskLibrary}
    (hLibrary : library ∈ libraries) :
    (libraries.foldl indexModels ∅).keys.countP
        (library.taskModels.contains ·) =
      library.taskModels.toFinset.card := by
  have hNodup := (libraries.foldl indexModels ∅).nodup_keys
  rw [List.countP_eq_length_filter,
    ← List.toFinset_card_of_nodup (hNodup.filter _)]
  congr 1
  ext model
  simp only [List.mem_toFinset, List.mem_filter,
    Std.ExtTreeMap.mem_keys, List.contains_iff_mem,
    mem_foldl_indexModels_iff]
  constructor
  · exact fun hModel => hModel.2
  · exact fun hModel => ⟨⟨library, hLibrary, hModel⟩, hModel⟩

/-
  The listings of models, counted by models and by libraries.
-/
theorem sum_listings
    (libraries : List TaskLibrary) :
    ((libraries.foldl indexModels ∅).keys.map fun model =>
        libraries.countP (·.taskModels.contains model) - 1).sum
        + (libraries.foldl indexModels ∅).size =
      (libraries.map (·.taskModels.toFinset.card)).sum := by
  rw [← Std.ExtTreeMap.length_keys, sum_map_sub_one,
    sum_countP_comm]
  · congr 1
    refine List.map_congr_left ?_
    intro library hLibrary
    exact countP_keys_indexModels hLibrary
  · intro model hModel
    rw [Std.ExtTreeMap.mem_keys,
      mem_foldl_indexModels_iff] at hModel
    rcases hModel with ⟨library, hLibrary, hLists⟩
    rw [List.countP_pos_iff]
    exact ⟨library, hLibrary, by simpa using hLists⟩

end Componentry

------------------------------------------------------------
-- The Indices of a Scan
------------------------------------------------------------

namespace Componentry

/-
  A library owns a model: it lists the model, and no library
  from a greater record does.
-/
def Snapshot.OwnsModel
    (snapshot : Snapshot)
    (model library : String) : Prop :=
  ∃ owner,
    snapshot.taskLibraries[library]? = some owner ∧
      model ∈ owner.taskModels ∧
      ∀ (name : String) (other : TaskLibrary),
        snapshot.taskLibraries[name]? = some other →
          model ∈ other.taskModels →
            ¬ Text.bytes owner.record <
              Text.bytes other.record

/- A deployment lists a task. -/
def Snapshot.Runs
    (snapshot : Snapshot)
    (task name : String) : Prop :=
  ∃ deployment,
    snapshot.deployments[name]? = some deployment ∧
      task ∈ deployment.deployedTasks

/-
  The indices of a draft, and the queries of the registry
  that is built from it, tell what its entities list.
-/
structure IndicesOfEntities
    (draft : Draft)
    (built : Registry) : Prop where
  owned :
    ∀ model library : String,
      draft.snapshot.taskModels[model]? = some library ↔
        draft.snapshot.OwnsModel model library
  duplicates :
    draft.diagnostics.countP
        (·.kind == .duplicateTaskModel) =
      (draft.snapshot.taskModels.keys.map fun model =>
        draft.snapshot.taskLibraries.values.countP
          (·.taskModels.contains model) - 1).sum
  run :
    ∀ task name : String,
      (∃ names,
          draft.snapshot.deployedTasks[task]? = some names ∧
            name ∈ names) ↔
        draft.snapshot.Runs task name
  inhabited :
    ∀ (task : String) (names : Names),
      draft.snapshot.deployedTasks[task]? = some names →
        ∃ name, name ∈ names
  owning :
    ∀ model library : String,
      built.taskLibraryOwning? model = some library ↔
        draft.snapshot.OwnsModel model library
  containing :
    ∀ task name : String,
      name ∈ built.deploymentsContaining task ↔
        draft.snapshot.Runs task name

variable {store : Store} {naming : Naming}
variable {names : List String}

namespace Survey

/- The library from the greatest record owns a model. -/
theorem getElem?_taskModels_iff
    (hStore : store.IsOrderly)
    (hNames : store.recordNames = .ok names)
    {model library : String} :
    (snapshot store naming names).taskModels[model]? =
        some library ↔
      (snapshot store naming names).OwnsModel model
        library := by
  have hOrder :
      InOrder naming .taskLibrary TaskLibrary.name
        TaskLibrary.record
        (taskLibraries store naming names) :=
    taskLibraries_inOrder hStore hNames
  have hReverse :
      (taskLibraries store naming names).reverse.Pairwise
        fun first second => second.record < first.record :=
    List.pairwise_reverse.mpr hOrder.increasing
  simp only [Snapshot.OwnsModel, snapshot,
    getElem?_foldl_indexModels, Option.map_eq_some_iff,
    find?_eq_some_iff_first hReverse
      (fun _ _ => String.lt_asymm),
    ByName.getElem?_ofValues_iff hOrder.nodup_names,
    List.mem_reverse, List.contains_iff_mem,
    Text.bytes_lt_iff]
  constructor
  · rintro ⟨owner, ⟨hOwner, hModel, hGreatest⟩, rfl⟩
    refine ⟨owner, ⟨hOwner, rfl⟩, hModel, ?_⟩
    rintro _ other ⟨hOther, -⟩ hLists
    exact hGreatest other hOther hLists
  · rintro ⟨owner, ⟨hOwner, hName⟩, hModel, hGreatest⟩
    refine ⟨owner, ⟨hOwner, hModel, ?_⟩, hName⟩
    intro other hOther hLists
    exact hGreatest _ other ⟨hOther, rfl⟩ hLists

/- The index of tasks tells what the deployments list. -/
theorem runsIn_deployedTasks_iff
    (hStore : store.IsOrderly)
    (hNames : store.recordNames = .ok names)
    {task name : String} :
    RunsIn (snapshot store naming names).deployedTasks task
        name ↔
      (snapshot store naming names).Runs task name := by
  have hOrder :
      InOrder naming .deployment Deployment.name
        Deployment.record
        (deployments store naming names) :=
    deployments_inOrder hStore hNames
  simp only [Snapshot.Runs, snapshot,
    runsIn_foldl_indexTasks,
    ByName.getElem?_ofValues_iff hOrder.nodup_names,
    and_assoc]
  simp [RunsIn]

end Survey

/- A rebuild that succeeds publishes the snapshot. -/
theorem Registry.view_rebuild
    (registry : Registry)
    {draft : Draft}
    (hScan : scan store registry.naming = .ok draft) :
    (registry.rebuild store).2.view = draft.snapshot := by
  simp [Registry.rebuild, Registry.view, hScan]

/-
  The indices and the queries of a registry agree with the
  entities that the scan has registered.
-/
theorem rebuild_indicesOfEntities
    {draft : Draft}
    (registry : Registry)
    (hStore : store.IsOrderly)
    (hScan : scan store registry.naming = .ok draft) :
    IndicesOfEntities draft (registry.rebuild store).2 := by
  rcases recordNames_of_scan hScan with ⟨names, hNames⟩
  rcases scan_phases hNames hScan with ⟨_, _, _, hPhases⟩
  have hSnapshot := hPhases.draft_snapshot
  have hView := registry.view_rebuild hScan
  have hOwned (model library : String) :
      draft.snapshot.taskModels[model]? = some library ↔
        draft.snapshot.OwnsModel model library := by
    rw [hSnapshot]
    exact Survey.getElem?_taskModels_iff hStore hNames
  have hRuns (task name : String) :
      RunsIn draft.snapshot.deployedTasks task name ↔
        draft.snapshot.Runs task name := by
    rw [hSnapshot]
    exact Survey.runsIn_deployedTasks_iff hStore hNames
  refine
    { owned := hOwned
      duplicates := ?_
      run := hRuns
      inhabited := ?_
      owning := ?_
      containing := ?_ }
  · have hMeasure :=
      hPhases.draft_modelMeasure hStore hNames
    have hListings :=
      sum_listings
        (Survey.taskLibraries store registry.naming names)
    have hModels :
        draft.snapshot.taskModels =
          (Survey.taskLibraries store registry.naming
            names).foldl indexModels ∅ := by
      rw [hSnapshot]
      rfl
    have hValues :
        draft.snapshot.taskLibraries.values.Perm
          (Survey.taskLibraries store registry.naming
            names) := by
      rw [hSnapshot]
      exact Survey.values_taskLibraries_perm hStore hNames
    rw [Draft.modelMeasure, Draft.kindCount] at hMeasure
    rw [← hMeasure, ← hModels] at hListings
    simp only [hValues.countP_eq]
    omega
  · have hEmpty : IsInhabited ∅ := by
      intro task names hFound
      simp at hFound
    rw [hSnapshot]
    exact
      hEmpty.foldl_indexTasks
        (Survey.deployments store registry.naming names)
  · intro model library
    rw [Registry.taskLibraryOwning?, hView]
    exact hOwned model library
  · intro task name
    rw [Registry.deploymentsContaining, hView, mem_getD_iff]
    exact hRuns task name

theorem sample_indicesOfEntities :
    MemoryStore.sample.view.IsOrderly ∧
      ∃ draft,
        scan MemoryStore.sample.view .standard = .ok draft ∧
          IndicesOfEntities draft
            ((Registry.mk .standard none).rebuild
              MemoryStore.sample.view).2 ∧
          draft.snapshot.OwnsModel "base::Task" "a" ∧
          draft.snapshot.Runs "drive" "rover" := by
  rcases MemoryStore.scan_sample with
    ⟨draft, hScan, -, -, hModel, hTask⟩
  have hIndices :=
    rebuild_indicesOfEntities ⟨.standard, none⟩
      MemoryStore.sample_isOrderly hScan
  refine
    ⟨MemoryStore.sample_isOrderly, draft, hScan, hIndices,
      (hIndices.owned _ _).mp hModel, ?_⟩
  rw [mem_getD_iff] at hTask
  exact (hIndices.run _ _).mp hTask

end Componentry
