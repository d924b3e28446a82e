import Componentry.Proofs.MemoryStores
import Componentry.Proofs.Registry.Survey

/-
  Which entities a scan registers, told by the records.

  A project is registered from the least record that names
  it.  An entity of another class is registered from the one
  record that bears its name, provided that the record has
  what the class asks for and its project is registered; a
  typekit also needs a type registry in the record that won
  its project.

  Main declarations:
    * `Descriptor.Tells`
    * `DeclaresProject`, `WinsProject`
    * `Publishes`
    * `EntitiesOfRecords`
    * `scan_entitiesOfRecords`
-/

------------------------------------------------------------
-- Fields
------------------------------------------------------------

namespace Componentry

/- A record has a field whose text, trimmed, is not empty. -/
def Descriptor.Tells
    (record : Descriptor)
    (field value : String) : Prop :=
  ∃ text,
    record.fields[field]? = some text ∧
      Text.trimmed text = value ∧
      value ≠ ""

/- The value of a field is what it tells. -/
theorem Descriptor.field?_eq_some_iff
    {record : Descriptor}
    {field value : String} :
    record.field? field = some value ↔
      record.Tells field value := by
  unfold Descriptor.field? Descriptor.Tells
  cases record.fields[field]? with
  | none => simp
  | some text =>
      by_cases hBlank : Text.isBlankText text = true
      · have hEmpty := (Text.isBlankText_iff text).mp hBlank
        simp only [hBlank, if_true, reduceCtorEq,
          Option.some.injEq, exists_eq_left', false_iff]
        rintro ⟨rfl, hValue⟩
        exact hValue hEmpty
      · have hText : Text.trimmed text ≠ "" := by
          rwa [ne_eq, ← Text.isBlankText_iff]
        simp only [hBlank, Bool.false_eq_true, if_false,
          Option.some.injEq, exists_eq_left']
        constructor
        · rintro rfl
          exact ⟨rfl, hText⟩
        · exact fun hValue => hValue.1

end Componentry

------------------------------------------------------------
-- Records and Their Claims
------------------------------------------------------------

namespace Componentry

/- A record that a store lists and can load. -/
structure Store.Holds
    (store : Store)
    (record : Descriptor) : Prop where
  listed :
    ∃ names,
      store.recordNames = .ok names ∧ record.name ∈ names
  loads : store.load record.name = .ok record

/- A record of the project class that names a project. -/
structure DeclaresProject
    (store : Store)
    (naming : Naming)
    (name : String)
    (record : Descriptor) : Prop where
  held : store.Holds record
  selected : naming.selects .project record.name = true
  named : record.Tells FieldName.projectName name

/- The least of the records that name a project. -/
structure WinsProject
    (store : Store)
    (naming : Naming)
    (name : String)
    (record : Descriptor) : Prop
    extends DeclaresProject store naming name record where
  least :
    ∀ other, DeclaresProject store naming name other →
      Text.bytes record.name ≤ Text.bytes other.name

/- The record of an entity with a legal name and an owner. -/
structure Publishes
    (store : Store)
    (naming : Naming)
    (group : RecordClass)
    (name owner : String)
    (record : Descriptor) : Prop where
  held : store.Holds record
  legal : IsEntityName group name
  bears : record.name = naming.recordName group name
  owned : record.Tells FieldName.projectName owner

/- The project that a record declares under a name. -/
def projectOf
    (name : String)
    (record : Descriptor) :
    Project where
  name := name
  record := record.name
  specPath := (record.field? FieldName.specFile).map .mk
  typekitRegistry :=
    (record.field? FieldName.typeRegistry).map .mk

/-
  The entities of a snapshot are those of the records, each
  under its own name.
-/
structure EntitiesOfRecords
    (store : Store)
    (naming : Naming)
    (snapshot : Snapshot) : Prop where
  projects :
    ∀ (name : String) (project : Project),
      snapshot.projects[name]? = some project ↔
        ∃ record,
          WinsProject store naming name record ∧
            project = projectOf name record
  taskLibraries :
    ∀ (name : String) (library : TaskLibrary),
      snapshot.taskLibraries[name]? = some library ↔
        ∃ record owner,
          Publishes store naming .taskLibrary name owner
              record ∧
            owner ∈ snapshot.projects ∧
            record.hasField FieldName.taskModels = true ∧
            library =
              { name
                project := owner
                record := record.name
                taskModels :=
                  record.list FieldName.taskModels }
  deployments :
    ∀ (name : String) (deployment : Deployment),
      snapshot.deployments[name]? = some deployment ↔
        ∃ record owner,
          Publishes store naming .deployment name owner
              record ∧
            owner ∈ snapshot.projects ∧
            record.hasField FieldName.deployedTasks = true ∧
            deployment =
              { name
                project := owner
                record := record.name
                deployedTasks :=
                  record.list FieldName.deployedTasks }
  typekits :
    ∀ (name : String) (typekit : Typekit),
      snapshot.typekits[name]? = some typekit ↔
        ∃ record owner registry winner declared,
          Publishes store naming .typekit name owner record ∧
            record.Tells FieldName.typeRegistry registry ∧
            WinsProject store naming owner winner ∧
            winner.Tells FieldName.typeRegistry declared ∧
            typekit =
              { name
                project := owner
                record := record.name
                typeRegistry := ⟨registry⟩ }
  project_name :
    ∀ (name : String) (project : Project),
      snapshot.projects[name]? = some project →
        project.name = name
  taskLibrary_name :
    ∀ (name : String) (library : TaskLibrary),
      snapshot.taskLibraries[name]? = some library →
        library.name = name
  deployment_name :
    ∀ (name : String) (deployment : Deployment),
      snapshot.deployments[name]? = some deployment →
        deployment.name = name
  typekit_name :
    ∀ (name : String) (typekit : Typekit),
      snapshot.typekits[name]? = some typekit →
        typekit.name = name

end Componentry

------------------------------------------------------------
-- Projects
------------------------------------------------------------

namespace Componentry

variable {store : Store} {naming : Naming}
variable {names : List String}

/- The records that are held are those listed that load. -/
theorem Store.holds_iff
    (hNames : store.recordNames = .ok names)
    {record : Descriptor} :
    store.Holds record ↔
      record.name ∈ names ∧
        store.load record.name = .ok record := by
  constructor
  · rintro ⟨⟨listed, hListed, hMember⟩, hLoad⟩
    rw [hNames] at hListed
    cases hListed
    exact ⟨hMember, hLoad⟩
  · rintro ⟨hMember, hLoad⟩
    exact ⟨⟨names, hNames, hMember⟩, hLoad⟩

theorem declaresProject_iff
    (hStore : store.IsOrderly)
    (hNames : store.recordNames = .ok names)
    {name : String}
    {record : Descriptor} :
    DeclaresProject store naming name record ↔
      record ∈ store.recordsOf naming names .project ∧
        record.Tells FieldName.projectName name := by
  rw [Store.mem_recordsOf_iff hStore]
  constructor
  · rintro ⟨hHeld, hSelected, hNamed⟩
    have hHeld := (Store.holds_iff hNames).mp hHeld
    exact ⟨⟨hHeld.1, hSelected, hHeld.2⟩, hNamed⟩
  · rintro ⟨⟨hMember, hSelected, hLoad⟩, hNamed⟩
    exact
      ⟨(Store.holds_iff hNames).mpr ⟨hMember, hLoad⟩,
        hSelected, hNamed⟩

/- A project is read from every record that tells its name. -/
theorem readProject_eq_ok_iff_tells
    {record : Descriptor}
    {project : Project} :
    readProject record = .ok project ↔
      record.Tells FieldName.projectName project.name ∧
        project = projectOf project.name record := by
  rw [readProject_eq_ok_iff, Descriptor.field?_eq_some_iff]
  rfl

theorem readProject_projectOf
    {record : Descriptor}
    {name : String}
    (hNamed : record.Tells FieldName.projectName name) :
    readProject record = .ok (projectOf name record) :=
  readProject_eq_ok_iff_tells.mpr ⟨hNamed, rfl⟩

/- The projects read from records stand in their order. -/
theorem projectsOf_pairwise
    (hStore : store.IsOrderly)
    (hNames : store.recordNames = .ok names) :
    (projectsOf
        (store.recordsOf naming names .project)).Pairwise
      fun first second => first.record < second.record := by
  refine
    (store.recordsOf_pairwise hStore hNames).filterMap _ ?_
  intro first second hLess project hFirst other hSecond
  rw [toOption_eq_some_iff] at hFirst hSecond
  rw [(readProject_eq_ok_iff_tells.mp hFirst).2,
    (readProject_eq_ok_iff_tells.mp hSecond).2]
  exact hLess

/- A project is found by the record that won its name. -/
theorem Survey.getElem?_projects_iff
    (hStore : store.IsOrderly)
    (hNames : store.recordNames = .ok names)
    {name : String}
    {project : Project} :
    (projects store naming names)[name]? = some project ↔
      ∃ record,
        WinsProject store naming name record ∧
          project = projectOf name record := by
  rw [projects, ByName.getElem?_ofFirst,
    find?_eq_some_iff_first
      (projectsOf_pairwise hStore hNames)
      (fun _ _ => String.lt_asymm)]
  simp only [projectsOf, List.mem_filterMap,
    toOption_eq_some_iff, beq_iff_eq]
  constructor
  · rintro ⟨⟨record, hRecord, hRead⟩, rfl, hLeast⟩
    have hTells := readProject_eq_ok_iff_tells.mp hRead
    refine
      ⟨record,
        ⟨(declaresProject_iff hStore hNames).mpr
          ⟨hRecord, hTells.1⟩, ?_⟩, hTells.2⟩
    intro other hOther
    rcases (declaresProject_iff hStore hNames).mp hOther with
      ⟨hOther, hNamed⟩
    have hNot :=
      hLeast _ ⟨other, hOther, readProject_projectOf hNamed⟩
        rfl
    rw [hTells.2] at hNot
    exact Text.bytes_le_iff.mpr hNot
  · rintro ⟨record, ⟨hDeclares, hLeast⟩, rfl⟩
    rcases (declaresProject_iff hStore hNames).mp
        hDeclares with ⟨hRecord, hNamed⟩
    refine
      ⟨⟨record, hRecord, readProject_projectOf hNamed⟩, rfl,
        ?_⟩
    rintro found ⟨other, hOther, hRead⟩ hName
    have hTells := readProject_eq_ok_iff_tells.mp hRead
    rw [hName] at hTells
    rw [hTells.2]
    exact
      Text.bytes_le_iff.mp
        (hLeast other
          ((declaresProject_iff hStore hNames).mpr
            ⟨hOther, hTells.1⟩))

end Componentry

------------------------------------------------------------
-- Entities of the Other Classes
------------------------------------------------------------

namespace Componentry

variable {store : Store} {naming : Naming}
variable {names : List String}

/- The record of an entity is the one that tells its name. -/
theorem publishes_iff
    (hStore : store.IsOrderly)
    (hNames : store.recordNames = .ok names)
    {group : RecordClass}
    {name owner : String}
    {record : Descriptor} :
    Publishes store naming group name owner record ↔
      record ∈ store.recordsOf naming names group ∧
        naming.entityName? group record.name = some name ∧
        record.Tells FieldName.projectName owner := by
  rw [Store.mem_recordsOf_iff hStore,
    Naming.entityName?_eq_some_iff]
  constructor
  · rintro ⟨hHeld, hLegal, hBears, hOwned⟩
    have hHeld := (Store.holds_iff hNames).mp hHeld
    have hSelected :
        naming.selects group record.name = true :=
      Naming.selects_of_entityName?
        (Naming.entityName?_eq_some_iff.mpr ⟨hBears, hLegal⟩)
    exact
      ⟨⟨hHeld.1, hSelected, hHeld.2⟩, ⟨hBears, hLegal⟩,
        hOwned⟩
  · rintro ⟨⟨hMember, -, hLoad⟩, ⟨hBears, hLegal⟩, hOwned⟩
    exact
      ⟨(Store.holds_iff hNames).mpr ⟨hMember, hLoad⟩, hLegal,
        hBears, hOwned⟩

namespace Survey

/-
  Entities that are read from a name, a project and a list are
  found by the records of their names.
-/
theorem getElem?_listed_iff
    {α : Type}
    {group : RecordClass}
    {key name : String}
    {entityOf? : Descriptor → Option α}
    {nameOf projectOf recordOf : α → String}
    {listOf : α → List String}
    (hStore : store.IsOrderly)
    (hNames : store.recordNames = .ok names)
    (hEntity :
      ∀ {record entity},
        entityOf? record = some entity ↔
          (naming.entityName? group record.name =
              some (nameOf entity) ∧
            record.field? FieldName.projectName =
              some (projectOf entity) ∧
            record.hasField key = true ∧
            recordOf entity = record.name ∧
            listOf entity = record.list key) ∧
          (projects store naming names).contains
              (projectOf entity) =
            true)
    {entity : α} :
    (ByName.ofValues nameOf
          ((store.recordsOf naming names group).filterMap
            entityOf?))[name]? =
        some entity ↔
      ∃ record owner,
        Publishes store naming group name owner record ∧
          owner ∈ projects store naming names ∧
          record.hasField key = true ∧
          nameOf entity = name ∧
          projectOf entity = owner ∧
          recordOf entity = record.name ∧
          listOf entity = record.list key := by
  have hOrder :
      InOrder naming group nameOf recordOf
        ((store.recordsOf naming names group).filterMap
          entityOf?) := by
    apply InOrder.of_accept hStore hNames
    intro record entity hAccepted
    have hRead := (hEntity.mp hAccepted).1
    exact ⟨hRead.2.2.2.1, hRead.1⟩
  rw [ByName.getElem?_ofValues_iff hOrder.nodup_names]
  simp only [List.mem_filterMap, hEntity,
    publishes_iff hStore hNames,
    Descriptor.field?_eq_some_iff,
    Std.ExtTreeMap.contains_iff_mem]
  constructor
  · rintro ⟨⟨record, hRecord, ⟨hName, hOwned, hHas, hSame,
      hList⟩, hOwner⟩, rfl⟩
    exact
      ⟨record, projectOf entity, ⟨hRecord, hName, hOwned⟩,
        hOwner, hHas, rfl, rfl, hSame, hList⟩
  · rintro ⟨record, owner, ⟨hRecord, hName, hOwned⟩, hOwner,
      hHas, rfl, rfl, hSame, hList⟩
    exact
      ⟨⟨record, hRecord, ⟨hName, hOwned, hHas, hSame, hList⟩,
        hOwner⟩, rfl⟩

/- A task library is found by the record of its name. -/
theorem getElem?_taskLibraries_iff
    (hStore : store.IsOrderly)
    (hNames : store.recordNames = .ok names)
    {name : String}
    {library : TaskLibrary} :
    (snapshot store naming names).taskLibraries[name]? =
        some library ↔
      ∃ record owner,
        Publishes store naming .taskLibrary name owner
            record ∧
          owner ∈ projects store naming names ∧
          record.hasField FieldName.taskModels = true ∧
          library =
            { name
              project := owner
              record := record.name
              taskModels :=
                record.list FieldName.taskModels } := by
  have hRead {record : Descriptor} {library : TaskLibrary} :=
    @taskLibraryOf?_eq_some_iff naming
      (projects store naming names) record library
  simp only [readTaskLibrary_eq_ok_iff] at hRead
  rw [snapshot, taskLibraries,
    getElem?_listed_iff hStore hNames hRead]
  cases library
  simp only [TaskLibrary.mk.injEq]

/- A deployment is found by the record of its name. -/
theorem getElem?_deployments_iff
    (hStore : store.IsOrderly)
    (hNames : store.recordNames = .ok names)
    {name : String}
    {deployment : Deployment} :
    (snapshot store naming names).deployments[name]? =
        some deployment ↔
      ∃ record owner,
        Publishes store naming .deployment name owner
            record ∧
          owner ∈ projects store naming names ∧
          record.hasField FieldName.deployedTasks = true ∧
          deployment =
            { name
              project := owner
              record := record.name
              deployedTasks :=
                record.list FieldName.deployedTasks } := by
  have hRead {record : Descriptor} {deployment : Deployment} :=
    @deploymentOf?_eq_some_iff naming
      (projects store naming names) record deployment
  simp only [readDeployment_eq_ok_iff] at hRead
  rw [snapshot, deployments,
    getElem?_listed_iff hStore hNames hRead]
  cases deployment
  simp only [Deployment.mk.injEq]

/- A project has a typekit if the record that won it says so. -/
theorem any_hasTypekit_iff
    (hStore : store.IsOrderly)
    (hNames : store.recordNames = .ok names)
    {owner : String} :
    ((projects store naming names)[owner]?).any
        Project.hasTypekit = true ↔
      ∃ winner registry,
        WinsProject store naming owner winner ∧
          winner.Tells FieldName.typeRegistry registry := by
  simp only [Option.any_eq_true,
    getElem?_projects_iff hStore hNames]
  constructor
  · rintro ⟨_, ⟨winner, hWins, rfl⟩, hTypekit⟩
    simp only [Project.hasTypekit, projectOf,
      Option.isSome_map, Option.isSome_iff_exists,
      Descriptor.field?_eq_some_iff] at hTypekit
    rcases hTypekit with ⟨registry, hRegistry⟩
    exact ⟨winner, registry, hWins, hRegistry⟩
  · rintro ⟨winner, registry, hWins, hRegistry⟩
    refine ⟨_, ⟨winner, hWins, rfl⟩, ?_⟩
    simp [Project.hasTypekit, projectOf,
      Descriptor.field?_eq_some_iff.mpr hRegistry]

/- In a scanned store the accepted typekits have lists. -/
theorem mem_typekits_iff
    {draft : Draft}
    (hNames : store.recordNames = .ok names)
    (hScan : scan store naming = .ok draft)
    {typekit : Typekit} :
    typekit ∈ (typekits store naming names).map (·.1) ↔
      ∃ record ∈ store.recordsOf naming names .typekit,
        typekitOf? naming (projects store naming names)
            record =
          some typekit := by
  simp only [typekits, List.mem_map, List.mem_filterMap,
    listedTypekitOf?_eq_some_iff]
  constructor
  · rintro ⟨listed, ⟨record, hRecord, hTypekit, -⟩, rfl⟩
    exact ⟨record, hRecord, hTypekit⟩
  · rintro ⟨record, hRecord, hTypekit⟩
    rcases typekits_readable hNames hScan hRecord hTypekit with
      ⟨list, hList⟩
    exact
      ⟨(typekit, list), ⟨record, hRecord, hTypekit, hList⟩,
        rfl⟩

/- A typekit is found by the record of its name. -/
theorem getElem?_typekits_iff
    {draft : Draft}
    (hStore : store.IsOrderly)
    (hNames : store.recordNames = .ok names)
    (hScan : scan store naming = .ok draft)
    {name : String}
    {typekit : Typekit} :
    (snapshot store naming names).typekits[name]? =
        some typekit ↔
      ∃ record owner registry winner declared,
        Publishes store naming .typekit name owner record ∧
          record.Tells FieldName.typeRegistry registry ∧
          WinsProject store naming owner winner ∧
          winner.Tells FieldName.typeRegistry declared ∧
          typekit =
            { name
              project := owner
              record := record.name
              typeRegistry := ⟨registry⟩ } := by
  rw [snapshot,
    ByName.getElem?_ofValues_iff
      (nodup_typekit_names hStore hNames),
    mem_typekits_iff hNames hScan]
  simp only [typekitOf?_eq_some_iff,
    readTypekit_eq_ok_iff, publishes_iff hStore hNames,
    Descriptor.field?_eq_some_iff,
    any_hasTypekit_iff hStore hNames]
  constructor
  · rintro ⟨⟨record, hRecord, ⟨hName, hOwned, hRegistry,
      hSame⟩, winner, declared, hWins, hDeclared⟩, rfl⟩
    refine
      ⟨record, typekit.project, typekit.typeRegistry.text,
        winner, declared, ⟨hRecord, hName, hOwned⟩,
        hRegistry, hWins, hDeclared, ?_⟩
    rw [← hSame]
  · rintro ⟨record, owner, registry, winner, declared,
      ⟨hRecord, hName, hOwned⟩, hRegistry, hWins, hDeclared,
      rfl⟩
    exact
      ⟨⟨record, hRecord, ⟨hName, hOwned, hRegistry, rfl⟩,
        winner, declared, hWins, hDeclared⟩, rfl⟩

end Survey

end Componentry

------------------------------------------------------------
-- Exact Registration
------------------------------------------------------------

namespace Componentry

/- A scan that succeeds registers the entities of records. -/
theorem scan_entitiesOfRecords
    {store : Store}
    {naming : Naming}
    {draft : Draft}
    (hStore : store.IsOrderly)
    (hScan : scan store naming = .ok draft) :
    EntitiesOfRecords store naming draft.snapshot := by
  rcases recordNames_of_scan hScan with ⟨names, hNames⟩
  rw [scan_snapshot hNames hScan]
  have hProjects :=
    @Survey.getElem?_projects_iff _ naming _ hStore hNames
  have hLibraries :=
    @Survey.getElem?_taskLibraries_iff _ naming _ hStore
      hNames
  have hDeployments :=
    @Survey.getElem?_deployments_iff _ naming _ hStore hNames
  have hTypekits :=
    @Survey.getElem?_typekits_iff _ _ _ _ hStore hNames hScan
  refine
    { projects := fun _ _ => hProjects
      taskLibraries := fun _ _ => hLibraries
      deployments := fun _ _ => hDeployments
      typekits := fun _ _ => hTypekits
      project_name := ?_
      taskLibrary_name := ?_
      deployment_name := ?_
      typekit_name := ?_ }
  · intro name project hFound
    rcases hProjects.mp hFound with ⟨_, _, rfl⟩
    rfl
  · intro name library hFound
    rcases hLibraries.mp hFound with ⟨_, _, _, _, _, rfl⟩
    rfl
  · intro name deployment hFound
    rcases hDeployments.mp hFound with ⟨_, _, _, _, _, rfl⟩
    rfl
  · intro name typekit hFound
    rcases hTypekits.mp hFound with
      ⟨_, _, _, _, _, _, _, _, _, rfl⟩
    rfl

theorem sample_entitiesOfRecords :
    MemoryStore.sample.view.IsOrderly ∧
      ∃ draft,
        scan MemoryStore.sample.view .standard = .ok draft ∧
          EntitiesOfRecords MemoryStore.sample.view .standard
            draft.snapshot := by
  rcases MemoryStore.scan_sample with ⟨draft, hScan, -⟩
  exact
    ⟨MemoryStore.sample_isOrderly, draft, hScan,
      scan_entitiesOfRecords MemoryStore.sample_isOrderly
        hScan⟩

end Componentry
