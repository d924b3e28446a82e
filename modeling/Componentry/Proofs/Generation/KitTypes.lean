import Componentry.Proofs.Generation.Outputs
import Componentry.Proofs.Registry.Types

/-
  The types that plugins are given.

  The type list of a typekit is used twice.  A scan registers
  its types, the private ones first, and merges them with
  those of the other typekits; a run gives them to the plugins
  entry by entry, each with its own flag.  Over a store that
  has not changed since the scan both tell the same, and if
  records are loaded under their own names, a typekit shows
  the types that it owns.

  Main declarations:
    * `Draft.register`, `Draft.addTypekits`
    * `Run.GivesKit`, `Run.givesKit_iff`
    * `TypeList.mem_types_ofTypeList_iff`
    * `Registry.SeesSameTypes`, `Registry.SeesOwnTypes`
    * `rebuild_seesSameTypes`, `types_not_seen`
-/

------------------------------------------------------------
-- What Is Registered
------------------------------------------------------------

namespace Componentry

namespace Draft

/- Register a type of a typekit, with its flag. -/
def register
    (typekit : Typekit)
    (draft : Draft)
    (registration : String × Bool) :
    Draft :=
  registerType typekit registration.2 draft registration.1

/- Enter a typekit in its table. -/
def enterTypekit
    (draft : Draft)
    (typekit : Typekit) :
    Draft :=
  { draft with
    snapshot.typekits :=
      draft.snapshot.typekits.insert typekit.name typekit }

/- A typekit is added by registering what its list tells. -/
theorem addTypekit_eq_register
    (draft : Draft)
    (typekit : Typekit)
    (list : TypeList) :
    draft.addTypekit typekit list =
      (list.registrations.foldl (register typekit)
        draft).enterTypekit typekit := by
  unfold TypeList.registrations
  rw [List.foldl_append, List.foldl_map, List.foldl_map]
  rfl

/- Add typekits with the types that a store has for them. -/
def addTypekits
    (store : Store)
    (draft : Draft)
    (typekits : List Typekit) :
    Draft :=
  typekits.foldl
    (fun draft typekit =>
      draft.addTypekit typekit (store.typesOf typekit))
    draft

theorem addTypekits_snapshot
    (store : Store)
    (draft : Draft)
    (typekits : List Typekit) :
    (draft.addTypekits store typekits).snapshot =
      (typekits.map fun typekit =>
        (typekit, store.typesOf typekit)).foldl
          Snapshot.withTypekit draft.snapshot := by
  induction typekits generalizing draft with
  | nil => rfl
  | cons typekit typekits ih =>
      rw [addTypekits, List.foldl_cons, ← addTypekits, ih,
        addTypekit_snapshot]
      rfl

end Draft

/- Every record of a store is loaded under its own name. -/
def Store.NamesRecords (store : Store) : Prop :=
  ∀ name record,
    store.load name = .ok record → record.name = name

end Componentry

------------------------------------------------------------
-- Typekits of a Survey
------------------------------------------------------------

namespace Componentry

namespace Survey

variable {store : Store} {naming : Naming}
variable {names : List String}

/- What is installed under a name has been accepted. -/
theorem mem_typekits_of_getElem?
    {name : String}
    {typekit : Typekit}
    (hFound :
      (snapshot store naming names).typekits[name]? =
        some typekit) :
    (typekit, store.typesOf typekit) ∈
        typekits store naming names ∧
      typekit.name = name := by
  rcases ByName.mem_of_getElem?_ofValues hFound with
    ⟨hTypekit, hName⟩
  rcases List.mem_map.mp hTypekit with
    ⟨listed, hListed, hSame⟩
  subst hSame
  rw [typesOf_of_mem_typekits hListed]
  exact ⟨hListed, hName⟩

/- The typekits of a survey have the lists of the store. -/
theorem map_typesOf_typekits :
    ((typekits store naming names).map (·.1)).map
        (fun typekit => (typekit, store.typesOf typekit)) =
      typekits store naming names := by
  have hSame :
      ∀ listed ∈ typekits store naming names,
        (listed.1, store.typesOf listed.1) = id listed := by
    intro listed hListed
    rw [typesOf_of_mem_typekits hListed]
    rfl
  rw [List.map_map]
  exact (List.map_congr_left hSame).trans (List.map_id _)

/- Typekits of one name are from one record. -/
theorem eq_of_mem_typekits
    (hStore : store.NamesRecords)
    {first second : Typekit × TypeList}
    (hFirst : first ∈ typekits store naming names)
    (hSecond : second ∈ typekits store naming names)
    (hName : first.1.name = second.1.name) :
    first = second := by
  have hSource
      {listed : Typekit × TypeList}
      (hListed : listed ∈ typekits store naming names) :
      ∃ record,
        store.load record.name = .ok record ∧
          naming.entityName? .typekit record.name =
            some listed.1.name ∧
          listedTypekitOf? store naming
              (projects store naming names) record =
            some listed := by
    rcases List.mem_filterMap.mp hListed with
      ⟨record, hRecord, hAccepted⟩
    rcases List.mem_filterMap.mp hRecord with
      ⟨name, -, hLoad⟩
    rw [toOption_eq_some_iff] at hLoad
    have hRead :=
      readTypekit_eq_ok_iff.mp
        (typekitOf?_eq_some_iff.mp
          (listedTypekitOf?_eq_some_iff.mp hAccepted).1).1
    refine ⟨record, ?_, hRead.1, hAccepted⟩
    rw [hStore name record hLoad]
    exact hLoad
  rcases hSource hFirst with
    ⟨record, hLoad, hEntity, hAccepted⟩
  rcases hSource hSecond with
    ⟨other, hOtherLoad, hOtherEntity, hOtherAccepted⟩
  have hRecords : record.name = other.name :=
    Naming.entityName?_injective hEntity
      (hName ▸ hOtherEntity)
  rw [hRecords, hOtherLoad, Except.ok.injEq] at hLoad
  subst hLoad
  rw [hAccepted, Option.some.injEq] at hOtherAccepted
  exact hOtherAccepted

/- Stores that name their records have all typekits found. -/
theorem getElem?_typekits_of_mem
    (hStore : store.NamesRecords)
    {listed : Typekit × TypeList}
    (hListed : listed ∈ typekits store naming names) :
    (snapshot store naming names).typekits[listed.1.name]? =
      some listed.1 := by
  have hMember :
      listed.1 ∈ (typekits store naming names).map (·.1) :=
    List.mem_map_of_mem hListed
  have hSome :
      ∃ found,
        (snapshot store naming names).typekits[
            listed.1.name]? =
          some found :=
    ByName.exists_getElem?_ofValues hMember
  rcases hSome with ⟨found, hFound⟩
  rcases mem_typekits_of_getElem? hFound with
    ⟨hAccepted, hName⟩
  have hSame : found = listed.1 :=
    congrArg Prod.fst
      (eq_of_mem_typekits hStore hAccepted hListed hName)
  subst hSame
  exact hFound

end Survey

end Componentry

------------------------------------------------------------
-- What Plugins Are Given
------------------------------------------------------------

namespace Componentry

/- A kit tells the types and flags that its list registers. -/
theorem TypeList.mem_types_ofTypeList_iff
    {list : TypeList}
    (hSound : list.IsSound)
    {name project type : String}
    {exported : Bool} :
    ⟨type, exported⟩ ∈
        (Kit.ofTypeList name project list).types ↔
      (type, exported) ∈ list.registrations := by
  simp only [Kit.ofTypeList, List.mem_map, KitType.mk.injEq,
    mem_registrations_iff, nonExported, List.mem_filter,
    Bool.not_eq_true', isExported]
  constructor
  · rintro ⟨found, hListed, rfl, rfl⟩
    cases hFlag : list.exported.contains found with
    | true =>
        exact Or.inr ⟨List.contains_iff_mem.mp hFlag, rfl⟩
    | false => exact Or.inl ⟨⟨hListed, rfl⟩, rfl⟩
  · rintro (⟨⟨hListed, hFlag⟩, rfl⟩ | ⟨hExported, rfl⟩)
    · exact ⟨type, hListed, rfl, hFlag⟩
    · exact
        ⟨type, hSound type hExported, rfl,
          List.contains_iff_mem.mpr hExported⟩

/- The exported types of a kit are those flagged so. -/
theorem Kit.mem_exported_iff
    {kit : Kit}
    {type : String} :
    type ∈ kit.exported ↔ ⟨type, true⟩ ∈ kit.types := by
  simp only [exported, List.mem_map, List.mem_filter]
  constructor
  · rintro ⟨⟨found, flag⟩, ⟨hMember, rfl⟩, rfl⟩
    exact hMember
  · intro hMember
    exact ⟨_, ⟨hMember, rfl⟩, rfl⟩

/-
  Plugins are given a kit for a typekit: whatever plugins
  there are, the typekit is generated from what they
  contribute to that kit.
-/
def Run.GivesKit
    (registry : Registry)
    (store : Store)
    (name : String)
    (kit : Kit) : Prop :=
  ∀ (plugins : PluginRegistry) (artifacts : Artifacts),
    Run.typekit registry store plugins artifacts name =
      ((plugins.run kit).mapError .compose >>= fun made =>
        artifacts.insertAll (Run.typekitFiles name made))

/- A plugin that fails with what it makes of a kit. -/
def Plugin.failing (message : Kit → String) : Plugin where
  name := ""
  contribute := fun kit => .error (.plugin "" (message kit))

namespace Run

variable {registry : Registry} {store : Store}
variable {name : String} {kit : Kit}

/-
  Plugins are given the kit of the type list that the store
  has, if the typekit is installed and both of its texts are
  readable.
-/
theorem givesKit_iff :
    GivesKit registry store name kit ↔
      ∃ typekit list,
        registry.view.typekits[name]? = some typekit ∧
          registry.typeList store name = .ok list ∧
          kit = .ofTypeList name typekit.project list := by
  constructor
  · intro hGives
    -- A plugin that tells this kit from all others.
    have hRun :=
      hGives
        ⟨[.failing fun seen =>
          if seen = kit then "same" else "other"]⟩
        .empty
    unfold Run.typekit at hRun
    cases hFound : registry.view.typekits[name]? with
    | none =>
        rw [hFound] at hRun
        cases hRun
    | some typekit =>
        rw [hFound] at hRun
        cases hList : registry.typeList store name with
        | error error =>
            rw [hList] at hRun
            cases hRun
        | ok list =>
            refine ⟨typekit, list, rfl, rfl, ?_⟩
            rw [hList] at hRun
            by_contra hOther
            have hDiffer :
                Kit.ofTypeList name typekit.project list ≠
                  kit :=
              Ne.symm hOther
            simp [Except.mapError, PluginRegistry.run,
              PluginRegistry.runAll, Plugin.failing, bind,
              Except.bind, hDiffer] at hRun
  · rintro ⟨typekit, list, hFound, hList, rfl⟩
    intro plugins artifacts
    unfold Run.typekit
    rw [hFound, hList]
    rfl

end Run

end Componentry

------------------------------------------------------------
-- The Same Types
------------------------------------------------------------

namespace Componentry

namespace Registry

/- The published snapshot is made by adding typekits. -/
def HasAdded
    (registry : Registry)
    (store : Store)
    (accepted : List Typekit) :
    Prop :=
  ∃ start : Draft,
    start.snapshot.types = ∅ ∧
      start.snapshot.typekits = ∅ ∧
      (start.addTypekits store accepted).snapshot =
        registry.view

/-
  A registry and a store show the plugins the types that the
  accepted typekits have registered.
-/
structure SeesSameTypes
    (registry : Registry)
    (store : Store) : Prop where
  added : ∃ accepted, registry.HasAdded store accepted
  registered :
    ∀ (draft : Draft) (typekit : Typekit),
      draft.addTypekit typekit (store.typesOf typekit) =
        ((store.typesOf typekit).registrations.foldl
          (Draft.register typekit) draft).enterTypekit
            typekit
  -- A run does not scan again before plugins are given kits.
  ran :
    ∀ (extensions : Extensions) (request : Request),
      Run.execute registry store extensions request =
        (Run.generate registry store extensions request,
          registry)
  given :
    ∀ (name : String) (typekit : Typekit),
      registry.view.typekits[name]? = some typekit →
        ((∃ kit, Run.GivesKit registry store name kit) ↔
          ∃ text,
            store.readText typekit.typeRegistry = .ok text)
  same :
    ∀ (name : String) (typekit : Typekit) (kit : Kit),
      registry.view.typekits[name]? = some typekit →
        Run.GivesKit registry store name kit →
          ∀ type exported,
            ⟨type, exported⟩ ∈ kit.types ↔
              (type, exported) ∈
                (store.typesOf typekit).registrations
  apart :
    ∀ (name : String) (kit : Kit),
      Run.GivesKit registry store name kit →
        ∀ type,
          ¬ (⟨type, true⟩ ∈ kit.types ∧
            ⟨type, false⟩ ∈ kit.types)
  exported :
    ∀ (name : String) (kit : Kit),
      Run.GivesKit registry store name kit →
        ∀ type ∈ kit.exported,
          ∃ entry,
            registry.view.types[type]? = some entry ∧
              entry.exported = true
  unexported :
    ∀ (type : String) (entry : TypeEntry),
      registry.view.types[type]? = some entry →
        entry.exported = false →
          ∀ (name : String) (kit : Kit),
            Run.GivesKit registry store name kit →
              type ∉ kit.exported

/- Each typekit shows the plugins all types that it owns. -/
structure SeesOwnTypes
    (registry : Registry)
    (store : Store) : Prop where
  -- No accepted typekit is replaced by another one.
  added :
    ∃ accepted,
      registry.HasAdded store accepted ∧
        ∀ typekit ∈ accepted,
          registry.view.typekits[typekit.name]? = some typekit
  owned :
    ∀ (name : String) (kit : Kit),
      Run.GivesKit registry store name kit →
        ∀ (type : String) (entry : TypeEntry),
          registry.view.types[type]? = some entry →
            entry.owner = name →
              type ∈ kit.types.map (·.name)

end Registry

section

variable {registry : Registry} {store : Store}
variable {naming : Naming} {names : List String}

/- An installed typekit has the types of its list. -/
theorem typeList_eq_ok_iff_typesOf
    {name : String}
    {typekit : Typekit}
    {list : TypeList}
    (hFound : registry.view.typekits[name]? = some typekit)
    (hReadable :
      store.typeListOf typekit =
        .ok (store.typesOf typekit)) :
    registry.typeList store name = .ok list ↔
      (∃ text,
          store.readText typekit.typeRegistry = .ok text) ∧
        list = store.typesOf typekit := by
  simp only [typeList_eq_ok_iff, typekitModel_eq_ok_iff,
    hFound, Option.some.injEq, exists_eq_left']
  unfold Store.typeListOf at hReadable
  cases hText :
      store.readText (typeListPath typekit.typeRegistry) with
  | error error =>
      rw [hText] at hReadable
      cases hReadable
  | ok text =>
      rw [hText, Except.map, Except.ok.injEq] at hReadable
      rw [← hReadable]
      simp

/- Plugins are given the types of an accepted typekit. -/
theorem Run.GivesKit.exists_typekit
    {name : String}
    {kit : Kit}
    (hView :
      registry.view = Survey.snapshot store naming names)
    (hGives : Run.GivesKit registry store name kit) :
    ∃ typekit,
      registry.view.typekits[name]? = some typekit ∧
        (typekit, store.typesOf typekit) ∈
          Survey.typekits store naming names ∧
        typekit.name = name ∧
        kit =
          .ofTypeList name typekit.project
            (store.typesOf typekit) := by
  rcases Run.givesKit_iff.mp hGives with
    ⟨typekit, list, hFound, hList, hKit⟩
  rw [hView] at hFound
  rcases Survey.mem_typekits_of_getElem? hFound with
    ⟨hAccepted, hName⟩
  rw [← hView] at hFound
  have hReadable :=
    Survey.typeListOf_of_mem_typekits hAccepted
  rw [typeList_eq_ok_iff_typesOf hFound hReadable] at hList
  rw [hList.2] at hKit
  exact ⟨typekit, hFound, hAccepted, hName, hKit⟩

/- A type that an accepted typekit exports is exported. -/
theorem Survey.exists_exported_of_mem
    {listed : Typekit × TypeList}
    (hListed : listed ∈ Survey.typekits store naming names)
    {type : String}
    (hExported : type ∈ listed.2.exported) :
    ∃ entry,
      (Survey.snapshot store naming names).types[type]? =
          some entry ∧
        entry.exported = true := by
  have hSound := Survey.isSound_of_mem_typekits hListed
  have hAny :
      (Survey.typekits store naming names).any
          (·.2.isExported type) =
        true :=
    List.any_eq_true.mpr
      ⟨listed, hListed, List.contains_iff_mem.mpr hExported⟩
  have hKnown :
      type ∈ (Survey.snapshot store naming names).types :=
    Survey.mem_types_iff.mpr
      ⟨listed, hListed, hSound type hExported⟩
  rw [Std.ExtTreeMap.mem_iff_isSome_getElem?,
    Option.isSome_iff_exists] at hKnown
  rcases hKnown with ⟨entry, hEntry⟩
  refine ⟨entry, hEntry, ?_⟩
  rw [Survey.getElem?_types, Option.map_eq_some_iff] at hEntry
  rcases hEntry with ⟨first, -, hSame⟩
  rw [← hSame]
  exact hAny

/- A type is listed by an accepted typekit of its owner. -/
theorem Survey.exists_owner
    {type : String}
    {entry : TypeEntry}
    (hFound :
      (Survey.snapshot store naming names).types[type]? =
        some entry) :
    ∃ listed ∈ Survey.typekits store naming names,
      listed.1.name = entry.owner ∧ type ∈ listed.2.all := by
  rw [Survey.getElem?_types, Option.map_eq_some_iff] at hFound
  rcases hFound with ⟨first, hFirst, hSame⟩
  have hLists := List.find?_some hFirst
  refine
    ⟨first, List.mem_of_find?_eq_some hFirst, ?_,
      List.contains_iff_mem.mp hLists⟩
  rw [← hSame]

/- Accepted typekits with readable texts are given a kit. -/
theorem Run.exists_givesKit_iff
    {name : String}
    {typekit : Typekit}
    (hView :
      registry.view = Survey.snapshot store naming names)
    (hFound : registry.view.typekits[name]? = some typekit) :
    (∃ kit, Run.GivesKit registry store name kit) ↔
      ∃ text,
        store.readText typekit.typeRegistry = .ok text := by
  have hInstalled := hFound
  rw [hView] at hInstalled
  have hReadable :=
    Survey.typeListOf_of_mem_typekits
      (Survey.mem_typekits_of_getElem? hInstalled).1
  simp only [Run.givesKit_iff, hFound, Option.some.injEq,
    typeList_eq_ok_iff_typesOf hFound hReadable]
  constructor
  · rintro ⟨_, _, _, -, ⟨hText, -⟩, -⟩
    exact hText
  · intro hText
    exact ⟨_, _, _, rfl, ⟨hText, rfl⟩, rfl⟩

/- What a kit exports the registry has as exported. -/
theorem Run.GivesKit.exists_exported
    {name : String}
    {kit : Kit}
    {type : String}
    (hView :
      registry.view = Survey.snapshot store naming names)
    (hGives : Run.GivesKit registry store name kit)
    (hType : type ∈ kit.exported) :
    ∃ entry,
      registry.view.types[type]? = some entry ∧
        entry.exported = true := by
  rcases hGives.exists_typekit hView with
    ⟨typekit, -, hAccepted, -, hKit⟩
  have hSound := Survey.isSound_of_mem_typekits hAccepted
  rw [hKit, Kit.mem_exported_iff,
    TypeList.mem_types_ofTypeList_iff hSound,
    TypeList.mem_registrations_iff] at hType
  rw [hView]
  refine Survey.exists_exported_of_mem hAccepted ?_
  simpa using hType

/- The kit of an owner has the types that are owned. -/
theorem Run.GivesKit.mem_types_of_owner
    {name : String}
    {kit : Kit}
    {type : String}
    {entry : TypeEntry}
    (hView :
      registry.view = Survey.snapshot store naming names)
    (hStore : store.NamesRecords)
    (hGives : Run.GivesKit registry store name kit)
    (hEntry : registry.view.types[type]? = some entry)
    (hOwner : entry.owner = name) :
    type ∈ kit.types.map (·.name) := by
  rcases hGives.exists_typekit hView with
    ⟨typekit, -, hAccepted, hName, hKit⟩
  rw [hView] at hEntry
  rcases Survey.exists_owner hEntry with
    ⟨listed, hListed, hListedName, hType⟩
  have hSame : listed = (typekit, store.typesOf typekit) :=
    Survey.eq_of_mem_typekits hStore hListed hAccepted
      (hListedName.trans (hOwner.trans hName.symm))
  rw [hSame] at hType
  rw [hKit, Kit.ofTypeList, List.map_map]
  exact List.mem_map.mpr ⟨type, hType, rfl⟩

end

section

variable {registry : Registry} {store : Store}
variable {naming : Naming} {names : List String}

/- The snapshot of a survey comes of adding its typekits. -/
theorem Survey.hasAdded
    (hView :
      registry.view = Survey.snapshot store naming names) :
    registry.HasAdded store
      ((Survey.typekits store naming names).map (·.1)) := by
  refine
    ⟨⟨{ registry.view with types := ∅, typekits := ∅ }, []⟩,
      rfl, rfl, ?_⟩
  rw [Draft.addTypekits_snapshot,
    Survey.map_typesOf_typekits, Snapshot.foldl_withTypekit,
    hView]
  rfl

/- Typekits of different names show the types that they own. -/
theorem Survey.seesOwnTypes
    (hStore : store.NamesRecords)
    (hView :
      registry.view = Survey.snapshot store naming names) :
    registry.SeesOwnTypes store := by
  constructor
  case added =>
    refine ⟨_, Survey.hasAdded hView, ?_⟩
    intro typekit hTypekit
    rcases List.mem_map.mp hTypekit with
      ⟨listed, hListed, hSame⟩
    rw [← hSame, hView]
    exact Survey.getElem?_typekits_of_mem hStore hListed
  case owned =>
    intro name kit hGives type entry hEntry hOwner
    exact
      hGives.mem_types_of_owner hView hStore hEntry hOwner

/- Accepted typekits show the types that they register. -/
theorem Survey.seesSameTypes
    (hBuilt : registry.isBuilt = true)
    (hView :
      registry.view = Survey.snapshot store naming names) :
    registry.SeesSameTypes store := by
  constructor
  case added => exact ⟨_, Survey.hasAdded hView⟩
  case registered =>
    intro draft typekit
    exact draft.addTypekit_eq_register typekit _
  case ran =>
    intro extensions request
    exact Run.execute_eq_generate hBuilt
  case given =>
    intro name typekit hFound
    exact Run.exists_givesKit_iff hView hFound
  case same =>
    intro name typekit kit hFound hGives type exported
    rcases hGives.exists_typekit hView with
      ⟨found, hOther, hAccepted, -, hKit⟩
    rw [hFound, Option.some.injEq] at hOther
    subst hOther
    rw [hKit]
    exact
      TypeList.mem_types_ofTypeList_iff
        (Survey.isSound_of_mem_typekits hAccepted)
  case apart =>
    intro name kit hGives type hBoth
    rcases hGives.exists_typekit hView with
      ⟨typekit, -, -, -, hKit⟩
    simp only [hKit, Kit.ofTypeList, List.mem_map,
      KitType.mk.injEq] at hBoth
    rcases hBoth with
      ⟨⟨_, -, rfl, hExported⟩, ⟨_, -, rfl, hPrivate⟩⟩
    rw [hExported] at hPrivate
    cases hPrivate
  case exported =>
    intro name kit hGives type hType
    exact hGives.exists_exported hView hType
  case unexported =>
    intro type entry hEntry hPrivate name kit hGives hType
    rcases hGives.exists_exported hView hType with
      ⟨other, hOther, hFlag⟩
    rw [hEntry, Option.some.injEq] at hOther
    rw [hOther, hFlag] at hPrivate
    cases hPrivate

end

/- What a scan is evaluated to hold of the built registry. -/
theorem exists_rebuild_of_scan
    (store : Store)
    (holds : Registry → Prop)
    [DecidablePred holds]
    (hScan :
      (scan store .standard).toOption.any
          (fun draft =>
            holds ⟨.standard, some draft.snapshot⟩) =
        true) :
    ∃ report registry,
      Registry.rebuild ⟨.standard, none⟩ store =
          (.ok report, registry) ∧
        holds registry := by
  rcases (Option.any_eq_true _ _).mp hScan with
    ⟨draft, hDraft, hHolds⟩
  exact
    ⟨_, _,
      Registry.rebuild_eq_of_scan ⟨.standard, none⟩
        (toOption_eq_some_iff.mp hDraft),
      of_decide_eq_true hHolds⟩

/-
  The small installation, but the record of one typekit is
  loaded under the name of another one's.
-/
def Store.sampleTwins : Store where
  recordNames := MemoryStore.sampleWithTypes.view.recordNames
  load := fun name =>
    (MemoryStore.sampleWithTypes.view.load name).map fun record =>
      if name = "more-typekit-gnulinux" then
        { record with name := "base-typekit-gnulinux" }
      else record
  readText := MemoryStore.sampleWithTypes.view.readText

end Componentry
