import Componentry.Proofs.Registry.Faults
import Componentry.Proofs.Registry.Outcomes
import Componentry.Proofs.Registry.Queries

/-
  Records that are dropped leave no trace.

  A scan drops a record of a class if it rejects the record or
  finds that it repeats a project.  A store without any of the
  records that are dropped is scanned to the same snapshot: no
  other entity is accepted because of them, and no index has
  an entry from them.

  Main declarations:
    * `Store.without`
    * `Drops`, `drops_iff`
    * `Survey.snapshot_without`
    * `SameComponents`
    * `scan_without_dropped`
-/

------------------------------------------------------------
-- Stores without Records
------------------------------------------------------------

namespace Componentry

/- The store without the records of the removed names. -/
def Store.without
    (store : Store)
    (removed : String → Bool) :
    Store where
  recordNames :=
    store.recordNames.map fun names =>
      names.filter (!removed ·)
  load := fun name =>
    if removed name then .error (.notFound name)
    else store.load name
  readText := store.readText

namespace Store

variable {store : Store} {naming : Naming}
variable {names : List String} {removed : String → Bool}

theorem recordNames_without
    (hNames : store.recordNames = .ok names) :
    (store.without removed).recordNames =
      .ok (names.filter (!removed ·)) := by
  rw [without, hNames]
  rfl

theorem load_without
    {name : String}
    (hKept : removed name = false) :
    (store.without removed).load name = store.load name := by
  simp [without, hKept]

/- The records of a class are those that are not removed. -/
theorem recordsOf_without
    (hStore : store.IsOrderly)
    (group : RecordClass) :
    (store.without removed).recordsOf naming
        (names.filter (!removed ·)) group =
      (store.recordsOf naming names group).filter
        (!removed ·.name) := by
  unfold recordsOf loaded
  rw [List.filter_filterMap, List.filter_filter,
    List.filterMap_filter, List.filterMap_filter]
  apply List.filterMap_congr
  intro name _
  cases hRemoved : removed name with
  | false =>
      rw [load_without hRemoved]
      cases hLoad : store.load name with
      | error error => simp [Except.toOption]
      | ok record =>
          have hName : record.name = name :=
            hStore.name_of_load name record hLoad
          simp [Except.toOption, Option.filter, hName,
            hRemoved]
  | true =>
      cases hLoad : store.load name with
      | error error => simp [Except.toOption]
      | ok record =>
          have hName : record.name = name :=
            hStore.name_of_load name record hLoad
          simp [Except.toOption, Option.filter, hName,
            hRemoved]

end Store

end Componentry

------------------------------------------------------------
-- Records That Are Not Used
------------------------------------------------------------

namespace Componentry

variable {α β : Type}

/- Items that give nothing may be left out. -/
theorem filterMap_filter_of_none
    {items : List α}
    {keep : α → Bool}
    {give : α → Option β}
    (hNone :
      ∀ item ∈ items, keep item = false → give item = none) :
    (items.filter keep).filterMap give =
      items.filterMap give := by
  rw [List.filterMap_filter]
  apply List.filterMap_congr
  intro item hItem
  cases hKeep : keep item with
  | true => rfl
  | false => rw [hNone item hItem hKeep]; rfl

/- Items that are not found may be left out. -/
theorem find?_filter_of_kept
    {items : List α}
    {keep sought : α → Bool}
    (hKept :
      ∀ item, items.find? sought = some item →
        keep item = true) :
    (items.filter keep).find? sought = items.find? sought := by
  induction items with
  | nil => rfl
  | cons item items ih =>
      cases hSought : sought item with
      | true =>
          have hFound :
              (item :: items).find? sought = some item :=
            List.find?_cons_of_pos hSought
          have hKeep : keep item = true := hKept item hFound
          rw [List.filter_cons_of_pos hKeep,
            List.find?_cons_of_pos hSought, hFound]
      | false =>
          have hSkip :
              (item :: items).find? sought =
                items.find? sought :=
            List.find?_cons_of_neg (by simp [hSought])
          rw [hSkip] at hKept ⊢
          cases hKeep : keep item with
          | true =>
              rw [List.filter_cons_of_pos hKeep,
                List.find?_cons_of_neg (by simp [hSought])]
              exact ih hKept
          | false =>
              rw [List.filter_cons_of_neg (by simp [hKeep])]
              exact ih hKept

/-
  No record of the removed names has an entity in a snapshot.
-/
def Spares
    (naming : Naming)
    (names : List String)
    (removed : String → Bool)
    (snapshot : Snapshot) : Prop :=
  ∀ record ∈ names,
    removed record = true →
      ∀ group, naming.selects group record = true →
        record ∉ snapshot.recordsOf group

end Componentry

------------------------------------------------------------
-- Surveys without Records
------------------------------------------------------------

namespace Componentry

namespace Survey

variable {store : Store} {naming : Naming}
variable {names : List String} {removed : String → Bool}

/- A record of a class that is removed is not in the snapshot. -/
theorem not_mem_recordsOf_of_spares
    {group : RecordClass}
    {record : Descriptor}
    (hStore : store.IsOrderly)
    (hSpares :
      Spares naming names removed
        (snapshot store naming names))
    (hRecord : record ∈ store.recordsOf naming names group)
    (hRemoved : (!removed record.name) = false) :
    record.name ∉
      (snapshot store naming names).recordsOf group := by
  rcases (Store.mem_recordsOf_iff hStore).mp hRecord with
    ⟨hName, hSelected, -⟩
  exact
    hSpares record.name hName (by simpa using hRemoved) group
      hSelected

/- Projects may be left out before they are read or after. -/
theorem projectsOf_filter
    (records : List Descriptor) :
    projectsOf (records.filter (!removed ·.name)) =
      (projectsOf records).filter (!removed ·.record) := by
  unfold projectsOf
  rw [List.filterMap_filter, List.filter_filterMap]
  apply List.filterMap_congr
  intro record _
  cases hRead : readProject record with
  | error diagnostic => simp [Except.toOption]
  | ok project =>
      have hRecord : project.record = record.name :=
        record_of_readProject hRead
      cases hRemoved : removed record.name with
      | true =>
          simp [Except.toOption, Option.filter, hRecord,
            hRemoved]
      | false =>
          simp [Except.toOption, Option.filter, hRecord,
            hRemoved]

/- The first record of every project is kept. -/
theorem projects_without
    (hStore : store.IsOrderly)
    (hSpares :
      Spares naming names removed
        (snapshot store naming names)) :
    projects (store.without removed) naming
        (names.filter (!removed ·)) =
      projects store naming names := by
  apply Std.ExtTreeMap.ext_getElem?
  intro key
  unfold projects
  rw [Store.recordsOf_without hStore, projectsOf_filter,
    ByName.getElem?_ofFirst, ByName.getElem?_ofFirst]
  apply find?_filter_of_kept
  intro project hFound
  rcases List.mem_filterMap.mp
      (List.mem_of_find?_eq_some hFound) with
    ⟨record, hRecord, hRead⟩
  have hName : project.record = record.name :=
    record_of_readProject (toOption_eq_some_iff.mp hRead)
  have hMember :
      record.name ∈
        (snapshot store naming names).recordsOf
          .project := by
    have hWinner :
        (projects store naming names)[key]? =
          some project := by
      rw [projects, ByName.getElem?_ofFirst]
      exact hFound
    rw [← hName]
    exact
      List.mem_map_of_mem
        (Table.mem_values_iff.mpr ⟨key, hWinner⟩)
  by_contra hRemoved
  rw [hName, Bool.not_eq_true] at hRemoved
  exact
    not_mem_recordsOf_of_spares hStore hSpares hRecord
      hRemoved hMember

/- The accepted records of a class are kept. -/
theorem filterMap_recordsOf_without
    {α : Type}
    {group : RecordClass}
    {accept : Descriptor → Option α}
    (record : α → String)
    (hStore : store.IsOrderly)
    (hSpares :
      Spares naming names removed
        (snapshot store naming names))
    (hRecord :
      ∀ {found entity},
        accept found = some entity →
          record entity = found.name)
    (hPerm :
      ((snapshot store naming names).recordsOf group).Perm
        (((store.recordsOf naming names group).filterMap
          accept).map record)) :
    ((store.without removed).recordsOf naming
          (names.filter (!removed ·)) group).filterMap
        accept =
      (store.recordsOf naming names group).filterMap
        accept := by
  rw [Store.recordsOf_without hStore]
  apply filterMap_filter_of_none
  intro found hFound hRemoved
  cases hEntity : accept found with
  | none => rfl
  | some entity =>
      have hMember :
          found.name ∈
            (snapshot store naming names).recordsOf
              group := by
        rw [hPerm.mem_iff, ← hRecord hEntity]
        exact
          List.mem_map_of_mem
            (List.mem_filterMap.mpr ⟨found, hFound, hEntity⟩)
      exact
        absurd hMember
          (not_mem_recordsOf_of_spares hStore hSpares hFound
            hRemoved)

/- No entity comes from the records that are removed. -/
theorem snapshot_without
    (hStore : store.IsOrderly)
    (hNames : store.recordNames = .ok names)
    (hSpares :
      Spares naming names removed
        (snapshot store naming names)) :
    snapshot (store.without removed) naming
        (names.filter (!removed ·)) =
      snapshot store naming names := by
  have hProjects := projects_without hStore hSpares
  have hLibraries :
      taskLibraries (store.without removed) naming
          (names.filter (!removed ·)) =
        taskLibraries store naming names := by
    unfold taskLibraries
    rw [hProjects]
    exact
      filterMap_recordsOf_without TaskLibrary.record hStore
        hSpares record_of_taskLibraryOf?
        ((values_taskLibraries_perm hStore hNames).map
          TaskLibrary.record)
  have hDeployments :
      deployments (store.without removed) naming
          (names.filter (!removed ·)) =
        deployments store naming names := by
    unfold deployments
    rw [hProjects]
    exact
      filterMap_recordsOf_without Deployment.record hStore
        hSpares record_of_deploymentOf?
        ((values_deployments_perm hStore hNames).map
          Deployment.record)
  have hTypekits :
      typekits (store.without removed) naming
          (names.filter (!removed ·)) =
        typekits store naming names := by
    have hValues :
        (snapshot store naming names).typekits.values.Perm
          ((typekits store naming names).map (·.1)) :=
      values_typekits_perm hStore hNames
    have hPerm := hValues.map Typekit.record
    rw [List.map_map] at hPerm
    unfold typekits
    rw [hProjects]
    exact
      filterMap_recordsOf_without (·.1.record) hStore hSpares
        record_of_listedTypekitOf? hPerm
  simp only [snapshot, hProjects, hLibraries, hDeployments,
    hTypekits]

end Survey

end Componentry

------------------------------------------------------------
-- Scans without Records
------------------------------------------------------------

namespace Componentry

variable {store : Store} {naming : Naming}
variable {names : List String} {removed : String → Bool}

/- Without records a scan asks less, with the same answers. -/
theorem Survey.mem_questions_of_without
    {question : Question}
    (hStore : store.IsOrderly)
    (hSpares :
      Spares naming names removed
        (snapshot store naming names))
    (hQuestion :
      question ∈
        questions (store.without removed) naming
          (names.filter (!removed ·))) :
    question ∈ questions store naming names ∧
      (store.without removed).fault? question =
        store.fault? question := by
  simp only [questions, List.mem_append,
    List.mem_flatMap] at hQuestion ⊢
  rcases hQuestion with ⟨group, hGroup, hLoad⟩ | hList
  · rcases List.mem_map.mp hLoad with ⟨name, hName, rfl⟩
    simp only [List.mem_filter, Bool.not_eq_true',
      and_assoc] at hName
    rcases hName with ⟨hName, hKept, hSelected⟩
    constructor
    · have hMember :
          Question.load name ∈ loads naming names group :=
        List.mem_map_of_mem
          (List.mem_filter.mpr ⟨hName, hSelected⟩)
      exact Or.inl ⟨group, hGroup, hMember⟩
    · rw [Store.fault?, Store.load_without hKept]
      rfl
  · rcases List.mem_map.mp hList with ⟨typekit, hTypekit, rfl⟩
    refine ⟨Or.inr (List.mem_map_of_mem ?_), rfl⟩
    rw [acceptedTypekits, projects_without hStore hSpares,
      Store.recordsOf_without hStore] at hTypekit
    rcases List.mem_filterMap.mp hTypekit with
      ⟨record, hRecord, hAccepted⟩
    exact
      List.mem_filterMap.mpr
        ⟨record, (List.mem_filter.mp hRecord).1, hAccepted⟩

/- A scan succeeds without the records that it does not use. -/
theorem exists_scan_without
    {draft : Draft}
    (hStore : store.IsOrderly)
    (hNames : store.recordNames = .ok names)
    (hScan : scan store naming = .ok draft)
    (hSpares : Spares naming names removed draft.snapshot) :
    ∃ kept,
      scan (store.without removed) naming = .ok kept ∧
        kept.snapshot = draft.snapshot := by
  rw [scan_snapshot hNames hScan] at hSpares
  have hKeptNames :
      (store.without removed).recordNames =
        .ok (names.filter (!removed ·)) :=
    Store.recordNames_without hNames
  have hNone :
      faultOf (scan (store.without removed) naming) =
        none := by
    rw [faultOf_scan hKeptNames, List.findSome?_eq_none_iff]
    intro question hQuestion
    rcases Survey.mem_questions_of_without hStore hSpares
        hQuestion with ⟨hAsked, hSame⟩
    have hAll :
        (Survey.questions store naming names).findSome?
            store.fault? = none := by
      rw [← faultOf_scan hNames, hScan, faultOf_ok]
    rw [hSame]
    exact List.findSome?_eq_none_iff.mp hAll question hAsked
  rcases faultOf_eq_none_iff.mp hNone with ⟨kept, hKept⟩
  refine ⟨kept, hKept, ?_⟩
  rw [scan_snapshot hKeptNames hKept,
    scan_snapshot hNames hScan]
  exact Survey.snapshot_without hStore hNames hSpares

end Componentry

------------------------------------------------------------
-- Dropped Records
------------------------------------------------------------

namespace Componentry

/-
  A scan to a draft drops a record of a class: while it scans
  the class it notes that it rejects the record, or that the
  record repeats a project.
-/
def Drops
    (store : Store)
    (naming : Naming)
    (draft : Draft)
    (group : RecordClass)
    (record : String) : Prop :=
  ∃ before after noted,
    ScansClass store naming draft group before after ∧
      after.diagnostics = before.diagnostics ++ noted ∧
      ∃ diagnostic ∈ noted,
        diagnostic.record = record ∧
          (diagnostic.kind.rejectsRecord = true ∨
            diagnostic.kind = .duplicateProject)

variable {store : Store} {naming : Naming}
variable {names : List String} {draft : Draft}
variable {group : RecordClass}

/- A scan scans each class between two drafts only. -/
theorem ScansClass.unique
    {before after otherBefore otherAfter : Draft}
    (hClass :
      ScansClass store naming draft group before after)
    (hOther :
      ScansClass store naming draft group otherBefore
        otherAfter) :
    before = otherBefore ∧ after = otherAfter := by
  rcases hClass with
    ⟨names, earlier, later, hNames, hAll, hBefore, hAfter, -⟩
  rcases hOther with
    ⟨otherNames, otherEarlier, otherLater, hOtherNames,
      hOtherAll, hOtherBefore, hOtherAfter, -⟩
  have hSameNames : names = otherNames := by
    rw [hNames] at hOtherNames
    exact Except.ok.inj hOtherNames
  have hSameEarlier : earlier = otherEarlier := by
    have hNodup : (group :: (earlier ++ later)).Nodup := by
      rw [← List.nodup_middle, ← hAll]
      decide
    have hNew : group ∉ earlier ++ later :=
      (List.nodup_cons.mp hNodup).1
    rw [List.mem_append, not_or] at hNew
    rw [hAll] at hOtherAll
    exact
      ((List.append_cons_inj_of_notMem hNew.1 hNew.2).mp
        hOtherAll).1
  subst hSameNames hSameEarlier
  rw [hBefore] at hOtherBefore
  cases hOtherBefore
  rw [hAfter] at hOtherAfter
  cases hOtherAfter
  exact ⟨rfl, rfl⟩

/- What is counted is there. -/
theorem rejections_pos_iff
    {record : String}
    {noted : List Diagnostic} :
    0 < rejections (· == record) noted ↔
      ∃ diagnostic ∈ noted,
        diagnostic.record = record ∧
          diagnostic.kind.rejectsRecord = true := by
  simp [rejections, List.countP_pos_iff, and_comm]

theorem repetitions_pos_iff
    {record : String}
    {noted : List Diagnostic} :
    0 < repetitions (· == record) noted ↔
      ∃ diagnostic ∈ noted,
        diagnostic.record = record ∧
          diagnostic.kind = .duplicateProject := by
  simp [repetitions, List.countP_pos_iff, and_comm]

/- The dropped records are those without an entity. -/
theorem drops_iff
    {record : String}
    (hStore : store.IsOrderly)
    (hNames : store.recordNames = .ok names)
    (hScan : scan store naming = .ok draft)
    (hRecord : record ∈ names)
    (hSelected : naming.selects group record = true) :
    Drops store naming draft group record ↔
      record ∉ draft.snapshot.recordsOf group := by
  rcases scan_phases hNames hScan with ⟨_, _, _, hPhases⟩
  rcases hPhases.class_accounts hStore hNames group with
    ⟨before, after, hClass, noted, hNoted, hAccounts⟩
  have hOutcome :
      Outcome record (draft.snapshot.recordsOf group)
        noted := by
    refine hAccounts.outcome ?_
    exact
      List.count_eq_one_of_mem
        ((hStore.nodup_names hNames).filter _)
        (List.mem_filter.mpr ⟨hRecord, hSelected⟩)
  have hDrops :
      Drops store naming draft group record ↔
        0 < rejections (· == record) noted ∨
          0 < repetitions (· == record) noted := by
    rw [rejections_pos_iff, repetitions_pos_iff]
    constructor
    · rintro ⟨_, _, others, hOther, hOthers, diagnostic,
        hMember, hSame, hKind⟩
      rcases hClass.unique hOther with ⟨rfl, rfl⟩
      rw [hNoted, List.append_cancel_left_eq] at hOthers
      subst hOthers
      rcases hKind with hKind | hKind
      · exact Or.inl ⟨diagnostic, hMember, hSame, hKind⟩
      · exact Or.inr ⟨diagnostic, hMember, hSame, hKind⟩
    · rintro (⟨diagnostic, hMember, hSame, hKind⟩ |
        ⟨diagnostic, hMember, hSame, hKind⟩)
      · exact
          ⟨before, after, noted, hClass, hNoted, diagnostic,
            hMember, hSame, Or.inl hKind⟩
      · exact
          ⟨before, after, noted, hClass, hNoted, diagnostic,
            hMember, hSame, Or.inr hKind⟩
  rw [hDrops, ← List.count_eq_zero]
  cases hOutcome with
  | registered hEntities hRejections hRepetitions => omega
  | rejected hEntities hRejections hRepetitions => omega
  | repeated hEntities hRejections hRepetitions => omega

/-
  Two stores hold the same components to a registry: they are
  scanned to the same snapshot, and after a rebuild over them
  reports and answers are the same.
-/
structure SameComponents
    (store other : Store)
    (registry : Registry)
    (draft : Draft) : Prop where
  scanned :
    ∃ found,
      scan other registry.naming = .ok found ∧
        found.snapshot = draft.snapshot
  reported :
    ∃ report found,
      (registry.rebuild store).1 = .ok report ∧
        (registry.rebuild other).1 = .ok found ∧
        found.fingerprint = report.fingerprint
  published :
    (registry.rebuild other).2 = (registry.rebuild store).2
  answered :
    ∀ query : Query,
      query.answer (registry.rebuild other).2 other =
        query.answer (registry.rebuild store).2 store

/- Records that a scan drops do not interfere. -/
theorem scan_without_dropped
    {store : Store}
    (registry : Registry)
    {names : List String}
    {draft : Draft}
    {removed : String → Bool}
    (hStore : store.IsOrderly)
    (hNames : store.recordNames = .ok names)
    (hScan : scan store registry.naming = .ok draft)
    (hDropped :
      ∀ record ∈ names,
        removed record = true →
          ∀ group,
            registry.naming.selects group record = true →
              Drops store registry.naming draft group
                record) :
    SameComponents store (store.without removed) registry
      draft := by
  have hSpares :
      Spares registry.naming names removed
        draft.snapshot := by
    intro record hRecord hRemoved group hSelected
    exact
      (drops_iff hStore hNames hScan hRecord hSelected).mp
        (hDropped record hRecord hRemoved group hSelected)
  rcases exists_scan_without hStore hNames hScan hSpares with
    ⟨found, hFound, hSame⟩
  have hPublished :
      (registry.rebuild (store.without removed)).2 =
        (registry.rebuild store).2 := by
    simp only [Registry.rebuild, hScan, hFound, hSame]
  refine
    { scanned := ⟨found, hFound, hSame⟩
      reported := ?_
      published := hPublished
      answered := ?_ }
  · refine
      ⟨.ofDraft draft, .ofDraft found, ?_, ?_, ?_⟩
    · simp only [Registry.rebuild, hScan]
    · simp only [Registry.rebuild, hFound]
    · simp only [RebuildReport.ofDraft, hSame]
  · intro query
    apply query.answer_congr
    · rw [hPublished]
    · intro path _
      rfl

/- The records of the small installation that are dropped. -/
def MemoryStore.sampleFlaws : List String :=
  ["orogen-project-copy", "stray-tasks-gnulinux",
   "lone-typekit-gnulinux", "void-typekit-gnulinux"]

theorem MemoryStore.sample_spares :
    ∃ names draft,
      sample.view.recordNames = .ok names ∧
        scan sample.view .standard = .ok draft ∧
        (∀ flaw ∈ sampleFlaws, flaw ∈ names) ∧
        Spares .standard names (sampleFlaws.contains ·)
          draft.snapshot := by
  have hFlaws :
      (scan sample.view .standard).toOption.any
          (fun draft =>
            sampleFlaws.all fun flaw =>
              sample.records.keys.contains flaw &&
                RecordClass.all.all fun group =>
                  !Naming.standard.selects group flaw ||
                    !(draft.snapshot.recordsOf
                      group).contains flaw) =
        true := by
    decide +kernel
  rcases (Option.any_eq_true _ _).mp hFlaws with
    ⟨draft, hScan, hAll⟩
  refine
    ⟨sample.records.keys, draft, rfl,
      toOption_eq_some_iff.mp hScan, ?_, ?_⟩
  · intro flaw hFlaw
    have hListed := List.all_eq_true.mp hAll flaw hFlaw
    rw [Bool.and_eq_true] at hListed
    exact List.contains_iff_mem.mp hListed.1
  · intro record _ hRemoved group hSelected hMember
    have hSpared :=
      List.all_eq_true.mp hAll record
        (List.contains_iff_mem.mp hRemoved)
    rw [Bool.and_eq_true, List.all_eq_true] at hSpared
    have hGroup := hSpared.2 group group.mem_all
    rw [hSelected, List.contains_iff_mem.mpr hMember]
      at hGroup
    cases hGroup

theorem sample_without_dropped :
    ∃ names draft,
      MemoryStore.sample.view.IsOrderly ∧
        MemoryStore.sample.view.recordNames = .ok names ∧
        scan MemoryStore.sample.view .standard =
          .ok draft ∧
        (∀ flaw ∈ MemoryStore.sampleFlaws, flaw ∈ names) ∧
        SameComponents MemoryStore.sample.view
          (MemoryStore.sample.view.without
            (MemoryStore.sampleFlaws.contains ·))
          ⟨.standard, none⟩ draft := by
  rcases MemoryStore.sample_spares with
    ⟨names, draft, hNames, hScan, hListed, hSpares⟩
  refine
    ⟨names, draft, MemoryStore.sample_isOrderly, hNames,
      hScan, hListed,
      scan_without_dropped ⟨.standard, none⟩
        MemoryStore.sample_isOrderly hNames hScan ?_⟩
  intro record hRecord hRemoved group hSelected
  exact
    (drops_iff MemoryStore.sample_isOrderly hNames hScan
        hRecord hSelected).mpr
      (hSpares record hRecord hRemoved group hSelected)

end Componentry
