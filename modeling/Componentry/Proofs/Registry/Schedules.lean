import Componentry.Proofs.RecordClasses
import Componentry.Proofs.Registry.Outcomes

/-
  What a scan does, and how often.

  A scan takes up the classes in their order: it looks up the
  records of the class and registers those that it has got.  A
  journaled scan is the same scan that also notes all it does.
  What it notes is the beginning of a schedule that is known
  beforehand, and the whole schedule if the scan succeeds.  So
  a record that has two classes is taken up once in each, and
  every other one once in its class.

  Main declarations:
    * `Deed`, `schedule`
    * `Journaled.scan`, `Journaled.Does`
    * `Journaled.scan_does`
    * `TakesUpOnce`, `ScansOnce`
    * `Naming.SharesClasses`, `Naming.sharesClasses`
-/

------------------------------------------------------------
-- Schedules
------------------------------------------------------------

namespace Componentry

/- What a scan does with a record of a class. -/
inductive Deed where
  -- The store is asked for a name.
  | lookUp (group : RecordClass) (name : String)
  -- A record that was found is registered or rejected.
  | register (group : RecordClass) (record : Descriptor)

namespace Deed

/- The class in which a name is looked up. -/
def lookedUp?
    (name : String) :
    Deed → Option RecordClass
  | lookUp group other =>
      if other = name then some group else none
  | register _ _ => none

/- The record that is registered in a class. -/
def registered?
    (group : RecordClass) :
    Deed → Option Descriptor
  | lookUp _ _ => none
  | register other record =>
      if other = group then some record else none

end Deed

/- What is to do for a class. -/
def classSchedule
    (store : Store)
    (naming : Naming)
    (names : List String)
    (group : RecordClass) :
    List Deed :=
  (names.filter (naming.selects group)).map (.lookUp group)
    ++ (store.recordsOf naming names group).map
        (.register group)

/- What is to do for a store, if it lists its records. -/
def schedule
    (store : Store)
    (naming : Naming) :
    List Deed :=
  match store.recordNames with
  | .ok names =>
      RecordClass.all.flatMap (classSchedule store naming names)
  | .error _ => []

end Componentry

------------------------------------------------------------
-- Journaled Scans
------------------------------------------------------------

namespace Componentry

/- Answers of a store, and what has been done so far. -/
abbrev Journaled := ExceptT StoreError (StateM (List Deed))

namespace Journaled

variable (store : Store) (naming : Naming)

/- Note what is done next. -/
def note (deed : Deed) : Journaled Unit :=
  ExceptT.mk fun done => (.ok (), done ++ [deed])

/- Take an answer as it is. -/
def take
    {α : Type}
    (answer : Except StoreError α) :
    Journaled α :=
  ExceptT.mk fun done => (answer, done)

/- Load records of a class by name. -/
def loadAll
    (group : RecordClass) :
    List String → Journaled Loaded
  | [] => pure ⟨[], []⟩
  | name :: rest => do
      note (.lookUp group name)
      match store.load name with
      | .ok record => do
          let loaded ← loadAll group rest
          pure { loaded with records := record :: loaded.records }
      | .error error =>
          if error.isParse then do
            let loaded ← loadAll group rest
            pure
              { loaded with
                diagnostics :=
                  .unreadable name error :: loaded.diagnostics }
          else throw error

/- Register a record of a class. -/
def registerRecord
    (group : RecordClass)
    (draft : Draft)
    (record : Descriptor) :
    Journaled Draft := do
  note (.register group record)
  take
    (Componentry.registerRecord store naming group draft record)

/- Scan the records of a class. -/
def scanClass
    (names : List String)
    (draft : Draft)
    (group : RecordClass) :
    Journaled Draft := do
  let loaded ←
    loadAll store group (names.filter (naming.selects group))
  loaded.records.foldlM (registerRecord store naming group)
    (draft.diagnoseAll loaded.diagnostics)

/- The snapshot of a store, with all diagnostics. -/
def scan : Journaled Draft := do
  let names ← take store.recordNames
  RecordClass.all.foldlM (scanClass store naming names)
    (.empty naming.target)

end Journaled

end Componentry

------------------------------------------------------------
-- What Is Noted
------------------------------------------------------------

namespace Componentry

namespace Journaled

variable {α β σ : Type}
variable {deeds more : List Deed}

/-
  A run gets an answer, and what it notes is a beginning of
  some deeds; these are all done if the answer is no error.
-/
def Does
    (run : Journaled α)
    (answer : Except StoreError α)
    (deeds : List Deed) : Prop :=
  ∀ done, ∃ noted,
    run.run.run done = (answer, done ++ noted) ∧
      noted <+: deeds ∧
      ∀ value, answer = .ok value → noted = deeds

namespace Does

theorem pure (value : α) :
    Does (Pure.pure value) (.ok value) [] := by
  intro done
  refine ⟨[], ?_, List.nil_prefix, fun _ _ => rfl⟩
  rw [List.append_nil]
  rfl

/- A run that fails has not done what was to come. -/
theorem throw
    (error : StoreError)
    (deeds : List Deed) :
    Does (throw error : Journaled α) (.error error) deeds := by
  intro done
  refine ⟨[], ?_, List.nil_prefix, fun _ hValue => ?_⟩
  · rw [List.append_nil]
    rfl
  · cases hValue

theorem note (deed : Deed) :
    Does (Journaled.note deed) (.ok ()) [deed] :=
  fun _ => ⟨[deed], rfl, List.prefix_rfl, fun _ _ => rfl⟩

theorem take (answer : Except StoreError α) :
    Does (Journaled.take answer) answer [] := by
  intro done
  refine ⟨[], ?_, List.nil_prefix, fun _ _ => rfl⟩
  rw [List.append_nil]
  rfl

/- Runs one after the other do what both do. -/
theorem bind
    {run : Journaled α}
    {next : α → Journaled β}
    {answer : Except StoreError α}
    {after : α → Except StoreError β}
    (hRun : Does run answer deeds)
    (hNext :
      ∀ value,
        answer = .ok value →
          Does (next value) (after value) more) :
    Does (run >>= next) (answer >>= after) (deeds ++ more) := by
  intro done
  rcases hRun done with ⟨noted, hNoted, hPrefix, hAll⟩
  rw [ExceptT.run_bind, StateT.run_bind, hNoted]
  cases answer with
  | error error =>
      refine ⟨noted, rfl, ?_, fun _ hValue => ?_⟩
      · exact hPrefix.trans (List.prefix_append _ _)
      · cases hValue
  | ok value =>
      have hFirst := hAll value rfl
      subst hFirst
      rcases hNext value rfl (done ++ noted) with
        ⟨others, hOthers, hBehind, hRest⟩
      refine ⟨noted ++ others, ?_, ?_, fun result hResult => ?_⟩
      · rw [← List.append_assoc]
        exact hOthers
      · exact (List.prefix_append_right_inj _).mpr hBehind
      · rw [hRest result hResult]

theorem foldlM
    {step : σ → α → Journaled σ}
    {pureStep : σ → α → Except StoreError σ}
    {deedsOf : α → List Deed}
    (hStep :
      ∀ state item,
        Does (step state item) (pureStep state item)
          (deedsOf item))
    (start : σ)
    (items : List α) :
    Does (items.foldlM step start)
      (items.foldlM pureStep start)
      (items.flatMap deedsOf) := by
  induction items generalizing start with
  | nil => exact pure start
  | cons item items ih =>
      rw [List.foldlM_cons, List.foldlM_cons,
        List.flatMap_cons]
      exact (hStep start item).bind fun next _ => ih next

end Does

end Journaled

end Componentry

------------------------------------------------------------
-- Scans Follow the Schedule
------------------------------------------------------------

namespace Componentry

namespace Journaled

variable (store : Store) (naming : Naming)

theorem loadAll_does
    (group : RecordClass)
    (names : List String) :
    Does (loadAll store group names)
      (Componentry.loadAll store names)
      (names.map (.lookUp group)) := by
  induction names with
  | nil => exact .pure _
  | cons name names ih =>
      rw [loadAll, List.map_cons]
      change
        Does _
          (Except.ok () >>= fun _ =>
            Componentry.loadAll store (name :: names))
          ([.lookUp group name] ++ names.map (.lookUp group))
      apply (Does.note (.lookUp group name)).bind
      intro _ _
      rw [Componentry.loadAll]
      cases store.load name with
      | ok record =>
          have hRest := ih.bind fun loaded _ =>
            Does.pure
              { loaded with records := record :: loaded.records }
          rwa [List.append_nil] at hRest
      | error error =>
          cases hParse : error.isParse with
          | false =>
              simp only [hParse, Bool.false_eq_true, if_false]
              exact .throw error _
          | true =>
              simp only [hParse, if_true]
              have hRest := ih.bind fun loaded _ =>
                Does.pure
                  { loaded with
                    diagnostics :=
                      .unreadable name error
                        :: loaded.diagnostics }
              rwa [List.append_nil] at hRest

theorem registerRecord_does
    (group : RecordClass)
    (draft : Draft)
    (record : Descriptor) :
    Does (registerRecord store naming group draft record)
      (Componentry.registerRecord store naming group draft
        record)
      [.register group record] :=
  (Does.note (.register group record)).bind fun _ _ =>
    Does.take
      (Componentry.registerRecord store naming group draft
        record)

theorem scanClass_does
    (names : List String)
    (draft : Draft)
    (group : RecordClass) :
    Does (scanClass store naming names draft group)
      (Componentry.scanClass store naming names draft group)
      (classSchedule store naming names group) := by
  refine (loadAll_does store group _).bind ?_
  intro loaded hLoad
  have hRegister :=
    Does.foldlM (registerRecord_does store naming group)
      (draft.diagnoseAll loaded.diagnostics) loaded.records
  rw [loadAll_records hLoad] at hRegister ⊢
  rwa [← List.map_eq_flatMap] at hRegister

/-
  A scan that is journaled gives the same answer, and notes
  what is scheduled as far as it comes.
-/
theorem scan_does :
    Does (scan store naming) (Componentry.scan store naming)
      (schedule store naming) := by
  rw [← List.nil_append (schedule store naming)]
  apply (Does.take store.recordNames).bind
  intro names hNames
  rw [schedule, hNames]
  exact Does.foldlM (scanClass_does store naming names) _ _

end Journaled

end Componentry

------------------------------------------------------------
-- How Often Records Are Taken Up
------------------------------------------------------------

namespace Componentry

variable {store : Store} {naming : Naming}
variable {names : List String} {record : String}

namespace Deed

/- A name is looked up as often as it is listed. -/
theorem filterMap_lookedUp?
    (names : List String)
    (group : RecordClass) :
    (names.map (.lookUp group)).filterMap
        (lookedUp? record) =
      List.replicate (names.count record) group := by
  induction names with
  | nil => rfl
  | cons name names ih =>
      rw [List.map_cons, List.filterMap_cons, ih, lookedUp?,
        List.count_cons]
      by_cases hSame : name = record
      · rw [if_pos hSame, if_pos (beq_iff_eq.mpr hSame),
          List.replicate_succ]
      · rw [if_neg hSame, if_neg (by simpa using hSame),
          Nat.add_zero]

end Deed

/- A name that is listed once is selected once, or not. -/
theorem count_selected
    (hOnce : names.Nodup)
    (hRecord : record ∈ names)
    (group : RecordClass) :
    (names.filter (naming.selects group)).count record =
      if naming.selects group record then 1 else 0 := by
  cases hSelected : naming.selects group record with
  | true =>
      rw [List.count_filter hSelected]
      exact List.count_eq_one_of_mem hOnce hRecord
  | false =>
      apply List.count_eq_zero.mpr
      intro hFound
      rw [(List.mem_filter.mp hFound).2] at hSelected
      cases hSelected

/-
  Of what is done, the look-ups of a record are one for each
  of its classes, and the registrations in a class are one for
  each record that was found there.
-/
structure TakesUpOnce
    (store : Store)
    (naming : Naming)
    (names : List String)
    (deeds : List Deed) : Prop where
  lookedUp :
    ∀ record ∈ names,
      deeds.filterMap (Deed.lookedUp? record) =
        naming.classesOf record
  registered :
    ∀ group,
      deeds.filterMap (Deed.registered? group) =
        store.recordsOf naming names group

theorem classSchedule_lookedUp?
    (hOnce : names.Nodup)
    (hRecord : record ∈ names)
    (group : RecordClass) :
    (classSchedule store naming names group).filterMap
        (Deed.lookedUp? record) =
      if naming.selects group record then [group] else [] := by
  have hRegistered (records : List Descriptor) :
      (records.map (Deed.register group)).filterMap
          (Deed.lookedUp? record) =
        [] := by
    rw [List.filterMap_map, List.filterMap_eq_nil_iff]
    exact fun _ _ => rfl
  rw [classSchedule, List.filterMap_append, hRegistered,
    List.append_nil, Deed.filterMap_lookedUp?,
    count_selected hOnce hRecord]
  split <;> rfl

theorem classSchedule_registered?
    (group other : RecordClass) :
    (classSchedule store naming names other).filterMap
        (Deed.registered? group) =
      if other = group then store.recordsOf naming names group
      else [] := by
  have hLookedUp (found : List String) :
      (found.map (Deed.lookUp other)).filterMap
          (Deed.registered? group) =
        [] := by
    rw [List.filterMap_map, List.filterMap_eq_nil_iff]
    exact fun _ _ => rfl
  rw [classSchedule, List.filterMap_append, hLookedUp,
    List.nil_append, List.filterMap_map]
  split
  · next hSame =>
      subst hSame
      have hAll :
          Deed.registered? other ∘ Deed.register other =
            some := by
        funext record
        exact if_pos rfl
      rw [hAll, List.filterMap_some]
  · next hOther =>
      rw [List.filterMap_eq_nil_iff]
      exact fun _ _ => if_neg hOther

/- The schedule of a listing without repetitions does so. -/
theorem schedule_takesUpOnce
    (hNames : store.recordNames = .ok names)
    (hOnce : names.Nodup) :
    TakesUpOnce store naming names (schedule store naming) := by
  have hSchedule :
      schedule store naming =
        RecordClass.all.flatMap
          (classSchedule store naming names) := by
    rw [schedule, hNames]
  rw [hSchedule]
  constructor
  case lookedUp =>
    intro record hRecord
    rw [List.filterMap_flatMap]
    simp only [classSchedule_lookedUp? hOnce hRecord]
    rw [Naming.classesOf, ← List.filterMap_eq_filter,
      List.filterMap_eq_flatMap_toList]
    congr 1
    funext group
    rw [Option.guard]
    split <;> rfl
  case registered =>
    intro group
    rw [List.filterMap_flatMap]
    simp only [classSchedule_registered?]
    cases group <;> simp [RecordClass.all]

/- A listed record is selected by as many classes as it has. -/
theorem count_selections
    (hOnce : names.Nodup)
    (hRecord : record ∈ names) :
    (RecordClass.all.flatMap fun group =>
        names.filter (naming.selects group)).count record =
      (naming.classesOf record).length := by
  rw [List.count_flatMap, Naming.classesOf,
    ← List.countP_eq_length_filter]
  simp only [RecordClass.all, List.map_cons, List.map_nil,
    Function.comp_apply, count_selected hOnce hRecord,
    List.sum_cons, List.sum_nil, List.countP_cons,
    List.countP_nil]
  omega

end Componentry

------------------------------------------------------------
-- Records of Two Classes
------------------------------------------------------------

namespace Componentry

/-
  A scan takes up every record once in each of its classes.
  In an orderly store a record therefore gives as many
  entities, rejections and repetitions as it has classes.
-/
structure ScansOnce
    (store : Store)
    (naming : Naming)
    (names : List String)
    (draft : Draft) : Prop where
  takenUp :
    ∃ deeds,
      (Journaled.scan store naming).run.run [] =
          (.ok draft, deeds) ∧
        TakesUpOnce store naming names deeds
  settled :
    store.IsOrderly →
      ∀ record ∈ names,
        (RecordClass.all.flatMap
              draft.snapshot.recordsOf).count record
            + rejections (· == record) draft.diagnostics
            + repetitions (· == record) draft.diagnostics =
          (naming.classesOf record).length

theorem scan_scansOnce
    {store : Store}
    {naming : Naming}
    {names : List String}
    {draft : Draft}
    (hNames : store.recordNames = .ok names)
    (hOnce : names.Nodup)
    (hScan : scan store naming = .ok draft) :
    ScansOnce store naming names draft := by
  constructor
  case takenUp =>
    rcases Journaled.scan_does store naming [] with
      ⟨noted, hRun, -, hAll⟩
    rw [hScan, List.nil_append] at hRun
    refine ⟨noted, hRun, ?_⟩
    rw [hAll draft hScan]
    exact schedule_takesUpOnce hNames hOnce
  case settled =>
    intro hStore record hRecord
    rcases scan_phases hNames hScan with ⟨_, _, _, hPhases⟩
    have hAccounts :=
      hPhases.accounts hStore hNames (· == record)
    rw [← count_selections hOnce hRecord]
    exact hAccounts

/-
  Which classes can share a record.  A deployment's record has
  no other class, and none is one of a task library and of a
  typekit.  Records of either are also records of projects
  exactly if they start like these.  A scan does what is
  scheduled as far as it comes, and one that succeeds takes
  every record up once in each of its classes.
-/
structure Naming.SharesClasses (naming : Naming) : Prop where
  possible :
    ∀ record : String,
      naming.classesOf record ∈ RecordClass.combinations
  shared :
    ∀ group : RecordClass,
      group.IsShared →
        ∀ rest : String,
          naming.classesOf
              (naming.recordName group
                (naming.space ++ "-project-" ++ rest)) =
            [.project, group]
  exactly :
    ∀ group : RecordClass,
      group.IsShared →
        ∀ entity : String,
          naming.classesOf (naming.recordName group entity) =
              [.project, group] ↔
            naming.lead .project <+: entity.toList ++ ['-']
  journaled :
    ∀ store : Store, ∃ noted,
      (Journaled.scan store naming).run.run [] =
          (scan store naming, noted) ∧
        noted <+: schedule store naming
  scanned :
    ∀ (store : Store) (names : List String) (draft : Draft),
      store.recordNames = .ok names →
        names.Nodup →
          scan store naming = .ok draft →
            ScansOnce store naming names draft

theorem Naming.sharesClasses
    (naming : Naming) :
    naming.SharesClasses := by
  refine
    { possible := naming.classesOf_mem_combinations
      shared := ?_
      exactly := ?_
      journaled := ?_
      scanned := fun _ _ _ => scan_scansOnce }
  · intro group hShared rest
    apply classesOf_recordName hShared
    rw [String.toList_append, String.toList_append,
      List.append_assoc]
    exact List.prefix_append _ _
  · intro group hShared entity
    constructor
    · intro hClasses
      rw [← selects_project_recordName_iff hShared,
        ← mem_classesOf, hClasses]
      exact List.mem_cons_self
    · exact classesOf_recordName hShared
  · intro store
    rcases Journaled.scan_does store naming [] with
      ⟨noted, hRun, hPrefix, -⟩
    exact ⟨noted, hRun, hPrefix⟩

/- A project that is a task library as well, and a deployment. -/
def MemoryStore.sampleShared : MemoryStore :=
  (empty.putRecord
      (.ofFields "orogen-project-arm-tasks-gnulinux"
        [("project_name", "arm"), ("deffile", "/arm.orogen"),
         ("task_models", "arm::Task")])).putRecord
    (.ofFields "orogen-rover"
      [("project_name", "arm"), ("deployed_tasks", "drive")])

theorem MemoryStore.sampleShared_sharesClasses :
    let names :=
      ["orogen-project-arm-tasks-gnulinux", "orogen-rover"]
    names.map Naming.standard.classesOf =
        [[.project, .taskLibrary], [.deployment]] ∧
      ∃ draft,
        scan sampleShared.view .standard = .ok draft ∧
          ScansOnce sampleShared.view .standard names draft := by
  have hNames :
      sampleShared.view.recordNames =
        .ok
          ["orogen-project-arm-tasks-gnulinux",
           "orogen-rover"] := by
    decide +kernel
  have hScan :
      (scan sampleShared.view .standard).toOption.isSome =
        true := by
    decide +kernel
  rcases Option.isSome_iff_exists.mp hScan with
    ⟨draft, hDraft⟩
  rw [toOption_eq_some_iff] at hDraft
  exact
    ⟨by decide +kernel, draft, hDraft,
      Naming.standard.sharesClasses.scanned _ _ _ hNames
        (by decide) hDraft⟩

end Componentry
