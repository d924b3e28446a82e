import Componentry.Proofs.Registry.Faults

/-
  Stores that agree.

  A scan sees of a store only the answers to its questions:
  the names, the records of each class and the type lists of
  the accepted typekits, up to the first that cannot be read.
  Stores that agree on these give the same scan.

  Main declarations:
    * `Survey.typekitsRead`
    * `Store.Agrees`
    * `scan_of_agrees`, `Registry.rebuild_of_agrees`
-/

------------------------------------------------------------
-- Answers That Agree
------------------------------------------------------------

namespace Componentry

/-
  The typekits whose type lists are read.  One that has no
  list ends the reading.
-/
def Store.listsRead
    (store : Store) :
    List Typekit → List Typekit
  | [] => []
  | typekit :: rest =>
      match
          store.readText
            (typeListPath typekit.typeRegistry) with
      | .ok _ => typekit :: store.listsRead rest
      | .error _ => [typekit]

/- The accepted typekits whose type lists a scan reads. -/
def Survey.typekitsRead
    (store : Store)
    (naming : Naming)
    (names : List String) :
    List Typekit :=
  store.listsRead (acceptedTypekits store naming names)

/- A second store answers what a scan of the first one asks. -/
structure Store.Agrees
    (first second : Store)
    (naming : Naming)
    (names : List String) : Prop where
  names_first : first.recordNames = .ok names
  names_second : second.recordNames = .ok names
  load :
    ∀ group name,
      name ∈ names →
        naming.selects group name = true →
          second.load name = first.load name
  typeList :
    ∀ typekit,
      typekit ∈ Survey.typekitsRead first naming names →
        second.readText
            (typeListPath typekit.typeRegistry) =
          first.readText
            (typeListPath typekit.typeRegistry)

end Componentry

------------------------------------------------------------
-- Loading
------------------------------------------------------------

namespace Componentry

variable {first second : Store}
variable {naming : Naming}
variable {names : List String}

theorem loadAll_of_same
    (hLoad :
      ∀ name ∈ names, second.load name = first.load name) :
    loadAll second names = loadAll first names := by
  induction names with
  | nil => rfl
  | cons name names ih =>
      rw [List.forall_mem_cons] at hLoad
      rw [loadAll, loadAll, hLoad.1, ih hLoad.2]

/- A class is scanned alike if its records are. -/
theorem scanClass_of_same
    {group : RecordClass}
    {draft : Draft}
    (hLoad :
      ∀ name ∈ names,
        naming.selects group name = true →
          second.load name = first.load name)
    (hRegister :
      ∀ noted,
        (first.recordsOf naming names group).foldlM
            (registerRecord second naming group)
            (draft.diagnoseAll noted) =
          (first.recordsOf naming names group).foldlM
            (registerRecord first naming group)
            (draft.diagnoseAll noted)) :
    scanClass second naming names draft group =
      scanClass first naming names draft group := by
  have hSame :
      loadAll second (names.filter (naming.selects group)) =
        loadAll first
          (names.filter (naming.selects group)) := by
    apply loadAll_of_same
    intro name hName
    rw [List.mem_filter] at hName
    exact hLoad name hName.1 hName.2
  unfold scanClass
  rw [hSame]
  apply bind_congr_of_ok
  intro loaded hLoaded
  rw [loadAll_records hLoaded]
  exact hRegister loaded.diagnostics

end Componentry

------------------------------------------------------------
-- Typekits
------------------------------------------------------------

namespace Componentry

variable {first second : Store}
variable {naming : Naming}
variable {names : List String}

/- Of a store, registering a typekit sees the type list. -/
theorem registerTypekit_of_same
    {draft : Draft}
    {record : Descriptor}
    (hText :
      ∀ typekit,
        typekitOf? naming draft.snapshot.projects record =
            some typekit →
          second.readText
              (typeListPath typekit.typeRegistry) =
            first.readText
              (typeListPath typekit.typeRegistry)) :
    registerTypekit second naming draft record =
      registerTypekit first naming draft record := by
  unfold registerTypekit
  cases hRead : readTypekit naming record with
  | error diagnostic => rfl
  | ok typekit =>
      rcases typekitProblem?_cases draft typekit with
        ⟨diagnostic, hProblem, -, -⟩ |
          ⟨hProblem, hProject⟩
      · simp only [hProblem]
      · have hSame :=
          hText typekit
            (typekitOf?_eq_some_iff.mpr ⟨hRead, hProject⟩)
        simp only [hProblem, hSame]

/-
  Typekits are registered alike if the type lists that are
  read are the same.
-/
theorem registerTypekits_of_same
    {projects : ByName Project}
    {records : List Descriptor}
    {draft : Draft}
    (hProjects : draft.snapshot.projects = projects)
    (hTexts :
      ∀ typekit,
        typekit ∈
            first.listsRead
              (records.filterMap
                (typekitOf? naming projects)) →
          second.readText
              (typeListPath typekit.typeRegistry) =
            first.readText
              (typeListPath typekit.typeRegistry)) :
    records.foldlM (registerRecord second naming .typekit)
        draft =
      records.foldlM (registerRecord first naming .typekit)
        draft := by
  induction records generalizing draft with
  | nil => rfl
  | cons record records ih =>
      rw [List.filterMap_cons] at hTexts
      have hFirst :
          registerRecord second naming .typekit draft record =
            registerRecord first naming .typekit draft
              record := by
        apply registerTypekit_of_same
        intro typekit hTypekit
        rw [hProjects] at hTypekit
        apply hTexts
        simp only [hTypekit, Store.listsRead]
        split <;> simp
      rw [List.foldlM_cons, List.foldlM_cons, hFirst]
      apply bind_congr_of_ok
      intro next hNext
      refine
        ih ((admits_typekit.projects_kept hNext).trans
          hProjects) ?_
      intro other hOther
      apply hTexts
      cases hTypekit : typekitOf? naming projects record with
      | none => exact hOther
      | some typekit =>
          -- A typekit that was registered has been read.
          have hFault :
              first.fault? (.typeList typekit) = none := by
            have hRegistered :
                faultOf
                    (registerRecord first naming .typekit
                      draft record) =
                  (typekitOf? naming draft.snapshot.projects
                    record).bind
                    fun typekit =>
                      first.fault? (.typeList typekit) :=
              faultOf_registerTypekit draft record
            rw [hNext, hProjects, hTypekit] at hRegistered
            exact hRegistered.symm
          rcases faultOf_eq_none_iff.mp hFault with
            ⟨text, hText⟩
          simp only [Store.listsRead, hText]
          exact List.mem_cons_of_mem typekit hOther

end Componentry

------------------------------------------------------------
-- Scans
------------------------------------------------------------

namespace Componentry

variable {first second : Store}
variable {naming : Naming}
variable {names : List String}

/- Stores that agree give the same scan. -/
theorem scan_of_agrees
    (hAgrees : first.Agrees second naming names) :
    scan second naming = scan first naming := by
  unfold scan
  rw [hAgrees.names_second, hAgrees.names_first]
  change
    RecordClass.all.foldlM (scanClass second naming names)
        (.empty naming.target) =
      RecordClass.all.foldlM (scanClass first naming names)
        (.empty naming.target)
  have hLoad (group : RecordClass) :
      ∀ name ∈ names,
        naming.selects group name = true →
          second.load name = first.load name :=
    hAgrees.load group
  simp only [RecordClass.all, List.foldlM_cons,
    List.foldlM_nil]
  -- Only typekits are registered with the store at hand.
  rw [scanClass_of_same (hLoad .project) fun _ => rfl]
  apply bind_congr_of_ok
  intro projects hProjects
  rw [scanClass_of_same (hLoad .taskLibrary) fun _ => rfl]
  apply bind_congr_of_ok
  intro libraries hLibraries
  rw [scanClass_of_same (hLoad .deployment) fun _ => rfl]
  apply bind_congr_of_ok
  intro deployments hDeployments
  have hFirst :
      deployments.snapshot.projects =
        Survey.projects first naming names := by
    rw [admits_deployment.scanClass_projects hDeployments,
      admits_taskLibrary.scanClass_projects hLibraries,
      scanClass_project rfl hProjects]
  rw [scanClass_of_same (hLoad .typekit)]
  intro noted
  refine registerTypekits_of_same ?_ hAgrees.typeList
  rw [Draft.diagnoseAll_snapshot, hFirst]

/- So they rebuild a registry alike. -/
theorem Registry.rebuild_of_agrees
    {registry : Registry}
    (hAgrees :
      first.Agrees second registry.naming names) :
    registry.rebuild second = registry.rebuild first := by
  unfold rebuild
  rw [scan_of_agrees hAgrees]

end Componentry
