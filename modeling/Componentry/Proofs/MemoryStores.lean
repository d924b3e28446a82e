import Componentry.Proofs.Registry.Loading
import Componentry.Proofs.Tables
import Componentry.Store.Memory

/-
  Stores in memory are orderly.

  A store in memory that keeps every record under the name of
  the record lists names in order and loads each record under
  its name.  Every edit of a store keeps this.

  Main declarations:
    * `MemoryStore.IsNamed`
    * `MemoryStore.IsNamed.view_isOrderly`
    * `MemoryStore.sample`, `MemoryStore.scan_sample`
-/

------------------------------------------------------------
-- Named Records
------------------------------------------------------------

namespace Componentry

namespace MemoryStore

/- Every record is kept under its own name. -/
def IsNamed (store : MemoryStore) : Prop :=
  ∀ (name : String) (record : Descriptor),
    store.records[name]? = some record →
      record.name = name

namespace IsNamed

variable {store : MemoryStore}

theorem empty : MemoryStore.empty.IsNamed := by
  intro name record hFound
  simp [MemoryStore.empty] at hFound

theorem putRecord
    (hNamed : store.IsNamed)
    (record : Descriptor) :
    (store.putRecord record).IsNamed := by
  intro name found hFound
  rw [MemoryStore.putRecord, ByName.getElem?_insert]
    at hFound
  by_cases hName : record.name = name
  · rw [if_pos hName] at hFound
    cases hFound
    exact hName
  · rw [if_neg hName] at hFound
    exact hNamed name found hFound

theorem removeRecord
    (hNamed : store.IsNamed)
    (name : String) :
    (store.removeRecord name).IsNamed := by
  intro other found hFound
  simp only [MemoryStore.removeRecord,
    Std.ExtTreeMap.getElem?_erase] at hFound
  split at hFound
  · cases hFound
  · exact hNamed other found hFound

theorem putText
    (hNamed : store.IsNamed)
    (path : Path)
    (text : String) :
    (store.putText path text).IsNamed :=
  hNamed

theorem removeText
    (hNamed : store.IsNamed)
    (path : Path) :
    (store.removeText path).IsNamed :=
  hNamed

/- A store of named records answers in order. -/
theorem view_isOrderly
    (hNamed : store.IsNamed) :
    store.view.IsOrderly where
  names_increase := by
    intro names hNames
    cases hNames
    exact
      (ByName.pairwise_keys store.records).imp
        Text.bytes_lt_iff.mpr
  name_of_load := by
    intro name record hLoad
    cases hFound : store.records[name]? with
    | none => simp [view, hFound] at hLoad
    | some found =>
        simp only [view, hFound, Except.ok.injEq] at hLoad
        subst hLoad
        exact hNamed name found hFound

end IsNamed

end MemoryStore

end Componentry

------------------------------------------------------------
-- A Small Installation
------------------------------------------------------------

namespace Componentry

/- The naming with the names used unless others are chosen. -/
def Naming.standard : Naming where
  space := defaultSpace
  target := defaultTarget
  space_valid := by decide +kernel
  target_valid := by decide +kernel

/- A record with the given fields. -/
def Descriptor.ofFields
    (name : String)
    (fields : List (String × String)) :
    Descriptor where
  name := name
  path := ⟨"/packages/" ++ name ++ ".pc"⟩
  fields := .ofList fields

namespace MemoryStore

/-
  A small installation: a project declared twice and one
  without a typekit, task libraries that share a model, an
  orphan, a deployment, typekits that share a type and one
  that is malformed.
-/
def sample : MemoryStore :=
  [("orogen-project-base",
      [("project_name", " base "),
       ("deffile", "/base/base.orogen"),
       ("type_registry", "/base/base.tlb")]),
    ("orogen-project-copy",
      [("project_name", "base")]),
    ("orogen-project-lone",
      [("project_name", "lone"), ("type_registry", " ")]),
    ("a-b-tasks-gnulinux",
      [("project_name", "base"),
       ("task_models", "base::Task, base::Task, base::Extra")]),
    ("a-tasks-gnulinux",
      [("project_name", "lone"),
       ("task_models", "base::Task")]),
    ("stray-tasks-gnulinux",
      [("project_name", "stray"), ("task_models", "")]),
    ("orogen-rover",
      [("project_name", "base"),
       ("deployed_tasks", "drive,steer,drive")]),
    ("base-typekit-gnulinux",
      [("project_name", "base"),
       ("type_registry", "/base/base.tlb")]),
    ("lone-typekit-gnulinux",
      [("project_name", "lone"),
       ("type_registry", "/lone/lone.tlb")]),
    ("more-typekit-gnulinux",
      [("project_name", "base"),
       ("type_registry", "/more/more.tlb")]),
    ("void-typekit-gnulinux", [])].foldl
    (fun store (name, fields) =>
      store.putRecord (.ofFields name fields))
    ((empty.putText ⟨"/base/base.typelist"⟩
        "/base/Pose 0\n/base/Time\n").putText
      ⟨"/more/more.typelist"⟩ "/base/Pose 1\n/more/Map 0\n")

theorem sample_isNamed : sample.IsNamed := by
  unfold sample
  simp only [List.foldl_cons, List.foldl_nil]
  repeat apply IsNamed.putRecord
  exact (IsNamed.empty.putText _ _).putText _ _

theorem sample_isOrderly : sample.view.IsOrderly :=
  sample_isNamed.view_isOrderly

/-
  A scan of the small installation notes its flaws, and it
  registers types, task models and deployed tasks.
-/
theorem scan_sample :
    ∃ draft,
      scan sample.view .standard = .ok draft ∧
        draft.diagnostics.map (·.kind) =
          [.missingOptionalField, .duplicateProject,
           .missingOptionalField, .duplicateTaskModel,
           .orphanedRecord, .projectWithoutTypekit,
           .duplicateType, .malformedRecord] ∧
        (draft.snapshot.types["/base/Pose"]? =
            some ⟨"base", true⟩ ∧
          draft.snapshot.types["/more/Map"]? =
            some ⟨"more", false⟩) ∧
        draft.snapshot.taskModels["base::Task"]? = some "a" ∧
        "rover" ∈
          draft.snapshot.deployedTasks["drive"]?.getD ∅ := by
  have hScan :
      (scan sample.view .standard).toOption.any
          (fun draft =>
            decide
              (draft.diagnostics.map (·.kind) =
                  [.missingOptionalField, .duplicateProject,
                   .missingOptionalField, .duplicateTaskModel,
                   .orphanedRecord, .projectWithoutTypekit,
                   .duplicateType, .malformedRecord] ∧
                (draft.snapshot.types["/base/Pose"]? =
                    some ⟨"base", true⟩ ∧
                  draft.snapshot.types["/more/Map"]? =
                    some ⟨"more", false⟩) ∧
                draft.snapshot.taskModels["base::Task"]? =
                  some "a" ∧
                "rover" ∈
                  draft.snapshot.deployedTasks["drive"]?.getD
                    ∅)) =
        true := by
    decide +kernel
  rcases (Option.any_eq_true _ _).mp hScan with
    ⟨draft, hDraft, hTold⟩
  exact
    ⟨draft, toOption_eq_some_iff.mp hDraft,
      of_decide_eq_true hTold⟩

end MemoryStore

end Componentry
