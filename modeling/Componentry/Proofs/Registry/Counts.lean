import Componentry.Proofs.Registry.Survey

/-
  How often a scan notes a kind of diagnostics.

  Diagnostics that tell of an index are noted only when the
  class of that index is scanned: neither loading nor a
  rejection nor another class adds to them.

  Main declarations:
    * `Draft.kindCount`
    * `scanClass_project_kindCount`
    * `Admits.scanClass_measure`
    * `Admits.scanClass_kindCount`
-/

------------------------------------------------------------
-- Counts of Drafts
------------------------------------------------------------

namespace Componentry

/- The kinds of diagnostics that tell of an index. -/
def DiagnosticKind.IsOfIndex (kind : DiagnosticKind) : Prop :=
  kind = .duplicateTaskModel ∨ kind = .duplicateType

/- A diagnostic that rejects a record tells of no index. -/
theorem DiagnosticKind.IsOfIndex.ne_of_rejectsRecord
    {kind other : DiagnosticKind}
    (hKind : kind.IsOfIndex)
    (hOther : other.rejectsRecord = true) :
    other ≠ kind := by
  rintro rfl
  rcases hKind with rfl | rfl
  · cases hOther
  · cases hOther

namespace Draft

/- How often a draft has noted a kind. -/
def kindCount
    (draft : Draft)
    (kind : DiagnosticKind) : Nat :=
  draft.diagnostics.countP (·.kind == kind)

variable {kind other : DiagnosticKind}
variable {before after : Draft}

/- Diagnostics of other kinds do not count. -/
theorem kindCount_diagnoseAll
    (draft : Draft)
    {noted : List Diagnostic}
    (hOther :
      ∀ diagnostic ∈ noted, diagnostic.kind ≠ kind) :
    (draft.diagnoseAll noted).kindCount kind =
      draft.kindCount kind := by
  have hNone : noted.countP (·.kind == kind) = 0 := by
    rw [List.countP_eq_zero]
    intro diagnostic hMember
    simp [hOther diagnostic hMember]
  rw [kindCount, diagnoseAll_diagnostics, List.countP_append,
    hNone]
  rfl

theorem kindCount_diagnose
    (draft : Draft)
    {diagnostic : Diagnostic}
    (hOther : diagnostic.kind ≠ kind) :
    (draft.diagnose diagnostic).kindCount kind =
      draft.kindCount kind := by
  refine draft.kindCount_diagnoseAll ?_
  intro found hMember
  rw [List.mem_singleton.mp hMember]
  exact hOther

/- Rejections do not tell of an index. -/
theorem kindCount_diagnoseAll_of_rejects
    (draft : Draft)
    {noted : List Diagnostic}
    (hKind : kind.IsOfIndex)
    (hRejects :
      ∀ diagnostic ∈ noted,
        diagnostic.kind.rejectsRecord = true) :
    (draft.diagnoseAll noted).kindCount kind =
      draft.kindCount kind := by
  refine draft.kindCount_diagnoseAll ?_
  intro diagnostic hMember
  exact hKind.ne_of_rejectsRecord (hRejects _ hMember)

theorem NotesOnly.kindCount_eq
    (hNotes : NotesOnly other before after)
    (hOther : other ≠ kind) :
    after.kindCount kind = before.kindCount kind := by
  refine hNotes.countP_eq ?_
  rintro diagnostic rfl
  simpa using hOther

end Draft

end Componentry

------------------------------------------------------------
-- Counts of Phases
------------------------------------------------------------

namespace Componentry

variable {store : Store} {naming : Naming}
variable {names : List String} {before after : Draft}
variable {kind : DiagnosticKind}

/- What a phase notes while loading are rejections. -/
theorem loadAll_rejects
    {loaded : Loaded}
    (hLoad : loadAll store names = .ok loaded) :
    ∀ diagnostic ∈ loaded.diagnostics,
      diagnostic.kind.rejectsRecord = true := by
  intro diagnostic hMember
  rw [(loadAll_diagnostics hLoad diagnostic hMember).1]
  rfl

/- Registering a project tells of no index. -/
theorem ProjectAdmission.kindCount_eq
    {record : Descriptor}
    {draft next : Draft}
    (hAdmission : ProjectAdmission record draft next)
    (hKind : kind.IsOfIndex) :
    next.kindCount kind = draft.kindCount kind := by
  have hMissing :
      DiagnosticKind.missingOptionalField ≠ kind := by
    rcases hKind with rfl | rfl <;> decide
  have hRepeats :
      DiagnosticKind.duplicateProject ≠ kind := by
    rcases hKind with rfl | rfl <;> decide
  cases hAdmission with
  | rejected hRead hRejects =>
      exact
        draft.kindCount_diagnose
          (hKind.ne_of_rejectsRecord hRejects.1)
  | duplicate hRead hNoted hFound =>
      rw [Draft.kindCount_diagnose _ hRepeats,
        Draft.kindCount_diagnoseAll]
      intro diagnostic hMember
      rw [hNoted diagnostic hMember]
      exact hMissing
  | entered hRead hNoted hNew =>
      refine Draft.kindCount_diagnoseAll draft ?_
      intro diagnostic hMember
      rw [hNoted diagnostic hMember]
      exact hMissing

theorem scanClass_project_kindCount
    (hKind : kind.IsOfIndex)
    (hClass :
      scanClass store naming names before .project =
        .ok after) :
    after.kindCount kind = before.kindCount kind := by
  rcases scanClass_run hClass with ⟨loaded, hLoad, hRun⟩
  refine
    registerProjects_invariant
      (fun _ draft =>
        draft.kindCount kind = before.kindCount kind)
      ?_ ?_ hRun
  · exact
      before.kindCount_diagnoseAll_of_rejects hKind
        (loadAll_rejects hLoad)
  · intro _ record draft next hStep hInv
    rw [hStep.kindCount_eq hKind, hInv]

section Classes

variable {α : Type} {group : RecordClass}
variable {accept : ByName Project → Descriptor → Option α}
variable {enter : Draft → α → Draft}

/-
  A measure that rejections leave alone grows by the weights
  of the accepted entities.
-/
theorem Admits.scanClass_measure
    (hAdmits : Admits store naming group accept enter)
    (measure : Draft → Nat)
    (weight : α → Nat)
    (hRejects :
      ∀ draft noted,
        (∀ diagnostic ∈ noted,
          diagnostic.kind.rejectsRecord = true) →
        measure (draft.diagnoseAll noted) = measure draft)
    (hEnter :
      ∀ draft entity,
        measure (enter draft entity) =
          measure draft + weight entity)
    (hClass :
      scanClass store naming names before group =
        .ok after) :
    measure after =
      measure before +
        (((store.recordsOf naming names group).filterMap
          (accept before.snapshot.projects)).map
          weight).sum := by
  rcases scanClass_run hClass with ⟨loaded, hLoad, hRun⟩
  rw [← hRejects before _ (loadAll_rejects hLoad)]
  refine hAdmits.run_measure ?_ hEnter hRun
  intro draft diagnostic record hRecord
  refine hRejects draft [diagnostic] ?_
  intro found hMember
  rw [List.mem_singleton.mp hMember]
  exact hRecord.1

/- A class that notes another kind does not count. -/
theorem Admits.scanClass_kindCount
    {other : DiagnosticKind}
    (hAdmits : Admits store naming group accept enter)
    (hNotes :
      ∀ draft entity,
        Draft.NotesOnly other draft (enter draft entity))
    (hKind : kind.IsOfIndex)
    (hOther : other ≠ kind)
    (hClass :
      scanClass store naming names before group =
        .ok after) :
    after.kindCount kind = before.kindCount kind := by
  have hMeasure :=
    hAdmits.scanClass_measure
      (fun draft => draft.kindCount kind) (fun _ => 0) ?_ ?_
      hClass
  · simpa using hMeasure
  · intro draft noted hRejects
    exact
      draft.kindCount_diagnoseAll_of_rejects hKind hRejects
  · intro draft entity
    exact (hNotes draft entity).kindCount_eq hOther

end Classes

end Componentry
