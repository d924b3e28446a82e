import Componentry.Proofs.Answers
import Componentry.Proofs.Registry.Queries
import Componentry.Session

/-
  What a session publishes.

  The snapshot that a session over a store in memory has
  published is that of its last rebuild that succeeded: an
  operation asks for a rebuild, or it executes a request while
  nothing is published.  No other operation changes it, be it
  an edit of the store, a query or a rebuild that fails.

  Main declarations:
    * `Operation`, `Session.after`, `Session.run`
    * `Session.IsOver`, `Session.IsOver.after`
    * `Rebuilds`, `LastRebuild`
    * `PublishesLastRebuild`
    * `run_publishesLastRebuild`
-/

------------------------------------------------------------
-- Operations
------------------------------------------------------------

namespace Componentry

/- What can be done in a session with one registry. -/
inductive Operation where
  | putRecord (record : Descriptor)
  | removeRecord (name : String)
  | putText (path : Path) (text : String)
  | removeText (path : Path)
  | rebuild
  | query (query : Query)
  | execute (extensions : Extensions) (request : Request)

/- What an operation does to a store in memory. -/
def Operation.edit
    (store : MemoryStore) :
    Operation → MemoryStore
  | putRecord record => store.putRecord record
  | removeRecord name => store.removeRecord name
  | putText path text => store.putText path text
  | removeText path => store.removeText path
  | rebuild => store
  | query _ => store
  | execute _ _ => store

namespace Session

/- The session after an operation. -/
def after (session : Session) : Operation → Session
  | .putRecord record => session.edit (·.putRecord record)
  | .removeRecord name => session.edit (·.removeRecord name)
  | .putText path text => session.edit (·.putText path text)
  | .removeText path => session.edit (·.removeText path)
  | .rebuild => (session.rebuild.map (·.2)).getD session
  | .query _ => session
  | .execute extensions request =>
      ((session.generate extensions request).map
        (·.2)).getD session

/- The session after operations. -/
def run
    (session : Session)
    (operations : List Operation) :
    Session :=
  operations.foldl after session

/- The snapshot that the session's registry has published. -/
def published (session : Session) : Option Snapshot :=
  session.registry.bind (·.current)

/- The answer to a query, if there is a registry. -/
def answer
    (session : Session)
    (query : Query) :
    Option query.Answer :=
  session.registry.map fun registry =>
    query.answer registry session.view

/- A session over a store, with a registry to be built. -/
def start
    (tree : FileTree)
    (store : MemoryStore)
    (naming : Naming) :
    Session where
  tree := tree
  store := .memory store
  registry := some ⟨naming, none⟩
  artifacts := none

end Session

end Componentry

------------------------------------------------------------
-- One Operation
------------------------------------------------------------

namespace Componentry

/-
  A session stands over a store in memory, and its registry
  has published a snapshot or none.
-/
structure Session.IsOver
    (session : Session)
    (store : MemoryStore)
    (naming : Naming)
    (current : Option Snapshot) : Prop where
  stored : session.store = .memory store
  registered : session.registry = some ⟨naming, current⟩

/-
  An operation rebuilds a registry: it asks for that, or it
  executes a request while nothing is published.
-/
inductive Rebuilds
    (current : Option Snapshot) : Operation → Prop where
  | asked : Rebuilds current .rebuild
  | needed
      {extensions : Extensions}
      {request : Request}
      (hNone : current = none) :
      Rebuilds current (.execute extensions request)

/- An operation rebuilds a registry, and the scan succeeds. -/
structure RebuildsTo
    (store : MemoryStore)
    (naming : Naming)
    (current : Option Snapshot)
    (operation : Operation)
    (draft : Draft) : Prop where
  rebuilds : Rebuilds current operation
  scanned : scan store.view naming = .ok draft

/- Without a scan a rebuild publishes nothing. -/
theorem Registry.rebuild_of_not_ok
    {registry : Registry}
    {store : Store}
    (hScan :
      ∀ draft, scan store registry.naming ≠ .ok draft) :
    (registry.rebuild store).2 = registry := by
  unfold rebuild
  cases hResult : scan store registry.naming with
  | error error => rfl
  | ok draft => exact absurd hResult (hScan draft)

/- A run over a registry that is built keeps the registry. -/
theorem Run.execute_of_built
    {registry : Registry}
    (hBuilt : registry.isBuilt = true)
    (store : Store)
    (extensions : Extensions)
    (request : Request) :
    (execute registry store extensions request).2 =
      registry := by
  rw [execute, if_pos hBuilt]

/- A run over another registry leaves it as a rebuild does. -/
theorem Run.execute_of_not_built
    {registry : Registry}
    (hBuilt : registry.isBuilt = false)
    (store : Store)
    (extensions : Extensions)
    (request : Request) :
    (execute registry store extensions request).2 =
      (registry.rebuild store).2 := by
  rw [execute, hBuilt]
  rcases hRebuild : registry.rebuild store with
    ⟨report, rebuilt⟩
  cases report with
  | error error => rfl
  | ok report => rfl

namespace Session.IsOver

variable {session : Session} {store : MemoryStore}
variable {naming : Naming} {current : Option Snapshot}

theorem view
    (hOver : session.IsOver store naming current) :
    session.view = store.view := by
  rw [Session.view, hOver.stored]
  rfl

theorem published
    (hOver : session.IsOver store naming current) :
    session.published = current := by
  rw [Session.published, hOver.registered]
  rfl

/- A store in memory is not changed by listing it. -/
theorem listed
    (hOver : session.IsOver store naming current) :
    session.listed.IsOver store naming current where
  stored := by
    rw [Session.listed, hOver.stored]
    rfl
  registered := hOver.registered

/- Edits of a store keep the registry over it. -/
theorem edit
    (hOver : session.IsOver store naming current)
    (change : MemoryStore → MemoryStore) :
    (session.edit change).IsOver (change store) naming
      current where
  stored := by
    rw [Session.edit, hOver.stored]
    rfl
  registered := hOver.registered

/- A session rebuilds its registry over its store. -/
theorem after_rebuild
    {next : Option Snapshot}
    (hOver : session.IsOver store naming current)
    (hNext :
      (Registry.rebuild ⟨naming, current⟩ store.view).2 =
        ⟨naming, next⟩) :
    (session.after .rebuild).IsOver store naming next := by
  have hAfter :
      session.after .rebuild =
        (session.rebuildWith ⟨naming, current⟩).2 := by
    rw [Session.after, Session.rebuild, hOver.registered]
    rfl
  rw [hAfter]
  refine { stored := hOver.listed.stored, registered := ?_ }
  rw [Session.rebuildWith, hOver.listed.view, ← hNext]

/- A session executes a request over its store. -/
theorem after_execute
    {next : Option Snapshot}
    {extensions : Extensions}
    {request : Request}
    (hOver : session.IsOver store naming current)
    (hNext :
      (Run.execute ⟨naming, current⟩ store.view extensions
          request).2 =
        ⟨naming, next⟩) :
    (session.after (.execute extensions request)).IsOver
      store naming next := by
  have hAfter :
      session.after (.execute extensions request) =
        (session.generateWith ⟨naming, current⟩ extensions
          request).2 := by
    rw [Session.after, Session.generate, hOver.registered]
    rfl
  rw [hAfter]
  unfold Session.generateWith
  have hReady (built : Bool) :
      (if built then session
        else session.listed).IsOver store naming
        current := by
    cases built with
    | true => exact hOver
    | false => exact hOver.listed
  have hReady := hReady (Registry.isBuilt ⟨naming, current⟩)
  simp only [hReady.view]
  rcases hRun :
      Run.execute ⟨naming, current⟩ store.view extensions
        request with ⟨result, registry⟩
  rw [hRun] at hNext
  subst hNext
  cases result with
  | error error =>
      exact { stored := hReady.stored, registered := rfl }
  | ok artifacts =>
      exact { stored := hReady.stored, registered := rfl }

/- A rebuild that succeeds publishes its snapshot. -/
theorem after_of_rebuildsTo
    {operation : Operation}
    {draft : Draft}
    (hOver : session.IsOver store naming current)
    (hRebuilds :
      RebuildsTo store naming current operation draft) :
    (session.after operation).IsOver (operation.edit store)
      naming (some draft.snapshot) := by
  have hNext :
      (Registry.rebuild ⟨naming, current⟩ store.view).2 =
        ⟨naming, some draft.snapshot⟩ := by
    rw [Registry.rebuild_eq_of_scan ⟨naming, current⟩
      hRebuilds.scanned]
  cases hRebuilds.rebuilds with
  | asked => exact hOver.after_rebuild hNext
  | needed hNone =>
      subst hNone
      apply hOver.after_execute
      rw [Run.execute_of_not_built rfl, hNext]

/- Every other operation keeps what is published. -/
theorem after_of_not_rebuildsTo
    {operation : Operation}
    (hOver : session.IsOver store naming current)
    (hNot :
      ∀ draft,
        ¬ RebuildsTo store naming current operation draft) :
    (session.after operation).IsOver (operation.edit store)
      naming current := by
  have hKept (hRebuilds : Rebuilds current operation) :
      (Registry.rebuild ⟨naming, current⟩ store.view).2 =
        ⟨naming, current⟩ := by
    apply Registry.rebuild_of_not_ok
    intro draft hScan
    exact hNot draft ⟨hRebuilds, hScan⟩
  cases operation with
  | putRecord record => exact hOver.edit _
  | removeRecord name => exact hOver.edit _
  | putText path text => exact hOver.edit _
  | removeText path => exact hOver.edit _
  | query query => exact hOver
  | rebuild => exact hOver.after_rebuild (hKept .asked)
  | execute extensions request =>
      apply hOver.after_execute
      cases hCurrent : current with
      | none =>
          rw [Run.execute_of_not_built rfl, ← hCurrent]
          exact hKept (.needed hCurrent)
      | some snapshot => rw [Run.execute_of_built rfl]

end Session.IsOver

end Componentry

------------------------------------------------------------
-- Operations One after the Other
------------------------------------------------------------

namespace Componentry

variable {tree : FileTree} {store : MemoryStore}
variable {naming : Naming}

/- What operations leave of the contents of a store. -/
def contents
    (store : MemoryStore)
    (operations : List Operation) :
    MemoryStore :=
  operations.foldl Operation.edit store

/-
  In a session that starts over a store, operations are
  followed by one that rebuilds the registry with success.
-/
def RebuildsAfter
    (tree : FileTree)
    (store : MemoryStore)
    (naming : Naming)
    (operations : List Operation)
    (operation : Operation)
    (draft : Draft) : Prop :=
  RebuildsTo (contents store operations) naming
    ((Session.start tree store naming).run
      operations).published
    operation draft

/-
  The last of the operations that rebuilds with success does
  so to the given draft.
-/
def LastRebuild
    (tree : FileTree)
    (store : MemoryStore)
    (naming : Naming)
    (operations : List Operation)
    (draft : Draft) : Prop :=
  ∃ earlier operation later,
    operations = earlier ++ operation :: later ∧
      RebuildsAfter tree store naming earlier operation
        draft ∧
      ∀ between next rest other,
        later = between ++ next :: rest →
          ¬ RebuildsAfter tree store naming
              (earlier ++ operation :: between) next other

end Componentry

------------------------------------------------------------
-- The Last Rebuild
------------------------------------------------------------

namespace Componentry

variable {tree : FileTree} {store : MemoryStore}
variable {naming : Naming}
variable {operations : List Operation}

/-
  One operation more is the last to rebuild, or it does not
  rebuild and the last one stays.
-/
theorem lastRebuild_append_iff
    {operation : Operation}
    {draft : Draft} :
    LastRebuild tree store naming
        (operations ++ [operation]) draft ↔
      RebuildsAfter tree store naming operations operation
          draft ∨
        (∀ other,
          ¬ RebuildsAfter tree store naming operations
              operation other) ∧
          LastRebuild tree store naming operations draft := by
  constructor
  · rintro ⟨earlier, found, later, hSplit, hTo, hNone⟩
    rcases List.eq_nil_or_concat later with
      rfl | ⟨later, last, rfl⟩
    · rcases List.append_inj' hSplit rfl with ⟨rfl, hLast⟩
      cases hLast
      exact Or.inl hTo
    · have hSplit :
          operations ++ [operation] =
            (earlier ++ found :: later) ++ [last] := by
        simpa using hSplit
      rcases List.append_inj' hSplit rfl with ⟨rfl, hLast⟩
      cases hLast
      refine Or.inr ⟨?_, earlier, found, later, rfl, hTo, ?_⟩
      · intro other
        exact hNone later operation [] other (by simp)
      · intro between next rest other hLater
        exact
          hNone between next (rest ++ [operation]) other
            (by simp [hLater])
  · rintro (hTo | ⟨hNot, earlier, found, later, rfl, hTo,
      hNone⟩)
    · refine ⟨operations, operation, [], rfl, hTo, ?_⟩
      intro between next rest other hNil
      simp at hNil
    · refine
        ⟨earlier, found, later ++ [operation], by simp,
          hTo, ?_⟩
      intro between next rest other hLater
      rcases List.eq_nil_or_concat rest with
        rfl | ⟨rest, last, rfl⟩
      · rcases List.append_inj' hLater rfl with ⟨rfl, hLast⟩
        cases hLast
        exact hNot other
      · have hLater :
            later ++ [operation] =
              (between ++ next :: rest) ++ [last] := by
          simpa using hLater
        rcases List.append_inj' hLater rfl with ⟨rfl, -⟩
        exact hNone between next rest other rfl

theorem not_lastRebuild_nil
    {draft : Draft} :
    ¬ LastRebuild tree store naming [] draft := by
  rintro ⟨earlier, operation, later, hSplit, -⟩
  simp at hSplit

/- If operations rebuild at all, one of them is the last. -/
theorem exists_lastRebuild_iff
    (tree : FileTree)
    (store : MemoryStore)
    (naming : Naming)
    (operations : List Operation) :
    (∃ draft,
        LastRebuild tree store naming operations draft) ↔
      ∃ earlier operation later draft,
        operations = earlier ++ operation :: later ∧
          RebuildsAfter tree store naming earlier operation
            draft := by
  constructor
  · rintro ⟨draft, earlier, operation, later, hSplit, hTo, -⟩
    exact ⟨earlier, operation, later, draft, hSplit, hTo⟩
  · rintro ⟨earlier, operation, later, draft, rfl, hTo⟩
    induction later using List.reverseRecOn with
    | nil =>
        exact ⟨draft, lastRebuild_append_iff.mpr (Or.inl hTo)⟩
    | append_singleton later last ih =>
        rcases ih with ⟨found, hFound⟩
        rw [← List.cons_append, ← List.append_assoc]
        by_cases hLast :
            ∃ other,
              RebuildsAfter tree store naming
                (earlier ++ operation :: later) last other
        · rcases hLast with ⟨other, hOther⟩
          exact
            ⟨other, lastRebuild_append_iff.mpr
              (Or.inl hOther)⟩
        · rw [not_exists] at hLast
          exact
            ⟨found, lastRebuild_append_iff.mpr
              (Or.inr ⟨hLast, hFound⟩)⟩

theorem contents_append_singleton
    (operation : Operation) :
    contents store (operations ++ [operation]) =
      operation.edit (contents store operations) :=
  List.foldl_concat ..

namespace Session

theorem run_append_singleton
    (session : Session)
    (operation : Operation) :
    session.run (operations ++ [operation]) =
      (session.run operations).after operation :=
  List.foldl_concat ..

/- A session stays over its store, which edits change. -/
theorem run_isOver
    (tree : FileTree)
    (store : MemoryStore)
    (naming : Naming)
    (operations : List Operation) :
    ((start tree store naming).run operations).IsOver
      (contents store operations) naming
      ((start tree store naming).run
        operations).published := by
  induction operations using List.reverseRecOn with
  | nil => exact { stored := rfl, registered := rfl }
  | append_singleton operations operation ih =>
      have hAfter :
          ∃ current,
            (((start tree store naming).run
              operations).after operation).IsOver
              (operation.edit (contents store operations))
              naming current := by
        by_cases hTo :
            ∃ draft,
              RebuildsAfter tree store naming operations
                operation draft
        · rcases hTo with ⟨draft, hTo⟩
          exact ⟨_, ih.after_of_rebuildsTo hTo⟩
        · rw [not_exists] at hTo
          exact ⟨_, ih.after_of_not_rebuildsTo hTo⟩
      rcases hAfter with ⟨current, hAfter⟩
      rw [run_append_singleton, contents_append_singleton,
        hAfter.published]
      exact hAfter

/- A rebuild that succeeds publishes its snapshot. -/
theorem published_after_of_rebuildsAfter
    {operation : Operation}
    {draft : Draft}
    (hTo :
      RebuildsAfter tree store naming operations operation
        draft) :
    (((start tree store naming).run operations).after
        operation).published =
      some draft.snapshot :=
  ((run_isOver _ _ _ operations).after_of_rebuildsTo
    hTo).published

/- Other operations keep what is published. -/
theorem published_after_of_not_rebuildsAfter
    {operation : Operation}
    (hNot :
      ∀ draft,
        ¬ RebuildsAfter tree store naming operations
            operation draft) :
    (((start tree store naming).run operations).after
        operation).published =
      ((start tree store naming).run
        operations).published :=
  ((run_isOver _ _ _ operations).after_of_not_rebuildsTo
    hNot).published

/- What is published is the snapshot of the last rebuild. -/
theorem published_run_eq_some_iff
    {snapshot : Snapshot} :
    ((start tree store naming).run operations).published =
        some snapshot ↔
      ∃ draft,
        LastRebuild tree store naming operations draft ∧
          draft.snapshot = snapshot := by
  induction operations using List.reverseRecOn with
  | nil =>
      constructor
      · intro hNone
        cases hNone
      · rintro ⟨draft, hLast, -⟩
        exact absurd hLast not_lastRebuild_nil
  | append_singleton operations operation ih =>
      rw [run_append_singleton]
      simp only [lastRebuild_append_iff]
      by_cases hTo :
          ∃ draft,
            RebuildsAfter tree store naming operations
              operation draft
      · rcases hTo with ⟨draft, hTo⟩
        rw [published_after_of_rebuildsAfter hTo,
          Option.some.injEq]
        constructor
        · intro hSame
          exact ⟨draft, Or.inl hTo, hSame⟩
        · rintro ⟨other, hOther | ⟨hNot, -⟩, rfl⟩
          · have hSame : draft = other :=
              Except.ok.inj
                (hTo.scanned.symm.trans hOther.scanned)
            rw [hSame]
          · exact absurd hTo (hNot draft)
      · rw [not_exists] at hTo
        rw [published_after_of_not_rebuildsAfter hTo, ih]
        constructor
        · rintro ⟨draft, hLast, hSame⟩
          exact ⟨draft, Or.inr ⟨hTo, hLast⟩, hSame⟩
        · rintro ⟨draft, hOther | ⟨-, hLast⟩, hSame⟩
          · exact absurd hOther (hTo draft)
          · exact ⟨draft, hLast, hSame⟩

end Session

end Componentry

------------------------------------------------------------
-- Answers of Sessions
------------------------------------------------------------

namespace Componentry

/- Texts in memory are found by the components of a path. -/
theorem MemoryStore.readText_eq_ok_iff
    {store : MemoryStore}
    {path : Path}
    {text : String} :
    store.view.readText path = .ok text ↔
      store.texts[path.components]? = some text := by
  unfold view
  cases hFound : store.texts[path.components]? with
  | none => simp [hFound]
  | some found => simp [hFound]

/- A registry looks up names in its snapshot, if it has one. -/
theorem Registry.getElem?_view_eq_some_iff
    {α : Type}
    {registry : Registry}
    {name : String}
    {value : α}
    (table : Snapshot → ByName α)
    (hEmpty : table (.empty "") = ∅) :
    (table registry.view)[name]? = some value ↔
      ∃ snapshot,
        registry.current = some snapshot ∧
          (table snapshot)[name]? = some value := by
  unfold view
  cases registry.current with
  | none => simp [hEmpty]
  | some snapshot => simp

namespace Session.IsOver

variable {session : Session} {store : MemoryStore}
variable {naming : Naming} {current : Option Snapshot}

/- A session answers as its registry does over its store. -/
theorem answer
    (hOver : session.IsOver store naming current)
    (query : Query) :
    session.answer query =
      some (query.answer ⟨naming, current⟩ store.view) := by
  rw [Session.answer, hOver.registered, hOver.view]
  rfl

/- A session reports a rebuild exactly if its scan succeeds. -/
theorem exists_rebuild_iff
    (hOver : session.IsOver store naming current) :
    (∃ report next,
        session.rebuild = some (.ok report, next)) ↔
      ∃ draft,
        RebuildsTo store naming current .rebuild draft := by
  rw [Session.rebuild, hOver.registered]
  simp only [Option.map_some, Option.some.injEq,
    Session.rebuildWith, hOver.listed.view, Prod.mk.injEq,
    exists_and_left, exists_eq', and_true]
  unfold Registry.rebuild
  constructor
  · rintro ⟨report, hReport⟩
    cases hScan : scan store.view naming with
    | error error =>
        simp only [hScan] at hReport
        cases hReport
    | ok draft => exact ⟨draft, .asked, hScan⟩
  · rintro ⟨draft, hTo⟩
    exact ⟨.ofDraft draft, by simp only [hTo.scanned]⟩

end Session.IsOver

/-
  A session publishes the snapshot of its last rebuild that
  succeeded, and answers from it and from the texts that its
  store holds now.
-/
structure PublishesLastRebuild
    (tree : FileTree)
    (store : MemoryStore)
    (naming : Naming)
    (operations : List Operation)
    (session : Session) : Prop where
  edited :
    session.store = .memory (contents store operations)
  unpublished :
    session.published = none ↔
      ∀ earlier operation later draft,
        operations = earlier ++ operation :: later →
          ¬ RebuildsAfter tree store naming earlier operation
              draft
  published :
    ∀ snapshot,
      session.published = some snapshot ↔
        ∃ draft,
          LastRebuild tree store naming operations draft ∧
            draft.snapshot = snapshot
  kept :
    ∀ operation,
      (∀ draft,
        ¬ RebuildsAfter tree store naming operations
            operation draft) →
        (session.after operation).published =
          session.published
  rebuilt :
    (∃ report next,
        session.rebuild = some (.ok report, next)) ↔
      ∃ draft,
        RebuildsAfter tree store naming operations .rebuild
          draft
  -- A query without paths is answered by the snapshot alone.
  answered :
    ∀ (query : Query) (registry : Registry) (other : Store),
      registry.current = session.published →
        (∀ path ∈ query.paths registry.view,
          (contents store operations).view.readText path =
            other.readText path) →
          session.answer query =
            some (query.answer registry other)
  projectModel :
    ∀ name text path,
      session.answer (.projectModel name) =
          some (.ok (text, path)) ↔
        ∃ snapshot project,
          session.published = some snapshot ∧
            snapshot.projects[name]? = some project ∧
            project.specPath = some path ∧
            (contents store operations).texts[
              path.components]? = some text
  typekitModel :
    ∀ name types list,
      session.answer (.typekitModel name) =
          some (.ok (types, list)) ↔
        ∃ snapshot typekit,
          session.published = some snapshot ∧
            snapshot.typekits[name]? = some typekit ∧
            (contents store operations).texts[
                typekit.typeRegistry.components]? =
              some types ∧
            (contents store operations).texts[
                (typeListPath
                  typekit.typeRegistry).components]? =
              some list
  typeList :
    ∀ name found,
      session.answer (.typeList name) = some (.ok found) ↔
        ∃ types list,
          session.answer (.typekitModel name) =
              some (.ok (types, list)) ∧
            found = TypeList.parse list

theorem run_publishesLastRebuild
    (tree : FileTree)
    (store : MemoryStore)
    (naming : Naming)
    (operations : List Operation) :
    PublishesLastRebuild tree store naming operations
      ((Session.start tree store naming).run operations) := by
  have hOver :=
    Session.run_isOver tree store naming operations
  refine
    { edited := hOver.stored
      unpublished := ?_
      published := fun _ => Session.published_run_eq_some_iff
      kept := fun _ hNot =>
        Session.published_after_of_not_rebuildsAfter hNot
      rebuilt := hOver.exists_rebuild_iff
      answered := ?_
      projectModel := ?_
      typekitModel := ?_
      typeList := ?_ }
  · rw [Option.eq_none_iff_forall_ne_some]
    simp only [ne_eq, Session.published_run_eq_some_iff]
    have hLast :=
      exists_lastRebuild_iff tree store naming operations
    constructor
    · intro hNone earlier operation later draft hSplit hTo
      rcases hLast.mpr
          ⟨earlier, operation, later, draft, hSplit, hTo⟩ with
        ⟨last, hLast⟩
      exact hNone last.snapshot ⟨last, hLast, rfl⟩
    · rintro hNone snapshot ⟨draft, hFound, -⟩
      rcases hLast.mp ⟨draft, hFound⟩ with
        ⟨earlier, operation, later, last, hSplit, hTo⟩
      exact hNone earlier operation later last hSplit hTo
  · intro query registry other hCurrent hTexts
    rw [hOver.answer, Option.some.injEq]
    apply query.answer_congr
    · rw [Registry.view, Registry.view, hCurrent]
    · rw [Registry.view, ← hCurrent]
      exact hTexts
  · intro name text path
    rw [hOver.answer, Option.some.injEq, Query.answer,
      projectModel_eq_ok_iff]
    simp only [MemoryStore.readText_eq_ok_iff,
      Registry.getElem?_view_eq_some_iff
        Snapshot.projects rfl]
    constructor
    · rintro ⟨project, ⟨snapshot, hCurrent, hFound⟩, hTexts⟩
      exact ⟨snapshot, project, hCurrent, hFound, hTexts⟩
    · rintro ⟨snapshot, project, hCurrent, hFound, hTexts⟩
      exact ⟨project, ⟨snapshot, hCurrent, hFound⟩, hTexts⟩
  · intro name types list
    rw [hOver.answer, Option.some.injEq, Query.answer,
      typekitModel_eq_ok_iff]
    simp only [MemoryStore.readText_eq_ok_iff,
      Registry.getElem?_view_eq_some_iff
        Snapshot.typekits rfl]
    constructor
    · rintro ⟨typekit, ⟨snapshot, hCurrent, hFound⟩, hTexts⟩
      exact ⟨snapshot, typekit, hCurrent, hFound, hTexts⟩
    · rintro ⟨snapshot, typekit, hCurrent, hFound, hTexts⟩
      exact ⟨typekit, ⟨snapshot, hCurrent, hFound⟩, hTexts⟩
  · intro name found
    rw [hOver.answer, hOver.answer, Option.some.injEq]
    simp only [Option.some.injEq]
    exact typeList_eq_ok_iff

end Componentry
