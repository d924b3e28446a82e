import Componentry.Proofs.Answers
import Componentry.Registry.Basic

/-
  Queries of a registry.

  A rebuild publishes the snapshot that it has scanned.  Every
  query looks its name up in the published snapshot.
  Some then read texts, at paths that the snapshot tells; the
  answers depend on nothing else.

  Main declarations:
    * `Registry.rebuild_eq_of_scan`
    * `Query`, `Query.Answer`, `Query.answer`
    * `Query.paths`
    * `Query.answer_congr`
    * `projectModel_eq_ok_iff`, `typekitModel_eq_ok_iff`
    * `typeList_eq_ok_iff`
-/

------------------------------------------------------------
-- Publishing
------------------------------------------------------------

namespace Componentry

namespace Registry

/- A rebuild reports and publishes what it has scanned. -/
theorem rebuild_eq_of_scan
    (registry : Registry)
    {store : Store}
    {draft : Draft}
    (hScan : scan store registry.naming = .ok draft) :
    registry.rebuild store =
      (.ok (.ofDraft draft),
        { registry with current := some draft.snapshot }) := by
  unfold rebuild
  rw [hScan]

theorem exists_scan_of_rebuild
    {before registry : Registry}
    {store : Store}
    {report : RebuildReport}
    (hRebuild :
      before.rebuild store = (.ok report, registry)) :
    ∃ draft,
      scan store before.naming = .ok draft ∧
        registry.current = some draft.snapshot := by
  unfold rebuild at hRebuild
  cases hScan : scan store before.naming with
  | error error => simp [hScan] at hRebuild
  | ok draft =>
      simp only [hScan, Prod.mk.injEq] at hRebuild
      exact ⟨draft, rfl, by rw [← hRebuild.2]⟩

end Registry

end Componentry

------------------------------------------------------------
-- Queries
------------------------------------------------------------

namespace Componentry

/- What a registry can be asked. -/
inductive Query where
  | hasTypekit (name : String)
  | taskLibraryOwning (model : String)
  | projectOwning (deployment : String)
  | deploymentsContaining (task : String)
  | projectModel (name : String)
  | typekitModel (name : String)
  | typeList (name : String)

namespace Query

/- What a query is answered with. -/
abbrev Answer : Query → Type
  | hasTypekit _ => Bool
  | taskLibraryOwning _ => Option String
  | projectOwning _ => Option String
  | deploymentsContaining _ => Names
  | projectModel _ => Except RegistryError (String × Path)
  | typekitModel _ => Except RegistryError (String × String)
  | typeList _ => Except RegistryError TypeList

/- The answer of a registry over a store. -/
def answer
    (registry : Registry)
    (store : Store) :
    (query : Query) → query.Answer
  | hasTypekit name => registry.hasTypekit name
  | taskLibraryOwning model =>
      registry.taskLibraryOwning? model
  | projectOwning deployment =>
      registry.projectOwning? deployment
  | deploymentsContaining task =>
      registry.deploymentsContaining task
  | projectModel name => registry.projectModel store name
  | typekitModel name => registry.typekitModel store name
  | typeList name => registry.typeList store name

/- The paths of the texts of a typekit. -/
def typekitPaths (typekit : Typekit) : List Path :=
  [typekit.typeRegistry, typeListPath typekit.typeRegistry]

/- The paths that a query reads, as a snapshot tells them. -/
def paths (snapshot : Snapshot) : Query → List Path
  | hasTypekit _ => []
  | taskLibraryOwning _ => []
  | projectOwning _ => []
  | deploymentsContaining _ => []
  | projectModel name =>
      ((snapshot.projects[name]?).bind
        (·.specPath)).toList
  | typekitModel name =>
      (snapshot.typekits[name]?).toList.flatMap typekitPaths
  | typeList name =>
      (snapshot.typekits[name]?).toList.flatMap typekitPaths

end Query

end Componentry

------------------------------------------------------------
-- What Answers Depend On
------------------------------------------------------------

namespace Componentry

variable {first second : Registry}
variable {store other : Store}

/- The texts of a typekit are read at its paths. -/
theorem typekitModel_congr
    {name : String}
    (hView : first.view = second.view)
    (hTexts :
      ∀ path ∈ (Query.typekitModel name).paths first.view,
        store.readText path = other.readText path) :
    first.typekitModel store name =
      second.typekitModel other name := by
  unfold Registry.typekitModel
  rw [← hView]
  cases hFound : first.view.typekits[name]? with
  | none => rfl
  | some typekit =>
      simp only [Query.paths, hFound, Option.toList_some,
        List.flatMap_singleton, Query.typekitPaths,
        List.forall_mem_cons] at hTexts
      rcases hTexts with ⟨hRegistry, hList, -⟩
      simp only [hRegistry, hList]

/-
  An answer depends on the published snapshot and, of the
  store, on the texts at the paths of the query.
-/
theorem Query.answer_congr
    (query : Query)
    (hView : first.view = second.view)
    (hTexts :
      ∀ path ∈ query.paths first.view,
        store.readText path = other.readText path) :
    query.answer first store = query.answer second other := by
  cases query with
  | hasTypekit name =>
      simp only [answer, Registry.hasTypekit, hView]
  | taskLibraryOwning model =>
      simp only [answer, Registry.taskLibraryOwning?, hView]
  | projectOwning deployment =>
      simp only [answer, Registry.projectOwning?, hView]
  | deploymentsContaining task =>
      simp only [answer, Registry.deploymentsContaining,
        hView]
  | projectModel name =>
      simp only [answer, Registry.projectModel, ← hView]
      cases hFound : first.view.projects[name]? with
      | none => rfl
      | some project =>
          cases hPath : project.specPath with
          | none => simp only [hPath]
          | some path =>
              have hText : store.readText path =
                  other.readText path := by
                apply hTexts
                simp [paths, hFound, hPath]
              simp only [hPath, hText]
  | typekitModel name => exact typekitModel_congr hView hTexts
  | typeList name =>
      have hModel :
          first.typekitModel store name =
            second.typekitModel other name :=
        typekitModel_congr hView hTexts
      simp only [answer, Registry.typeList, hModel]

end Componentry

------------------------------------------------------------
-- Texts That Are Found
------------------------------------------------------------

namespace Componentry

variable {registry : Registry} {store : Store}
variable {name : String}

/- A text is read if the store answers with one. -/
theorem reading_eq_ok_iff
    {α : Type}
    {answer : Except StoreError α}
    {value : α} :
    Registry.reading answer = .ok value ↔
      answer = .ok value :=
  mapError_eq_ok_iff

/- A project has a text if its specification is readable. -/
theorem projectModel_eq_ok_iff
    {text : String}
    {path : Path} :
    registry.projectModel store name = .ok (text, path) ↔
      ∃ project,
        registry.view.projects[name]? = some project ∧
          project.specPath = some path ∧
          store.readText path = .ok text := by
  unfold Registry.projectModel
  cases hFound : registry.view.projects[name]? with
  | none => simp
  | some project =>
      cases hPath : project.specPath with
      | none => simp [hPath]
      | some found =>
          simp only [hPath, bind_eq_ok_iff,
            reading_eq_ok_iff, Except.ok.injEq,
            Prod.mk.injEq, Option.some.injEq,
            exists_eq_left']
          constructor
          · rintro ⟨read, hRead, rfl, rfl⟩
            exact ⟨rfl, hRead⟩
          · rintro ⟨rfl, hRead⟩
            exact ⟨text, hRead, rfl, rfl⟩

/- A typekit has texts if both of its paths are readable. -/
theorem typekitModel_eq_ok_iff
    {types list : String} :
    registry.typekitModel store name = .ok (types, list) ↔
      ∃ typekit,
        registry.view.typekits[name]? = some typekit ∧
          store.readText typekit.typeRegistry = .ok types ∧
          store.readText
              (typeListPath typekit.typeRegistry) =
            .ok list := by
  unfold Registry.typekitModel
  cases hFound : registry.view.typekits[name]? with
  | none => simp
  | some typekit =>
      simp only [bind_eq_ok_iff, reading_eq_ok_iff,
        Except.ok.injEq, Prod.mk.injEq, Option.some.injEq,
        exists_eq_left']
      constructor
      · rintro ⟨_, hTypes, _, hList, rfl, rfl⟩
        exact ⟨hTypes, hList⟩
      · rintro ⟨hTypes, hList⟩
        exact ⟨types, hTypes, list, hList, rfl, rfl⟩

/- The type list of a typekit is read with its registry. -/
theorem typeList_eq_ok_iff
    {found : TypeList} :
    registry.typeList store name = .ok found ↔
      ∃ types list,
        registry.typekitModel store name =
            .ok (types, list) ∧
          found = TypeList.parse list := by
  simp only [Registry.typeList, bind_eq_ok_iff,
    Prod.exists, Except.ok.injEq, eq_comm (a := found)]

end Componentry
