import Mathlib.Data.List.Nodup
import Componentry.Generation.Run
import Componentry.Proofs.Generation.Additions
import Componentry.Proofs.Paths

/-
  Where generated files are placed.

  Files are added if their places differ and are free.  Every
  item of a request has a directory of its own, and all its
  files are placed below it; so items with different names do
  not get in each other's way, and items are generated one
  after the other exactly if each of them fits.

  Main declarations:
    * `Artifacts.exists_insertAll_iff`
    * `place`, `Artifacts.IsFree`
    * `Fills`, `fills_of_files`
    * `exists_foldlM_iff_of_fills`
    * `AreNew`
-/

------------------------------------------------------------
-- Adding Files
------------------------------------------------------------

namespace Componentry

namespace Artifacts

variable {artifacts next : Artifacts}

/- Files have been added where there was none. -/
theorem mem_files_of_insertAll
    {files : List (Path × String)}
    (hNext : artifacts.insertAll files = .ok next)
    {key : List Path.Component} :
    key ∈ next.files ↔
      key ∈ artifacts.files ∨
        key ∈ files.map (·.1.components) := by
  rw [(insertAll_eq_ok_iff.mp hNext).2]
  exact mem_withFiles_iff

/- Files are added if their places differ and are free. -/
theorem exists_insertAll_iff
    {files : List (Path × String)} :
    (∃ next, artifacts.insertAll files = .ok next) ↔
      (files.map (·.1.components)).Nodup ∧
        ∀ file ∈ files,
          file.1.components ∉ artifacts.files := by
  simp only [insertAll_eq_ok_iff, exists_and_left,
    exists_eq, and_true]
  constructor
  · intro hAdmits
    exact ⟨hAdmits.distinct, hAdmits.free⟩
  · intro hPlaces
    exact ⟨hPlaces.1, hPlaces.2⟩

end Artifacts

end Componentry

------------------------------------------------------------
-- Places of Items
------------------------------------------------------------

namespace Componentry

/- The place of an item: the directory of its kind and name. -/
def place (kind name : String) : List Path.Component :=
  [.normal kind, .normal name]

/- Nothing has been generated at the place of an item. -/
def Artifacts.IsFree
    (artifacts : Artifacts)
    (kind name : String) : Prop :=
  ∀ key ∈ artifacts.files, ¬ place kind name <+: key

/- The place of a file, relative to that of its item. -/
def below
    (kind name : String)
    (names : List String) :
    List Path.Component :=
  (kind :: name :: names).map .normal

theorem place_prefix_below
    (kind name : String)
    (names : List String) :
    place kind name <+: below kind name names :=
  ⟨names.map .normal, rfl⟩

/- A place below an item is not below another one. -/
theorem eq_of_places_of_key
    {kind otherKind name otherName : String}
    {key : List Path.Component}
    (hPlace : place kind name <+: key)
    (hOther : place otherKind otherName <+: key) :
    kind = otherKind ∧ name = otherName := by
  rcases hPlace with ⟨rest, rfl⟩
  rcases hOther with ⟨otherRest, hSame⟩
  simp only [place, List.cons_append, List.cons.injEq,
    Path.Component.normal.injEq] at hSame
  exact ⟨hSame.1.symm, hSame.2.1.symm⟩

theorem nodup_map_below_iff
    {kind name : String}
    {relative : List (List String)} :
    (relative.map (below kind name)).Nodup ↔
      relative.Nodup := by
  apply List.nodup_map_iff
  intro first second hSame
  have hNames := Path.map_normal_injective hSame
  simpa using hNames

end Componentry

------------------------------------------------------------
-- Items One after the Other
------------------------------------------------------------

namespace Componentry

variable {α : Type}

/-
  A step generates an item: if nothing is at its place, the
  step succeeds exactly if the item fits, and it adds files
  only there.
-/
structure Fills
    (step : Artifacts → α → Except GenerateError Artifacts)
    (kind : String)
    (name : α → String)
    (fits : α → Prop)
    (item : α) : Prop where
  succeeds :
    ∀ artifacts : Artifacts,
      artifacts.IsFree kind (name item) →
        ((∃ next, step artifacts item = .ok next) ↔
          fits item)
  placed :
    ∀ artifacts next : Artifacts,
      step artifacts item = .ok next →
        ∀ key ∈ next.files,
          key ∈ artifacts.files ∨
            place kind (name item) <+: key

variable
  {step : Artifacts → α → Except GenerateError Artifacts}
variable {kind : String} {name : α → String}
variable {fits : α → Prop}

/-
  A step generates an item if it makes files at its place and
  adds them all.
-/
theorem fills_of_files
    {item : α}
    (made : List (Path × String) → Prop)
    (finish : Artifacts → Artifacts)
    (hStep :
      ∀ artifacts next,
        step artifacts item = .ok next ↔
          ∃ files, made files ∧
            ∃ added, artifacts.insertAll files = .ok added ∧
              finish added = next)
    (hFinish :
      ∀ artifacts, (finish artifacts).files = artifacts.files)
    (hPlaced :
      ∀ files, made files →
        ∀ file ∈ files,
          place kind (name item) <+: file.1.components)
    (hFits :
      (∃ files,
          made files ∧
            (files.map (·.1.components)).Nodup) ↔
        fits item) :
    Fills step kind name fits item := by
  constructor
  · intro artifacts hFree
    have hAdded
        (files : List (Path × String))
        (hMade : made files) :
        (∃ added, artifacts.insertAll files = .ok added) ↔
          (files.map (·.1.components)).Nodup := by
      rw [Artifacts.exists_insertAll_iff, and_iff_left]
      intro file hFile hTaken
      exact hFree _ hTaken (hPlaced files hMade file hFile)
    rw [← hFits]
    constructor
    · rintro ⟨next, hStepped⟩
      rcases (hStep artifacts next).mp hStepped with
        ⟨files, hMade, added, hAdd, -⟩
      exact
        ⟨files, hMade, (hAdded files hMade).mp ⟨added, hAdd⟩⟩
    · rintro ⟨files, hMade, hNodup⟩
      rcases (hAdded files hMade).mpr hNodup with
        ⟨added, hAdd⟩
      exact
        ⟨finish added,
          (hStep artifacts _).mpr
            ⟨files, hMade, added, hAdd, rfl⟩⟩
  · intro artifacts next hStepped key hKey
    rcases (hStep artifacts next).mp hStepped with
      ⟨files, hMade, added, hAdd, rfl⟩
    rw [hFinish, Artifacts.mem_files_of_insertAll hAdd]
      at hKey
    rcases hKey with hOld | hNew
    · exact Or.inl hOld
    · rcases List.mem_map.mp hNew with ⟨file, hFile, rfl⟩
      exact Or.inr (hPlaced files hMade file hFile)

/-
  Items with different names are generated one after the other
  exactly if each of them fits.
-/
theorem exists_foldlM_iff_of_fills
    {items : List α}
    {start : Artifacts}
    (hFills : ∀ item ∈ items, Fills step kind name fits item)
    (hNames : (items.map name).Nodup)
    (hFree :
      ∀ item ∈ items, start.IsFree kind (name item)) :
    (∃ finish, items.foldlM step start = .ok finish) ↔
      ∀ item ∈ items, fits item := by
  induction items generalizing start with
  | nil => simp [pure, Except.pure]
  | cons item items ih =>
      rw [List.forall_mem_cons] at hFills hFree
      rw [List.map_cons, List.nodup_cons] at hNames
      -- What the first item adds is at its own place, and no
      -- item behind it has that place too.
      have hRest (next : Artifacts)
          (hStep : step start item = .ok next) :
          (∃ finish, items.foldlM step next = .ok finish) ↔
            ∀ item ∈ items, fits item := by
        apply ih hFills.2 hNames.2
        intro other hOther key hKey hPlace
        rcases hFills.1.placed start next hStep key hKey with
          hOld | hNew
        · exact hFree.2 other hOther key hOld hPlace
        · have hSame : name item = name other :=
            (eq_of_places_of_key hNew hPlace).2
          exact
            hNames.1 (hSame ▸ List.mem_map_of_mem hOther)
      rw [List.forall_mem_cons,
        ← hFills.1.succeeds start hFree.1]
      simp only [List.foldlM_cons, bind_eq_ok_iff]
      constructor
      · rintro ⟨finish, next, hStep, hRun⟩
        exact
          ⟨⟨next, hStep⟩,
            (hRest next hStep).mp ⟨finish, hRun⟩⟩
      · rintro ⟨⟨next, hStep⟩, hFit⟩
        rcases (hRest next hStep).mpr hFit with
          ⟨finish, hRun⟩
        exact ⟨finish, next, hStep, hRun⟩

/- What items generate is at their places. -/
theorem placed_of_foldlM
    {items : List α}
    {start finish : Artifacts}
    (hFills : ∀ item ∈ items, Fills step kind name fits item)
    (hRun : items.foldlM step start = .ok finish)
    {key : List Path.Component}
    (hKey : key ∈ finish.files) :
    key ∈ start.files ∨
      ∃ item ∈ items, place kind (name item) <+: key := by
  refine
    foldlM_invariant
      (fun done artifacts =>
        ∀ key ∈ artifacts.files,
          key ∈ start.files ∨
            ∃ item ∈ done, place kind (name item) <+: key)
      (fun key hKey => Or.inl hKey) ?_ hRun key hKey
  intro done item artifacts next hDone hInv hStep key hKey
  have hItem : item ∈ items :=
    hDone.subset (List.mem_append_right _ (by simp))
  rcases (hFills item hItem).placed artifacts next hStep key
      hKey with hOld | hNew
  · rcases hInv key hOld with hStart | ⟨other, hOther, hPlace⟩
    · exact Or.inl hStart
    · exact
        Or.inr
          ⟨other, List.mem_append_left _ hOther, hPlace⟩
  · exact Or.inr ⟨item, by simp, hNew⟩

/- What items generate leaves other kinds alone. -/
theorem isFree_of_foldlM
    {items : List α}
    {start finish : Artifacts}
    {other otherName : String}
    (hKind : kind ≠ other)
    (hFills : ∀ item ∈ items, Fills step kind name fits item)
    (hRun : items.foldlM step start = .ok finish)
    (hStart : start.IsFree other otherName) :
    finish.IsFree other otherName := by
  intro key hKey hPlace
  rcases placed_of_foldlM hFills hRun hKey with
    hOld | ⟨item, -, hItem⟩
  · exact hStart key hOld hPlace
  · exact hKind (eq_of_places_of_key hItem hPlace).1

end Componentry

------------------------------------------------------------
-- Directories of Items
------------------------------------------------------------

namespace Componentry

variable {kind name : String}

/- The directory of an item with a plain name is its place. -/
theorem directory_isMadeOf
    (hKind : Path.IsPlainName kind)
    (hName : Path.IsPlainName name) :
    ((Path.mk kind).join ⟨name⟩).IsMadeOf [kind, name] :=
  hKind.isMadeOf.join hName.isMadeOf (by simp)

/- A fragment lies in the directory that it is made for. -/
theorem fragmentPath_isMadeOf
    {directory : Path}
    {names : List String}
    {file : String}
    (hDirectory : directory.IsMadeOf names)
    (hFile : '/' ∉ file.toList) :
    (Run.fragmentPath directory file).IsMadeOf
      (names ++ [file ++ ".fragment"]) := by
  have hPlain : Path.IsPlainName (file ++ ".fragment") :=
    .of_ending hFile (by simp) (by simp)
  exact hDirectory.join hPlain.isMadeOf (by simp)

/- Files whose places are known are below their item. -/
theorem place_prefix_of_map_eq
    {files : List (Path × String)}
    {relative : List (List String)}
    (hFiles :
      files.map (·.1.components) =
        relative.map (below kind name))
    {file : Path × String}
    (hFile : file ∈ files) :
    place kind name <+: file.1.components := by
  have hMember :
      file.1.components ∈ relative.map (below kind name) := by
    rw [← hFiles]
    exact List.mem_map_of_mem hFile
  rcases List.mem_map.mp hMember with ⟨names, -, hNames⟩
  rw [← hNames]
  exact place_prefix_below kind name names

end Componentry

------------------------------------------------------------
-- Names One after the Other
------------------------------------------------------------

namespace Componentry

/- Names that differ from each other and were not seen. -/
structure AreNew (seen names : List String) : Prop where
  distinct : names.Nodup
  unseen : ∀ name ∈ names, name ∉ seen

variable {seen names : List String} {name : String}

theorem areNew_nil : AreNew seen [] where
  distinct := List.nodup_nil
  unseen := by simp

/- Where nothing was seen, names only have to differ. -/
theorem areNew_iff_nodup :
    AreNew [] names ↔ names.Nodup := by
  constructor
  · intro hNew
    exact hNew.distinct
  · intro hDistinct
    exact ⟨hDistinct, fun _ _ => List.not_mem_nil⟩

/- A name that is new is seen by those behind it. -/
theorem areNew_cons_iff :
    AreNew seen (name :: names) ↔
      name ∉ seen ∧ AreNew (name :: seen) names := by
  constructor
  · rintro ⟨hDistinct, hUnseen⟩
    rw [List.nodup_cons] at hDistinct
    rw [List.forall_mem_cons] at hUnseen
    refine ⟨hUnseen.1, hDistinct.2, ?_⟩
    intro other hOther hSeen
    rcases List.mem_cons.mp hSeen with rfl | hSeen
    · exact hDistinct.1 hOther
    · exact hUnseen.2 other hOther hSeen
  · rintro ⟨hName, hDistinct, hUnseen⟩
    refine
      ⟨List.nodup_cons.mpr ⟨?_, hDistinct⟩,
        List.forall_mem_cons.mpr ⟨hName, ?_⟩⟩
    · intro hMember
      exact hUnseen name hMember List.mem_cons_self
    · intro other hOther hSeen
      exact
        hUnseen other hOther (List.mem_cons_of_mem _ hSeen)

end Componentry
