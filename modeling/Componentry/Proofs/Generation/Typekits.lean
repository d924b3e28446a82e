import Componentry.Proofs.Composition.Plugins
import Componentry.Proofs.Generation.Places
import Componentry.Proofs.Registry.Queries

/-
  Which typekits are generated.

  A typekit with a plain name is generated exactly if it is
  installed, its texts are readable, and the exported entries
  of its type list have identifiers that do not get in each
  other's way or in that of the registration.  Whatever else
  the built-in plugins write, its places differ.

  Main declarations:
    * `TypeList.identifiers`, `TypeList.NamesFiles`
    * `TypeList.Clashes`
    * `Snapshot.OffersTypekit`
    * `components_typekitFiles`
    * `fills_typekit`
-/

------------------------------------------------------------
-- Identifiers of Type Lists
------------------------------------------------------------

namespace Componentry

namespace TypeList

/-
  The identifiers of all entries whose names are exported, in
  order: a name that is listed twice has two of them.
-/
def identifiers (list : TypeList) : List String :=
  (list.all.filter list.isExported).map TypeName.method

/- Identifiers that name different files. -/
structure NamesFiles (list : TypeList) : Prop where
  named : "" ∉ list.identifiers
  distinct : list.identifiers.Nodup
  unreserved : "Registration" ∉ list.identifiers

instance (list : TypeList) : Decidable list.NamesFiles :=
  decidable_of_iff
    ("" ∉ list.identifiers ∧ list.identifiers.Nodup ∧
      "Registration" ∉ list.identifiers)
    ⟨fun ⟨hNamed, hDistinct, hUnreserved⟩ =>
        ⟨hNamed, hDistinct, hUnreserved⟩,
      fun hNames =>
        ⟨hNames.named, hNames.distinct, hNames.unreserved⟩⟩

/- Exported entries that lead to one file twice. -/
inductive Clashes (list : TypeList) : Prop where
  -- Two types have the same identifier.
  | alike
      {first second : String}
      (hFirst : first ∈ list.all)
      (hSecond : second ∈ list.all)
      (hFirstExported : list.isExported first = true)
      (hSecondExported : list.isExported second = true)
      (hDiffer : first ≠ second)
      (hSame :
        TypeName.method first = TypeName.method second) :
      Clashes list
  -- A type has several lines.
  | repeated
      {name : String}
      (hExported : list.isExported name = true)
      (hTwice : 1 < list.all.count name) :
      Clashes list
  -- A type is called like the registration.
  | reserved
      {name : String}
      (hName : name ∈ list.all)
      (hExported : list.isExported name = true)
      (hReserved : TypeName.method name = "Registration") :
      Clashes list

/- Entries that clash do not name different files. -/
theorem Clashes.not_namesFiles
    {list : TypeList}
    (hClashes : list.Clashes) :
    ¬ list.NamesFiles := by
  intro hNames
  have hDistinct := hNames.distinct
  unfold identifiers at hDistinct
  cases hClashes with
  | alike hFirst hSecond hFirstExported hSecondExported
      hDiffer hSame =>
      have hFirstEntry :=
        List.mem_filter.mpr ⟨hFirst, hFirstExported⟩
      have hSecondEntry :=
        List.mem_filter.mpr ⟨hSecond, hSecondExported⟩
      exact
        hDiffer
          (List.inj_on_of_nodup_map hDistinct hFirstEntry
            hSecondEntry hSame)
  | @repeated name hExported hTwice =>
      have hOnce :=
        List.nodup_iff_count_le_one.mp hDistinct.of_map name
      rw [List.count_filter hExported] at hOnce
      omega
  | @reserved name hName hExported hReserved =>
      refine hNames.unreserved ?_
      rw [← hReserved]
      exact
        List.mem_map_of_mem
          (List.mem_filter.mpr ⟨hName, hExported⟩)

-- Different types can have the same identifier.
example :
    TypeName.method "/a/b" = TypeName.method "/a_b" := by
  decide +kernel

end TypeList

/- The types of a typekit are those of its type list. -/
theorem Kit.identifiers_ofTypeList
    {name project : String}
    {list : TypeList} :
    (Kit.ofTypeList name project list).identifiers =
      list.identifiers := by
  unfold Kit.identifiers TypeList.identifiers Kit.exported
    Kit.ofTypeList
  rw [List.filter_map, List.map_map, List.map_map]
  rfl

/-
  A snapshot has a typekit whose texts are readable and whose
  type list names different files.
-/
def Snapshot.OffersTypekit
    (snapshot : Snapshot)
    (store : Store)
    (name : String) : Prop :=
  ∃ typekit types list,
    snapshot.typekits[name]? = some typekit ∧
      store.readText typekit.typeRegistry = .ok types ∧
      store.readText (typeListPath typekit.typeRegistry) =
        .ok list ∧
      (TypeList.parse list).NamesFiles

instance
    (snapshot : Snapshot)
    (store : Store)
    (name : String) :
    Decidable (snapshot.OffersTypekit store name) :=
  decidable_of_iff
    ((snapshot.typekits[name]?).any (fun typekit =>
        (store.readText
            typekit.typeRegistry).toOption.isSome
          && (store.readText
              (typeListPath
                typekit.typeRegistry)).toOption.any
            fun list =>
              decide (TypeList.parse list).NamesFiles) =
      true)
    (by
      unfold Snapshot.OffersTypekit
      simp only [Option.any_eq_true, Bool.and_eq_true,
        Option.isSome_iff_exists, toOption_eq_some_iff,
        decide_eq_true_eq, exists_and_left,
        exists_and_right])

end Componentry

------------------------------------------------------------
-- Files of Typekits
------------------------------------------------------------

namespace Componentry

variable {name : String} {kit : Kit}
variable {made : KitContributions}

/- The files of a typekit, below its place. -/
def typekitRelative (kit : Kit) : List (List String) :=
  kit.places ++ [["build.fragment"]]

theorem components_typekitFiles
    (hName : Path.IsPlainName name)
    (hRun : PluginRegistry.builtin.run kit = .ok made) :
    (Run.typekitFiles name made).map (·.1.components) =
      (typekitRelative kit).map (below "typekits" name) := by
  have hKind : Path.IsPlainName "typekits" := by
    constructor <;> simp
  have hDirectory := directory_isMadeOf hKind hName
  have hSources := PluginRegistry.components_sources hRun
  have hJoined
      (source : Path × String)
      (hSource : source ∈ made.sources) :
      (((Path.mk "typekits").join ⟨name⟩).join
          source.1).components =
        place "typekits" name ++ source.1.components := by
    have hMember :
        source.1.components ∈
          kit.places.map (List.map .normal) := by
      rw [← hSources]
      exact List.mem_map_of_mem hSource
    rcases List.mem_map.mp hMember with
      ⟨names, hNames, hComponents⟩
    have hPath : source.1.IsMadeOf names := hComponents.symm
    have hBelow : names ≠ [] := by
      rintro rfl
      exact
        PluginRegistry.nil_not_mem_of_writes
          Plugin.writes_builtin hNames
    rw [Path.components_join (hPath.isOrdinary hBelow),
      hDirectory]
    rfl
  have hBuild :
      (Run.fragmentPath
          ((Path.mk "typekits").join ⟨name⟩)
          "build").components =
        below "typekits" name ["build.fragment"] :=
    fragmentPath_isMadeOf hDirectory (by simp)
  have hPlaced :
      made.sources.map (fun source =>
          (((Path.mk "typekits").join ⟨name⟩).join
            source.1).components) =
        kit.places.map (below "typekits" name) := by
    rw [List.map_congr_left hJoined]
    change
      made.sources.map
          ((place "typekits" name ++ ·) ∘
            (·.1.components)) = _
    rw [← List.map_map, hSources, List.map_map]
    rfl
  unfold Run.typekitFiles typekitRelative
  rw [List.map_append, List.map_append, List.map_map,
    List.map_singleton, List.map_singleton, hBuild]
  exact congrArg (· ++ _) hPlaced

/- Identifiers that name different files lead to files. -/
theorem exists_typekitFiles_iff
    {project : String}
    {list : TypeList}
    (hName : Path.IsPlainName name) :
    (∃ made,
        PluginRegistry.builtin.run
            (.ofTypeList name project list) =
          .ok made ∧
        ((Run.typekitFiles name made).map
          (·.1.components)).Nodup) ↔
      list.NamesFiles := by
  have hRun :
      (∃ made,
          PluginRegistry.builtin.run
              (.ofTypeList name project list) =
            .ok made) ↔
        "" ∉ list.identifiers := by
    rw [PluginRegistry.exists_run_builtin_iff,
      Kit.IsNameable, Kit.identifiers_ofTypeList]
  have hNodup
      {made : KitContributions}
      (hMade :
        PluginRegistry.builtin.run
            (.ofTypeList name project list) =
          .ok made) :
      ((Run.typekitFiles name made).map
          (·.1.components)).Nodup ↔
        list.identifiers.Nodup ∧
          "Registration" ∉ list.identifiers := by
    rw [components_typekitFiles hName hMade,
      nodup_map_below_iff, typekitRelative,
      Kit.nodup_places_iff, Kit.identifiers_ofTypeList]
  constructor
  · rintro ⟨made, hMade, hFiles⟩
    rcases (hNodup hMade).mp hFiles with
      ⟨hDistinct, hUnreserved⟩
    exact ⟨hRun.mp ⟨made, hMade⟩, hDistinct, hUnreserved⟩
  · intro hNames
    rcases hRun.mpr hNames.named with ⟨made, hMade⟩
    exact
      ⟨made, hMade,
        (hNodup hMade).mpr
          ⟨hNames.distinct, hNames.unreserved⟩⟩

end Componentry

------------------------------------------------------------
-- Typekits
------------------------------------------------------------

namespace Componentry

variable {registry : Registry} {store : Store}
variable {name : String}

/- The type list decides whether a typekit is offered. -/
theorem offersTypekit_iff :
    registry.view.OffersTypekit store name ↔
      ∃ typekit list,
        registry.view.typekits[name]? = some typekit ∧
          registry.typeList store name = .ok list ∧
          list.NamesFiles := by
  simp only [typeList_eq_ok_iff, typekitModel_eq_ok_iff]
  constructor
  · rintro
      ⟨typekit, types, list, hFound, hTypes, hList, hNames⟩
    exact
      ⟨typekit, _, hFound,
        ⟨types, list, ⟨typekit, hFound, hTypes, hList⟩, rfl⟩,
        hNames⟩
  · rintro
      ⟨-, _, -, ⟨types, list, ⟨typekit, hTexts⟩, rfl⟩, hNames⟩
    rcases hTexts with ⟨hFound, hTypes, hList⟩
    exact ⟨typekit, types, list, hFound, hTypes, hList, hNames⟩

/- A typekit that is offered fills its place. -/
theorem fills_typekit
    (hName : Path.IsPlainName name) :
    Fills (Run.typekit registry store .builtin) "typekits" id
      (registry.view.OffersTypekit store) name := by
  refine
    fills_of_files
      (fun files =>
        ∃ typekit list made,
          registry.view.typekits[name]? = some typekit ∧
            registry.typeList store name = .ok list ∧
            PluginRegistry.builtin.run
                (.ofTypeList name typekit.project list) =
              .ok made ∧
            Run.typekitFiles name made = files)
      id ?_ (fun _ => rfl) ?_ ?_
  · intro artifacts next
    unfold Run.typekit
    cases hFound : registry.view.typekits[name]? with
    | none => simp
    | some typekit =>
        simp only [bind_eq_ok_iff, mapError_eq_ok_iff,
          Option.some.injEq, id_eq, exists_eq_right]
        constructor
        · rintro ⟨list, hList, made, hMade, hAdd⟩
          exact
            ⟨_, ⟨typekit, list, made, rfl, hList, hMade, rfl⟩,
              hAdd⟩
        · rintro
            ⟨_, ⟨_, list, made, rfl, hList, hMade, rfl⟩, hAdd⟩
          exact ⟨list, hList, made, hMade, hAdd⟩
  · rintro _ ⟨typekit, list, made, -, -, hMade, rfl⟩ file hFile
    exact
      place_prefix_of_map_eq
        (components_typekitFiles hName hMade) hFile
  · rw [offersTypekit_iff]
    constructor
    · rintro
        ⟨_, ⟨typekit, list, made, hFound, hList, hMade, rfl⟩,
          hNodup⟩
      exact
        ⟨typekit, list, hFound, hList,
          (exists_typekitFiles_iff hName).mp
            ⟨made, hMade, hNodup⟩⟩
    · rintro ⟨typekit, list, hFound, hList, hNames⟩
      rcases (exists_typekitFiles_iff hName).mpr hNames with
        ⟨made, hMade, hNodup⟩
      exact
        ⟨_, ⟨typekit, list, made, hFound, hList, hMade, rfl⟩,
          hNodup⟩

end Componentry
