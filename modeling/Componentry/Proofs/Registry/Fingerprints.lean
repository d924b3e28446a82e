import Componentry.Proofs.ByteOrder
import Componentry.Proofs.Json.RoundTrips
import Componentry.Registry.Snapshot

/-
  Fingerprints tell snapshots apart.

  The document of an entity tells every field of it, and the
  document of a snapshot tells all of its tables.  Documents
  are read back from their texts; so snapshots that are hashed
  as the same bytes are the same, and their fingerprints are
  the same only then, unless the hash of two different texts
  is.

  Main declarations:
    * `Project.toJson_inj`, `TaskLibrary.toJson_inj`
    * `Deployment.toJson_inj`, `Typekit.toJson_inj`
    * `ByName.toJson_inj`, `Names.toJson_inj`
    * `Snapshot.toJson_inj`
    * `Snapshot.hashedBytes`
    * `Snapshot.isToldApart`
-/

------------------------------------------------------------
-- Documents of Values
------------------------------------------------------------

namespace Componentry

namespace Json

/- A text that may be missing is told by its document. -/
theorem ofOption_inj
    {first second : Option String}
    (hSame : ofOption first = ofOption second) :
    first = second := by
  cases first with
  | none =>
      cases second with
      | none => rfl
      | some other => cases hSame
  | some text =>
      cases second with
      | none => cases hSame
      | some other =>
          cases hSame
          rfl

/- Texts are told by their array. -/
theorem ofStrings_inj
    {first second : List String}
    (hSame : ofStrings first = ofStrings second) :
    first = second := by
  rw [ofStrings, ofStrings, Json.array.injEq] at hSame
  exact
    List.map_injective_iff.mpr
      (fun _ _ => Json.string.inj) hSame

end Json

/- A path that may be missing is told by its text. -/
theorem Path.map_text_inj
    {first second : Option Path}
    (hSame : first.map (·.text) = second.map (·.text)) :
    first = second := by
  refine Option.map_injective ?_ hSame
  rintro ⟨text⟩ ⟨other⟩ hText
  exact congrArg Path.mk hText

end Componentry

------------------------------------------------------------
-- Documents of Entities
------------------------------------------------------------

namespace Componentry

theorem Project.toJson_inj
    {first second : Project}
    (hSame : first.toJson = second.toJson) :
    first = second := by
  rcases first with ⟨name, record, specPath, registry⟩
  rcases second with ⟨_, _, otherPath, otherRegistry⟩
  simp only [toJson, Json.object.injEq, List.cons.injEq,
    Prod.mk.injEq, Json.string.injEq, true_and, and_true]
    at hSame
  rcases hSame with ⟨rfl, rfl, hPath, hRegistry⟩
  rw [Path.map_text_inj (Json.ofOption_inj hPath),
    Path.map_text_inj (Json.ofOption_inj hRegistry)]

theorem TaskLibrary.toJson_inj
    {first second : TaskLibrary}
    (hSame : first.toJson = second.toJson) :
    first = second := by
  rcases first with ⟨name, project, record, models⟩
  rcases second with ⟨_, _, _, otherModels⟩
  simp only [toJson, Json.object.injEq, List.cons.injEq,
    Prod.mk.injEq, Json.string.injEq, true_and, and_true]
    at hSame
  rcases hSame with ⟨rfl, rfl, rfl, hModels⟩
  rw [Json.ofStrings_inj hModels]

theorem Deployment.toJson_inj
    {first second : Deployment}
    (hSame : first.toJson = second.toJson) :
    first = second := by
  rcases first with ⟨name, project, record, tasks⟩
  rcases second with ⟨_, _, _, otherTasks⟩
  simp only [toJson, Json.object.injEq, List.cons.injEq,
    Prod.mk.injEq, Json.string.injEq, true_and, and_true]
    at hSame
  rcases hSame with ⟨rfl, rfl, rfl, hTasks⟩
  rw [Json.ofStrings_inj hTasks]

theorem Typekit.toJson_inj
    {first second : Typekit}
    (hSame : first.toJson = second.toJson) :
    first = second := by
  rcases first with ⟨name, project, record, ⟨registry⟩⟩
  rcases second with ⟨_, _, _, ⟨otherRegistry⟩⟩
  simp only [toJson, Json.object.injEq, List.cons.injEq,
    Prod.mk.injEq, Json.string.injEq, true_and, and_true]
    at hSame
  rcases hSame with ⟨rfl, rfl, rfl, rfl⟩
  rfl

theorem TypeEntry.toJson_inj
    {first second : TypeEntry}
    (hSame : first.toJson = second.toJson) :
    first = second := by
  rcases first with ⟨owner, exported⟩
  rcases second with ⟨otherOwner, otherExported⟩
  simp only [toJson, Json.object.injEq, List.cons.injEq,
    Prod.mk.injEq, Json.string.injEq, Json.bool.injEq,
    true_and, and_true] at hSame
  rcases hSame with ⟨rfl, rfl⟩
  rfl

end Componentry

------------------------------------------------------------
-- Documents of Tables
------------------------------------------------------------

namespace Componentry

/- A table is told by its object if its values are told. -/
theorem ByName.toJson_inj
    {α : Type}
    {encode : α → Json}
    (hEncode :
      ∀ first second, encode first = encode second →
        first = second)
    {first second : ByName α}
    (hSame :
      ByName.toJson first encode =
        ByName.toJson second encode) :
    first = second := by
  rw [ByName.toJson, ByName.toJson, Json.object.injEq] at hSame
  rw [← Std.ExtTreeMap.toList_inj]
  refine List.map_injective_iff.mpr ?_ hSame
  rintro ⟨name, value⟩ ⟨other, found⟩ hField
  rw [Prod.mk.injEq] at hField
  rw [Prod.mk.injEq]
  exact ⟨hField.1, hEncode _ _ hField.2⟩

/- A set of names is told by its array. -/
theorem Names.toJson_inj
    {first second : Names}
    (hSame : Names.toJson first = Names.toJson second) :
    first = second := by
  rw [← Std.ExtTreeSet.toList_inj]
  exact Json.ofStrings_inj hSame

theorem Snapshot.toJson_inj
    {first second : Snapshot}
    (hSame : first.toJson = second.toJson) :
    first = second := by
  rcases first with ⟨target, projects, libraries, deployments,
    typekits, models, types, tasks⟩
  rcases second with ⟨_, _, _, _, _, _, _, _⟩
  simp only [toJson, Json.object.injEq, List.cons.injEq,
    Prod.mk.injEq, Json.string.injEq, true_and, and_true]
    at hSame
  rcases hSame with ⟨rfl, hProjects, hLibraries,
    hDeployments, hTypekits, hModels, hTypes, hTasks⟩
  rw [ByName.toJson_inj (fun _ _ => Project.toJson_inj)
      hProjects,
    ByName.toJson_inj (fun _ _ => TaskLibrary.toJson_inj)
      hLibraries,
    ByName.toJson_inj (fun _ _ => Deployment.toJson_inj)
      hDeployments,
    ByName.toJson_inj (fun _ _ => Typekit.toJson_inj)
      hTypekits,
    ByName.toJson_inj (fun _ _ => Json.string.inj) hModels,
    ByName.toJson_inj (fun _ _ => TypeEntry.toJson_inj)
      hTypes,
    ByName.toJson_inj (fun _ _ => Names.toJson_inj) hTasks]

end Componentry

------------------------------------------------------------
-- Proper Documents
------------------------------------------------------------

namespace Componentry

theorem Project.isProper_toJson (project : Project) :
    project.toJson.IsProper := by
  rw [toJson, Json.isProper_object_iff]
  simp [Json.isProper_string, Json.isProper_ofOption]

theorem TaskLibrary.isProper_toJson (library : TaskLibrary) :
    library.toJson.IsProper := by
  rw [toJson, Json.isProper_object_iff]
  simp [Json.isProper_string, Json.isProper_ofStrings]

theorem Deployment.isProper_toJson (deployment : Deployment) :
    deployment.toJson.IsProper := by
  rw [toJson, Json.isProper_object_iff]
  simp [Json.isProper_string, Json.isProper_ofStrings]

theorem Typekit.isProper_toJson (typekit : Typekit) :
    typekit.toJson.IsProper := by
  rw [toJson, Json.isProper_object_iff]
  simp [Json.isProper_string]

theorem TypeEntry.isProper_toJson (entry : TypeEntry) :
    entry.toJson.IsProper := by
  rw [toJson, Json.isProper_object_iff]
  simp [Json.isProper_string, Json.isProper_bool]

/- The object of a table is proper if its values are. -/
theorem ByName.isProper_toJson
    {α : Type}
    {encode : α → Json}
    (hEncode : ∀ value, (encode value).IsProper)
    (values : ByName α) :
    (ByName.toJson values encode).IsProper := by
  rw [ByName.toJson, Json.isProper_object_iff,
    List.forall_mem_map]
  intro field _
  exact hEncode field.2

theorem Names.isProper_toJson (names : Names) :
    (Names.toJson names).IsProper :=
  Json.isProper_ofStrings names.toList

/- No number stands in the document of a snapshot. -/
theorem Snapshot.isProper_toJson (snapshot : Snapshot) :
    snapshot.toJson.IsProper := by
  rw [toJson, Json.isProper_object_iff]
  simp [Json.isProper_string,
    ByName.isProper_toJson Project.isProper_toJson,
    ByName.isProper_toJson TaskLibrary.isProper_toJson,
    ByName.isProper_toJson Deployment.isProper_toJson,
    ByName.isProper_toJson Typekit.isProper_toJson,
    ByName.isProper_toJson Json.isProper_string,
    ByName.isProper_toJson TypeEntry.isProper_toJson,
    ByName.isProper_toJson Names.isProper_toJson]

end Componentry

------------------------------------------------------------
-- Fingerprints
------------------------------------------------------------

namespace Componentry

namespace Snapshot

/- The bytes that the fingerprint of a snapshot is made of. -/
def hashedBytes (snapshot : Snapshot) : List UInt8 :=
  Text.bytes snapshot.toJson.compact

theorem fingerprint_eq (snapshot : Snapshot) :
    snapshot.fingerprint = .ofBytes snapshot.hashedBytes := by
  rw [fingerprint, Fingerprint.ofJson, Fingerprint.ofText,
    hashedBytes, Text.bytes, String.toUTF8]

/- The same bytes are those of the same snapshot. -/
theorem hashedBytes_inj
    {first second : Snapshot}
    (hSame : first.hashedBytes = second.hashedBytes) :
    first = second := by
  have hTexts :
      first.toJson.compact = second.toJson.compact :=
    Text.bytes_inj hSame
  exact
    toJson_inj
      (Json.compact_inj first.isProper_toJson
        second.isProper_toJson hTexts)

/-
  Two snapshots are told apart by the bytes that are hashed
  for their fingerprints, and by the fingerprints themselves,
  unless the hash confuses these bytes.
-/
structure IsToldApart (first second : Snapshot) : Prop where
  hashed :
    first.fingerprint = .ofBytes first.hashedBytes ∧
      second.fingerprint = .ofBytes second.hashedBytes
  bytes :
    first.hashedBytes = second.hashedBytes ↔ first = second
  fingerprints :
    (Blake3.hash first.hashedBytes =
          Blake3.hash second.hashedBytes →
        first.hashedBytes = second.hashedBytes) →
      (first.fingerprint = second.fingerprint ↔
        first = second)

/- All snapshots are told apart. -/
theorem isToldApart (first second : Snapshot) :
    first.IsToldApart second where
  hashed := ⟨first.fingerprint_eq, second.fingerprint_eq⟩
  bytes := ⟨hashedBytes_inj, congrArg hashedBytes⟩
  fingerprints := by
    intro hNoCollision
    refine ⟨?_, congrArg fingerprint⟩
    intro hSame
    rw [fingerprint_eq, fingerprint_eq, Fingerprint.ofBytes,
      Fingerprint.ofBytes, Fingerprint.mk.injEq] at hSame
    exact hashedBytes_inj (hNoCollision hSame)

/- A snapshot of one project with or without a specification. -/
def bare (specPath : Option Path) : Snapshot :=
  { Snapshot.empty "gnulinux" with
    projects :=
      (∅ : ByName Project).insert "base"
        ⟨"base", "orogen-project-base", specPath, none⟩ }

/- No specification is not one with an empty path. -/
theorem bare_isToldApart :
    (bare none).IsToldApart (bare (some ⟨""⟩)) ∧
      (bare none).fingerprint ≠
        (bare (some ⟨""⟩)).fingerprint := by
  have hApart := isToldApart (bare none) (bare (some ⟨""⟩))
  have hHashes :
      Blake3.hash (bare none).hashedBytes ≠
        Blake3.hash (bare (some ⟨""⟩)).hashedBytes := by
    decide +kernel
  refine ⟨hApart, ?_⟩
  intro hSame
  have hSnapshots :=
    (hApart.fingerprints fun h => (hHashes h).elim).mp hSame
  exact hHashes (congrArg (Blake3.hash ·.hashedBytes) hSnapshots)

end Snapshot

end Componentry
