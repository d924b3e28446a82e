import Componentry.Naming

/-
  Record names and entity names.

  For each class the record name of an entity and the entity
  name of a record undo each other on the legal names: those
  that are not empty and, for deployments, are words.

  Main declarations:
    * `IsEntityName`
    * `Naming.entityPart?_eq_some_iff`
    * `Naming.entityName?_eq_some_iff`
    * `Naming.entityName?_injective`
-/

------------------------------------------------------------
-- Legal Entity Names
------------------------------------------------------------

namespace Componentry

/- The names that entities of a class may have. -/
def IsEntityName
    (group : RecordClass)
    (name : String) : Prop :=
  name ≠ "" ∧
    (group = .deployment →
      ∀ c ∈ name.toList, Text.isWordChar c = true)

/- The legal names are those that their class admits. -/
theorem isEntityName_ofList_iff
    (group : RecordClass)
    (part : List Char) :
    IsEntityName group (String.ofList part) ↔
      part ≠ [] ∧ Naming.admits group part = true := by
  have hEmpty : String.ofList part ≠ "" ↔ part ≠ [] := by
    rw [ne_eq, ne_eq, ← String.toList_inj,
      String.toList_ofList, String.toList_empty]
  unfold IsEntityName
  rw [hEmpty, String.toList_ofList]
  cases group <;> simp [Naming.admits]

instance
    (group : RecordClass)
    (name : String) :
    Decidable (IsEntityName group name) :=
  decidable_of_iff
    ((!name.toList.isEmpty
      && Naming.admits group name.toList) = true)
    (by
      rw [← String.ofList_toList (s := name),
        isEntityName_ofList_iff]
      simp)

end Componentry

------------------------------------------------------------
-- Reading and Writing Record Names
------------------------------------------------------------

namespace Componentry

namespace Naming

variable {naming : Naming} {group : RecordClass}
variable {record : String}

/- The part of a name stands between the affixes. -/
theorem entityPart?_eq_some_iff
    {part : List Char} :
    naming.entityPart? group record = some part ↔
      record.toList =
        naming.lead group ++ part ++ naming.ending group := by
  simp only [entityPart?, Option.bind_eq_some_iff,
    Text.stripPrefix?_eq_some_iff,
    Text.stripSuffix?_eq_some_iff]
  constructor
  · rintro ⟨rest, hRecord, rfl⟩
    rw [hRecord, List.append_assoc]
  · intro hRecord
    exact
      ⟨part ++ naming.ending group, by
        rw [hRecord, List.append_assoc], rfl⟩

/- The part of an entity's record name is its name. -/
theorem entityPart?_recordName
    (entity : String) :
    naming.entityPart? group
        (naming.recordName group entity) =
      some entity.toList := by
  rw [entityPart?_eq_some_iff, recordName,
    String.toList_ofList]

/-
  A record tells an entity exactly if it is the record of
  that entity and the entity's name is legal.
-/
theorem entityName?_eq_some_iff
    {entity : String} :
    naming.entityName? group record = some entity ↔
      record = naming.recordName group entity ∧
        IsEntityName group entity := by
  constructor
  · intro hName
    unfold entityName? at hName
    cases hPart : naming.entityPart? group record with
    | none => simp [hPart] at hName
    | some part =>
        simp only [hPart, Option.ite_none_right_eq_some,
          Bool.and_eq_true, Bool.not_eq_true',
          List.isEmpty_eq_false_iff,
          Option.some.injEq] at hName
        rcases hName with ⟨⟨hAdmits, hPartNe⟩, rfl⟩
        refine
          ⟨?_, (isEntityName_ofList_iff group part).mpr
            ⟨hPartNe, hAdmits⟩⟩
        rw [← String.toList_inj, recordName,
          String.toList_ofList, String.toList_ofList]
        exact entityPart?_eq_some_iff.mp hPart
  · rintro ⟨rfl, hLegal⟩
    rw [← String.ofList_toList (s := entity),
      isEntityName_ofList_iff] at hLegal
    rcases hLegal with ⟨hPartNe, hAdmits⟩
    simp [entityName?, entityPart?_recordName, hAdmits,
      hPartNe]

/- Records of one class tell different entities. -/
theorem entityName?_injective
    {other entity : String}
    (hRecord : naming.entityName? group record = some entity)
    (hOther : naming.entityName? group other = some entity) :
    record = other := by
  rw [(entityName?_eq_some_iff.mp hRecord).1,
    (entityName?_eq_some_iff.mp hOther).1]

/- A record that tells an entity is one of its class. -/
theorem selects_of_entityName?
    {entity : String}
    (hName : naming.entityName? group record = some entity) :
    naming.selects group record = true := by
  unfold entityName? at hName
  unfold selects
  cases hPart : naming.entityPart? group record with
  | none => simp [hPart] at hName
  | some part =>
      simp only [hPart, Option.ite_none_right_eq_some,
        Bool.and_eq_true] at hName
      exact hName.1.1

end Naming

end Componentry
