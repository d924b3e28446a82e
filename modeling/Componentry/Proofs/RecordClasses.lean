import Componentry.Proofs.RecordPatterns

/-
  Records of more than one class.

  The classes of a record are told apart by hyphens: a
  deployment's record has one and all others have two, and a
  task library and a typekit end differently.  Only a record
  that starts like a project's may end like one of a task
  library or of a typekit; it then has both classes.

  Main declarations:
    * `Naming.classesOf`, `RecordClass.combinations`
    * `Naming.count_hyphen_deployment`
    * `Naming.classesOf_mem_combinations`
    * `Naming.selects_project_recordName_iff`
    * `Naming.classesOf_recordName`
-/

------------------------------------------------------------
-- Classes of a Record
------------------------------------------------------------

namespace Componentry

/- The classes of a record, in their order. -/
def Naming.classesOf
    (naming : Naming)
    (record : String) :
    List RecordClass :=
  RecordClass.all.filter (naming.selects · record)

theorem Naming.mem_classesOf
    {naming : Naming}
    {group : RecordClass}
    {record : String} :
    group ∈ naming.classesOf record ↔
      naming.selects group record = true := by
  rw [classesOf, List.mem_filter]
  exact and_iff_right (by cases group <;> decide)

namespace RecordClass

/- The classes that one record can have. -/
def combinations : List (List RecordClass) :=
  [[], [.project], [.taskLibrary], [.deployment], [.typekit],
   [.project, .taskLibrary], [.project, .typekit]]

/- Its records can be records of projects as well. -/
def IsShared (group : RecordClass) : Prop :=
  group = .taskLibrary ∨ group = .typekit

end RecordClass

end Componentry

------------------------------------------------------------
-- Hyphens
------------------------------------------------------------

namespace Componentry

namespace Naming

variable {naming : Naming} {group : RecordClass}
variable {record : String} {part : List Char}

/- A namespace has no hyphen. -/
theorem hyphen_not_mem_space
    (naming : Naming) :
    '-' ∉ naming.space.toList := by
  intro hHyphen
  have hValid := naming.space_valid
  rw [isNamespace, Bool.and_eq_true, List.all_eq_true]
    at hValid
  have hOther := hValid.2 '-' hHyphen
  revert hOther
  decide +kernel

/- Nor has a word. -/
theorem hyphen_not_mem_of_admits
    (hWord : admits .deployment part = true) :
    '-' ∉ part := by
  intro hHyphen
  rw [admits, Bool.and_eq_true, List.all_eq_true] at hWord
  have hOther := hWord.2 '-' hHyphen
  revert hOther
  decide +kernel

/- So a deployment's record has the one between them. -/
theorem count_hyphen_deployment
    (hSelected : naming.selects .deployment record = true) :
    record.toList.count '-' = 1 := by
  rcases selects_iff.mp hSelected with ⟨part, hText, hWord⟩
  have hRecord :
      record.toList = naming.space.toList ++ '-' :: part := by
    rw [hText]
    exact (List.append_nil _).trans (List.append_assoc _ _ _)
  rw [hRecord, List.count_append, List.count_cons_self,
    List.count_eq_zero.mpr naming.hyphen_not_mem_space,
    List.count_eq_zero.mpr (hyphen_not_mem_of_admits hWord)]

/- All other affixes have two already. -/
theorem two_le_count_hyphen_affixes
    (naming : Naming)
    (hOther : group ≠ .deployment) :
    2 ≤ (naming.lead group).count '-'
      + (naming.ending group).count '-' := by
  have hFixed :
      2 ≤ "-project-".toList.count '-' ∧
        2 ≤ "-tasks-".toList.count '-' ∧
        2 ≤ "-typekit-".toList.count '-' := by
    decide
  cases group with
  | project =>
      have hLead : (naming.lead .project).count '-' = _ :=
        List.count_append
      omega
  | taskLibrary =>
      have hEnding :
          (naming.ending .taskLibrary).count '-' = _ :=
        List.count_append
      omega
  | deployment => exact absurd rfl hOther
  | typekit =>
      have hEnding : (naming.ending .typekit).count '-' = _ :=
        List.count_append
      omega

theorem two_le_count_hyphen
    (hSelected : naming.selects group record = true)
    (hOther : group ≠ .deployment) :
    2 ≤ record.toList.count '-' := by
  rcases selects_iff.mp hSelected with ⟨part, hText, -⟩
  have hAffixes := two_le_count_hyphen_affixes naming hOther
  rw [hText, List.count_append, List.count_append]
  omega

end Naming

end Componentry

------------------------------------------------------------
-- Classes That Exclude Each Other
------------------------------------------------------------

namespace Componentry

namespace Naming

variable {naming : Naming} {record : String}

/- A deployment's record is of no other class. -/
theorem eq_deployment_of_selects
    {group : RecordClass}
    (hDeployment : naming.selects .deployment record = true)
    (hSelected : naming.selects group record = true) :
    group = .deployment := by
  by_contra hOther
  have hOne := count_hyphen_deployment hDeployment
  have hTwo := two_le_count_hyphen hSelected hOther
  omega

/-
  No record is one of a task library and of a typekit: what
  stands in front of the target would end in two ways.
-/
theorem not_taskLibrary_and_typekit
    (hLibrary : naming.selects .taskLibrary record = true) :
    naming.selects .typekit record = false := by
  rw [← Bool.not_eq_true]
  intro hTypekit
  rcases selects_iff.mp hLibrary with ⟨first, hFirst, -⟩
  rcases selects_iff.mp hTypekit with ⟨second, hSecond, -⟩
  have hTexts :
      (first ++ "-tasks-".toList) ++ naming.target.toList =
        (second ++ "-typekit-".toList)
          ++ naming.target.toList := by
    rw [List.append_assoc, List.append_assoc]
    exact hFirst.symm.trans hSecond
  have hEnds :=
    congrArg List.reverse (List.append_cancel_right hTexts)
  rw [List.reverse_append, List.reverse_append] at hEnds
  simp at hEnds

/- So these are all the classes that a record can have. -/
theorem classesOf_mem_combinations
    (naming : Naming)
    (record : String) :
    naming.classesOf record ∈ RecordClass.combinations := by
  have hApart :
      naming.selects .taskLibrary record = true →
        naming.selects .typekit record = false :=
    not_taskLibrary_and_typekit
  unfold classesOf RecordClass.all
  cases hDeployment : naming.selects .deployment record with
  | true =>
      have hNone
          (group : RecordClass)
          (hOther : group ≠ .deployment) :
          naming.selects group record = false := by
        rw [← Bool.not_eq_true]
        exact fun hSelected =>
          hOther (eq_deployment_of_selects hDeployment hSelected)
      have hFirst := hNone .project (by decide)
      have hSecond := hNone .taskLibrary (by decide)
      have hLast := hNone .typekit (by decide)
      simp [List.filter, hDeployment, hFirst, hSecond, hLast,
        RecordClass.combinations]
  | false =>
      cases hProject : naming.selects .project record <;>
        cases hLibrary : naming.selects .taskLibrary record <;>
          cases hTypekit : naming.selects .typekit record <;>
            simp_all [List.filter, RecordClass.combinations]

end Naming

end Componentry

------------------------------------------------------------
-- Records That Are Shared
------------------------------------------------------------

namespace Componentry

namespace Naming

variable {naming : Naming} {group : RecordClass}
variable {record entity : String}

/- A record is one of a project if it starts like one. -/
theorem selects_project_iff :
    naming.selects .project record = true ↔
      naming.lead .project <+: record.toList := by
  rw [selects_iff]
  constructor
  · rintro ⟨part, hText, -⟩
    rw [hText, List.append_assoc]
    exact List.prefix_append _ _
  · rintro ⟨part, hText⟩
    exact ⟨part, hText ▸ (List.append_nil _).symm, rfl⟩

/- The record of a legal name is of the class it is made for. -/
theorem selects_recordName
    (hAdmits : admits group entity.toList = true) :
    naming.selects group (naming.recordName group entity) =
      true := by
  rw [selects_iff]
  exact ⟨entity.toList, String.toList_ofList, hAdmits⟩

/- The endings of shared records start with the same letters. -/
theorem exists_ending_of_isShared
    (naming : Naming)
    (hShared : group.IsShared) :
    ∃ rest, naming.ending group = '-' :: 't' :: rest := by
  rcases hShared with rfl | rfl
  · exact ⟨"asks-".toList ++ naming.target.toList, rfl⟩
  · exact ⟨"ypekit-".toList ++ naming.target.toList, rfl⟩

/- The start of a project's record does not have them. -/
theorem lead_project_ne
    (before rest : List Char) :
    before ++ '-' :: 't' :: rest ≠ naming.lead .project := by
  intro hText
  have hFixed : ¬ ['-', 't'] <:+: "-project-".toList := by
    decide
  rcases List.append_eq_append_iff.mp hText with
    ⟨between, hSpace, hLetters⟩ | ⟨between, -, hFound⟩
  · cases between with
    | nil => exact hFixed ⟨[], rest, hLetters⟩
    | cons c between =>
        -- The hyphen would stand in the namespace.
        apply naming.hyphen_not_mem_space
        rw [hSpace, (List.cons.inj hLetters).1]
        exact
          List.mem_append_right _ List.mem_cons_self
  · refine hFixed ⟨between, rest, ?_⟩
    rw [hFound, List.append_assoc]
    rfl

/-
  The record of a task library or of a typekit is one of a
  project as well exactly if the entity's name, with the
  hyphen behind it, starts like a project's record.
-/
theorem selects_project_recordName_iff
    (hShared : group.IsShared) :
    naming.selects .project
          (naming.recordName group entity) =
        true ↔
      naming.lead .project <+: entity.toList ++ ['-'] := by
  rcases exists_ending_of_isShared naming hShared with
    ⟨rest, hEnding⟩
  have hLead : naming.lead group = [] := by
    rcases hShared with rfl | rfl <;> rfl
  have hText :
      (naming.recordName group entity).toList =
        entity.toList ++ '-' :: 't' :: rest := by
    rw [recordName, String.toList_ofList, hLead, hEnding]
    rfl
  have hShort :
      entity.toList ++ ['-'] <+:
        entity.toList ++ '-' :: 't' :: rest :=
    (List.prefix_append_right_inj _).mpr ⟨'t' :: rest, rfl⟩
  rw [selects_project_iff, hText]
  constructor
  · intro hPrefix
    refine List.prefix_of_prefix_length_le hPrefix hShort ?_
    by_contra hLong
    have hLonger :
        entity.toList ++ ['-', 't'] <+:
          entity.toList ++ '-' :: 't' :: rest :=
      (List.prefix_append_right_inj _).mpr ⟨rest, rfl⟩
    have hLength :
        (entity.toList ++ ['-', 't']).length ≤
          (naming.lead .project).length := by
      rw [List.length_append] at hLong ⊢
      exact Nat.not_le.mp hLong
    rcases
      List.prefix_of_prefix_length_le hLonger hPrefix hLength
      with ⟨behind, hFound⟩
    rw [List.append_assoc] at hFound
    exact lead_project_ne entity.toList behind hFound
  · intro hPrefix
    exact hPrefix.trans hShort

/- Such a record has the two classes and no other. -/
theorem classesOf_recordName
    (hShared : group.IsShared)
    (hPrefix :
      naming.lead .project <+: entity.toList ++ ['-']) :
    naming.classesOf (naming.recordName group entity) =
      [.project, group] := by
  have hAdmits : admits group entity.toList = true := by
    rcases hShared with rfl | rfl <;> rfl
  have hGroup :
      group ∈
        naming.classesOf (naming.recordName group entity) :=
    mem_classesOf.mpr (selects_recordName hAdmits)
  have hProject :
      .project ∈
        naming.classesOf (naming.recordName group entity) :=
    mem_classesOf.mpr
      ((selects_project_recordName_iff hShared).mpr hPrefix)
  have hOnly :
      ∀ groups ∈ RecordClass.combinations,
        .project ∈ groups →
          (.taskLibrary ∈ groups →
              groups = [.project, .taskLibrary]) ∧
            (.typekit ∈ groups →
              groups = [.project, .typekit]) := by
    decide
  have hFound :=
    hOnly _ (naming.classesOf_mem_combinations _) hProject
  rcases hShared with rfl | rfl
  · exact hFound.1 hGroup
  · exact hFound.2 hGroup

end Naming

end Componentry
