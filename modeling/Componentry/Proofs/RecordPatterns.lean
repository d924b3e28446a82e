import Mathlib.Computability.Language
import Componentry.Proofs.RecordNames

/-
  The patterns of record names.

  Every class has a pattern: the text that stands at the start
  or at the end of its records, and for deployments a word
  behind it.  The characters of namespace and target stand for
  themselves, whatever they mean in patterns elsewhere.  A
  pattern is found in exactly the names that its class
  selects, so searching and cutting the affixes off agree on
  every text.

  Main declarations:
    * `Pattern`, `Pattern.language`
    * `Naming.pattern`
    * `Naming.selects_iff_mem_language`
    * `Naming.NamesInversely`, `Naming.namesInversely`
-/

------------------------------------------------------------
-- Patterns
------------------------------------------------------------

namespace Componentry

/- What a pattern asks for next. -/
inductive PatternPart where
  -- This character and no other.
  | letter (c : Char)
  -- Word characters, at least one.
  | word
deriving DecidableEq, Repr

/- Parts in order, bound to the ends of a text or not. -/
structure Pattern where
  fromStart : Bool
  parts : List PatternPart
  toEnd : Bool
deriving DecidableEq, Repr

/- The texts that fit a part. -/
def PatternPart.language : PatternPart → Language Char
  | letter c => {[c]}
  | word =>
      {run | run ≠ [] ∧ ∀ c ∈ run, Text.isWordChar c = true}

namespace Pattern

/- The parts that ask for a given text. -/
def literal (text : List Char) : List PatternPart :=
  text.map .letter

/- The texts that fit parts, one behind the other. -/
def fitting (parts : List PatternPart) : Language Char :=
  (parts.map PatternPart.language).prod

/- What may stand outside of the parts. -/
def margin (bound : Bool) : Language Char :=
  if bound then 1 else ⊤

/- The texts that a pattern is found in. -/
def language (pattern : Pattern) : Language Char :=
  margin pattern.fromStart * fitting pattern.parts
    * margin pattern.toEnd

end Pattern

/- The pattern of the records of a class. -/
def Naming.pattern
    (naming : Naming)
    (group : RecordClass) :
    Pattern :=
  match group with
  | .project =>
      ⟨true,
        Pattern.literal
          (naming.space.toList ++ "-project-".toList),
        false⟩
  | .taskLibrary =>
      ⟨false,
        Pattern.literal
          ("-tasks-".toList ++ naming.target.toList),
        true⟩
  | .deployment =>
      ⟨true,
        Pattern.literal (naming.space.toList ++ ['-']) ++ [.word],
        true⟩
  | .typekit =>
      ⟨false,
        Pattern.literal
          ("-typekit-".toList ++ naming.target.toList),
        true⟩

end Componentry

------------------------------------------------------------
-- What Fits a Pattern
------------------------------------------------------------

namespace Componentry

namespace Pattern

variable {parts : List PatternPart}
variable {text cs : List Char}

theorem fitting_append
    (parts others : List PatternPart) :
    fitting (parts ++ others) =
      fitting parts * fitting others := by
  rw [fitting, List.map_append, List.prod_append]
  rfl

/- Only the text itself fits the parts that ask for it. -/
theorem mem_fitting_literal :
    cs ∈ fitting (literal text) ↔ cs = text := by
  induction text generalizing cs with
  | nil => exact Language.mem_one cs
  | cons c text ih =>
      have hParts :
          fitting (literal (c :: text)) =
            PatternPart.language (.letter c) *
              fitting (literal text) :=
        List.prod_cons
      rw [hParts, Language.mem_mul]
      constructor
      · rintro ⟨_, rfl, rest, hRest, rfl⟩
        rw [ih.mp hRest]
        rfl
      · rintro rfl
        exact ⟨[c], rfl, text, ih.mpr rfl, rfl⟩

/- A word fits the part that asks for one. -/
theorem mem_fitting_word :
    cs ∈ fitting [.word] ↔
      cs ≠ [] ∧ ∀ c ∈ cs, Text.isWordChar c = true := by
  rw [fitting, List.map_singleton, List.prod_singleton]
  rfl

/- A pattern that is bound to the start is found there. -/
theorem mem_language_fromStart :
    cs ∈ language ⟨true, parts, false⟩ ↔
      ∃ before ∈ fitting parts, ∃ part, cs = before ++ part := by
  rw [language, margin, if_pos rfl, one_mul, Language.mem_mul]
  constructor
  · rintro ⟨before, hBefore, part, -, hText⟩
    exact ⟨before, hBefore, part, hText.symm⟩
  · rintro ⟨before, hBefore, part, hText⟩
    exact ⟨before, hBefore, part, trivial, hText.symm⟩

/- A pattern that is bound to the end is found there. -/
theorem mem_language_toEnd :
    cs ∈ language ⟨false, parts, true⟩ ↔
      ∃ behind ∈ fitting parts, ∃ part, cs = part ++ behind := by
  rw [language, margin, margin, if_pos rfl, mul_one,
    Language.mem_mul]
  constructor
  · rintro ⟨part, -, behind, hBehind, hText⟩
    exact ⟨behind, hBehind, part, hText.symm⟩
  · rintro ⟨behind, hBehind, part, hText⟩
    exact ⟨part, trivial, behind, hBehind, hText.symm⟩

/- A pattern that is bound to both ends is the whole text. -/
theorem mem_language_whole :
    cs ∈ language ⟨true, parts, true⟩ ↔ cs ∈ fitting parts := by
  rw [language, margin, if_pos rfl, one_mul, mul_one]

end Pattern

end Componentry

------------------------------------------------------------
-- Records That Patterns Are Found In
------------------------------------------------------------

namespace Componentry

namespace Naming

variable {naming : Naming} {group : RecordClass}
variable {record : String}

/- A record of a class is a part between the affixes. -/
theorem selects_iff :
    naming.selects group record = true ↔
      ∃ part,
        record.toList =
            naming.lead group ++ part ++ naming.ending group ∧
          admits group part = true := by
  rw [selects, Option.any_eq_true]
  simp only [entityPart?_eq_some_iff]

/- The records of a class are those its pattern is found in. -/
theorem selects_iff_mem_language
    (naming : Naming)
    (group : RecordClass)
    (record : String) :
    naming.selects group record = true ↔
      record.toList ∈ (naming.pattern group).language := by
  rw [selects_iff]
  cases group with
  | project =>
      have hAffixes (part : List Char) :
          naming.lead .project ++ part
              ++ naming.ending .project =
            naming.space.toList ++ "-project-".toList
              ++ part :=
        List.append_nil _
      simp only [pattern, Pattern.mem_language_fromStart,
        Pattern.mem_fitting_literal, exists_eq_left,
        hAffixes, admits, and_true]
  | taskLibrary =>
      have hAffixes (part : List Char) :
          naming.lead .taskLibrary ++ part
              ++ naming.ending .taskLibrary =
            part ++ ("-tasks-".toList ++ naming.target.toList) :=
        rfl
      simp only [pattern, Pattern.mem_language_toEnd,
        Pattern.mem_fitting_literal, exists_eq_left,
        hAffixes, admits, and_true]
  | typekit =>
      have hAffixes (part : List Char) :
          naming.lead .typekit ++ part
              ++ naming.ending .typekit =
            part
              ++ ("-typekit-".toList ++ naming.target.toList) :=
        rfl
      simp only [pattern, Pattern.mem_language_toEnd,
        Pattern.mem_fitting_literal, exists_eq_left,
        hAffixes, admits, and_true]
  | deployment =>
      have hAffixes (part : List Char) :
          naming.lead .deployment ++ part
              ++ naming.ending .deployment =
            naming.space.toList ++ ['-'] ++ part :=
        List.append_nil _
      simp only [pattern, Pattern.mem_language_whole,
        Pattern.fitting_append, Language.mem_mul,
        Pattern.mem_fitting_literal, Pattern.mem_fitting_word,
        exists_eq_left, hAffixes, admits, Bool.and_eq_true,
        Bool.not_eq_true', List.isEmpty_eq_false_iff,
        List.all_eq_true]
      constructor
      · rintro ⟨part, hText, hWord⟩
        exact ⟨part, hWord, hText.symm⟩
      · rintro ⟨part, hWord, hText⟩
        exact ⟨part, hText.symm, hWord⟩

end Naming

end Componentry

------------------------------------------------------------
-- Record Names and Entity Names
------------------------------------------------------------

namespace Componentry

namespace Naming

variable {naming : Naming} {group : RecordClass}
variable {record other : String}

/-
  A record of a class tells no entity only if nothing stands
  between its affixes; a deployment's word is never empty.
-/
theorem nameless_iff :
    naming.selects group record = true ∧
        naming.entityName? group record = none ↔
      group ≠ .deployment ∧
        record = naming.recordName group "" := by
  have hEmpty :
      naming.entityPart? group record = some [] ↔
        record = naming.recordName group "" := by
    rw [entityPart?_eq_some_iff, recordName,
      ← String.toList_inj, String.toList_ofList,
      String.toList_empty]
  have hAdmits :
      admits group [] = true ↔ group ≠ .deployment := by
    cases group <;> decide
  rw [← hEmpty, ← hAdmits]
  unfold selects entityName?
  cases naming.entityPart? group record with
  | none => simp
  | some part =>
      cases part with
      | nil => simp
      | cons c part => simp

/-
  How record names and entity names of a class are related.
  The records are those that the pattern is found in; they
  tell exactly the legal names that they are made of, so no
  two of them tell the same, and only one without an entity
  part tells none.
-/
structure NamesInversely
    (naming : Naming)
    (group : RecordClass) : Prop where
  found :
    ∀ record : String,
      naming.selects group record = true ↔
        record.toList ∈ (naming.pattern group).language
  told :
    ∀ record entity : String,
      naming.entityName? group record = some entity ↔
        record = naming.recordName group entity ∧
          entity ≠ "" ∧
            (group = .deployment →
              ∀ c ∈ entity.toList, Text.isWordChar c = true)
  distinct :
    ∀ record other : String,
      naming.selects group record = true →
        naming.selects group other = true →
          naming.entityName? group record =
              naming.entityName? group other →
            record = other
  undone :
    ∀ entity : String,
      naming.entityName? group
            (naming.recordName group entity) =
          some entity ↔
        IsEntityName group entity
  nameless :
    ∀ record : String,
      naming.selects group record = true ∧
          naming.entityName? group record = none ↔
        group ≠ .deployment ∧
          record = naming.recordName group ""

theorem namesInversely
    (naming : Naming)
    (group : RecordClass) :
    naming.NamesInversely group := by
  refine
    { found := naming.selects_iff_mem_language group
      told := fun _ _ => entityName?_eq_some_iff
      distinct := ?_
      undone := ?_
      nameless := fun _ => nameless_iff }
  · intro record other hRecord hOther hSame
    cases hName : naming.entityName? group record with
    | some entity =>
        exact entityName?_injective hName (hSame ▸ hName)
    | none =>
        rw [hName] at hSame
        rw [(nameless_iff.mp ⟨hRecord, hName⟩).2,
          (nameless_iff.mp ⟨hOther, hSame.symm⟩).2]
  · intro entity
    rw [entityName?_eq_some_iff]
    exact and_iff_right rfl

end Naming

end Componentry
