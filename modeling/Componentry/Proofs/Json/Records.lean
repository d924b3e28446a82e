import Mathlib.Data.List.Forall2
import Mathlib.Data.List.Nodup
import Componentry.Json.Fields

/-
  Objects that tell records.

  A record is told by its parts, each in a field of its own.
  A part may be left out where the reader supplies it, and
  fields that no part is known by may stand anywhere.  The
  reader of such an object finds every part in its field, or
  no such field where the part is left out.

  Main declarations:
    * `Json.Part`, `Json.Tells`, `Json.IsRecord`
    * `Json.Part.IsFound`
    * `Json.IsRecord.exists_knownFields`
    * `Json.required?_of_isFound`, `Json.optional?_of_isFound`
    * `Json.IsArrayOf`
-/

------------------------------------------------------------
-- Parts
------------------------------------------------------------

namespace Componentry

namespace Json

/-
  A part of a record: the name of its field, the documents
  that tell it, and whether it may be left out.
-/
structure Part where
  name : String
  told : Json → Prop
  mayMiss : Prop

/-
  The fields of an object tell the parts of a record in their
  order.  All fields that are not known are of no account.
-/
inductive Tells (known : List String) :
    List Part → List (String × Json) → Prop where
  | nothing : Tells known [] []
  | part
      {part : Part} {parts : List Part}
      {value : Json} {fields : List (String × Json)}
      (hTold : part.told value)
      (hRest : Tells known parts fields) :
      Tells known (part :: parts) ((part.name, value) :: fields)
  | leftOut
      {part : Part} {parts : List Part}
      {fields : List (String × Json)}
      (hMiss : part.mayMiss)
      (hRest : Tells known parts fields) :
      Tells known (part :: parts) fields
  | unknown
      {name : String} {value : Json} {parts : List Part}
      {fields : List (String × Json)}
      (hName : name ∉ known)
      (hRest : Tells known parts fields) :
      Tells known parts ((name, value) :: fields)

/- An object tells a record by its parts. -/
def IsRecord
    (parts : List Part)
    (document : Json) :
    Prop :=
  ∃ fields,
    document = .object fields ∧
      Tells (parts.map (·.name)) parts fields

/- An array tells values, each by an item. -/
def IsArrayOf
    {α : Type}
    (told : α → Json → Prop)
    (values : List α)
    (document : Json) :
    Prop :=
  ∃ items,
    document = .array items ∧ List.Forall₂ told values items

end Json

end Componentry

------------------------------------------------------------
-- Known Fields
------------------------------------------------------------

namespace Componentry

namespace Json

variable {known : List String} {part : Part}
variable {parts : List Part} {fields : List (String × Json)}

/- The field of a part is there, or the part is left out. -/
inductive Part.IsFound
    (part : Part)
    (fields : List (String × Json)) : Prop where
  | told
      (value : Json)
      (hField : fields.lookup part.name = some value)
      (hTold : part.told value)
  | leftOut
      (hField : fields.lookup part.name = none)
      (hMiss : part.mayMiss)

/- Another field does not matter to a part. -/
theorem Part.IsFound.cons
    {name : String}
    {value : Json}
    (hFound : part.IsFound fields)
    (hName : part.name ≠ name) :
    part.IsFound ((name, value) :: fields) := by
  have hSame :
      ((name, value) :: fields).lookup part.name =
        fields.lookup part.name := by
    rw [List.lookup_cons, beq_eq_false_iff_ne.mpr hName]
  cases hFound with
  | told found hField hTold =>
      exact .told found (hSame.trans hField) hTold
  | leftOut hField hMiss =>
      exact .leftOut (hSame.trans hField) hMiss

/- The known fields are those of parts, in their order. -/
theorem Tells.names_sublist
    (hTells : Tells known parts fields)
    (hKnown : ∀ part ∈ parts, part.name ∈ known) :
    ((fields.filter (known.contains ·.1)).map (·.1)).Sublist
      (parts.map (·.name)) := by
  induction hTells with
  | nothing => exact List.Sublist.slnil
  | part hTold hRest ih =>
      rw [List.forall_mem_cons] at hKnown
      rw [List.filter_cons_of_pos (by simpa using hKnown.1)]
      exact (ih hKnown.2).cons_cons _
  | leftOut hMiss hRest ih =>
      rw [List.forall_mem_cons] at hKnown
      exact (ih hKnown.2).cons _
  | unknown hName hRest ih =>
      rw [List.filter_cons_of_neg (by simpa using hName)]
      exact ih hKnown

/- Every part is found in the known fields. -/
theorem Tells.isFound
    (hTells : Tells known parts fields)
    (hKnown : ∀ part ∈ parts, part.name ∈ known)
    (hNodup : (parts.map (·.name)).Nodup) :
    ∀ part ∈ parts,
      part.IsFound (fields.filter (known.contains ·.1)) := by
  induction hTells with
  | nothing =>
      intro part hPart
      cases hPart
  | @part first parts value fields hTold hRest ih =>
      rw [List.forall_mem_cons] at hKnown
      rw [List.map_cons, List.nodup_cons] at hNodup
      rw [List.filter_cons_of_pos (by simpa using hKnown.1),
        List.forall_mem_cons]
      refine ⟨.told value ?_ hTold, ?_⟩
      · rw [List.lookup_cons_self]
      · intro part hPart
        refine (ih hKnown.2 hNodup.2 part hPart).cons ?_
        intro hSame
        exact hNodup.1 (hSame ▸ List.mem_map_of_mem hPart)
  | @leftOut first parts fields hMiss hRest ih =>
      rw [List.forall_mem_cons] at hKnown
      rw [List.map_cons, List.nodup_cons] at hNodup
      rw [List.forall_mem_cons]
      refine ⟨.leftOut ?_ hMiss, ih hKnown.2 hNodup.2⟩
      rw [List.lookup_eq_none_iff]
      intro field hField
      rw [bne_iff_ne]
      rintro hSame
      have hName := List.mem_map_of_mem (f := (·.1)) hField
      exact
        hNodup.1
          (hSame ▸ (hRest.names_sublist hKnown.2).mem hName)
  | unknown hName hRest ih =>
      rw [List.filter_cons_of_neg (by simpa using hName)]
      exact ih hKnown hNodup

/-
  The reader of a record admits the object that tells it and
  finds every part.
-/
theorem IsRecord.exists_knownFields
    {document : Json}
    (hRecord : IsRecord parts document)
    (hNodup : (parts.map (·.name)).Nodup) :
    ∃ found,
      document.knownFields? (parts.map (·.name)) = some found ∧
        ∀ part ∈ parts, part.IsFound found := by
  rcases hRecord with ⟨fields, rfl, hTells⟩
  have hKnown :
      ∀ part ∈ parts, part.name ∈ parts.map (·.name) := by
    intro part hPart
    exact List.mem_map_of_mem hPart
  refine ⟨_, ?_, hTells.isFound hKnown hNodup⟩
  rw [knownFields?, if_pos]
  exact hNodup.sublist (hTells.names_sublist hKnown)

end Json

end Componentry

------------------------------------------------------------
-- Reading Parts
------------------------------------------------------------

namespace Componentry

namespace Json

variable {α : Type} {read : Json → Option α} {value : α}
variable {part : Part} {fields : List (String × Json)}

/- A part that must be there is read from its field. -/
theorem required?_of_isFound
    (hFound : part.IsFound fields)
    (hNeeded : ¬ part.mayMiss)
    (hRead :
      ∀ document, part.told document →
        read document = some value) :
    required? read fields part.name = some value := by
  cases hFound with
  | told document hField hTold =>
      rw [required?, hField, Option.bind_some,
        hRead document hTold]
  | leftOut hField hMiss => exact (hNeeded hMiss).elim

/- A part that may be left out is read or supplied. -/
theorem optional?_of_isFound
    {absent : α}
    (hFound : part.IsFound fields)
    (hAbsent : part.mayMiss → absent = value)
    (hRead :
      ∀ document, part.told document →
        read document = some value) :
    optional? read absent fields part.name = some value := by
  cases hFound with
  | told document hField hTold =>
      simp only [optional?, hField]
      exact hRead document hTold
  | leftOut hField hMiss =>
      simp only [optional?, hField]
      rw [hAbsent hMiss]

/- An array is read if every item is. -/
theorem list?_of_isArrayOf
    {told : α → Json → Prop}
    {values : List α}
    {document : Json}
    (hArray : IsArrayOf told values document)
    (hRead :
      ∀ value document, told value document →
        read document = some value) :
    list? read document = some values := by
  rcases hArray with ⟨items, rfl, hItems⟩
  rw [list?, items?, Option.bind_some]
  induction hItems with
  | nil => rfl
  | cons hTold hRest ih =>
      rw [List.mapM_cons, hRead _ _ hTold, ih]
      rfl

/- An array of texts is read as these texts. -/
theorem texts?_ofStrings (texts : List String) :
    texts? (ofStrings texts) = some texts := by
  rw [texts?, ofStrings, items?, Option.bind_some]
  induction texts with
  | nil => rfl
  | cons text texts ih =>
      rw [List.map_cons, List.mapM_cons, ih]
      rfl

end Json

end Componentry
