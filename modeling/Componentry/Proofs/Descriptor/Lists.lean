import Componentry.Descriptor.Basic
import Componentry.Proofs.Text.Lines

/-
  Lists in the fields of descriptors.

  A text spells items by three rules: white space spells none,
  an item with white space around it spells itself, and texts
  with a comma between them spell the items of both.  So items
  may be joined by any number of commas with any white space
  around each of them.  Every text spells exactly the items
  that are read from it.  White space around the whole text
  spells nothing, hence trimming the field first takes no item
  away.

  Main declarations:
    * `Descriptor.IsItem`, `Descriptor.SpellsItems`
    * `Descriptor.items_append`
    * `Descriptor.spellsItems_iff`
    * `Descriptor.items_trimmed`
    * `Descriptor.spellsItems_intercalate`
    * `Descriptor.list_of_field`
    * `Descriptor.KeepsItems`, `Descriptor.list_keepsItems`
-/

------------------------------------------------------------
-- Spellings of Lists
------------------------------------------------------------

namespace Componentry

namespace Descriptor

/- The texts that can be items of a list. -/
structure IsItem (item : String) : Prop where
  some : item ≠ ""
  uncut : ',' ∉ item.toList
  trimmed : Text.IsTrimmed item.toList

/- A text spells items, in order. -/
inductive SpellsItems : List Char → List String → Prop where
  | blank
      {text : List Char}
      (hBlank : ∀ c ∈ text, Text.isBlank c = true) :
      SpellsItems text []
  | item
      {before behind : List Char}
      {item : String}
      (hItem : IsItem item)
      (hBefore : ∀ c ∈ before, Text.isBlank c = true)
      (hBehind : ∀ c ∈ behind, Text.isBlank c = true) :
      SpellsItems (before ++ item.toList ++ behind) [item]
  | comma
      {first second : List Char}
      {found others : List String}
      (hFirst : SpellsItems first found)
      (hSecond : SpellsItems second others) :
      SpellsItems (first ++ ',' :: second) (found ++ others)

end Descriptor

end Componentry

------------------------------------------------------------
-- Reading Items
------------------------------------------------------------

namespace Componentry

namespace Descriptor

variable {text blank : List Char}
variable {found : List String}

/- The items of texts with a comma between them. -/
theorem items_append
    (first second : List Char) :
    items (String.ofList (first ++ ',' :: second)) =
      items (String.ofList first) ++
        items (String.ofList second) := by
  simp only [items, String.toList_ofList]
  rw [Text.pieces_append rfl, List.map_append,
    List.filter_append, List.map_append]

/- A text without commas has at most one item. -/
theorem items_of_uncut
    (hUncut : ',' ∉ text) :
    items (String.ofList text) =
      if (Text.trim text).isEmpty then []
      else [String.ofList (Text.trim text)] := by
  rw [items, String.toList_ofList,
    Text.pieces_of_not_mem hUncut, List.map_singleton]
  cases Text.trim text <;> rfl

/- A comma is no white space. -/
theorem comma_not_mem
    (hBlank : ∀ c ∈ blank, Text.isBlank c = true) :
    ',' ∉ blank := by
  intro hComma
  exact absurd (hBlank ',' hComma) (by decide)

/- What a text spells is read from it. -/
theorem SpellsItems.items_eq
    (hSpells : SpellsItems text found) :
    items (String.ofList text) = found := by
  induction hSpells with
  | @blank text hBlank =>
      have hTrim : Text.trim text = [] := by
        rwa [Text.trim_eq_nil_iff, List.all_eq_true]
      rw [items_of_uncut (comma_not_mem hBlank), hTrim]
      rfl
  | @item before behind item hItem hBefore hBehind =>
      have hUncut : ',' ∉ before ++ item.toList ++ behind := by
        simp [comma_not_mem hBefore, hItem.uncut,
          comma_not_mem hBehind]
      have hSome : ¬ item.toList.isEmpty = true := by
        rw [List.isEmpty_iff, String.toList_eq_nil_iff]
        exact hItem.some
      rw [items_of_uncut hUncut,
        hItem.trimmed.trim_spaced hBefore hBehind,
        if_neg hSome, String.ofList_toList]
  | comma hFirst hSecond ihFirst ihSecond =>
      rw [items_append, ihFirst, ihSecond]

/- What is left of a text without commas is an item. -/
theorem isItem_trim
    (hUncut : ',' ∉ text)
    (hSome : Text.trim text ≠ []) :
    IsItem (String.ofList (Text.trim text)) where
  some := by
    rwa [ne_eq, ← String.toList_eq_nil_iff,
      String.toList_ofList]
  uncut := by
    rw [String.toList_ofList]
    exact fun hComma =>
      hUncut ((Text.trim_sublist text).mem hComma)
  trimmed := by
    rw [String.toList_ofList]
    exact Text.isTrimmed_trim text

/- So it is what the text spells, if anything is left. -/
theorem spellsItems_of_uncut
    (hUncut : ',' ∉ text) :
    SpellsItems text (items (String.ofList text)) := by
  rw [items_of_uncut hUncut]
  rcases Text.exists_of_trim text with
    ⟨before, behind, hBefore, hBehind, hText⟩
  split
  · next hNone =>
      rw [List.isEmpty_iff, Text.trim_eq_nil_iff,
        List.all_eq_true] at hNone
      exact .blank hNone
  · next hSome =>
      rw [List.isEmpty_iff] at hSome
      have hSpells :=
        SpellsItems.item (isItem_trim hUncut hSome) hBefore
          hBehind
      rwa [String.toList_ofList, ← hText] at hSpells

/- What is read from a text is spelled there. -/
theorem spellsItems_items
    (text : List Char) :
    SpellsItems text (items (String.ofList text)) := by
  by_cases hComma : ',' ∈ text
  · -- The texts on both sides of a comma are shorter.
    rcases List.append_of_mem hComma with
      ⟨first, second, hText⟩
    rw [hText, items_append]
    exact
      .comma (spellsItems_items first)
        (spellsItems_items second)
  · exact spellsItems_of_uncut hComma
termination_by text.length
decreasing_by
  all_goals
    rw [hText, List.length_append, List.length_cons]
    omega

/- So exactly what a text spells is read from it. -/
theorem spellsItems_iff
    {value : String} :
    SpellsItems value.toList found ↔ items value = found := by
  constructor
  · intro hSpells
    have hItems := hSpells.items_eq
    rwa [String.ofList_toList] at hItems
  · rintro rfl
    have hSpells := spellsItems_items value.toList
    rwa [String.ofList_toList] at hSpells

/- Spellings can be checked by reading them. -/
instance
    (value : String)
    (found : List String) :
    Decidable (SpellsItems value.toList found) :=
  decidable_of_iff _ spellsItems_iff.symm

example :
    SpellsItems " a::Task ,,\u2003b::Task\t,".toList
      ["a::Task", "b::Task"] := by
  decide

/- All that a text spells are items. -/
theorem SpellsItems.isItem
    (hSpells : SpellsItems text found) :
    ∀ item ∈ found, IsItem item := by
  induction hSpells with
  | blank => simp
  | item hItem =>
      rw [List.forall_mem_singleton]
      exact hItem
  | comma _ _ ihFirst ihSecond =>
      rw [List.forall_mem_append]
      exact ⟨ihFirst, ihSecond⟩

end Descriptor

end Componentry

------------------------------------------------------------
-- White Space Around the Whole
------------------------------------------------------------

namespace Componentry

namespace Descriptor

variable {text blank : List Char}
variable {found : List String}

/- White space in front of a text belongs to its first part. -/
theorem SpellsItems.blank_append
    (hBlank : ∀ c ∈ blank, Text.isBlank c = true)
    (hSpells : SpellsItems text found) :
    SpellsItems (blank ++ text) found := by
  induction hSpells with
  | blank hText =>
      apply SpellsItems.blank
      rw [List.forall_mem_append]
      exact ⟨hBlank, hText⟩
  | item hItem hBefore hBehind =>
      rw [← List.append_assoc, ← List.append_assoc]
      apply SpellsItems.item hItem _ hBehind
      rw [List.forall_mem_append]
      exact ⟨hBlank, hBefore⟩
  | comma _ hSecond ihFirst _ =>
      rw [← List.append_assoc]
      exact .comma ihFirst hSecond

/- White space behind a text belongs to its last part. -/
theorem SpellsItems.append_blank
    (hBlank : ∀ c ∈ blank, Text.isBlank c = true)
    (hSpells : SpellsItems text found) :
    SpellsItems (text ++ blank) found := by
  induction hSpells with
  | blank hText =>
      apply SpellsItems.blank
      rw [List.forall_mem_append]
      exact ⟨hText, hBlank⟩
  | item hItem hBefore hBehind =>
      rw [List.append_assoc]
      apply SpellsItems.item hItem hBefore
      rw [List.forall_mem_append]
      exact ⟨hBehind, hBlank⟩
  | comma hFirst _ _ ihSecond =>
      rw [List.append_assoc, List.cons_append]
      exact .comma hFirst ihSecond

/- So a text and the same text trimmed have the same items. -/
theorem items_trimmed
    (value : String) :
    items (Text.trimmed value) = items value := by
  rcases Text.exists_of_trim value.toList with
    ⟨before, behind, hBefore, hBehind, hText⟩
  have hSpells :=
    ((spellsItems_items (Text.trim value.toList)).blank_append
      hBefore).append_blank hBehind
  rw [← hText] at hSpells
  exact (spellsItems_iff.mp hSpells).symm

/- Items are spelled by what they are with commas between. -/
theorem spellsItems_intercalate
    (hItems : ∀ item ∈ found, IsItem item) :
    SpellsItems (",".intercalate found).toList found := by
  have hNone : ∀ c ∈ [], Text.isBlank c = true :=
    List.forall_mem_nil _
  induction found with
  | nil => exact .blank hNone
  | cons item found ih =>
      rw [List.forall_mem_cons] at hItems
      have hFirst := SpellsItems.item hItems.1 hNone hNone
      rw [List.nil_append, List.append_nil] at hFirst
      cases found with
      | nil =>
          rw [String.intercalate_singleton]
          exact hFirst
      | cons next found =>
          rw [String.intercalate_cons_cons,
            String.toList_append, String.toList_append,
            List.append_assoc]
          exact .comma hFirst (ih hItems.2)

end Descriptor

end Componentry

------------------------------------------------------------
-- Lists of Records
------------------------------------------------------------

namespace Componentry

namespace Descriptor

variable {record : Descriptor}
variable {key text : String}

/- A field holds the items of its text. -/
theorem list_of_field
    (hField : record.fields[key]? = some text) :
    record.list key = items text := by
  unfold list field?
  rw [hField]
  dsimp only
  cases hBlank : Text.isBlankText text with
  | true =>
      rw [Text.isBlankText, List.all_eq_true] at hBlank
      exact (spellsItems_iff.mp (.blank hBlank)).symm
  | false => exact items_trimmed text

theorem getElem?_withField_self
    (record : Descriptor)
    (key value : String) :
    (record.withField key value).fields[key]? =
      some value := by
  rw [withField, Std.ExtTreeMap.getElem?_insert_self]

/- Items that are stored in a field are read from it. -/
theorem list_withField
    (record : Descriptor)
    (key : String)
    {found : List String}
    (hItems : ∀ item ∈ found, IsItem item) :
    (record.withField key (",".intercalate found)).list key =
      found := by
  rw [list_of_field (getElem?_withField_self record key _),
    ← spellsItems_iff]
  exact spellsItems_intercalate hItems

/- A field that is not there holds none. -/
theorem list_of_missing
    (hMissing : record.fields[key]? = none) :
    record.list key = [] := by
  unfold list field?
  rw [hMissing]

theorem isItem_of_mem_list
    (record : Descriptor)
    (key : String) :
    ∀ item ∈ record.list key, IsItem item := by
  cases hField : record.fields[key]? with
  | none =>
      rw [list_of_missing hField]
      simp
  | some text =>
      rw [list_of_field hField]
      exact (spellsItems_iff.mpr rfl).isItem

/- A record keeps the items of a list under a key. -/
structure KeepsItems
    (record : Descriptor)
    (key : String) : Prop where
  -- Exactly what the text of the field spells is read.
  read :
    ∀ text found,
      record.fields[key]? = some text →
        (SpellsItems text.toList found ↔
          record.list key = found)
  -- Any items can be stored with commas between them.
  stored :
    ∀ found : List String,
      (∀ item ∈ found, IsItem item) →
        (record.withField key (",".intercalate found)).list
            key =
          found
  proper : ∀ item ∈ record.list key, IsItem item
  -- A field without a value has no items.
  missing : record.field? key = none → record.list key = []
  -- What is read can be put back, and is read again.
  restored :
    (record.withField key
          (",".intercalate (record.list key))).list key =
      record.list key

/- Lists are read back, whatever the fields of a record. -/
theorem list_keepsItems
    (record : Descriptor)
    (key : String) :
    KeepsItems record key := by
  have hProper := isItem_of_mem_list record key
  refine ⟨?_, ?_, hProper, ?_, ?_⟩
  · intro text found hField
    rw [list_of_field hField, spellsItems_iff]
  · intro found hItems
    exact list_withField record key hItems
  · intro hMissing
    rw [list, hMissing]
  · exact list_withField record key hProper

end Descriptor

end Componentry
