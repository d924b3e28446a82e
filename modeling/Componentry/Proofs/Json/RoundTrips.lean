import Componentry.Json.Parser
import Componentry.Proofs.Json.Spellings

/-
  Written documents are read back.

  The compact form of a document is read as that document, if
  the text of every number in it is a number.  So two proper
  documents with one compact form are the same.

  Main declarations:
    * `Json.induction`
    * `Json.IsProper`
    * `Json.isProper_array_iff`, `Json.isProper_object_iff`
    * `Json.isChain_tokens`
    * `Json.parseFrom_tokens`
    * `Json.parse_compact`, `Json.compact_inj`
-/

------------------------------------------------------------
-- Induction over Documents
------------------------------------------------------------

namespace Componentry

namespace Json

/-
  What holds of the plain documents, and of an array or an
  object if it holds of all that stands in it, holds of every
  document.
-/
theorem induction
    {motive : Json → Prop}
    (null : motive .null)
    (bool : ∀ value, motive (.bool value))
    (number : ∀ digits, motive (.number digits))
    (string : ∀ text, motive (.string text))
    (array :
      ∀ items, (∀ item ∈ items, motive item) →
        motive (.array items))
    (object :
      ∀ fields, (∀ field ∈ fields, motive field.2) →
        motive (.object fields))
    (document : Json) :
    motive document := by
  refine
    @Json.rec motive
      (fun items => ∀ item ∈ items, motive item)
      (fun fields => ∀ field ∈ fields, motive field.2)
      (fun field => motive field.2)
      null bool number string array object ?_ ?_ ?_ ?_ ?_
      document
  · intro item hItem
    cases hItem
  · intro item items hItem hItems
    exact List.forall_mem_cons.mpr ⟨hItem, hItems⟩
  · intro field hField
    cases hField
  · intro field fields hField hFields
    exact List.forall_mem_cons.mpr ⟨hField, hFields⟩
  · intro name value hValue
    exact hValue

end Json

end Componentry

------------------------------------------------------------
-- Proper Documents
------------------------------------------------------------

namespace Componentry

namespace Json

/- The text of every number in a document is a number. -/
def IsProper (document : Json) : Prop :=
  ∀ token ∈ document.tokens, token.isProper = true

instance (document : Json) : Decidable document.IsProper := by
  unfold IsProper
  infer_instance

theorem isProper_null : IsProper .null := by
  decide

theorem isProper_bool (value : Bool) : IsProper (.bool value) := by
  cases value <;> decide

theorem isProper_string (text : String) :
    IsProper (.string text) := by
  intro token hToken
  rw [tokens, List.mem_singleton] at hToken
  rw [hToken]
  rfl

/- The tokens between brackets are those of the items. -/
theorem itemTokens_isProper_iff
    {items : List Json} :
    (∀ token ∈ itemTokens items, token.isProper = true) ↔
      ∀ item ∈ items, item.IsProper := by
  induction items with
  | nil => simp [itemTokens]
  | cons item items ih =>
      cases items with
      | nil => simp [itemTokens, IsProper]
      | cons next items =>
          rw [itemTokens, List.forall_mem_append,
            List.forall_mem_cons, ih, List.forall_mem_cons]
          simp [IsProper, Token.isProper]

theorem fieldTokens_isProper_iff
    {fields : List (String × Json)} :
    (∀ token ∈ fieldTokens fields, token.isProper = true) ↔
      ∀ field ∈ fields, field.2.IsProper := by
  induction fields with
  | nil => simp [fieldTokens]
  | cons field fields ih =>
      rcases field with ⟨name, value⟩
      cases fields with
      | nil => simp [fieldTokens, IsProper, Token.isProper]
      | cons next fields =>
          rw [fieldTokens, List.forall_mem_cons,
            List.forall_mem_cons, List.forall_mem_append,
            List.forall_mem_cons, ih, List.forall_mem_cons]
          simp [IsProper, Token.isProper]

/- An array is proper if its items are. -/
theorem isProper_array_iff
    {items : List Json} :
    (array items).IsProper ↔ ∀ item ∈ items, item.IsProper := by
  rw [← itemTokens_isProper_iff, IsProper, tokens,
    List.forall_mem_cons, List.forall_mem_append]
  simp [Token.isProper]

/- An object is proper if the values of its fields are. -/
theorem isProper_object_iff
    {fields : List (String × Json)} :
    (object fields).IsProper ↔
      ∀ field ∈ fields, field.2.IsProper := by
  rw [← fieldTokens_isProper_iff, IsProper, tokens,
    List.forall_mem_cons, List.forall_mem_append]
  simp [Token.isProper]

theorem isProper_ofOption (text? : Option String) :
    (ofOption text?).IsProper := by
  cases text? with
  | none => exact isProper_null
  | some text => exact isProper_string text

theorem isProper_ofStrings (texts : List String) :
    (ofStrings texts).IsProper := by
  rw [ofStrings, isProper_array_iff, List.forall_mem_map]
  intro text _
  exact isProper_string text

end Json

end Componentry

------------------------------------------------------------
-- Words and Marks
------------------------------------------------------------

namespace Componentry

namespace Json

variable {token : Token} {tokens rest : List Token}

/- Anything may follow what is not a word. -/
theorem isChain_cons_of_not_word
    (hToken : token.isWord = false)
    (hTokens : tokens.IsChain Token.MayFollow) :
    (token :: tokens).IsChain Token.MayFollow := by
  rw [List.isChain_cons]
  refine ⟨?_, hTokens⟩
  intro next _ hWord
  rw [hToken] at hWord
  cases hWord

/- A mark may follow anything. -/
theorem isChain_append_mark
    (hToken : token.isMark = true)
    (hTokens : tokens.IsChain Token.MayFollow)
    (hRest : (token :: rest).IsChain Token.MayFollow) :
    (tokens ++ token :: rest).IsChain Token.MayFollow := by
  rw [List.isChain_append]
  refine ⟨hTokens, hRest, ?_⟩
  intro last _ first hFirst _
  rw [List.head?_cons, Option.mem_some_iff] at hFirst
  rwa [← hFirst]

theorem isChain_itemTokens
    {items : List Json}
    (hItems :
      ∀ item ∈ items, item.tokens.IsChain Token.MayFollow) :
    (itemTokens items).IsChain Token.MayFollow := by
  induction items with
  | nil => exact .nil
  | cons item items ih =>
      rw [List.forall_mem_cons] at hItems
      cases items with
      | nil => exact hItems.1
      | cons next items =>
          exact
            isChain_append_mark rfl hItems.1
              (isChain_cons_of_not_word rfl (ih hItems.2))

theorem isChain_fieldTokens
    {fields : List (String × Json)}
    (hFields :
      ∀ field ∈ fields,
        field.2.tokens.IsChain Token.MayFollow) :
    (fieldTokens fields).IsChain Token.MayFollow := by
  induction fields with
  | nil => exact .nil
  | cons field fields ih =>
      rw [List.forall_mem_cons] at hFields
      cases fields with
      | nil =>
          exact
            isChain_cons_of_not_word rfl
              (isChain_cons_of_not_word rfl hFields.1)
      | cons next fields =>
          exact
            isChain_cons_of_not_word rfl
              (isChain_cons_of_not_word rfl
                (isChain_append_mark rfl hFields.1
                  (isChain_cons_of_not_word rfl
                    (ih hFields.2))))

/- In a document every word has a mark behind it. -/
theorem isChain_tokens (document : Json) :
    document.tokens.IsChain Token.MayFollow := by
  induction document using induction with
  | null => exact .singleton _
  | bool value => exact .singleton _
  | number digits => exact .singleton _
  | string text => exact .singleton _
  | array items ih =>
      exact
        isChain_cons_of_not_word rfl
          (isChain_append_mark rfl (isChain_itemTokens ih)
            (.singleton _))
  | object fields ih =>
      exact
        isChain_cons_of_not_word rfl
          (isChain_append_mark rfl (isChain_fieldTokens ih)
            (.singleton _))

end Json

end Componentry

------------------------------------------------------------
-- Tokens That Are Parsed
------------------------------------------------------------

namespace Componentry

namespace Json

/- The tokens of a document are read as that document. -/
def IsParsed (document : Json) : Prop :=
  ∀ stack rest,
    parseFrom .value stack (document.tokens ++ rest) =
      parseFrom (.rest document) stack rest

variable {stack : List Frame} {rest : List Token}

/- Items are added to those of the array that were read. -/
theorem parseFrom_items
    {item : Json}
    {items read : List Json}
    (hItems : ∀ found ∈ item :: items, found.IsParsed) :
    parseFrom .value (.array read :: stack)
        (itemTokens (item :: items) ++ .endArray :: rest) =
      parseFrom (.rest (.array (read.reverse ++ item :: items)))
        stack rest := by
  induction items generalizing item read with
  | nil =>
      have hItem := hItems item List.mem_cons_self
      rw [itemTokens, hItem, parseFrom, takeToken]
      simp
  | cons next items ih =>
      rw [List.forall_mem_cons] at hItems
      have hRest := @ih next (item :: read) hItems.2
      rw [itemTokens, List.append_assoc, hItems.1,
        List.cons_append, parseFrom, takeToken]
      rw [List.reverse_cons, List.append_assoc] at hRest
      exact hRest

/- Fields are added to those of the object that were read. -/
theorem parseFrom_fields
    {field : String × Json}
    {fields read : List (String × Json)}
    (hFields : ∀ found ∈ field :: fields, found.2.IsParsed) :
    parseFrom (.field read) stack
        (fieldTokens (field :: fields) ++ .endObject :: rest) =
      parseFrom
        (.rest (.object (read.reverse ++ field :: fields)))
        stack rest := by
  induction fields generalizing field read with
  | nil =>
      have hValue := hFields field List.mem_cons_self
      rw [fieldTokens]
      change
        parseFrom .value (.object read field.1 :: stack)
            (field.2.tokens ++ .endObject :: rest) = _
      rw [hValue, parseFrom, takeToken]
      simp
  | cons next fields ih =>
      rw [List.forall_mem_cons] at hFields
      have hRest := @ih next (field :: read) hFields.2
      rw [fieldTokens]
      change
        parseFrom .value (.object read field.1 :: stack)
            ((field.2.tokens ++
              .comma :: fieldTokens (next :: fields)) ++
                .endObject :: rest) = _
      rw [List.append_assoc, hFields.1, List.cons_append,
        parseFrom, takeToken]
      rw [List.reverse_cons, List.append_assoc] at hRest
      exact hRest

/- A document is read in a new array as anywhere else. -/
theorem parseFrom_firstItem
    (document : Json) :
    parseFrom .firstItem stack (document.tokens ++ rest) =
      parseFrom .value stack (document.tokens ++ rest) := by
  cases document with
  | null => rfl
  | bool value => rfl
  | number digits => rfl
  | string text => rfl
  | array items => rfl
  | object fields => rfl

theorem isParsed_array
    {items : List Json}
    (hItems : ∀ item ∈ items, item.IsParsed) :
    (array items).IsParsed := by
  intro stack rest
  cases items with
  | nil => rfl
  | cons item items =>
      have hFirst :
          parseFrom .firstItem (.array [] :: stack)
              (itemTokens (item :: items) ++
                .endArray :: rest) =
            parseFrom .value (.array [] :: stack)
              (itemTokens (item :: items) ++
                .endArray :: rest) := by
        cases items with
        | nil => exact item.parseFrom_firstItem
        | cons next items =>
            rw [itemTokens, List.append_assoc]
            exact item.parseFrom_firstItem
      rw [tokens, List.cons_append, List.append_assoc]
      exact hFirst.trans (parseFrom_items hItems)

theorem isParsed_object
    {fields : List (String × Json)}
    (hFields : ∀ field ∈ fields, field.2.IsParsed) :
    (object fields).IsParsed := by
  intro stack rest
  cases fields with
  | nil => rfl
  | cons field fields =>
      have hFirst :
          parseFrom .firstField stack
              (fieldTokens (field :: fields) ++
                .endObject :: rest) =
            parseFrom (.field []) stack
              (fieldTokens (field :: fields) ++
                .endObject :: rest) := by
        cases fields with
        | nil => rfl
        | cons next fields => rfl
      rw [tokens, List.cons_append, List.append_assoc]
      exact hFirst.trans (parseFrom_fields hFields)

/- Every document is read from its tokens. -/
theorem isParsed (document : Json) : document.IsParsed := by
  induction document using induction with
  | null => exact fun _ _ => rfl
  | bool value => exact fun _ _ => rfl
  | number digits => exact fun _ _ => rfl
  | string text => exact fun _ _ => rfl
  | array items ih => exact isParsed_array ih
  | object fields ih => exact isParsed_object ih

theorem parseTokens_tokens (document : Json) :
    parseTokens document.tokens = some document := by
  have hParsed := document.isParsed [] []
  rw [List.append_nil] at hParsed
  rw [parseTokens, hParsed]
  rfl

end Json

end Componentry

------------------------------------------------------------
-- Texts
------------------------------------------------------------

namespace Componentry

namespace Json

/- A proper document is read back from its compact form. -/
theorem parse_compact
    {document : Json}
    (hProper : document.IsProper) :
    parse document.compact = some document := by
  rw [parse, compact, String.toList_ofList,
    lex_spelled hProper document.isChain_tokens,
    Option.bind_some, parseTokens_tokens]

/- Proper documents are told apart by their compact forms. -/
theorem compact_inj
    {first second : Json}
    (hFirst : first.IsProper)
    (hSecond : second.IsProper)
    (hSame : first.compact = second.compact) :
    first = second := by
  have hRead := parse_compact hFirst
  rw [hSame, parse_compact hSecond, Option.some.injEq] at hRead
  exact hRead.symm

end Json

end Componentry
