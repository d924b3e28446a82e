import Componentry.Proofs.Composition.Plugins
import Componentry.Proofs.Text.Runs

/-
  Identifiers derived from the names of types.

  The identifier of a type starts with the first letter or
  digit of its name.  Everything else that makes an identifier
  of C++ is there whenever the derivation succeeds, but a
  digit at the start stays: a name whose first word starts
  with a digit is accepted, and what is generated for it is
  not well-formed.

  Main declarations:
    * `Text.isIdentifier_iff`, `Text.IsQualified`
    * `TypeName.head?_method`, `TypeName.method_eq_empty_iff`
    * `TypeName.StartsWithLetter`
    * `Plugin.TypeCode.IsUsable`, `Plugin.isUsable_iff`
    * `Plugin.ReadsCodes`, `Plugin.readsCodes_builtin`
    * `Plugin.derivesIdentifier`
-/

------------------------------------------------------------
-- Identifiers
------------------------------------------------------------

namespace Componentry

namespace Text

/- An identifier by its first character and by all. -/
theorem isIdentifier_iff
    {text : String} :
    isIdentifier text = true ↔
      (∃ c ∈ text.toList.head?, isNameStart c = true) ∧
        ∀ c ∈ text.toList, isNameChar c = true := by
  unfold isIdentifier
  cases text.toList with
  | nil => simp
  | cons c cs =>
      simp only [Bool.and_eq_true, List.all_eq_true,
        List.head?_cons, Option.mem_some_iff,
        exists_eq_left', List.forall_mem_cons]
      constructor
      · rintro ⟨hStart, hRest⟩
        exact
          ⟨hStart, isNameChar_of_isNameStart hStart, hRest⟩
      · rintro ⟨hStart, -, hRest⟩
        exact ⟨hStart, hRest⟩

/- What may stand in a name may follow an identifier. -/
theorem isIdentifier_append_iff
    {text ending : String}
    (hText : text ≠ "")
    (hEnding : ∀ c ∈ ending.toList, isNameChar c = true) :
    isIdentifier (text ++ ending) = true ↔
      isIdentifier text = true := by
  have hHead :
      (text.toList ++ ending.toList).head? =
        text.toList.head? := by
    apply List.head?_append_of_ne_nil
    exact mt String.toList_eq_nil_iff.mp hText
  rw [isIdentifier_iff, isIdentifier_iff,
    String.toList_append, hHead, List.forall_mem_append,
    and_iff_left hEnding]

/- Identifiers with double colons between them. -/
def IsQualified (text : String) : Prop :=
  ∃ names : List String,
    names ≠ [] ∧
      (∀ name ∈ names, isIdentifier name = true) ∧
      text = "::".intercalate names

/- The last piece between colons is one of the names. -/
theorem exists_getLast?_pieces
    {names : List (List Char)}
    (hNames : names ≠ [])
    (hColon : ∀ name ∈ names, ':' ∉ name) :
    ∃ name ∈ names,
      (pieces (· == ':')
        ([':', ':'].intercalate names)).getLast? =
          some name := by
  induction names with
  | nil => exact absurd rfl hNames
  | cons name names ih =>
      rw [List.forall_mem_cons] at hColon
      cases names with
      | nil =>
          refine ⟨name, List.mem_cons_self, ?_⟩
          rw [List.intercalate_singleton,
            pieces_of_not_mem hColon.1]
          rfl
      | cons next names =>
          rcases ih (by simp) hColon.2 with
            ⟨last, hMember, hLast⟩
          refine ⟨last, List.mem_cons_of_mem _ hMember, ?_⟩
          -- The second colon leaves an empty piece.
          have hSecond :
              ∀ rest : List Char,
                pieces (· == ':') (':' :: rest) =
                  [] :: pieces (· == ':') rest := by
            intro rest
            rfl
          rw [List.intercalate_cons_cons, List.append_assoc,
            List.cons_append, pieces_append rfl,
            List.singleton_append, hSecond,
            List.getLast?_append_of_ne_nil _ (by simp),
            List.getLast?_cons, hLast]
          rfl

/- Behind the last colon there is an identifier. -/
theorem IsQualified.exists_getLast?
    {text : String}
    (hText : IsQualified text) :
    ∃ name,
      isIdentifier name = true ∧
        (pieces (· == ':') text.toList).getLast? =
          some name.toList := by
  rcases hText with ⟨names, hNames, hIdentifiers, rfl⟩
  have hColon :
      ∀ word ∈ names.map String.toList, ':' ∉ word := by
    intro word hWord hMember
    rcases List.mem_map.mp hWord with ⟨name, hName, rfl⟩
    have hChars :=
      (isIdentifier_iff.mp (hIdentifiers name hName)).2
    cases hChars ':' hMember
  rcases exists_getLast?_pieces (by simpa using hNames)
      hColon with
    ⟨word, hWord, hLast⟩
  rcases List.mem_map.mp hWord with ⟨name, hName, rfl⟩
  refine ⟨name, hIdentifiers name hName, ?_⟩
  rw [String.toList_intercalate]
  exact hLast

/- A name in the namespace of CORBA conversions. -/
theorem isQualified_corba_iff
    {name : String}
    (hColon : ':' ∉ name.toList) :
    IsQualified ("orogen::Corba::" ++ name) ↔
      isIdentifier name = true := by
  have hText :
      ("orogen::Corba::" ++ name).toList =
        "orogen::Corba:".toList ++ ':' :: name.toList := by
    simp
  constructor
  · intro hQualified
    rcases hQualified.exists_getLast? with
      ⟨last, hLast, hPieces⟩
    rw [hText, pieces_append rfl, pieces_of_not_mem hColon,
      List.getLast?_concat, Option.some.injEq,
      String.toList_inj] at hPieces
    rwa [hPieces]
  · intro hIdentifier
    refine ⟨["orogen", "Corba", name], by simp, ?_, ?_⟩
    · simp only [List.forall_mem_cons]
      exact ⟨by decide, by decide, hIdentifier, by simp⟩
    · rw [← String.toList_inj, String.toList_intercalate,
        hText]
      simp [List.intercalate]

end Text

end Componentry

------------------------------------------------------------
-- The First Character
------------------------------------------------------------

namespace Componentry

namespace TypeName

/- The characters of an identifier are those of the words. -/
theorem toList_method
    (name : String) :
    (method name).toList =
      ['_'].intercalate
        ((Text.pieces (!·.isAlphanum) name.toList).filter
          (!·.isEmpty)) := by
  rw [method, String.toList_intercalate, words, List.map_map]
  simp [Function.comp_def]

/- Words are joined behind the first character that is kept. -/
theorem head?_intercalate_pieces
    (isSeparator : Char → Bool)
    (joint cs : List Char) :
    (joint.intercalate
        ((Text.pieces isSeparator cs).filter
          (!·.isEmpty))).head? =
      cs.find? (!isSeparator ·) := by
  induction cs with
  | nil => rfl
  | cons c cs ih =>
      rw [Text.pieces]
      cases hHere : isSeparator c with
      | true =>
          rw [if_pos rfl, List.find?_cons, hHere]
          exact ih
      | false =>
          rcases List.exists_cons_of_ne_nil
              (Text.pieces_ne_nil isSeparator cs) with
            ⟨piece, rest, hPieces⟩
          rw [hPieces, List.find?_cons, hHere]
          cases hRest : rest.filter (!·.isEmpty) <;>
            simp [Text.extendFirst, hRest]

/- An identifier starts with the first letter or digit. -/
theorem head?_method
    (name : String) :
    (method name).toList.head? =
      name.toList.find? Char.isAlphanum := by
  rw [toList_method, head?_intercalate_pieces]
  simp only [Bool.not_not]

/- There is no identifier if there is no letter or digit. -/
theorem method_eq_empty_iff
    {name : String} :
    method name = "" ↔
      ∀ c ∈ name.toList, c.isAlphanum = false := by
  rw [← String.toList_eq_nil_iff, ← List.head?_eq_none_iff,
    head?_method, List.find?_eq_none]
  simp only [Bool.not_eq_true]

/- The first letter or digit of a name is a letter. -/
def StartsWithLetter (name : String) : Prop :=
  ∃ c ∈ name.toList.find? Char.isAlphanum, c.isAlpha = true

/- A letter makes an identifier, and a digit does not. -/
theorem isIdentifier_method_iff
    {name : String} :
    Text.isIdentifier (method name) = true ↔
      StartsWithLetter name := by
  have hChars :
      ∀ c ∈ (method name).toList, Text.isNameChar c = true :=
    fun _ hMember => isNameChar_of_mem_method hMember
  rw [Text.isIdentifier_iff, and_iff_left hChars,
    head?_method, StartsWithLetter]
  constructor
  · rintro ⟨c, hFound, hStart⟩
    refine ⟨c, hFound, ?_⟩
    rw [Text.isNameStart, Bool.or_eq_true] at hStart
    rcases hStart with hAlpha | hLow
    · exact hAlpha
    · have hKept := List.find?_some hFound
      rw [eq_of_beq hLow] at hKept
      cases hKept
  · rintro ⟨c, hFound, hAlpha⟩
    refine ⟨c, hFound, ?_⟩
    rw [Text.isNameStart, hAlpha, Bool.true_or]

end TypeName

end Componentry

------------------------------------------------------------
-- Names in Generated Code
------------------------------------------------------------

namespace Componentry

namespace Plugin

variable {name : String}

/- What the plugins put behind the identifier of a type. -/
def functionEndings : List String :=
  ["_TypeInfo", "_CorbaTransport", "_MQueueTransport",
    "_TypelibMarshaller"]

/- All names that are generated for a type are well-formed. -/
structure TypeCode.IsUsable (type : TypeCode) : Prop where
  identifier : Text.isIdentifier type.identifier = true
  functions :
    ∀ ending ∈ functionEndings,
      Text.isIdentifier (type.identifier ++ ending) = true
  corba :
    Text.IsQualified ("orogen::Corba::" ++ type.identifier)

/- They are if the identifier is one. -/
theorem isUsable_iff
    (hName : TypeName.method name ≠ "") :
    TypeCode.IsUsable ⟨name, TypeName.method name⟩ ↔
      TypeName.StartsWithLetter name := by
  have hColon : ':' ∉ (TypeName.method name).toList :=
    TypeName.not_mem_method (by decide) name
  have hEndings :
      functionEndings.all (·.toList.all Text.isNameChar) =
        true := by
    decide
  simp only [List.all_eq_true] at hEndings
  rw [← TypeName.isIdentifier_method_iff]
  constructor
  · intro hUsable
    exact hUsable.identifier
  · intro hIdentifier
    constructor
    case identifier => exact hIdentifier
    case functions =>
      intro ending hEnding
      apply (Text.isIdentifier_append_iff hName ?_).mpr
      · exact hIdentifier
      · exact hEndings ending hEnding
    case corba =>
      exact (Text.isQualified_corba_iff hColon).mpr hIdentifier

/- What is known of a code, and when its names can be used. -/
structure TypeCode.IsDerived
    (name : String)
    (code : TypeCode) : Prop where
  named : code.name = name
  not_empty : code.identifier ≠ ""
  chars :
    ∀ c ∈ code.identifier.toList, Text.isNameChar c = true
  first :
    code.identifier.toList.head? =
      name.toList.find? Char.isAlphanum
  usable_iff :
    code.IsUsable ↔ TypeName.StartsWithLetter name

theorem isDerived_of_typeCode
    {plugin : String}
    {code : TypeCode}
    (hCode : typeCode plugin name = .ok code) :
    code.IsDerived name := by
  rcases typeCode_eq_ok_iff.mp hCode with ⟨hName, rfl⟩
  constructor
  case named => rfl
  case not_empty => exact hName
  case chars =>
    intro c hMember
    exact TypeName.isNameChar_of_mem_method hMember
  case first => exact TypeName.head?_method name
  case usable_iff => exact isUsable_iff hName

/-
  A plugin sees no more of a typekit than its name and the
  codes of its exported types.
-/
def ReadsCodes (plugin : Plugin) : Prop :=
  ∃ make : String → List TypeCode → List Contribution,
    ∀ kit,
      plugin.contribute kit =
        typeCodes plugin.name kit >>= fun types =>
          .ok (make kit.name types)

/- What is made may look at the name of the typekit only. -/
theorem readsCodes_of_make
    {plugin : Plugin}
    {make : Kit → List TypeCode → List Contribution}
    (hContribute :
      ∀ kit,
        plugin.contribute kit =
          typeCodes plugin.name kit >>= fun types =>
            .ok (make kit types))
    (hMake :
      ∀ kit types,
        make kit types = make ⟨kit.name, "", []⟩ types) :
    plugin.ReadsCodes := by
  refine ⟨fun name => make ⟨name, "", []⟩, ?_⟩
  intro kit
  rw [hContribute]
  congr 1
  funext types
  rw [hMake]

/- This is all that the built-in plugins see. -/
theorem readsCodes_builtin :
    ∀ plugin ∈ builtin, plugin.ReadsCodes := by
  have hRos : ros.ReadsCodes :=
    readsCodes_of_make (fun _ => rfl) fun _ _ => rfl
  have hCorba : corba.ReadsCodes :=
    readsCodes_of_make (fun _ => rfl) fun _ _ => rfl
  have hMessageQueue : messageQueue.ReadsCodes :=
    readsCodes_of_make (fun _ => rfl) fun _ _ => rfl
  have hTypeInfo : typeInfo.ReadsCodes :=
    readsCodes_of_make (fun _ => rfl) fun _ _ => rfl
  have hTypelib : typelib.ReadsCodes :=
    readsCodes_of_make (fun _ => rfl) fun _ _ => rfl
  simp only [builtin, List.forall_mem_cons]
  exact
    ⟨hRos, hCorba, hMessageQueue, hTypeInfo, hTypelib,
      by simp⟩

/- Such a plugin fails only where there is no identifier. -/
theorem ReadsCodes.exists_ok_iff
    {plugin : Plugin}
    {kit : Kit}
    (hPlugin : plugin.ReadsCodes) :
    (∃ made, plugin.contribute kit = .ok made) ↔
      kit.IsNameable := by
  rcases hPlugin with ⟨make, hContribute⟩
  simp only [contribute_eq_ok_iff (hContribute kit),
    exists_and_left, exists_eq', and_true]

/-
  How the identifier of a type is derived, and when it can be
  used.
-/
structure DerivesIdentifier (name : String) : Prop where
  -- A letter or digit is all that a name needs.
  accepted :
    ∀ plugin,
      (∃ code, typeCode plugin name = .ok code) ↔
        ∃ c ∈ name.toList, c.isAlphanum = true
  -- Its identifier lacks nothing but a proper start.
  derived :
    ∀ plugin code,
      typeCode plugin name = .ok code → code.IsDerived name
  -- So it is in every typekit that a plugin accepts.
  kits :
    ∀ plugin ∈ builtin,
      ∀ kit made,
        plugin.contribute kit = .ok made →
        name ∈ kit.exported →
          (TypeCode.IsUsable ⟨name, TypeName.method name⟩ ↔
            TypeName.StartsWithLetter name)

/-
  Names are usable exactly if the first letter or digit of a
  type is a letter.
-/
theorem derivesIdentifier
    (name : String) :
    DerivesIdentifier name where
  accepted := by
    intro plugin
    simp only [typeCode_eq_ok_iff, exists_and_left, exists_eq,
      and_true]
    rw [ne_eq, TypeName.method_eq_empty_iff]
    simp only [not_forall, Bool.not_eq_false, exists_prop]
  derived := fun _ _ hCode => isDerived_of_typeCode hCode
  kits := by
    intro plugin hPlugin kit made hMade hName
    have hNameable : kit.IsNameable :=
      (readsCodes_builtin plugin hPlugin).exists_ok_iff.mp
        ⟨made, hMade⟩
    apply isUsable_iff
    intro hEmpty
    apply hNameable
    rw [← hEmpty]
    exact List.mem_map_of_mem hName

/- The identifier and the names of a type with arguments. -/
theorem vector_derivesIdentifier :
    ∃ code,
      typeCode "corba" "/std/vector</double>" = .ok code ∧
        code.identifier = "std_vector_double" ∧
        code.IsUsable := by
  have hCode :
      typeCode "corba" "/std/vector</double>" =
        .ok ⟨"/std/vector</double>", "std_vector_double"⟩ := by
    decide
  have hDerived :=
    (derivesIdentifier "/std/vector</double>").derived _ _
      hCode
  have hLetter :
      TypeName.StartsWithLetter "/std/vector</double>" :=
    ⟨'s', by decide, by decide⟩
  exact ⟨_, hCode, rfl, hDerived.usable_iff.mpr hLetter⟩

/- A digit at the start is left there. -/
theorem digit_not_identifier :
    typeCode "type_info" "/8bit" = .ok ⟨"/8bit", "8bit"⟩ ∧
      Text.isIdentifier "8bit" = false ∧
      Text.isIdentifier ("8bit" ++ "_TypeInfo") = false := by
  decide

end Plugin

end Componentry
