import Componentry.Text.Utf8

/-
  The order of names is the order of their bytes.

  Strings are compared character by character.  In UTF-8 the
  bytes of a lesser character part from those of a greater one
  at a lesser byte, so comparing the bytes gives the same.

  Main declarations:
    * `Text.bytes`, `Text.bytes_inj`
    * `Text.PartsBelow`
    * `Text.bytes_lt_iff`, `Text.bytes_le_iff`
-/

------------------------------------------------------------
-- Bytes of Characters
------------------------------------------------------------

namespace Componentry

namespace Text

/- The bytes of a text. -/
def bytes (text : String) : List UInt8 :=
  text.toByteArray.data.toList

/- The bytes of a text are those of its characters. -/
theorem bytes_eq_flatMap (text : String) :
    bytes text =
      text.toList.flatMap String.utf8EncodeChar := by
  rw [bytes, ← String.utf8Encode_toList, List.utf8Encode,
    List.toList_data_toByteArray]

/- Texts with the same bytes are the same. -/
theorem bytes_inj
    {first second : String}
    (hSame : bytes first = bytes second) :
    first = second := by
  rw [bytes, bytes, Array.toList_inj] at hSame
  exact String.toByteArray_inj.mp (ByteArray.ext hSame)

/- A list parts from another one at a lesser byte. -/
def PartsBelow : List UInt8 → List UInt8 → Prop
  | first :: firsts, second :: seconds =>
      first < second ∨
        (first = second ∧ PartsBelow firsts seconds)
  | _, _ => False

/- Whatever follows, the list that parts below is lesser. -/
theorem PartsBelow.append_lt
    {firsts seconds : List UInt8}
    (hParts : PartsBelow firsts seconds)
    (firstRest secondRest : List UInt8) :
    firsts ++ firstRest < seconds ++ secondRest := by
  induction firsts generalizing seconds with
  | nil => exact hParts.elim
  | cons first firsts ih =>
      cases seconds with
      | nil => exact hParts.elim
      | cons second seconds =>
          rw [List.cons_append, List.cons_append,
            List.cons_lt_cons_iff]
          rcases hParts with hLess | ⟨hSame, hParts⟩
          · exact Or.inl hLess
          · exact Or.inr ⟨hSame, ih hParts⟩

/- A number is told by its digits of six bits. -/
theorem eq_digits (value : Nat) :
    value =
      262144 * (value / 262144)
        + 4096 * (value / 4096 % 64)
        + 64 * (value / 64 % 64) + value % 64 := by
  omega

/- The bytes of characters part as the characters do. -/
theorem partsBelow_of_lt
    {first second : Char}
    (hLess : first < second) :
    PartsBelow (String.utf8EncodeChar first)
      (String.utf8EncodeChar second) := by
  have hNat : first.val.toNat < second.val.toNat := hLess
  have hSecond : second.val.toNat < 1114112 := by
    have hValid := second.valid
    simp only [UInt32.isValidChar, Nat.isValidChar] at hValid
    omega
  have hFirstDigits := eq_digits first.val.toNat
  have hSecondDigits := eq_digits second.val.toNat
  -- Both characters have one to four bytes.
  dsimp only [String.utf8EncodeChar]
  repeat' split
  all_goals
    simp (disch := omega) only [PartsBelow,
      UInt8.lt_iff_toNat_lt, ← UInt8.toNat_inj,
      UInt8.toNat_ofNat', Nat.mod_eq_of_lt]
    omega

/- Comparing texts is comparing their bytes. -/
theorem flatMap_lt_of_lt
    {firsts seconds : List Char}
    (hLess : firsts < seconds) :
    firsts.flatMap String.utf8EncodeChar <
      seconds.flatMap String.utf8EncodeChar := by
  induction firsts generalizing seconds with
  | nil =>
      cases seconds with
      | nil => cases hLess
      | cons second seconds =>
          rw [List.flatMap_nil, List.flatMap_cons]
          cases hBytes : String.utf8EncodeChar second with
          | nil => simp at hBytes
          | cons byte bytes => exact List.Lex.nil
  | cons first firsts ih =>
      cases seconds with
      | nil => cases hLess
      | cons second seconds =>
          rw [List.flatMap_cons, List.flatMap_cons]
          rcases List.cons_lt_cons_iff.mp hLess with
            hFirst | ⟨rfl, hRest⟩
          · exact (partsBelow_of_lt hFirst).append_lt _ _
          · exact List.append_left_lt (ih hRest)

/- Texts are ordered as their bytes are. -/
theorem bytes_lt_iff
    {first second : String} :
    bytes first < bytes second ↔ first < second := by
  have hMono :
      ∀ {first second : String},
        first < second → bytes first < bytes second := by
    intro first second hLess
    rw [bytes_eq_flatMap, bytes_eq_flatMap]
    exact flatMap_lt_of_lt hLess
  constructor
  · intro hBytes
    by_cases hLess : first < second
    · exact hLess
    · by_cases hMore : second < first
      · exact (List.lt_asymm hBytes (hMono hMore)).elim
      · have hSame : first = second :=
          String.le_antisymm hMore hLess
        rw [hSame] at hBytes
        exact (List.lt_irrefl _ hBytes).elim
  · exact hMono

theorem bytes_le_iff
    {first second : String} :
    bytes first ≤ bytes second ↔ first ≤ second := by
  rw [← List.not_lt, bytes_lt_iff, String.not_lt]

end Text

end Componentry
