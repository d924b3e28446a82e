import Mathlib.Data.List.Chain
import Mathlib.Data.List.TakeWhile
import Componentry.Json.Lexer

/-
  Spelled tokens are read back.

  A mark is one character, and a string ends with its quote.
  A word goes on until something ends it; so tokens that are
  spelled one behind the other are read back if every word
  has a mark behind it.

  Main declarations:
    * `Json.lexFrom_mark`, `Json.lexFrom_word`
    * `Json.lexFrom_spellString`
    * `Json.Token.isProper`
    * `Json.Token.lexFrom_spell`
    * `Json.Token.MayFollow`, `Json.lex_spelled`
-/

------------------------------------------------------------
-- Marks and Words
------------------------------------------------------------

namespace Componentry

namespace Json

variable {c : Char} {token : Token}
variable {read rest : List Char}

/- Does a character end a word? -/
def endsWord (c : Char) : Bool :=
  isSpace c || (markToken? c).isSome || c == '"'

/- A text is empty or starts with a mark. -/
def IsWordEnd (rest : List Char) : Prop :=
  ∀ c ∈ rest.head?, (markToken? c).isSome = true

/- A mark is a token by itself. -/
theorem lexFrom_mark
    (hMark : markToken? c = some token) :
    lexFrom .between (c :: rest) =
      (lexFrom .between rest).map (token :: ·) := by
  simp only [lexFrom, Mode.step, start, hMark]
  rfl

/- A word goes on with the characters that do not end it. -/
theorem lexFrom_word_append
    {cs : List Char}
    (hWord : ∀ c ∈ cs, endsWord c = false) :
    lexFrom (.word read) (cs ++ rest) =
      lexFrom (.word (cs.reverse ++ read)) rest := by
  induction cs generalizing read with
  | nil => rfl
  | cons c cs ih =>
      rw [List.forall_mem_cons] at hWord
      have hStep :
          (Mode.word read).step c =
            some (.word (c :: read), []) := by
        rw [Mode.step, if_neg]
        rw [Bool.not_eq_true]
        exact hWord.1
      rw [List.cons_append, lexFrom, hStep]
      simp [ih hWord.2]

/- A word ends in front of a mark or at the end. -/
theorem lexFrom_word_end
    (hWord : wordToken? read.reverse = some token)
    (hEnd : IsWordEnd rest) :
    lexFrom (.word read) rest =
      (lexFrom .between rest).map (token :: ·) := by
  cases rest with
  | nil => simp [lexFrom, Mode.finish, hWord]
  | cons c rest =>
      have hMark : (markToken? c).isSome = true := hEnd c rfl
      rcases Option.isSome_iff_exists.mp hMark with
        ⟨mark, hMark⟩
      rw [lexFrom_mark hMark, lexFrom]
      simp only [Mode.step, start, hMark, hWord,
        Option.isSome_some, Bool.or_true, Bool.true_or, if_true,
        Option.map_some, Option.map_map]
      rfl

/- A word is read back as its token. -/
theorem lexFrom_word
    {cs : List Char}
    (hNonempty : cs ≠ [])
    (hChars : ∀ c ∈ cs, endsWord c = false)
    (hWord : wordToken? cs = some token)
    (hEnd : IsWordEnd rest) :
    lexFrom .between (cs ++ rest) =
      (lexFrom .between rest).map (token :: ·) := by
  cases cs with
  | nil => exact (hNonempty rfl).elim
  | cons c cs =>
      rw [List.forall_mem_cons] at hChars
      have hStart :
          Mode.between.step c = some (.word [c], []) := by
        have hFirst := hChars.1
        simp only [endsWord, Bool.or_eq_false_iff,
          Option.isSome_eq_false_iff, Option.isNone_iff_eq_none]
          at hFirst
        rcases hFirst with ⟨⟨hSpace, hMark⟩, hQuote⟩
        simp [Mode.step, start, hMark, hSpace, hQuote]
      have hRead :
          wordToken? (cs.reverse ++ [c]).reverse =
            some token := by
        simpa using hWord
      rw [List.cons_append, lexFrom, hStart]
      simp only [List.nil_append, Option.map_id']
      rw [lexFrom_word_append hChars.2,
        lexFrom_word_end hRead hEnd]

end Json

end Componentry

------------------------------------------------------------
-- Strings
------------------------------------------------------------

namespace Componentry

namespace Json

variable {read rest : List Char}

/- A hexadecimal digit has the value that it is written for. -/
theorem hexValue?_hexDigit :
    ∀ n < 16, hexValue? (Text.hexDigit n) = some n := by
  decide

/- The escape of a control character stands for it. -/
theorem lexFrom_unit
    {c : Char}
    (hControl : c.toNat < 0x20) :
    lexFrom (.text read)
        ('\\' :: 'u' :: '0' :: '0' ::
          Text.hexDigit (c.toNat / 16) ::
            Text.hexDigit (c.toNat % 16) :: rest) =
      lexFrom (.text (c :: read)) rest := by
  have hHigh :=
    hexValue?_hexDigit (c.toNat / 16) (by omega)
  have hLow :=
    hexValue?_hexDigit (c.toNat % 16) (by omega)
  have hZero : hexValue? '0' = some 0 := by decide
  have hValue : c.toNat / 16 * 16 + c.toNat % 16 = c.toNat := by
    omega
  have hClose :
      closeUnit read none c.toNat =
        some (.text (c :: read)) := by
    have hBelowHigh : ¬ 0xd800 ≤ c.toNat := by omega
    have hBelowLow : ¬ 0xdc00 ≤ c.toNat := by omega
    simp [closeUnit, hBelowHigh, hBelowLow, Char.ofNat_toNat]
  simp [lexFrom, Mode.step, hHigh, hLow, hZero, hValue, hClose]

/- A character is read back as it is written in a string. -/
theorem lexFrom_spellChar (c : Char) :
    lexFrom (.text read) (spellChar c ++ rest) =
      lexFrom (.text (c :: read)) rest := by
  unfold spellChar
  split
  · simp [lexFrom, Mode.step, escaped?]
  · simp [lexFrom, Mode.step, escaped?]
  · simp [lexFrom, Mode.step, escaped?]
  · simp [lexFrom, Mode.step, escaped?]
  · simp [lexFrom, Mode.step, escaped?]
  · simp [lexFrom, Mode.step, escaped?]
  · simp [lexFrom, Mode.step, escaped?]
  · next hQuote hSlash _ _ _ _ _ =>
      by_cases hControl : c.toNat < 0x20
      · rw [if_pos hControl]
        exact lexFrom_unit hControl
      · have hPlain :
            (Mode.text read).step c =
              some (.text (c :: read), []) := by
          have hNotQuote : (c == '"') = false :=
            beq_eq_false_iff_ne.mpr hQuote
          have hNotSlash : (c == '\\') = false :=
            beq_eq_false_iff_ne.mpr hSlash
          simp [Mode.step, hControl, hNotQuote, hNotSlash]
        rw [if_neg hControl, List.singleton_append, lexFrom,
          hPlain]
        simp

/- So is every text between the quotes. -/
theorem lexFrom_spelledText (cs : List Char) :
    lexFrom (.text read) (cs.flatMap spellChar ++ '"' :: rest) =
      (lexFrom .between rest).map
        (.string (String.ofList (read.reverse ++ cs)) :: ·) := by
  induction cs generalizing read with
  | nil => simp [lexFrom, Mode.step]
  | cons c cs ih =>
      rw [List.flatMap_cons, List.append_assoc,
        lexFrom_spellChar, ih, List.reverse_cons,
        List.append_assoc, List.singleton_append]

/- A string is read back with its quotes. -/
theorem lexFrom_spellString (text : String) :
    lexFrom .between (spellString text ++ rest) =
      (lexFrom .between rest).map (.string text :: ·) := by
  have hStart :
      Mode.between.step '"' = some (.text [], []) :=
    rfl
  rw [spellString, List.cons_append, List.append_assoc,
    List.singleton_append, lexFrom, hStart]
  simp only [List.nil_append, Option.map_id']
  rw [lexFrom_spelledText, List.reverse_nil, List.nil_append,
    String.ofList_toList]

end Json

end Componentry

------------------------------------------------------------
-- Numbers
------------------------------------------------------------

namespace Componentry

namespace Json

variable {cs : List Char}

/- May a character stand in a number? -/
def isNumberChar (c : Char) : Bool :=
  c.isDigit || c == '-' || c == '+' || c == '.' || c == 'e'
    || c == 'E'

theorem isNumberChar_of_isDigits
    (hDigits : isDigits cs = true) :
    ∀ c ∈ cs, isNumberChar c = true := by
  rw [isDigits, Bool.and_eq_true, List.all_eq_true] at hDigits
  intro c hChar
  simp [isNumberChar, hDigits.2 c hChar]

theorem isNumberChar_of_isMantissa
    (hMantissa : isMantissa cs = true) :
    ∀ c ∈ cs, isNumberChar c = true := by
  intro c hChar
  rw [← List.takeWhile_append_dropWhile (p := Char.isDigit)
    (l := cs), List.mem_append] at hChar
  rcases hChar with hWhole | hFraction
  · have hDigit := List.mem_takeWhile_imp hWhole
    simp [isNumberChar, hDigit]
  · unfold isMantissa at hMantissa
    dsimp only at hMantissa
    split at hMantissa
    · next hNone =>
        rw [hNone] at hFraction
        cases hFraction
    · next fraction hPoint =>
        rw [Bool.and_eq_true] at hMantissa
        rw [hPoint, List.mem_cons] at hFraction
        rcases hFraction with rfl | hFraction
        · rfl
        · exact
            isNumberChar_of_isDigits hMantissa.2 c hFraction
    · cases hMantissa

theorem isNumberChar_of_isExponent
    (hExponent : isExponent cs = true) :
    ∀ c ∈ cs, isNumberChar c = true := by
  unfold isExponent at hExponent
  split at hExponent
  · rw [List.forall_mem_cons]
    exact ⟨rfl, isNumberChar_of_isDigits hExponent⟩
  · rw [List.forall_mem_cons]
    exact ⟨rfl, isNumberChar_of_isDigits hExponent⟩
  · exact isNumberChar_of_isDigits hExponent

theorem isNumberChar_of_isUnsigned
    (hUnsigned : isUnsigned cs = true) :
    ∀ c ∈ cs, isNumberChar c = true := by
  intro c hChar
  rw [← List.takeWhile_append_dropWhile
    (p := fun c => c != 'e' && c != 'E') (l := cs),
    List.mem_append] at hChar
  unfold isUnsigned at hUnsigned
  dsimp only at hUnsigned
  split at hUnsigned
  · next hNone =>
      rw [hNone] at hChar
      rcases hChar with hMantissa | hNothing
      · exact
          isNumberChar_of_isMantissa hUnsigned c hMantissa
      · cases hNothing
  · next mark exponent hMark =>
      rw [Bool.and_eq_true] at hUnsigned
      rw [hMark, List.mem_cons] at hChar
      rcases hChar with hMantissa | rfl | hExponent
      · exact
          isNumberChar_of_isMantissa hUnsigned.1 c hMantissa
      · have hNot :=
          List.head?_dropWhile_not
            (fun c => c != 'e' && c != 'E') cs
        rw [hMark] at hNot
        simp only [List.head?_cons, Bool.and_eq_false_iff,
          bne_eq_false_iff_eq] at hNot
        rcases hNot with rfl | rfl
        · rfl
        · rfl
      · exact
          isNumberChar_of_isExponent hUnsigned.2 c hExponent

/- A number is written with the characters of numbers. -/
theorem isNumberChar_of_isNumber
    (hNumber : isNumber cs = true) :
    ∀ c ∈ cs, isNumberChar c = true := by
  unfold isNumber at hNumber
  split at hNumber
  · rw [List.forall_mem_cons]
    exact ⟨rfl, isNumberChar_of_isUnsigned hNumber⟩
  · exact isNumberChar_of_isUnsigned hNumber

/- None of them is a mark or ends a word. -/
theorem markToken?_of_isNumberChar
    {c : Char}
    (hChar : isNumberChar c = true) :
    markToken? c = none := by
  unfold markToken?
  split
  · exact absurd hChar (by decide)
  · exact absurd hChar (by decide)
  · exact absurd hChar (by decide)
  · exact absurd hChar (by decide)
  · exact absurd hChar (by decide)
  · exact absurd hChar (by decide)
  · rfl

theorem endsWord_of_isNumberChar
    {c : Char}
    (hChar : isNumberChar c = true) :
    endsWord c = false := by
  cases hEnd : endsWord c with
  | false => rfl
  | true =>
      simp only [endsWord, isSpace, Bool.or_eq_true,
        beq_iff_eq] at hEnd
      rcases hEnd with
        ((((rfl | rfl) | rfl) | rfl) | hMark) | rfl
      · exact absurd hChar (by decide)
      · exact absurd hChar (by decide)
      · exact absurd hChar (by decide)
      · exact absurd hChar (by decide)
      · rw [markToken?_of_isNumberChar hChar] at hMark
        cases hMark
      · exact absurd hChar (by decide)

/- A number is a word with a token of its own. -/
theorem wordToken?_of_isNumber
    (hNumber : isNumber cs = true) :
    wordToken? cs = some (.number (String.ofList cs)) := by
  have hOther :
      ∀ word ∈ ["null", "true", "false"],
        (cs == word.toList) = false := by
    intro word hWord
    rw [beq_eq_false_iff_ne]
    rintro rfl
    revert word
    decide
  simp only [List.forall_mem_cons] at hOther
  rw [wordToken?, hOther.1, hOther.2.1, hOther.2.2.1, hNumber]
  rfl

end Json

end Componentry

------------------------------------------------------------
-- Tokens
------------------------------------------------------------

namespace Componentry

namespace Json

namespace Token

/- Is a token spelled as a word? -/
def isWord : Token → Bool
  | .null | .bool _ | .number _ => true
  | _ => false

/- Is a token a mark? -/
def isMark : Token → Bool
  | .beginArray | .endArray | .beginObject | .endObject
  | .colon | .comma => true
  | _ => false

/- Does a token for a number hold the text of one? -/
def isProper : Token → Bool
  | .number digits => isNumber digits.toList
  | _ => true

/- A mark is spelled with a character of its own. -/
theorem exists_mark
    {token : Token}
    (hMark : token.isMark = true) :
    ∃ c, token.spell = [c] ∧ markToken? c = some token := by
  cases token with
  | beginArray => exact ⟨'[', rfl, rfl⟩
  | endArray => exact ⟨']', rfl, rfl⟩
  | beginObject => exact ⟨'\x7b', rfl, rfl⟩
  | endObject => exact ⟨'\x7d', rfl, rfl⟩
  | colon => exact ⟨':', rfl, rfl⟩
  | comma => exact ⟨',', rfl, rfl⟩
  | null => cases hMark
  | bool value => cases hMark
  | number digits => cases hMark
  | string text => cases hMark

/- The characters of a word can be checked one by one. -/
theorem not_endsWord_of_all
    {cs : List Char}
    (hAll : (cs.all fun c => !endsWord c) = true) :
    ∀ c ∈ cs, endsWord c = false := by
  intro c hChar
  simpa using List.all_eq_true.mp hAll c hChar

/-
  A word is spelled with characters that do not end it, and
  the word is that of the token.
-/
theorem spell_of_isWord
    {token : Token}
    (hWord : token.isWord = true)
    (hProper : token.isProper = true) :
    (∀ c ∈ token.spell, endsWord c = false) ∧
      wordToken? token.spell = some token := by
  cases token with
  | null => exact ⟨not_endsWord_of_all (by decide), by decide⟩
  | bool value =>
      cases value with
      | false =>
          exact ⟨not_endsWord_of_all (by decide), by decide⟩
      | true =>
          exact ⟨not_endsWord_of_all (by decide), by decide⟩
  | number digits =>
      refine ⟨?_, ?_⟩
      · intro c hChar
        exact
          endsWord_of_isNumberChar
            (isNumberChar_of_isNumber hProper c hChar)
      · have hRead := wordToken?_of_isNumber hProper
        rw [String.ofList_toList] at hRead
        exact hRead
  | beginArray => cases hWord
  | endArray => cases hWord
  | beginObject => cases hWord
  | endObject => cases hWord
  | colon => cases hWord
  | comma => cases hWord
  | string text => cases hWord

/- A word is spelled with at least one character. -/
theorem spell_ne_nil_of_isWord
    {token : Token}
    (hWord : token.isWord = true)
    (hProper : token.isProper = true) :
    token.spell ≠ [] := by
  intro hNil
  have hRead := (spell_of_isWord hWord hProper).2
  have hNone : wordToken? [] = none := by decide
  rw [hNil, hNone] at hRead
  cases hRead

/-
  A token is read back where it is spelled, if a mark or
  nothing follows a word.
-/
theorem lexFrom_spell
    {token : Token}
    {rest : List Char}
    (hProper : token.isProper = true)
    (hEnd : token.isWord = true → IsWordEnd rest) :
    lexFrom .between (token.spell ++ rest) =
      (lexFrom .between rest).map (token :: ·) := by
  cases hWord : token.isWord with
  | true =>
      rcases spell_of_isWord hWord hProper with ⟨hChars, hRead⟩
      exact
        lexFrom_word (spell_ne_nil_of_isWord hWord hProper)
          hChars hRead (hEnd hWord)
  | false =>
      cases hMark : token.isMark with
      | true =>
          rcases exists_mark hMark with ⟨c, hSpell, hRead⟩
          rw [hSpell, List.singleton_append,
            lexFrom_mark hRead]
      | false =>
          cases token with
          | string text => exact lexFrom_spellString text
          | null => cases hWord
          | bool value => cases hWord
          | number digits => cases hWord
          | beginArray => cases hMark
          | endArray => cases hMark
          | beginObject => cases hMark
          | endObject => cases hMark
          | colon => cases hMark
          | comma => cases hMark

/- A token may follow another one without white space. -/
def MayFollow (first second : Token) : Prop :=
  first.isWord = true → second.isMark = true

end Token

/- Behind a word there is a mark or nothing. -/
theorem isWordEnd_spelled
    {token : Token}
    {tokens : List Token}
    (hWord : token.isWord = true)
    (hFollows : (token :: tokens).IsChain Token.MayFollow) :
    IsWordEnd (tokens.flatMap Token.spell) := by
  cases tokens with
  | nil =>
      intro c hHead
      cases hHead
  | cons next tokens =>
      have hMark := (List.isChain_cons_cons.mp hFollows).1 hWord
      rcases Token.exists_mark hMark with ⟨c, hSpell, hRead⟩
      intro d hHead
      rw [List.flatMap_cons, hSpell, List.singleton_append,
        List.head?_cons, Option.mem_some_iff] at hHead
      rw [← hHead, hRead]
      rfl

/- Tokens are read back as they are spelled. -/
theorem lex_spelled
    {tokens : List Token}
    (hProper : ∀ token ∈ tokens, token.isProper = true)
    (hFollows : tokens.IsChain Token.MayFollow) :
    lex (tokens.flatMap Token.spell) = some tokens := by
  unfold lex
  induction tokens with
  | nil => rfl
  | cons token tokens ih =>
      rw [List.forall_mem_cons] at hProper
      have hRest := ih hProper.2 hFollows.tail
      rw [List.flatMap_cons,
        Token.lexFrom_spell hProper.1 ?_, hRest]
      · rfl
      · intro hWord
        exact isWordEnd_spelled hWord hFollows

end Json

end Componentry
