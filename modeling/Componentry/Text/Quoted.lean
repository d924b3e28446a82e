import Componentry.Text.PlainTable

/-
  Texts quoted for messages.

  A quoted text stands between double quotes.  The quote, the
  backslash and four control characters have an escape of two
  characters; every other character that is not plain is
  written as its code point in hexadecimal, `\u` and braces
  around it.

  Key definitions:
    * `hexDigit`, `hexNumber`
    * `quote`
-/

------------------------------------------------------------
-- Hexadecimal
------------------------------------------------------------

namespace Componentry

namespace Text

/- The digit of a number below sixteen, in lower case. -/
def hexDigit (n : Nat) : Char :=
  if n < 10 then Char.ofNat ('0'.toNat + n)
  else Char.ofNat ('a'.toNat + (n - 10))

/- A number in hexadecimal without leading zeros. -/
def hexNumber (n : Nat) : List Char :=
  Nat.toDigits 16 n

end Text

end Componentry

------------------------------------------------------------
-- Quoting
------------------------------------------------------------

namespace Componentry

namespace Text

/- How a character is written inside quotes. -/
def quoteChar (c : Char) : List Char :=
  match c with
  | '"' => ['\\', '"']
  | '\\' => ['\\', '\\']
  | '\t' => ['\\', 't']
  | '\r' => ['\\', 'r']
  | '\n' => ['\\', 'n']
  | '\x00' => ['\\', '0']
  | c =>
      if plainTable.contains c then [c]
      else
        ['\\', 'u', '\x7b'] ++ hexNumber c.toNat ++ ['\x7d']

/- A text in double quotes, with escapes. -/
def quote (text : String) : String :=
  String.ofList
    (['"'] ++ text.toList.flatMap quoteChar ++ ['"'])

end Text

end Componentry
