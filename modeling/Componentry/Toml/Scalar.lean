import Componentry.Json.Lexer
import Componentry.Text.Pieces
import Componentry.Toml.Basic

/-
  Values that are written without quotes: truth values,
  numbers, dates and times.

  Digits may be grouped by single underscores.  Whole numbers
  have 64 bits and a sign; without a sign they may also be
  written in base 16, 8 or 2.  A positive number that is not
  whole may not be too large for a double.

  Key definitions:
    * `Toml.digitGroups?`
    * `Toml.integer?`, `Toml.isFloat`
    * `Toml.isDate`, `Toml.isTime`, `Toml.isMoment`
    * `Toml.scalar?`
-/

------------------------------------------------------------
-- Whole Numbers
------------------------------------------------------------

namespace Componentry

namespace Toml

/- The value of a digit in a base. -/
def digitValue?
    (base : Nat)
    (c : Char) :
    Option Nat :=
  (Json.hexValue? c).filter (· < base)

/- The number that digits spell behind a value. -/
def digitsFrom?
    (base : Nat)
    (value : Nat) :
    List Char → Option Nat
  | [] => some value
  | c :: cs => do
      let digit ← digitValue? base c
      digitsFrom? base (value * base + digit) cs

/- The number that a group of digits spells, at least one. -/
def digits?
    (base : Nat)
    (cs : List Char) :
    Option Nat :=
  if cs.isEmpty then none else digitsFrom? base 0 cs

/- The digits of groups between underscores. -/
def digitGroups?
    (base : Nat)
    (cs : List Char) :
    Option (List Char) :=
  let groups := Text.pieces (· == '_') cs
  if groups.all fun group => (digits? base group).isSome then
    some groups.flatten
  else none

/- The number that groups of digits spell. -/
def grouped?
    (base : Nat)
    (cs : List Char) :
    Option Nat :=
  (digitGroups? base cs).bind (digits? base)

/- Groups of decimal digits without a leading zero. -/
def whole? (cs : List Char) : Option Nat :=
  if cs.length > 1 && cs.head? == some '0' then none
  else grouped? 10 cs

/- The sign of a number, and what follows it. -/
def cutSign : List Char → Bool × List Char
  | '-' :: cs => (true, cs)
  | '+' :: cs => (false, cs)
  | cs => (false, cs)

/- A whole number before its range is looked at. -/
def unbounded? : List Char → Option Int
  | '0' :: 'x' :: cs => (grouped? 16 cs).map Int.ofNat
  | '0' :: 'o' :: cs => (grouped? 8 cs).map Int.ofNat
  | '0' :: 'b' :: cs => (grouped? 2 cs).map Int.ofNat
  | cs =>
      let (negative, cs) := cutSign cs
      (whole? cs).map fun n =>
        if negative then -Int.ofNat n else Int.ofNat n

/- The size of a range of whole numbers on either side. -/
def integerBound : Int := 0x8000000000000000

/- The whole number that a word spells. -/
def integer? (cs : List Char) : Option Int :=
  (unbounded? cs).filter fun value =>
    -integerBound ≤ value && value < integerBound

end Toml

end Componentry

------------------------------------------------------------
-- Other Numbers
------------------------------------------------------------

namespace Componentry

namespace Toml

/- The digits of a number and the power of ten behind them. -/
structure Decimal where
  digits : List Char
  exponent : Int

namespace Decimal

/-
  Is the number too large for a double?  That is so from half
  a step above the largest double.
-/
def isHuge (number : Decimal) : Bool :=
  let digits := number.digits.dropWhile (· == '0')
  let value := (digits? 10 digits).getD 0
  let size := digits.length + number.exponent
  let bound := Nat.pow 2 1024 - Nat.pow 2 970
  if value = 0 || size < 309 then false
  else if size > 309 then true
  else if number.exponent < 0 then
    bound * Nat.pow 10 number.exponent.natAbs ≤ value
  else bound ≤ value * Nat.pow 10 number.exponent.toNat

end Decimal

/- The value of an exponent: an optional sign and digits. -/
def exponent? (cs : List Char) : Option Int :=
  let (negative, cs) := cutSign cs
  (grouped? 10 cs).map fun n =>
    if negative then -Int.ofNat n else Int.ofNat n

/- What stands before the exponent of a number. -/
def mantissa? (cs : List Char) : Option Decimal :=
  match Text.cutFirst (· == '.') cs with
  | none => do
      let _ ← whole? cs
      some ⟨cs.filter (· != '_'), 0⟩
  | some (before, _, after) => do
      let _ ← whole? before
      let fraction ← digitGroups? 10 after
      some
        ⟨before.filter (· != '_') ++ fraction,
          -Int.ofNat fraction.length⟩

/- A number without a sign that has a point or an exponent. -/
def decimal? (cs : List Char) : Option Decimal :=
  match Text.cutFirst (fun c => c == 'e' || c == 'E') cs with
  | none => if cs.contains '.' then mantissa? cs else none
  | some (before, _, after) => do
      let mantissa ← mantissa? before
      let exponent ← exponent? after
      some
        { mantissa with exponent := mantissa.exponent + exponent }

/- Does a word spell a number that is not whole? -/
def isFloat (cs : List Char) : Bool :=
  let (negative, cs) := cutSign cs
  if cs == "inf".toList || cs == "nan".toList then true
  else
    match decimal? cs with
    | none => false
    | some number => negative || !number.isHuge

end Toml

end Componentry

------------------------------------------------------------
-- Dates and Times
------------------------------------------------------------

namespace Componentry

namespace Toml

/- A number with a fixed count of digits. -/
def fixed?
    (count : Nat)
    (cs : List Char) :
    Option Nat :=
  if cs.length = count then digits? 10 cs else none

/- A two-digit number in a range. -/
def isPart
    (first last : Nat)
    (cs : List Char) :
    Bool :=
  match fixed? 2 cs with
  | none => false
  | some value => first ≤ value && value ≤ last

/- Has a year a leap day? -/
def isLeapYear (year : Nat) : Bool :=
  year % 4 = 0 && (year % 100 != 0 || year % 400 = 0)

/- The number of days in a month. -/
def daysIn
    (year month : Nat) :
    Nat :=
  if month = 2 then if isLeapYear year then 29 else 28
  else if [4, 6, 9, 11].contains month then 30
  else 31

/- Does a word spell a date? -/
def isDate (cs : List Char) : Bool :=
  match Text.pieces (· == '-') cs with
  | [year, month, day] =>
      match fixed? 4 year, fixed? 2 month with
      | some y, some m =>
          isPart 1 12 month && isPart 1 (daysIn y m) day
      | _, _ => false
  | _ => false

/- Does a word spell a number of seconds? -/
def isSecond (cs : List Char) : Bool :=
  match Text.cutFirst (· == '.') cs with
  | none => isPart 0 60 cs
  | some (before, _, after) =>
      isPart 0 60 before && (digits? 10 after).isSome

/- Does a word spell a time of day? -/
def isTime (cs : List Char) : Bool :=
  match Text.pieces (· == ':') cs with
  | [hour, minute, second] =>
      isPart 0 23 hour && isPart 0 59 minute && isSecond second
  | _ => false

/- Does a word spell hours and minutes? -/
def isShift (cs : List Char) : Bool :=
  match Text.pieces (· == ':') cs with
  | [hour, minute] => isPart 0 23 hour && isPart 0 59 minute
  | _ => false

/- Does a word spell a time of day and where it is shown? -/
def isPlacedTime (cs : List Char) : Bool :=
  match Text.cutFirst (fun c => "zZ+-".toList.contains c) cs with
  | none => isTime cs
  | some (time, mark, shift) =>
      isTime time
        && (if mark == 'z' || mark == 'Z' then shift.isEmpty
            else isShift shift)

/- Does a word spell a date, a time, or both? -/
def isMoment (cs : List Char) : Bool :=
  match Text.cutFirst (fun c => "tT ".toList.contains c) cs with
  | none => isDate cs || isTime cs
  | some (date, _, time) => isDate date && isPlacedTime time

end Toml

end Componentry

------------------------------------------------------------
-- All Scalars
------------------------------------------------------------

namespace Componentry

namespace Toml

/- The value that a word spells. -/
def scalar? (cs : List Char) : Option Toml :=
  if cs == "true".toList then some (.boolean true)
  else if cs == "false".toList then some (.boolean false)
  else
    match integer? cs with
    | some value => some (.integer value)
    | none =>
        if isFloat cs then some (.float (String.ofList cs))
        else if isMoment cs then
          some (.moment (String.ofList cs))
        else none

end Toml

end Componentry
