/-
  How long something took, for people to read.

  The time is given in the largest unit that it fills, with
  one decimal.  A half goes to the even neighbour.

  Key definitions:
    * `CommandLine.roundDiv`
    * `CommandLine.elapsedText`
-/

------------------------------------------------------------
-- Elapsed Time
------------------------------------------------------------

namespace Componentry

namespace CommandLine

/- The nearest whole number to a quotient. -/
def roundDiv
    (n : Nat)
    (d : Nat) :
    Nat :=
  let quotient := n / d
  let twice := 2 * (n % d)
  if twice > d || (twice = d && quotient % 2 = 1) then
    quotient + 1
  else quotient

/- The units of time and their length in nanoseconds. -/
def timeUnits : List (Nat × String) :=
  [(1000000000, "s"), (1000000, "ms"), (1000, "µs")]

/- The text of a number of nanoseconds. -/
def elapsedText (nanoseconds : Nat) : String :=
  let (length, unit) :=
    (timeUnits.find? (·.1 ≤ nanoseconds)).getD (1, "ns")
  let tenths := roundDiv (nanoseconds * 10) length
  toString (tenths / 10) ++ "." ++ toString (tenths % 10) ++ unit

end CommandLine

end Componentry
