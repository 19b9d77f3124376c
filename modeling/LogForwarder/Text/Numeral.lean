/-
Decimal numerals: non-negative numbers written with ASCII digits, read up to a bound. Quantities,
ports and integers of documents all have a largest value, so the bound is part of reading.
-/

import LogForwarder.Text.CodeRuns

namespace LogForwarder.Text

/-- The largest number that counts of bytes and milliseconds can reach. -/
def maxCount : Nat := Nat.pow 2 64 - 1

/--
The number that digits stand for, if there is at least one digit, nothing else, and the number is at
most `bound`.
-/
def numeral? (bound : Nat) (digits : List Char) : Option Nat :=
  if digits.isEmpty || !digits.all Char.isDigit then none
  else
    let value := digitsValue digits
    if value ≤ bound then some value else none

/-- The digits at the start of a list and what follows them. -/
def spanDigits (chars : List Char) : List Char × List Char :=
  (chars.takeWhile Char.isDigit, chars.dropWhile Char.isDigit)

end LogForwarder.Text
