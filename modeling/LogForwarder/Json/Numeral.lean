/-
Numbers of JSON documents. A number without fraction and exponent is an integer if it fits in 64
bits, of either sign. Every other number is a floating-point number: the leading digits that fit in
64 bits are taken as one whole number, rounded, and scaled by rounded powers of ten.
-/

import LogForwarder.Document.Basic
import LogForwarder.Text.Numeral

namespace LogForwarder.Json

/-- A number as it is written, its digits in order. -/
structure Numeral where
  negative : Bool
  whole : List Char
  fraction : Option (List Char)
  exponent : Option (Bool × List Char)

/--
Digits appended to a number as long as it stays below the bound of 64 bits: the number reached and
the count of digits used.
-/
def takeWhileFits (value used : Nat) : List Char → Nat × Nat
  | [] => (value, used)
  | digit :: rest =>
    let next := value * 10 + (digit.toNat - '0'.toNat)
    if next ≤ Text.maxCount then takeWhileFits next (used + 1) rest else (value, used)

/-- The largest power of ten among floating-point numbers. -/
def maxPower : Nat := 308

/-- The floating-point number nearest to a power of ten. -/
def powerOfTen (exponent : Nat) : Binary64 := Binary64.ofNat (Nat.pow 10 exponent)

/--
A number divided by `10 ^ exponent`. Where that power is beyond all floating-point numbers the
division goes by the largest power as often as it fits in the exponent, or until nothing is left.
-/
def scaleDown (number : Binary64) (exponent : Nat) : Binary64 :=
  if exponent ≤ maxPower then number.divide (powerOfTen exponent)
  else if number.isZero then number
  else scaleDown (number.divide (powerOfTen maxPower)) (exponent - maxPower)
termination_by exponent
decreasing_by rename_i large _; unfold maxPower at *; omega

/-- The floating-point number of a whole number times a power of ten, unless it is too large. -/
def scaled (significand : Nat) (exponent : Int) : Except JsonFault Binary64 :=
  let number := Binary64.ofNat significand
  if exponent < 0 then .ok (scaleDown number (-exponent).toNat)
  else if exponent ≤ maxPower then
    let product := number.multiply (powerOfTen exponent.toNat)
    if product.isFinite then .ok product else .error .numberOutOfRange
  else if significand == 0 then .ok number
  else .error .numberOutOfRange

/-- The largest exponent that is taken as it is written. -/
def maxExponent : Nat := Nat.pow 2 31 - 1

namespace Numeral

/-- The floating-point number that a numeral stands for. -/
def toFloat (numeral : Numeral) : Except JsonFault Binary64 := do
  let (whole, usedWhole) := takeWhileFits 0 0 numeral.whole
  let (significand, usedFraction) := takeWhileFits whole 0 (numeral.fraction.getD [])
  let shift : Int := ((numeral.whole.length - usedWhole : Nat) : Int) - usedFraction
  let (lowers, power) : Bool × Nat :=
    match numeral.exponent with
    | none => (false, 0)
    | some (lowers, digits) => (lowers, Text.digitsValue digits)
  if maxExponent < power then
    if significand == 0 || lowers then return (⟨0⟩ : Binary64).withSign numeral.negative
    else .error .numberOutOfRange
  else
    let number ← scaled significand (if lowers then shift - power else shift + power)
    return number.withSign numeral.negative

/-- The document of a number. A negative zero is a floating-point number, because no integer is. -/
def toDocument (numeral : Numeral) : Document :=
  let float : Document :=
    match numeral.toFloat with
    | .ok number => .float number
    | .error fault => .unreadable fault
  if numeral.fraction.isSome || numeral.exponent.isSome then float
  else
    let value := Text.digitsValue numeral.whole
    if !numeral.negative then
      if value ≤ Text.maxCount then .integer value else float
    else if value == 0 || Nat.pow 2 63 < value then float
    else .integer (-value)

end Numeral

end LogForwarder.Json
