/-
Floating-point numbers of 64 bits, as documents hold them: an exact fraction rounded to the nearest
representable value, and the decimal with the fewest digits that reads back as the same value. All
arithmetic is exact on natural numbers, so no rounding happens except where it is stated.
-/

namespace LogForwarder

/-- A floating-point number, by its bits: sign, eleven bits of exponent, fifty-two of fraction. -/
structure Binary64 where
  bits : UInt64
  deriving DecidableEq, Inhabited

namespace Binary64

/-! ### Parts -/

/-- Whether the sign bit is set; a zero has a sign too. -/
def isNegative (number : Binary64) : Bool := number.bits.toNat / Nat.pow 2 63 == 1

/-- The eleven bits of exponent. -/
def biasedExponent (number : Binary64) : Nat := number.bits.toNat / Nat.pow 2 52 % Nat.pow 2 11

/-- The fifty-two bits of fraction. -/
def fraction (number : Binary64) : Nat := number.bits.toNat % Nat.pow 2 52

/-- Whether the number is neither an infinity nor without a value. -/
def isFinite (number : Binary64) : Bool := number.biasedExponent != 2047

/-- Whether the bits stand for no number at all. -/
def isNaN (number : Binary64) : Bool := !number.isFinite && number.fraction != 0

/-- Whether the number is zero, of either sign. -/
def isZero (number : Binary64) : Bool := number.biasedExponent == 0 && number.fraction == 0

/-- The whole number that the binary exponent scales. -/
def mantissa (number : Binary64) : Nat :=
  if number.biasedExponent == 0 then number.fraction else Nat.pow 2 52 + number.fraction

/-- The exponent of two by which the mantissa is scaled, counted from the smallest one, -1074. -/
def scale (number : Binary64) : Nat := number.biasedExponent - 1

/-- A number with its sign bit set as told. -/
def withSign (negative : Bool) (number : Binary64) : Binary64 :=
  ⟨UInt64.ofNat (number.bits.toNat % Nat.pow 2 63 + if negative then Nat.pow 2 63 else 0)⟩

/-- The infinity above all finite numbers. -/
def infinity : Binary64 := ⟨UInt64.ofNat (2047 * Nat.pow 2 52)⟩

/-- The bits that stand for no number. -/
def nan : Binary64 := ⟨UInt64.ofNat (2047 * Nat.pow 2 52 + Nat.pow 2 51)⟩

/-! ### Rounding -/

/-- A quotient rounded to the nearest whole number, a half to the even neighbour. -/
def roundQuotient (numerator denominator : Nat) : Nat :=
  let quotient := numerator / denominator
  let remainder := numerator % denominator
  if 2 * remainder < denominator then quotient
  else if denominator < 2 * remainder then quotient + 1
  else if quotient % 2 == 0 then quotient else quotient + 1

/-- The number with a given mantissa and scale; a mantissa that rounding carried over moves up. -/
def ofParts (mantissa scale : Nat) : Binary64 :=
  let carried := mantissa == Nat.pow 2 53
  let mantissa := if carried then Nat.pow 2 52 else mantissa
  let scale := if carried then scale + 1 else scale
  if mantissa < Nat.pow 2 52 then ⟨UInt64.ofNat mantissa⟩
  else if 2046 ≤ scale then infinity
  else ⟨UInt64.ofNat ((scale + 1) * Nat.pow 2 52 + (mantissa - Nat.pow 2 52))⟩

/--
The number nearest to a fraction. The scale is the one at which the mantissa has fifty-three bits,
or the smallest one if the fraction is too small for that.
-/
def ofFraction (numerator denominator : Nat) : Binary64 :=
  let scaled := numerator * Nat.pow 2 1074
  let width := (scaled / denominator).log2
  let scale := if width < 53 then 0 else width - 52
  ofParts (roundQuotient scaled (denominator * Nat.pow 2 scale)) scale

/-- The number nearest to a whole number. -/
def ofNat (value : Nat) : Binary64 := ofFraction value 1

/-- The numerator of the exact value of a finite number over the denominator `2 ^ 1074`. -/
def units (number : Binary64) : Nat := number.mantissa * Nat.pow 2 number.scale

/-- The product of two finite numbers of positive sign. -/
def multiply (left right : Binary64) : Binary64 :=
  ofFraction (left.units * right.units) (Nat.pow 2 1074 * Nat.pow 2 1074)

/-- The quotient of two finite numbers of positive sign, the second of them not zero. -/
def divide (left right : Binary64) : Binary64 :=
  ofFraction left.units right.units

/--
The number nearest to a decimal. Decimals beyond all finite numbers, or too small to be told from
zero, are recognised from the count of their digits before any power is formed.
-/
def ofDecimal (digits : Nat) (exponent : Int) : Binary64 :=
  let size : Int := (Nat.toDigits 10 digits).length
  if digits == 0 || exponent + size < -400 then ⟨0⟩
  else if 400 < exponent + size then infinity
  else if 0 ≤ exponent then ofNat (digits * Nat.pow 10 exponent.toNat)
  else ofFraction digits (Nat.pow 10 (-exponent).toNat)

/--
Whether two numbers are equal as numbers: zeros are equal, and what is no number equals nothing.
-/
def sameNumber (left right : Binary64) : Bool :=
  !left.isNaN && !right.isNaN && (left == right || (left.isZero && right.isZero))

/-! ### The shortest decimal -/

/-- A decimal `digits * 10 ^ exponent`. -/
structure Decimal where
  digits : Nat
  exponent : Int

/--
The decimal with the fewest digits among those nearest to `number`, read off the grid of multiples
of `10 ^ exponent`. The reals that round to `number` reach half way to both neighbours, the ends
included if the mantissa is even; below a power of two the neighbour is only half as far.
-/
def onGrid? (number : Binary64) (exponent : Int) : Option Decimal :=
  let narrow := number.fraction == 0 && 1 < number.biasedExponent
  let value := 4 * number.mantissa * Nat.pow 2 number.scale
  let low := value - (if narrow then 1 else 2) * Nat.pow 2 number.scale
  let high := value + 2 * Nat.pow 2 number.scale
  let closed := number.mantissa % 2 == 0
  let grid := Nat.pow 10 exponent.toNat * 4 * Nat.pow 2 1074
  let factor := Nat.pow 10 (-exponent).toNat
  let holds (point : Nat) : Bool :=
    let place := point * grid
    (low * factor < place || (closed && low * factor == place)) &&
      (place < high * factor || (closed && place == high * factor))
  let below := value * factor / grid
  let nearer := if 2 * (value * factor) < (2 * below + 1) * grid then below
    else if (2 * below + 1) * grid < 2 * (value * factor) then below + 1
    else if below % 2 == 0 then below else below + 1
  let further := if nearer == below then below + 1 else below
  if nearer != 0 && holds nearer then some ⟨nearer, exponent⟩
  else if further != 0 && holds further then some ⟨further, exponent⟩
  else none

/-- The first grid that holds a decimal for the number, going from coarse to fine. -/
def shortestFrom (number : Binary64) (exponent : Int) : Nat → Decimal
  | 0 => ⟨number.units, 0⟩
  | steps + 1 => (onGrid? number exponent).getD (shortestFrom number (exponent - 1) steps)

/-- The shortest decimal that reads back as a finite number other than zero, without its sign. -/
def shortest (number : Binary64) : Decimal :=
  let binaryPlace : Int := (number.units.log2 : Int) - 1074
  shortestFrom number (binaryPlace * 30103 / 100000 + 2) 22

/-! ### Texts -/

/-- The digits of a decimal and how many of them stand before its point. -/
def digitsAndPoint (number : Binary64) : String × Int :=
  let decimal := number.shortest
  let digits := toString decimal.digits
  (digits, digits.length + decimal.exponent)

/--
Digits written out around a point that stands after `point` of them, with at least one digit on each
side.
-/
def positional (digits : String) (point : Int) : String :=
  let chars := digits.toList
  let zeros (count : Nat) : String := String.ofList (List.replicate count '0')
  if point ≤ 0 then "0." ++ zeros (-point).toNat ++ digits
  else
    let whole := point.toNat
    if chars.length ≤ whole then digits ++ zeros (whole - chars.length) ++ ".0"
    else String.ofList (chars.take whole) ++ "." ++ String.ofList (chars.drop whole)

/-- Digits with a power of ten, the point after the first of them. -/
def scientific (digits : String) (point : Int) : String :=
  let chars := digits.toList
  let head := String.ofList (chars.take 1)
  let tail := String.ofList (chars.drop 1)
  let power := point - 1
  head ++ (if tail.isEmpty then "" else "." ++ tail) ++ "e" ++
    (if power < 0 then "-" else "+") ++ toString power.natAbs

/-- The sign that stands before a number's digits. -/
def signText (number : Binary64) : String := if number.isNegative then "-" else ""

/--
The text of a finite number in compact documents: digits around a point from `0.00001` up to below
`10 ^ 16`, and with a power of ten outside that range.
-/
def compactText (number : Binary64) : String :=
  number.signText ++
    if number.isZero then "0.0"
    else
      let (digits, point) := number.digitsAndPoint
      if -5 < point && point ≤ 16 then positional digits point else scientific digits point

/-- The text of a number in full, never with a power of ten. -/
def fullText (number : Binary64) : String :=
  if number.isNaN then "NaN"
  else number.signText ++
    if !number.isFinite then "inf"
    else if number.isZero then "0.0"
    else
      let (digits, point) := number.digitsAndPoint
      positional digits point

end Binary64

end LogForwarder
