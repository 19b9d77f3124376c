/-
Punycode: labels of domains with characters outside ASCII, written in ASCII. The characters of ASCII
come first; the others follow in the order of their code points, each as the number of steps from
the one before it, in digits whose weights adapt to how far apart such characters have been so far.
-/

import LogForwarder.Text.Cut

namespace LogForwarder.Url.Punycode

/-! ### Digits -/

/-- The value of a digit: a letter, or after the letters a decimal digit. -/
def digitValue? (c : Char) : Option Nat :=
  if 'a' ≤ c && c ≤ 'z' then some (c.toNat - 'a'.toNat)
  else if 'A' ≤ c && c ≤ 'Z' then some (c.toNat - 'A'.toNat)
  else if c.isDigit then some (c.toNat - '0'.toNat + 26)
  else none

/-- The digit of a value below 36. -/
def digit (value : Nat) : Char :=
  if value < 26 then Char.ofNat ('a'.toNat + value) else Char.ofNat ('0'.toNat + (value - 26))

/-- The number of digits. -/
def base : Nat := 36

/--
The value from which on a digit is not the last one of its number, at a position in steps of `base`.
-/
def threshold (bias position : Nat) : Nat :=
  if position ≤ bias then 1 else if bias + 26 ≤ position then 26 else position - bias

theorem one_le_threshold (bias position : Nat) : 1 ≤ threshold bias position := by
  unfold threshold
  split
  · exact Nat.le_refl 1
  · split <;> omega

/-- A distance divided until it is small, with the position that this takes. -/
def reduce (distance position : Nat) : Nat × Nat :=
  if _large : 455 < distance then reduce (distance / 35) (position + base) else (distance, position)
termination_by distance
decreasing_by omega

/-- The bias after a distance, when `count` characters have been placed. -/
def adapt (distance count : Nat) (isFirst : Bool) : Nat :=
  let damped := if isFirst then distance / 700 else distance / 2
  let (small, position) := reduce (damped + damped / count) 0
  position + base * small / (small + 38)

/-- The code point of the first characters outside ASCII. -/
def firstCode : Nat := 128

/-- The bias before any distance. -/
def firstBias : Nat := 72

/-! ### Reading -/

/-- What has been read of the characters outside ASCII, up to some digit of a distance. -/
structure Reading where
  chars : List Char
  code : Nat
  /-- The place before which the last character was put, and the one after it. -/
  place : Nat
  bias : Nat
  isFirst : Bool
  position : Nat
  weight : Nat
  distance : Nat

/-- The beginning, with the characters of ASCII. -/
def Reading.start (chars : List Char) : Reading :=
  ⟨chars, firstCode, 0, firstBias, true, base, 1, 0⟩

/-- The character of a code point, if there is one. -/
def charOf? (code : Nat) : Option Char := if code.isValidChar then some (Char.ofNat code) else none

/-- One more character, at the end of a distance. -/
def Reading.place? (reading : Reading) (distance : Nat) : Option Reading := do
  let count := reading.chars.length + 1
  let total := reading.place + distance
  let code := reading.code + total / count
  let place := total % count
  let c ← charOf? code
  return { chars := reading.chars.take place ++ c :: reading.chars.drop place
           code := code
           place := place + 1
           bias := adapt distance count reading.isFirst
           isFirst := false
           position := base
           weight := 1
           distance := 0 }

/-- One more digit. -/
def Reading.step? (reading : Reading) (c : Char) : Option Reading := do
  let value ← digitValue? c
  let distance := reading.distance + value * reading.weight
  let limit := threshold reading.bias reading.position
  if value < limit then reading.place? distance
  else
    return { reading with
      distance := distance
      weight := reading.weight * (base - limit)
      position := reading.position + base }

/-- The characters of ASCII at the start of a label, and the digits after the last hyphen. -/
def parts (label : List Char) : List Char × List Char :=
  let digits := (label.reverse.takeWhile (· ≠ '-')).reverse
  (label.take (label.length - digits.length - 1), digits)

/-- The characters of a label, if they are written in full. -/
def decode? (label : List Char) : Option (List Char) := do
  let (plain, digits) := parts label
  if plain.any (127 < ·.toNat) then none
  else
    let reading ← digits.foldlM Reading.step? (Reading.start plain)
    if reading.weight = 1 && reading.position = base then some reading.chars else none

/-! ### Writing -/

/-- A distance in digits, from a position on. -/
def writeDistance (bias position distance : Nat) : List Char :=
  let limit := threshold bias position
  if _large : limit ≤ distance then
    digit (limit + (distance - limit) % (base - limit)) ::
      writeDistance bias (position + base) ((distance - limit) / (base - limit))
  else [digit distance]
termination_by distance
decreasing_by
  have positive := one_le_threshold bias position
  have shrinks : (distance - threshold bias position) / (base - threshold bias position) ≤
      distance - threshold bias position := Nat.div_le_self _ _
  omega

/-- What has been written, with the distance from the last character outside ASCII. -/
structure Writing where
  written : List Char
  distance : Nat
  bias : Nat
  placed : Nat

/-- The place of one character, when those of a code point are written. -/
def Writing.pass (plainCount code : Nat) (writing : Writing) (c : Char) : Writing :=
  if c.toNat < code then { writing with distance := writing.distance + 1 }
  else if c.toNat = code then
    { written := writing.written ++ writeDistance writing.bias base writing.distance
      distance := 0
      bias := adapt writing.distance (writing.placed + 1) (writing.placed = plainCount)
      placed := writing.placed + 1 }
  else writing

/-- All characters of some code points in rising order, of which those below `next` are written. -/
def writeCodes (chars : List Char) (plainCount : Nat) (writing : Writing) (next : Nat) :
    List Nat → Writing
  | [] => writing
  | code :: rest =>
    let reached :=
      { writing with distance := writing.distance + (code - next) * (writing.placed + 1) }
    let passed := chars.foldl (Writing.pass plainCount code) reached
    writeCodes chars plainCount { passed with distance := passed.distance + 1 } (code + 1) rest

/-- A label in ASCII. -/
def encode (chars : List Char) : List Char :=
  let plain := chars.filter (·.toNat < firstCode)
  let codes := ((chars.map Char.toNat).filter (firstCode ≤ ·)).mergeSort.eraseDups
  let start : Writing := ⟨[], 0, firstBias, plain.length⟩
  let written := (writeCodes chars plain.length start firstCode codes).written
  (if plain.isEmpty then [] else plain ++ ['-']) ++ written

end LogForwarder.Url.Punycode
