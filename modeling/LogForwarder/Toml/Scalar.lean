/-
Scalars of TOML documents that are no strings: truth values, integers in four bases, floating-point
numbers, and dates and times. A scalar is first taken as a word and then read in full.
-/

import LogForwarder.Toml.Text
import LogForwarder.Document.Basic

namespace LogForwarder.Toml

/-! ### Numbers -/

/--
Digits without the underscores between them. An underscore must stand between two digits, and there
must be at least one digit.
-/
def digitsOnly? (isDigit : Char → Bool) : List Char → Option (List Char)
  | [] => none
  | [digit] => if isDigit digit then some [digit] else none
  | digit :: '_' :: rest =>
    if isDigit digit then (digitsOnly? isDigit rest).map (digit :: ·) else none
  | digit :: rest => if isDigit digit then (digitsOnly? isDigit rest).map (digit :: ·) else none

/-- Decimal digits of a whole number, which begin with a zero only if that is all. -/
def wholeDigits? (chars : List Char) : Option (List Char) :=
  (digitsOnly? Char.isDigit chars).bind fun digits =>
    if digits.head? = some '0' && 1 < digits.length then none else some digits

/-- The number that digits of a base stand for. -/
def valueInBase (base : Nat) (digits : List Char) : Nat :=
  digits.foldl (fun value digit => value * base + (hexDigit? digit).getD 0) 0

/-- A sign taken off, and whether it was a minus. -/
def splitSign : List Char → Bool × List Char
  | '-' :: rest => (true, rest)
  | '+' :: rest => (false, rest)
  | chars => (false, chars)

/-- An integer in any base. -/
def readInteger? (word : List Char) : Option Int :=
  match word with
  | '0' :: 'x' :: rest =>
    (digitsOnly? (fun c => (hexDigit? c).isSome) rest).map fun digits => valueInBase 16 digits
  | '0' :: 'o' :: rest =>
    (digitsOnly? (fun c => '0' ≤ c && c ≤ '7') rest).map fun digits => valueInBase 8 digits
  | '0' :: 'b' :: rest =>
    (digitsOnly? (fun c => c = '0' || c = '1') rest).map fun digits => valueInBase 2 digits
  | _ =>
    let (negative, rest) := splitSign word
    (wholeDigits? rest).map fun digits =>
      let value : Int := valueInBase 10 digits
      if negative then -value else value

/-- A floating-point number. -/
def readFloat? (word : List Char) : Option Binary64 := do
  let (negative, rest) := splitSign word
  if rest = "inf".toList then return Binary64.infinity.withSign negative
  if rest = "nan".toList then return Binary64.nan.withSign negative
  let isMark (c : Char) : Bool := c = 'e' || c = 'E'
  let number := rest.takeWhile (!isMark ·)
  let power : Int ←
    match rest.dropWhile (!isMark ·) with
    | [] => pure 0
    | _ :: exponent => do
      let (lowers, digits) := splitSign exponent
      let value : Int := valueInBase 10 (← digitsOnly? Char.isDigit digits)
      pure (if lowers then -value else value)
  let whole ← wholeDigits? (number.takeWhile (· ≠ '.'))
  let fraction ←
    match number.dropWhile (· ≠ '.') with
    | [] => if rest.any isMark then pure [] else none
    | _ :: fraction => digitsOnly? Char.isDigit fraction
  let magnitude := Binary64.ofDecimal (valueInBase 10 (whole ++ fraction)) (power - fraction.length)
  return magnitude.withSign negative

/-! ### Dates and times -/

/-- The number of a fixed count of decimal digits, and what follows them. -/
def takeNumber? (count : Nat) (chars : List Char) : Option (Nat × List Char) :=
  let digits := chars.take count
  if digits.length = count && digits.all Char.isDigit then
    some (valueInBase 10 digits, chars.drop count)
  else none

/-- What follows a character that must come next. -/
def takeChar? (expected : Char) : List Char → Option (List Char)
  | c :: rest => if c = expected then some rest else none
  | [] => none

/-- The number of days of a month. -/
def daysInMonth (year month : Nat) : Nat :=
  if month = 2 then
    if year % 4 = 0 && (year % 100 ≠ 0 || year % 400 = 0) then 29 else 28
  else if month ∈ [4, 6, 9, 11] then 30
  else 31

/-- What follows a date. -/
def skipDate? (chars : List Char) : Option (List Char) := do
  let (year, rest) ← takeNumber? 4 chars
  let (month, rest) ← takeNumber? 2 (← takeChar? '-' rest)
  let (day, rest) ← takeNumber? 2 (← takeChar? '-' rest)
  if 1 ≤ month && month ≤ 12 && 1 ≤ day && day ≤ daysInMonth year month then return rest else none

/-- What follows a time of day. -/
def skipTime? (chars : List Char) : Option (List Char) := do
  let (hour, rest) ← takeNumber? 2 chars
  let (minute, rest) ← takeNumber? 2 (← takeChar? ':' rest)
  if 23 < hour || 59 < minute then none
  match rest with
  | ':' :: rest => do
    let (second, rest) ← takeNumber? 2 rest
    if 60 < second then none
    match rest with
    | '.' :: rest =>
      if (rest.takeWhile Char.isDigit).isEmpty then none else return rest.dropWhile Char.isDigit
    | _ => return rest
  | _ => return rest

/-- Whether nothing is left but the offset of a time zone, or nothing at all. -/
def isZone (chars : List Char) : Bool :=
  match chars with
  | [] => true
  | ['Z'] => true
  | ['z'] => true
  | sign :: rest =>
    (sign = '+' || sign = '-') &&
      (do
        let (hour, rest) ← takeNumber? 2 rest
        let (minute, rest) ← takeNumber? 2 (← takeChar? ':' rest)
        return rest.isEmpty && hour ≤ 23 && minute ≤ 59).getD false

/-- Whether a word is a date, a time, or both. -/
def isMoment (word : List Char) : Bool :=
  match skipDate? word with
  | some [] => true
  | some (mark :: rest) =>
    (mark = 'T' || mark = 't' || mark = ' ') && ((skipTime? rest).map isZone).getD false
  | none => skipTime? word = some []

/-- The key under which a date or a time stands alone in a table of its own. -/
def momentKey : String := "$__toml_private_datetime"

/-! ### Words -/

/-- Whether a character may stand in a word. -/
def isWordChar (c : Char) : Bool :=
  c.isAlphanum || c = '_' || c = '-' || c = '+' || c = '.' || c = ':'

/-- A word and what follows it. A date may be followed by a time after one space. -/
def takeWord (chars : List Char) : List Char × List Char :=
  let word := chars.takeWhile isWordChar
  let rest := chars.dropWhile isWordChar
  match rest with
  | ' ' :: digit :: _ =>
    if digit.isDigit && skipDate? word = some [] then
      let time := (rest.drop 1).takeWhile isWordChar
      (word ++ ' ' :: time, (rest.drop 1).dropWhile isWordChar)
    else (word, rest)
  | _ => (word, rest)

/-- The scalar of a word. -/
def readWord? (word : List Char) : Option Document :=
  if word = "true".toList then some (.boolean true)
  else if word = "false".toList then some (.boolean false)
  else
    match readInteger? word with
    | some value => some (.integer value)
    | none =>
      match readFloat? word with
      | some value => some (.float value)
      | none =>
        if isMoment word then some (.table [(momentKey, .text (String.ofList word))]) else none

end LogForwarder.Toml
