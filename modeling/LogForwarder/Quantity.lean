/-
Quantities, written as a number followed by a unit. Durations are such as `500ms`, `0.5`, `30s`,
`5m`, `1h` or `2d`; a bare decimal counts seconds to the millisecond. Sizes in bytes are such as
`8m`, `256MB`, `2g` or a plain count; their units are powers of 1024, in either case, with or
without a `B`. A quantity is written in the largest unit that keeps it whole, and a duration as a
bare decimal if it is no whole number of seconds.
-/

import LogForwarder.Document.Codec
import LogForwarder.Text.Cut
import LogForwarder.Text.Numeral
import LogForwarder.Text.Property

namespace LogForwarder

/-! ### Amounts -/

/-- Why a text is not a number followed by a unit. -/
inductive AmountError
  | missingSuffix (text : String)
  | missingNumber (text : String)
  deriving DecidableEq

/-- The text that reports why a text is not an amount. -/
def AmountError.message : AmountError → String
  | .missingSuffix text => "missing suffix in " ++ Text.quoted text
  | .missingNumber text => "missing numeric part in " ++ Text.quoted text

/-- The digits that a text starts with and the unit that follows them; neither may be empty. -/
def splitAmount (text : String) : Except AmountError (List Char × String) :=
  match Text.spanDigits text.toList with
  | (_, []) => .error (.missingSuffix text)
  | ([], _) => .error (.missingNumber text)
  | (digits, unit) => .ok (digits, String.ofList unit)

end LogForwarder

namespace LogForwarder

/-! ### Durations -/

/-- A span of time, in nanoseconds. -/
structure Duration where
  nanoseconds : Nat
  deriving DecidableEq, Inhabited

namespace Duration

/-- The duration of a number of milliseconds. -/
def ofMilliseconds (count : Nat) : Duration := ⟨count * 1000000⟩

/-- Whole milliseconds; what is left over is dropped. -/
def milliseconds (duration : Duration) : Nat := duration.nanoseconds / 1000000

/-- Whole seconds; what is left over is dropped. -/
def seconds (duration : Duration) : Nat := duration.nanoseconds / 1000000000

/-! ### Reading -/

/-- Why a text is not a duration. -/
inductive ReadError
  | empty
  | invalidDecimal (text : String)
  | amount (error : AmountError)
  | invalidNumber (text : String)
  | unknownUnit (unit text : String)
  | outOfRange (text : String)
  deriving DecidableEq

/-- The text that reports why a text is not a duration. -/
def ReadError.message : ReadError → String
  | .empty => "empty duration string"
  | .invalidDecimal text => "invalid decimal duration: " ++ Text.quoted text
  | .amount error => error.message
  | .invalidNumber text => "invalid number in duration: " ++ Text.quoted text
  | .unknownUnit unit text =>
    s!"unsupported duration suffix {Text.quoted unit} in {Text.quoted text} (expected ms/s/m/h/d)"
  | .outOfRange text => "duration out of range: " ++ Text.quoted text

/-- The units of durations with their length in milliseconds. -/
def units : List (String × Nat) :=
  [("ms", 1), ("s", 1000), ("m", 60000), ("h", 3600000), ("d", 86400000)]

/--
The milliseconds of a decimal number of seconds, from the digits before its point and the one to
three digits after it.
-/
def decimalMilliseconds? (whole fraction : List Char) : Option Nat :=
  if whole.isEmpty || fraction.isEmpty || 3 < fraction.length then none
  else if !whole.all Char.isDigit || !fraction.all Char.isDigit then none
  else
    let thousandths := fraction ++ List.replicate (3 - fraction.length) '0'
    let count := Text.digitsValue whole * 1000 + Text.digitsValue thousandths
    if count ≤ Text.maxCount then some count else none

/-- The duration that a text without blanks around it stands for. -/
def readTrimmed (text : String) : Except ReadError Duration :=
  let chars := text.toList
  if chars.isEmpty then .error .empty
  else if chars.contains '.' then
    let whole := chars.takeWhile (· != '.')
    let fraction := (chars.dropWhile (· != '.')).drop 1
    match decimalMilliseconds? whole fraction with
    | some count => .ok (ofMilliseconds count)
    | none => .error (.invalidDecimal text)
  else
    match splitAmount text with
    | .error error => .error (.amount error)
    | .ok (digits, unit) =>
      match Text.numeral? Text.maxCount digits with
      | none => .error (.invalidNumber text)
      | some number =>
        match units.lookup unit with
        | none => .error (.unknownUnit unit text)
        | some size =>
          if number * size ≤ Text.maxCount then .ok (ofMilliseconds (number * size))
          else .error (.outOfRange text)

/-- The duration that a text stands for; blanks around it do not count. -/
def read (text : String) : Except ReadError Duration := readTrimmed (Text.trim text)

/-! ### Writing -/

/-- The thousandths of a second after the point, without zeros at the end. -/
def fractionDigits (thousandths : Nat) : String :=
  let digits := Nat.toDigits 10 thousandths
  let padded := List.replicate (3 - digits.length) '0' ++ digits
  String.ofList (Text.dropWhileEnd (· == '0') padded)

/-- The text of a duration. -/
def display (duration : Duration) : String :=
  let count := duration.milliseconds
  if count = 0 then "0s"
  else if count % 1000 ≠ 0 then s!"{count / 1000}." ++ fractionDigits (count % 1000)
  else
    let seconds := count / 1000
    if seconds % 86400 = 0 then s!"{seconds / 86400}d"
    else if seconds % 3600 = 0 then s!"{seconds / 3600}h"
    else if seconds % 60 = 0 then s!"{seconds / 60}m"
    else s!"{seconds}s"

/-- Durations are written in documents as texts. -/
def codec : Codec Duration where
  encode duration := .text duration.display
  decode medium document := do
    match read (← decodeText medium document) with
    | .ok duration => return duration
    | .error error => throw (.refused error.message)

end Duration

end LogForwarder

namespace LogForwarder

/-! ### Sizes -/

/-- A number of bytes, of at most 64 bits. -/
structure ByteSize where
  bytes : Nat
  bounded : bytes ≤ Text.maxCount := by decide
  deriving DecidableEq

namespace ByteSize

instance : Inhabited ByteSize := ⟨⟨0, Nat.zero_le _⟩⟩

/-- The size of a number of bytes, if it is not too large. -/
def ofNat? (bytes : Nat) : Option ByteSize :=
  if bounded : bytes ≤ Text.maxCount then some ⟨bytes, bounded⟩ else none

/-! ### Reading -/

/-- Why a text is not a size. -/
inductive ReadError
  | empty
  | amount (error : AmountError)
  | invalidNumber (text : String)
  | unknownUnit (unit text : String)
  | outOfRange (text : String)
  deriving DecidableEq

/-- The text that reports why a text is not a size. -/
def ReadError.message : ReadError → String
  | .empty => "empty byte-size string"
  | .amount error => error.message
  | .invalidNumber text => "invalid number in byte-size: " ++ Text.quoted text
  | .unknownUnit unit text =>
    s!"unsupported byte-size suffix {Text.quoted unit} in {Text.quoted text} (expected B/K/M/G)"
  | .outOfRange text => "byte-size out of range: " ++ Text.quoted text

/-- The units of sizes in upper case, with their number of bytes. -/
def units : List (String × Nat) :=
  [("B", 1), ("K", Nat.pow 2 10), ("KB", Nat.pow 2 10), ("M", Nat.pow 2 20), ("MB", Nat.pow 2 20),
    ("G", Nat.pow 2 30), ("GB", Nat.pow 2 30)]

/-- The size that a text without blanks around it stands for. -/
def readTrimmed (text : String) : Except ReadError ByteSize :=
  if text.toList.isEmpty then .error .empty
  else if text.toList.all Char.isDigit then
    match (Text.numeral? Text.maxCount text.toList).bind ofNat? with
    | some size => .ok size
    | none => .error (.invalidNumber text)
  else
    match splitAmount (String.ofList (text.toList.map Char.toUpper)) with
    | .error error => .error (.amount error)
    | .ok (digits, unit) =>
      match Text.numeral? Text.maxCount digits with
      | none => .error (.invalidNumber text)
      | some number =>
        match units.lookup unit with
        | none => .error (.unknownUnit unit text)
        | some size =>
          match ofNat? (number * size) with
          | some size => .ok size
          | none => .error (.outOfRange text)

/-- The size that a text stands for; blanks around it do not count. -/
def read (text : String) : Except ReadError ByteSize := readTrimmed (Text.trim text)

/-! ### Writing -/

/-- The text of a size. -/
def display (size : ByteSize) : String :=
  let bytes := size.bytes
  if bytes = 0 then "0"
  else if bytes % Nat.pow 2 30 = 0 then s!"{bytes / Nat.pow 2 30}g"
  else if bytes % Nat.pow 2 20 = 0 then s!"{bytes / Nat.pow 2 20}m"
  else if bytes % Nat.pow 2 10 = 0 then s!"{bytes / Nat.pow 2 10}k"
  else toString bytes

/-- A size is read from a text or from a count. -/
def decode : Decoder ByteSize := fun medium document =>
  let fault := mismatch "a byte size string like \"8m\" or an integer byte count" medium document
  match document with
  | .text text =>
    match read text with
    | .ok size => .ok size
    | .error error => .error (.refused error.message)
  | .integer value =>
    if -Int.pow 2 63 ≤ value && value < 0 then .error (.refused s!"negative byte size: {value}")
    else if 0 ≤ value then
      match ofNat? value.toNat with
      | some size => .ok size
      | none => .error fault
    else .error fault
  | _ => .error fault

/-- Sizes are written in documents as texts. -/
def codec : Codec ByteSize := ⟨fun size => .text size.display, decode⟩

end ByteSize

end LogForwarder
