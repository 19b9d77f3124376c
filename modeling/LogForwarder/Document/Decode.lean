/-
Decoding of documents: what can be wrong with a document that is read as a value of some type, and
the decoders of scalars, lists and dictionaries. Decoders go through a document in its own order and
report the first fault they meet.
-/

import LogForwarder.Document.Basic

namespace LogForwarder

/-- Where a document comes from. Media differ in a few of the things that their readers refuse. -/
inductive Medium
  /-- A JSON text that is decoded while it is read. -/
  | jsonText
  /-- A JSON value that was read before. -/
  | jsonValue
  | toml
  /-- A part of a TOML document that was set aside before it was known what it is for. -/
  | buffered
  deriving DecidableEq

/-! ### Faults -/

/-- What a decoder found. -/
inductive Found
  | null
  | boolean (value : Bool)
  | integer (value : Int)
  /-- An integer beyond 64 bits. -/
  | wideInteger (value : Int)
  | float (written : String)
  | text (value : String)
  | sequence
  | map
  deriving DecidableEq

/-- What a decoder found, in the words of messages. -/
def Found.describe : Found → String
  | .null => "null"
  | .boolean value => s!"boolean `{value}`"
  | .integer value => s!"integer `{value}`"
  | .wideInteger value =>
    s!"integer `{value}` as " ++ if value < Int.pow 2 127 then "i128" else "u128"
  | .float written => s!"floating point `{written}`"
  | .text value => "string " ++ Text.quoted value
  | .sequence => "sequence"
  | .map => "map"

/-- Why a document cannot be decoded. -/
inductive DecodeError
  | invalidType (found : Found) (wanted : String)
  | invalidValue (found : Found) (wanted : String)
  | invalidLength (length : Nat) (wanted : String)
  | missingField (name : String)
  | duplicateField (name : String)
  | unknownVariant (name : String) (known : List String)
  /-- A scalar of the right kind whose type refuses it, for a reason of its own. -/
  | refused (reason : String)
  | malformed (fault : JsonFault)
  deriving DecidableEq

/-- The names that could have stood in place of an unknown one. -/
def expectedNames : List String → String
  | [] => "there are no variants"
  | [only] => s!"expected `{only}`"
  | [first, second] => s!"expected `{first}` or `{second}`"
  | names => "expected one of " ++ ", ".intercalate (names.map fun name => s!"`{name}`")

/-- The text that reports why a document cannot be decoded. -/
def DecodeError.message : DecodeError → String
  | .invalidType found wanted => s!"invalid type: {found.describe}, expected {wanted}"
  | .invalidValue found wanted => s!"invalid value: {found.describe}, expected {wanted}"
  | .invalidLength length wanted => s!"invalid length {length}, expected {wanted}"
  | .missingField name => s!"missing field `{name}`"
  | .duplicateField name => s!"duplicate field `{name}`"
  | .unknownVariant name known => s!"unknown variant `{name}`, {expectedNames known}"
  | .refused reason => reason
  | .malformed fault => fault.message

/-! ### Decoders -/

/-- A decoder reads a document of some medium as a value. -/
abbrev Decoder (α : Type) := Medium → Document → Except DecodeError α

/-- Whether an integer fits in 64 bits, with or without a sign. -/
def fitsWord (value : Int) : Bool := -Int.pow 2 63 ≤ value && value < Int.pow 2 64

/-- Whether an integer fits in 128 bits, with or without a sign. -/
def fitsDoubleWord (value : Int) : Bool := -Int.pow 2 127 ≤ value && value < Int.pow 2 128

/-- The fault of a document that is not of the kind that was wanted. -/
def mismatch (wanted : String) (medium : Medium) : Document → DecodeError
  | .null => .invalidType .null wanted
  | .boolean value => .invalidType (.boolean value) wanted
  | .integer value =>
    if fitsWord value then .invalidType (.integer value) wanted
    else if fitsDoubleWord value then .invalidType (.wideInteger value) wanted
    else .refused "integer number overflowed"
  | .float value =>
    match medium with
    | .jsonText | .jsonValue => .invalidType (.float value.compactText) wanted
    | .toml | .buffered => .invalidType (.float value.fullText) wanted
  | .text value => .invalidType (.text value) wanted
  | .list _ => .invalidType .sequence wanted
  | .table _ => .invalidType .map wanted
  | .unreadable fault => .malformed fault
  | .broken reading _ => .malformed reading

/-- A text. -/
def decodeText : Decoder String := fun medium document =>
  match document with
  | .text value => .ok value
  | _ => .error (mismatch "a string" medium document)

/-- A path, which is written as a text. -/
def decodePath : Decoder String := fun medium document =>
  match document with
  | .text value => .ok value
  | _ => .error (mismatch "path string" medium document)

/-- A truth value. -/
def decodeBoolean : Decoder Bool := fun medium document =>
  match document with
  | .boolean value => .ok value
  | _ => .error (mismatch "a boolean" medium document)

/-- A whole number of at most `bits` bits. -/
def decodeNat (bits : Nat) : Decoder Nat := fun medium document =>
  let wanted := s!"u{bits}"
  match document with
  | .integer value =>
    if 0 ≤ value && value < Int.pow 2 bits then .ok value.toNat
    else if fitsWord value then .error (.invalidValue (.integer value) wanted)
    else .error (mismatch wanted medium document)
  | _ => .error (mismatch wanted medium document)

/-- A list of items of one kind. -/
def decodeList {α : Type} (item : Decoder α) : Decoder (List α) := fun medium document =>
  match document with
  | .list items => items.mapM (item medium)
  | _ => .error (mismatch "a sequence" medium document)

/-- A dictionary of values of one kind. -/
def decodeDictionary {α : Type} (value : Decoder α) : Decoder (Dictionary α) :=
  fun medium document =>
    match document with
    | .table entries => do
      let decoded ← entries.mapM fun (key, inner) => return (key, ← value medium inner)
      return .ofList decoded
    | _ => .error (mismatch "a map" medium document)

/-- A value that null stands in for when it is missing. -/
def decodeOption {α : Type} (value : Decoder α) : Decoder (Option α) := fun medium document =>
  match document with
  | .null => .ok none
  | _ => return some (← value medium document)

/-! ### Named choices -/

/-- The word for a kind of document where a choice is written as a table. -/
def tableWord : Document → String
  | .text _ => "string"
  | .integer _ => "integer"
  | .float _ => "float"
  | .boolean _ => "boolean"
  | .list _ => "array"
  | _ => "table"

/-- What may stand beside the name of a choice that carries nothing. -/
def decodeEmptyContent : Decoder Unit := fun medium document =>
  match medium, document with
  | .toml, .list [] => .ok ()
  | .toml, .list _ => .error (.refused "expected empty array")
  | .toml, .table [] => .ok ()
  | .toml, .table _ => .error (.refused "expected empty table")
  | .toml, _ => .error (.refused s!"expected table, found {tableWord document}")
  | .buffered, .table [] => .ok ()
  | _, .null => .ok ()
  | _, _ => .error (mismatch "unit" medium document)

/-- The choice of a name, or the fault that there is no such choice. -/
def lookUpChoice {α : Type} (choices : List (String × α)) (name : String) : Except DecodeError α :=
  match choices.lookup name with
  | some choice => .ok choice
  | none => .error (.unknownVariant name (choices.map (·.1)))

/-- The fault of a table that names no choice, or several. -/
def notOneChoice (medium : Medium) (isEmpty : Bool) : DecodeError :=
  match medium with
  | .toml =>
    .refused (if isEmpty then "wanted exactly 1 element, found 0 elements"
      else "wanted exactly 1 element, more than 1 element")
  | .jsonText => .malformed .expectedValue
  | _ => .invalidValue .map "map with a single key"

/--
One of several named choices, written as its name. A table with the name as its only key and nothing
of substance beside it is read in the same way.
-/
def decodeChoice {α : Type} (choices : List (String × α)) : Decoder α := fun medium document =>
  match document with
  | .text name => lookUpChoice choices name
  | .table [(name, content)] => do
    let choice ← lookUpChoice choices name
    decodeEmptyContent medium content
    return choice
  | .table entries =>
    match medium, entries with
    | .jsonText, (name, content) :: _ => do
      discard (lookUpChoice choices name)
      decodeEmptyContent medium content
      throw (.malformed .expectedValue)
    | .jsonText, [] => .error (.malformed .keyMustBeString)
    | _, _ => .error (notOneChoice medium entries.isEmpty)
  | .unreadable fault => .error (.malformed fault)
  | .broken reading _ => .error (.malformed reading)
  | _ =>
    match medium with
    | .toml => .error (.refused "wanted string or table")
    | .jsonText => .error (.malformed .expectedValue)
    | _ => .error (mismatch "string or map" medium document)

end LogForwarder
