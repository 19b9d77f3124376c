/-
Codecs: how a value of a type is written and how it is read back. The codec of a record is put
together from its fields, so what is written and what is read always agree on names and order. A
record may also be read from a list that gives its fields by position.
-/

import LogForwarder.Document.Decode

namespace LogForwarder

/-- How values of a type are written and read. -/
structure Codec (α : Type) where
  encode : α → Value
  decode : Decoder α

namespace Codec

/-- Texts. -/
def text : Codec String := ⟨.text, decodeText⟩

/-- Truth values. -/
def boolean : Codec Bool := ⟨.boolean, decodeBoolean⟩

/-- Whole numbers of at most `bits` bits. -/
def nat (bits : Nat) : Codec Nat := ⟨fun value => .integer value, decodeNat bits⟩

/-- Lists. -/
def list {α : Type} (item : Codec α) : Codec (List α) :=
  ⟨fun items => .list (items.map item.encode), decodeList item.decode⟩

/-- Dictionaries. -/
def dictionary {α : Type} (value : Codec α) : Codec (Dictionary α) :=
  ⟨fun entries => .object (entries.mapValues value.encode).entries, decodeDictionary value.decode⟩

/-- Named choices, of which one may have several names; `written` gives the name that is written. -/
def choice {α : Type} (written : α → String) (choices : List (String × α)) : Codec α :=
  ⟨fun value => .text (written value), decodeChoice choices⟩

/-- Named choices with one name each. -/
def choiceOf {α : Type} (name : α → String) (all : List α) : Codec α :=
  choice name (all.map fun value => (name value, value))

end Codec

/-! ### Fields -/

/-- A field of a record. -/
structure Field (α : Type) where
  name : String
  /-- What is written for the field, if anything. -/
  encode : α → Option Value
  decode : Decoder α
  /-- What a record without the field has in its place, if it may be left out. -/
  absent : Option α

namespace Field

variable {α : Type}

/-- A field that must be there. -/
def required (name : String) (codec : Codec α) : Field α :=
  ⟨name, fun value => some (codec.encode value), codec.decode, none⟩

/-- A field that may be left out, and is left out when it has no value. -/
def optional (name : String) (codec : Codec α) : Field (Option α) :=
  ⟨name, fun value => value.map codec.encode, decodeOption codec.decode, some none⟩

/-- A field that is always written, and has a default where it is left out. -/
def defaulted (name : String) (codec : Codec α) (default : α) : Field α :=
  ⟨name, fun value => some (codec.encode value), codec.decode, some default⟩

end Field

/-- The fields of a record, in the order of their declaration. -/
inductive Fields : List Type → Type 1
  | nil : Fields []
  | cons {α : Type} {others : List Type} (field : Field α) (rest : Fields others) :
    Fields (α :: others)

/-- The values of a record's fields. -/
@[reducible] def Row : List Type → Type
  | [] => Unit
  | α :: others => α × Row others

/-- The values of a record's fields as far as they are known. -/
@[reducible] def Slots : List Type → Type
  | [] => Unit
  | α :: others => Option α × Slots others

namespace Fields

/-- The names of the fields. -/
def names : {types : List Type} → Fields types → List String
  | _, .nil => []
  | _, .cons field rest => field.name :: rest.names

/-- What is written for the fields of a record. -/
def encode : {types : List Type} → Fields types → Row types → List (String × Value)
  | _, .nil, () => []
  | _, .cons field rest, (value, values) =>
    ((field.encode value).map fun written => (field.name, written)).toList ++ rest.encode values

/-- No field known. -/
def noneKnown : {types : List Type} → Fields types → Slots types
  | _, .nil => ()
  | _, .cons _ rest => (none, rest.noneKnown)

/-- One entry of a table taken in; what belongs to no field is passed over. -/
def take (medium : Medium) (name : String) (document : Document) :
    {types : List Type} → Fields types → Slots types → Except DecodeError (Slots types)
  | _, .nil, () =>
    match document with
    | .broken reading _ => .error (.malformed reading)
    | _ =>
      match document.faultPassing? with
      | some fault => .error (.malformed fault)
      | none => .ok ()
  | _, .cons field rest, (known, others) =>
    if field.name = name then
      match known with
      | some _ => .error (.duplicateField name)
      | none => return (some (← field.decode medium document), others)
    else return (known, ← take medium name document rest others)

/-- The row of a record, once all entries have been taken in. -/
def complete : {types : List Type} → Fields types → Slots types → Except DecodeError (Row types)
  | _, .nil, () => .ok ()
  | _, .cons field rest, (known, others) =>
    match known <|> field.absent with
    | some value => return (value, ← rest.complete others)
    | none => .error (.missingField field.name)

/-- The row of a table. -/
def ofTable (medium : Medium) {types : List Type} (fields : Fields types)
    (entries : List (String × Document)) : Except DecodeError (Row types) := do
  let slots ← entries.foldlM (fun slots (name, document) => fields.take medium name document slots)
    fields.noneKnown
  fields.complete slots

/--
The row of a list and the items that are left over. The list is `read` items into the record
`wanted`.
-/
def ofItems (medium : Medium) (wanted : String) :
    {types : List Type} → Fields types → (read : Nat) → List Document →
      Except DecodeError (Row types × List Document)
  | _, .nil, _, items => .ok ((), items)
  | _, .cons field rest, read, [] =>
    match field.absent with
    | some value => do
      let (values, items) ← ofItems medium wanted rest (read + 1) []
      return ((value, values), items)
    | none => .error (.invalidLength read wanted)
  | _, .cons field rest, read, item :: items => do
    let value ← field.decode medium item
    let (values, items) ← ofItems medium wanted rest (read + 1) items
    return ((value, values), items)

end Fields

/-- A count of elements, in the words of messages. -/
def elements (count : Nat) : String :=
  if count = 1 then "1 element" else s!"{count} elements"

/-- The fault of a list of `length` items that goes on after the `expected` ones of a record. -/
def leftOver? (medium : Medium) (length expected : Nat) : List Document → Option DecodeError
  | [] => none
  | item :: _ =>
    match medium with
    | .jsonText =>
      match item with
      | .broken .trailingComma _ => some (.malformed .trailingComma)
      | .broken .endInList _ => some (.malformed .endInList)
      | _ => some (.malformed .trailingCharacters)
    | .jsonValue => some (.invalidLength length "fewer elements in array")
    | .toml => none
    | .buffered => some (.invalidLength length s!"{elements expected} in sequence")

/-- The decoder of a record. -/
def decodeRecord (title : String) {types : List Type} (fields : Fields types) :
    Decoder (Row types) :=
  fun medium document =>
    match document with
    | .table entries => fields.ofTable medium entries
    | .list items => do
      let expected := fields.names.length
      let wanted := s!"struct {title} with {elements expected}"
      let (row, rest) ← fields.ofItems medium wanted 0 items
      match leftOver? medium items.length expected rest with
      | none => return row
      | some fault => throw fault
    | _ => .error (mismatch s!"struct {title}" medium document)

/-- The codec of a record whose row is `parts`, and which `build` puts together again. -/
def Codec.record {α : Type} (title : String) {types : List Type} (fields : Fields types)
    (parts : α → Row types) (build : Row types → α) : Codec α :=
  ⟨fun value => .ofEntries (fields.encode (parts value)),
    fun medium document => return build (← decodeRecord title fields medium document)⟩

end LogForwarder
