/-
Documents: what a reader hands to the decoders. A document keeps the order and the repetitions of
its entries, because a decoder reports the first fault it meets, and it may break off: from a broken
place on the text is not well formed, and whoever gets that far reports the fault found there.
-/

import LogForwarder.Document.Value

namespace LogForwarder

/-- Why a text is not a JSON document. -/
inductive JsonFault
  | endInList
  | endInObject
  | endInString
  | endInValue
  | expectedColon
  | expectedListCommaOrEnd
  | expectedObjectCommaOrEnd
  | expectedWord
  | expectedValue
  | invalidEscape
  | invalidNumber
  | numberOutOfRange
  | controlCharacter
  | keyMustBeString
  | loneSurrogate
  | unfinishedSurrogate
  | trailingComma
  | trailingCharacters
  | tooDeep
  deriving DecidableEq

/-- The text that reports a fault. -/
def JsonFault.message : JsonFault → String
  | .endInList => "EOF while parsing a list"
  | .endInObject => "EOF while parsing an object"
  | .endInString => "EOF while parsing a string"
  | .endInValue => "EOF while parsing a value"
  | .expectedColon => "expected `:`"
  | .expectedListCommaOrEnd => "expected `,` or `]`"
  | .expectedObjectCommaOrEnd => "expected `,` or `\x7d`"
  | .expectedWord => "expected ident"
  | .expectedValue => "expected value"
  | .invalidEscape => "invalid escape"
  | .invalidNumber => "invalid number"
  | .numberOutOfRange => "number out of range"
  | .controlCharacter =>
    "control character (\\u0000-\\u001F) found while parsing a string"
  | .keyMustBeString => "key must be a string"
  | .loneSurrogate => "lone leading surrogate in hex escape"
  | .unfinishedSurrogate => "unexpected end of hex escape"
  | .trailingComma => "trailing comma"
  | .trailingCharacters => "trailing characters"
  | .tooDeep => "recursion limit exceeded"

/-- A document as its reader found it. -/
inductive Document
  | null
  | boolean (value : Bool)
  | integer (value : Int)
  | float (value : Binary64)
  | text (value : String)
  | list (items : List Document)
  | table (entries : List (String × Document))
  /-- A scalar that can be passed over but not read. -/
  | unreadable (fault : JsonFault)
  /--
  The place where the text breaks off, with the fault for a reader and for one who passes over it.
  -/
  | broken (reading passing : JsonFault)
  deriving Inhabited

namespace Document

mutual

/-- The document of a value. -/
def ofValue : Value → Document
  | .null => .null
  | .boolean value => .boolean value
  | .integer value => .integer value
  | .float value => .float value
  | .text value => .text value
  | .list items => .list (ofItems items)
  | .object entries => .table (ofEntries entries)

/-- The documents of a list of values. -/
def ofItems : List Value → List Document
  | [] => []
  | item :: rest => ofValue item :: ofItems rest

/-- The entries of an object as entries of a table. -/
def ofEntries : List (String × Value) → List (String × Document)
  | [] => []
  | (key, value) :: rest => (key, ofValue value) :: ofEntries rest

end

mutual

/-- The fault that passing over a document meets, if any. -/
def faultPassing? : Document → Option JsonFault
  | .broken _ passing => some passing
  | .list items => faultPassingItems? items
  | .table entries => faultPassingEntries? entries
  | _ => none

/-- The first fault that passing over a list of documents meets. -/
def faultPassingItems? : List Document → Option JsonFault
  | [] => none
  | item :: rest => faultPassing? item <|> faultPassingItems? rest

/-- The first fault that passing over the entries of a table meets. -/
def faultPassingEntries? : List (String × Document) → Option JsonFault
  | [] => none
  | (_, value) :: rest => faultPassing? value <|> faultPassingEntries? rest

end

mutual

/--
The value that a document holds, or the first fault in it. Containers may be nested as deep as
`depth`, and of several entries with one key the last one counts.
-/
def toValue (depth : Nat) : Document → Except JsonFault Value
  | .null => .ok .null
  | .boolean value => .ok (.boolean value)
  | .integer value => .ok (.integer value)
  | .float value => .ok (.float value)
  | .text value => .ok (.text value)
  | .unreadable fault => .error fault
  | .broken reading _ => .error reading
  | .list items =>
    if depth = 0 then .error .tooDeep
    else do return .list (← toValueItems (depth - 1) items)
  | .table entries =>
    if depth = 0 then .error .tooDeep
    else do return .ofEntries (← toValueEntries (depth - 1) entries)

/-- The values of a list of documents. -/
def toValueItems (depth : Nat) : List Document → Except JsonFault (List Value)
  | [] => .ok []
  | item :: rest => do
    let value ← toValue depth item
    return value :: (← toValueItems depth rest)

/-- The values of the entries of a table. -/
def toValueEntries (depth : Nat) :
    List (String × Document) → Except JsonFault (List (String × Value))
  | [] => .ok []
  | (key, item) :: rest => do
    let value ← toValue depth item
    return (key, value) :: (← toValueEntries depth rest)

end

end Document

end LogForwarder
