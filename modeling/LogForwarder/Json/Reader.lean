/-
Reading of JSON texts. Tokens are placed one by one into a stack of open lists and objects. Where a
token does not fit, the document breaks off at that place, and all open containers are closed around
what they hold so far.
-/

import LogForwarder.Json.Token

namespace LogForwarder.Json

/-- An open container: what it holds so far, the last member first. -/
inductive Frame
  | list (items : List Document)
  /-- An object with the key whose value comes next; between its members the key is empty. -/
  | object (entries : List (String × Document)) (key : String)

/-- What may come next. -/
inductive Place
  /-- A value at the start of the text or after a colon. -/
  | value
  /-- The first item of a list, or its end. -/
  | firstItem
  /-- The item after a comma. -/
  | nextItem
  /-- The first key of an object, or its end. -/
  | firstKey
  /-- The key after a comma. -/
  | nextKey
  | colon
  /-- A comma, or the end of the innermost container. -/
  | afterValue

/-- A text that has been read: its document, and the fault of anything that follows it. -/
structure Reading where
  document : Document
  trailing : Option JsonFault

/-- How far a text has been read. -/
inductive State
  | reading (frames : List Frame) (place : Place)
  /-- The whole document has been read. -/
  | complete (document : Document)
  | stopped (result : Reading)

/-- A finished document put into the innermost open container. -/
def Frame.add (document : Document) : Frame → Frame
  | .list items => .list (document :: items)
  | .object entries key => .object ((key, document) :: entries) ""

/-- The document of a container that has been closed. -/
def Frame.close : Frame → Document
  | .list items => .list items.reverse
  | .object entries _ => .table entries.reverse

/-- A finished document put in its place. -/
def place (frames : List Frame) (document : Document) : State :=
  match frames with
  | [] => .complete document
  | frame :: outer => .reading (frame.add document :: outer) .afterValue

/--
The document of a text that breaks off: each open container holds the one inside it as its last
member.
-/
def breakOff (frames : List Frame) (innermost : Document) : Document :=
  frames.foldl (fun inner frame => (frame.add inner).close) innermost

/-- The state of a text that breaks off, by the faults for a reader and for one who passes over. -/
def stop (frames : List Frame) (reading passing : JsonFault) : State :=
  .stopped ⟨breakOff frames (.broken reading passing), none⟩

/-- A token where a value is expected. -/
def takeValue (frames : List Frame) : Token → State
  | .openList => .reading (.list [] :: frames) .firstItem
  | .openObject => .reading (.object [] "" :: frames) .firstKey
  | .text value => place frames (.text value)
  | .badText fault => place frames (.unreadable fault)
  | .scalar value => place frames value
  | .malformed _ fault => stop frames fault fault
  | _ => stop frames .expectedValue .expectedValue

/-- A token where a key is expected and nothing else. -/
def takeKey (frames : List Frame) (token : Token) : State :=
  match frames, token with
  | .object entries _ :: outer, .text key => .reading (.object entries key :: outer) .colon
  | _, .badText fault => stop frames fault fault
  | _, .malformed true fault => stop frames fault fault
  | _, _ => stop frames .keyMustBeString .keyMustBeString

/-- The innermost container closed. -/
def closeInnermost : List Frame → State
  | [] => .stopped ⟨.broken .expectedValue .expectedValue, none⟩
  | frame :: outer => place outer frame.close

/-- A token after a value. -/
def takeAfterValue (frames : List Frame) (token : Token) : State :=
  match frames, token with
  | .list _ :: _, .comma => .reading frames .nextItem
  | .list _ :: _, .closeList => closeInnermost frames
  | .list _ :: _, _ => stop frames .expectedListCommaOrEnd .expectedListCommaOrEnd
  | .object _ _ :: _, .comma => .reading frames .nextKey
  | .object _ _ :: _, .closeObject => closeInnermost frames
  | .object _ _ :: _, _ => stop frames .expectedObjectCommaOrEnd .expectedObjectCommaOrEnd
  | [], _ => stop [] .trailingCharacters .trailingCharacters

/-- The state after one more token. -/
def State.advance (state : State) (token : Token) : State :=
  match state with
  | .stopped result => .stopped result
  | .complete document => .stopped ⟨document, some .trailingCharacters⟩
  | .reading frames place =>
    match place, token with
    | .value, _ => takeValue frames token
    | .firstItem, .closeList => closeInnermost frames
    | .firstItem, _ => takeValue frames token
    | .nextItem, .closeList => stop frames .trailingComma .expectedValue
    | .nextItem, _ => takeValue frames token
    | .firstKey, .closeObject => closeInnermost frames
    | .firstKey, _ => takeKey frames token
    | .nextKey, .closeObject => stop frames .trailingComma .keyMustBeString
    | .nextKey, _ => takeKey frames token
    | .colon, .colon => .reading frames .value
    | .colon, _ => stop frames .expectedColon .expectedColon
    | .afterValue, _ => takeAfterValue frames token

/-- The result when the text ends in a state. -/
def State.finish : State → Reading
  | .stopped result => result
  | .complete document => ⟨document, none⟩
  | .reading frames place =>
    let broken (reading passing : JsonFault) : Reading :=
      ⟨breakOff frames (.broken reading passing), none⟩
    match place with
    | .value => broken .endInValue .endInValue
    | .firstItem => broken .endInList .endInList
    | .nextItem => broken .endInValue .endInValue
    | .firstKey => broken .endInObject .endInObject
    | .nextKey => broken .endInValue .endInObject
    | .colon => broken .endInObject .endInObject
    | .afterValue =>
      match frames with
      | .list _ :: _ => broken .endInList .endInList
      | _ => broken .endInObject .endInObject

/-- The document of a JSON text, and the fault of anything that follows it. -/
def read (text : String) : Reading :=
  ((tokens text).foldl State.advance (.reading [] .value)).finish

/-- The depth to which the containers of a value may be nested. -/
def maxDepth : Nat := 127

/-- The value of a JSON text, or the first fault in it. -/
def readValue (text : String) : Except JsonFault Value := do
  let reading := read text
  let value ← reading.document.toValue maxDepth
  match reading.trailing with
  | none => return value
  | some fault => .error fault

end LogForwarder.Json
