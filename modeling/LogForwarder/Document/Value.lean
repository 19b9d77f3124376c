/-
Values: what a JSON document holds once it is read in full. Template data, element settings and the
written form of a forwarder are values. The entries of an object stand in rising order of their
keys.
-/

import LogForwarder.Dictionary
import LogForwarder.Number.Binary64
import LogForwarder.Text.Property

namespace LogForwarder

/-- A value of a JSON document. -/
inductive Value
  | null
  | boolean (value : Bool)
  | integer (value : Int)
  | float (value : Binary64)
  | text (value : String)
  | list (items : List Value)
  | object (entries : List (String × Value))
  deriving Inhabited

namespace Value

/-- The object of a list of entries; of several entries with one key the last one counts. -/
def ofEntries (entries : List (String × Value)) : Value :=
  .object (entries.foldl (fun sorted entry => insertEntry entry.1 entry.2 sorted) [])

/-- The list of a list of texts. -/
def ofTexts (texts : List String) : Value := .list (texts.map .text)

/-- The value of a text that may be missing, in which case it is null. -/
def ofText? (value : Option String) : Value := (value.map .text).getD .null

/-- The object of a dictionary of texts. -/
def ofDictionary (dictionary : Dictionary String) : Value :=
  .object (dictionary.entries.map fun entry => (entry.1, .text entry.2))

/-- The name of the kind of value, as messages give it. -/
def kindName : Value → String
  | .null => "null"
  | .boolean _ => "bool"
  | .integer _ => "number"
  | .float _ => "number"
  | .text _ => "string"
  | .list _ => "array"
  | .object _ => "object"

/-! ### Equality of data -/

mutual

/-- Whether two values hold the same data; an integer never equals a floating-point number. -/
def same : Value → Value → Bool
  | .null, .null => true
  | .boolean left, .boolean right => left == right
  | .integer left, .integer right => left == right
  | .float left, .float right => left.sameNumber right
  | .text left, .text right => left == right
  | .list left, .list right => sameItems left right
  | .object left, .object right => sameEntries left right
  | _, _ => false

/-- Whether two lists hold the same data, item by item. -/
def sameItems : List Value → List Value → Bool
  | [], [] => true
  | left :: lefts, right :: rights => same left right && sameItems lefts rights
  | _, _ => false

/-- Whether two objects hold the same data under the same keys. -/
def sameEntries : List (String × Value) → List (String × Value) → Bool
  | [], [] => true
  | (leftKey, left) :: lefts, (rightKey, right) :: rights =>
    leftKey == rightKey && same left right && sameEntries lefts rights
  | _, _ => false

end

/-! ### Compact text -/

/-- A text padded on the left with zeros to four digits. -/
def fourDigits (digits : String) : String :=
  String.ofList (List.replicate (4 - digits.length) '0') ++ digits

/-- One character inside a JSON string. -/
def escapedChar (c : Char) : String :=
  if c = '"' then "\\\""
  else if c = '\\' then "\\\\"
  else if c = '\n' then "\\n"
  else if c = '\r' then "\\r"
  else if c = '\t' then "\\t"
  else if c.toNat = 8 then "\\b"
  else if c.toNat = 12 then "\\f"
  else if c.toNat < 32 then "\\u" ++ fourDigits (Text.hexadecimal c.toNat)
  else String.singleton c

/-- A text as a JSON string. -/
def textLiteral (text : String) : String :=
  "\"" ++ String.join (text.toList.map escapedChar) ++ "\""

mutual

/-- A value as a JSON document without blanks. -/
def compact : Value → String
  | .null => "null"
  | .boolean true => "true"
  | .boolean false => "false"
  | .integer value => toString value
  | .float value => value.compactText
  | .text value => textLiteral value
  | .list items => "[" ++ compactItems items ++ "]"
  | .object entries => "\x7b" ++ compactEntries entries ++ "\x7d"

/-- The items of a list between commas. -/
def compactItems : List Value → String
  | [] => ""
  | [item] => compact item
  | item :: rest => compact item ++ "," ++ compactItems rest

/-- The entries of an object between commas. -/
def compactEntries : List (String × Value) → String
  | [] => ""
  | [(key, value)] => textLiteral key ++ ":" ++ compact value
  | (key, value) :: rest => textLiteral key ++ ":" ++ compact value ++ "," ++ compactEntries rest

end

end Value

end LogForwarder
