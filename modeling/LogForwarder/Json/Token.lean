/-
Tokens of JSON texts. The text is read character by character, in a mode that says what the
character belongs to; the tokens end where a lexeme turns out to be malformed.
-/

import LogForwarder.Json.Numeral

namespace LogForwarder.Json

/-- A token of a JSON text. -/
inductive Token
  | openList
  | closeList
  | openObject
  | closeObject
  | comma
  | colon
  | text (value : String)
  /-- A string whose escapes name no characters. -/
  | badText (fault : JsonFault)
  | scalar (value : Document)
  /-- A character that begins no token. -/
  | stray
  /-- A lexeme that is malformed, and whether it is a string. -/
  | malformed (isText : Bool) (fault : JsonFault)

/-! ### Strings -/

/-- A part of a string: a character as it stands, or a unit of 16 bits from a numeric escape. -/
inductive TextPart
  | char (value : Char)
  | unit (value : Nat)

/-- The character of a pair of units, the first of them high and the second low. -/
def pairedChar (high low : Nat) : Char :=
  Char.ofNat ((high - 0xD800) * 1024 + (low - 0xDC00) + 0x10000)

/-- The characters of the parts of a string; a unit of a pair must have its partner. -/
def joinParts : List TextPart → Except JsonFault (List Char)
  | [] => .ok []
  | .char value :: rest => return value :: (← joinParts rest)
  | .unit value :: rest =>
    if value < 0xD800 || 0xDFFF < value then return Char.ofNat value :: (← joinParts rest)
    else if 0xDC00 ≤ value then .error .loneSurrogate
    else
      match rest with
      | .unit low :: others =>
        if 0xDC00 ≤ low && low ≤ 0xDFFF then return pairedChar value low :: (← joinParts others)
        else .error .loneSurrogate
      | _ => .error .unfinishedSurrogate

/-- The token of a string that has been read to its end. -/
def textToken (parts : List TextPart) : Token :=
  match joinParts parts with
  | .ok chars => .text (String.ofList chars)
  | .error fault => .badText fault

/-- The character that a one-letter escape stands for. -/
def simpleEscape? (letter : Char) : Option Char :=
  if letter = '"' || letter = '\\' || letter = '/' then some letter
  else if letter = 'b' then some (Char.ofNat 8)
  else if letter = 'f' then some (Char.ofNat 12)
  else if letter = 'n' then some '\n'
  else if letter = 'r' then some '\r'
  else if letter = 't' then some '\t'
  else none

/-- The value of a hexadecimal digit. -/
def hexDigit? (c : Char) : Option Nat :=
  if c.isDigit then some (c.toNat - '0'.toNat)
  else if 'a' ≤ c && c ≤ 'f' then some (c.toNat - 'a'.toNat + 10)
  else if 'A' ≤ c && c ≤ 'F' then some (c.toNat - 'A'.toNat + 10)
  else none

/-! ### Modes -/

/-- How far a number has been read. -/
inductive NumberPhase
  | sign
  | zero
  | whole
  | point
  | fraction
  | mark
  | markSign
  | exponent

/-- What the next character belongs to. Lists of characters and parts hold the last one first. -/
inductive Mode
  | between
  | text (parts : List TextPart)
  | escape (parts : List TextPart)
  | hexEscape (parts : List TextPart) (value left : Nat)
  | word (rest : List Char) (value : Document)
  | number (phase : NumberPhase) (read : Numeral)

/-- The mode and the tokens after a character, or the token that ends the text. -/
abbrev Step := Except Token (Mode × List Token)

/-- The token of a number that has been read to its end. -/
def numberToken (read : Numeral) : Token :=
  let numeral : Numeral :=
    { negative := read.negative
      whole := read.whole.reverse
      fraction := read.fraction.map List.reverse
      exponent := read.exponent.map fun (lowers, digits) => (lowers, digits.reverse) }
  .scalar numeral.toDocument

/-- A number of which nothing but its sign has been read. -/
def startNumber (negative : Bool) : Numeral := ⟨negative, [], none, none⟩

/-- A character that stands between tokens, or begins one. -/
def begin (c : Char) : Step :=
  if c = ' ' || c = '\n' || c = '\r' || c = '\t' then .ok (.between, [])
  else if c = '[' then .ok (.between, [.openList])
  else if c = ']' then .ok (.between, [.closeList])
  else if c.toNat = 0x7B then .ok (.between, [.openObject])
  else if c.toNat = 0x7D then .ok (.between, [.closeObject])
  else if c = ',' then .ok (.between, [.comma])
  else if c = ':' then .ok (.between, [.colon])
  else if c = '"' then .ok (.text [], [])
  else if c = 'n' then .ok (.word "ull".toList .null, [])
  else if c = 't' then .ok (.word "rue".toList (.boolean true), [])
  else if c = 'f' then .ok (.word "alse".toList (.boolean false), [])
  else if c = '-' then .ok (.number .sign (startNumber true), [])
  else if c = '0' then .ok (.number .zero { startNumber false with whole := ['0'] }, [])
  else if c.isDigit then .ok (.number .whole { startNumber false with whole := [c] }, [])
  else .error .stray

/-- A character inside a string. -/
def stepText (parts : List TextPart) (c : Char) : Step :=
  if c = '"' then .ok (.between, [textToken parts.reverse])
  else if c = '\\' then .ok (.escape parts, [])
  else if c.toNat < 32 then .error (.malformed true .controlCharacter)
  else .ok (.text (.char c :: parts), [])

/-- The character after a backslash. -/
def stepEscape (parts : List TextPart) (c : Char) : Step :=
  if c = 'u' then .ok (.hexEscape parts 0 4, [])
  else
    match simpleEscape? c with
    | some value => .ok (.text (.char value :: parts), [])
    | none => .error (.malformed true .invalidEscape)

/-- A digit of a numeric escape that has `left` digits to go. -/
def stepHexEscape (parts : List TextPart) (value left : Nat) (c : Char) : Step :=
  match hexDigit? c with
  | none => .error (.malformed true .invalidEscape)
  | some digit =>
    let value := value * 16 + digit
    if left ≤ 1 then .ok (.text (.unit value :: parts), [])
    else .ok (.hexEscape parts value (left - 1), [])

/-- A character of a word, of which `rest` is still to come. -/
def stepWord (rest : List Char) (value : Document) (c : Char) : Step :=
  match rest with
  | [] => .error (.malformed false .expectedWord)
  | expected :: others =>
    if c ≠ expected then .error (.malformed false .expectedWord)
    else if others.isEmpty then .ok (.between, [.scalar value])
    else .ok (.word others value, [])

/--
A character after a number that could end here: the number is a token, and `c` begins the next one.
-/
def endNumber (read : Numeral) (c : Char) : Step :=
  match begin c with
  | .ok (mode, tokens) => .ok (mode, numberToken read :: tokens)
  | .error token => .ok (.between, [numberToken read, token])

/-- A digit added to the fraction of a number. -/
def addFraction (read : Numeral) (c : Char) : Numeral :=
  { read with fraction := some (c :: read.fraction.getD []) }

/-- A digit added to the exponent of a number. -/
def addExponent (read : Numeral) (c : Char) : Numeral :=
  let (lowers, digits) := read.exponent.getD (false, [])
  { read with exponent := some (lowers, c :: digits) }

/-- A character after the start of a number. -/
def stepNumber (phase : NumberPhase) (read : Numeral) (c : Char) : Step :=
  let invalid : Step := .error (.malformed false .invalidNumber)
  let goOn (phase : NumberPhase) (read : Numeral) : Step := .ok (.number phase read, [])
  let afterDigits : Step :=
    if c = 'e' || c = 'E' then goOn .mark { read with exponent := some (false, []) }
    else endNumber read c
  match phase with
  | .sign =>
    if c = '0' then goOn .zero { read with whole := ['0'] }
    else if c.isDigit then goOn .whole { read with whole := [c] }
    else invalid
  | .zero =>
    if c.isDigit then invalid
    else if c = '.' then goOn .point { read with fraction := some [] }
    else afterDigits
  | .whole =>
    if c.isDigit then goOn .whole { read with whole := c :: read.whole }
    else if c = '.' then goOn .point { read with fraction := some [] }
    else afterDigits
  | .point => if c.isDigit then goOn .fraction (addFraction read c) else invalid
  | .fraction => if c.isDigit then goOn .fraction (addFraction read c) else afterDigits
  | .mark =>
    if c = '+' then goOn .markSign read
    else if c = '-' then goOn .markSign { read with exponent := some (true, []) }
    else if c.isDigit then goOn .exponent (addExponent read c)
    else invalid
  | .markSign => if c.isDigit then goOn .exponent (addExponent read c) else invalid
  | .exponent => if c.isDigit then goOn .exponent (addExponent read c) else endNumber read c

/-- The next character in any mode. -/
def Mode.step : Mode → Char → Step
  | .between, c => begin c
  | .text parts, c => stepText parts c
  | .escape parts, c => stepEscape parts c
  | .hexEscape parts value left, c => stepHexEscape parts value left c
  | .word rest value, c => stepWord rest value c
  | .number phase read, c => stepNumber phase read c

/-- The tokens that the end of the text completes. -/
def Mode.finish : Mode → List Token
  | .between => []
  | .text _ => [.malformed true .endInString]
  | .escape _ => [.malformed true .endInString]
  | .hexEscape _ _ _ => [.malformed true .endInString]
  | .word _ _ => [.malformed false .endInValue]
  | .number phase read =>
    match phase with
    | .sign => [.malformed false .endInValue]
    | .point => [.malformed false .endInValue]
    | .mark => [.malformed false .endInValue]
    | .markSign => [.malformed false .endInValue]
    | _ => [numberToken read]

/--
How far a text has been cut into tokens, the last token first; there is no mode after the end.
-/
structure Lexing where
  mode : Option Mode
  tokens : List Token

/-- The state after one more character. -/
def Lexing.advance (state : Lexing) (c : Char) : Lexing :=
  match state.mode with
  | none => state
  | some mode =>
    match mode.step c with
    | .ok (next, tokens) => ⟨some next, tokens.reverse ++ state.tokens⟩
    | .error token => ⟨none, token :: state.tokens⟩

/-- The tokens of a text. -/
def tokens (text : String) : List Token :=
  let state := text.toList.foldl Lexing.advance ⟨some .between, []⟩
  state.tokens.reverse ++ (state.mode.map Mode.finish).getD []

end LogForwarder.Json
