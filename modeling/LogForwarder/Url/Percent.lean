/-
Percent encoding: characters that cannot stand in a part of an address are written as the bytes of
their UTF-8 form, each a percent sign and two hexadecimal digits. Each part has a set of its own.
Paths are encoded step by step; a single dot stays in place and two dots go back.
-/

import LogForwarder.Text.Cut
import LogForwarder.Text.Property

namespace LogForwarder.Url

/-! ### Sets of characters -/

/-- A set of characters that are encoded. -/
abbrev EncodeSet := Char → Bool

/-- Control characters and everything outside ASCII, which are encoded everywhere. -/
def controlSet : EncodeSet := fun c => c.toNat < 32 || 127 ≤ c.toNat

/-- The characters that are encoded in fragments. -/
def fragmentSet : EncodeSet := fun c => controlSet c || c ∈ [' ', '"', '<', '>', '\x60']

/-- The characters that are encoded in paths. -/
def pathSet : EncodeSet := fun c => fragmentSet c || c ∈ ['#', '?', '\x7b', '\x7d']

/-- The characters that are encoded in names and passwords of users. -/
def userInfoSet : EncodeSet := fun c =>
  pathSet c || c ∈ ['/', ':', ';', '=', '@', '[', '\\', ']', '^', '|']

/-- The characters that are encoded in queries; special schemes encode one more. -/
def querySet (isSpecial : Bool) : EncodeSet := fun c =>
  controlSet c || c ∈ [' ', '"', '#', '<', '>'] || (isSpecial && c = '\'')

/-! ### Encoding -/

/-- A byte as a percent sign and two upper-case hexadecimal digits. -/
def encodedByte (byte : UInt8) : List Char :=
  '%' :: [Nat.digitChar (byte.toNat / 16), Nat.digitChar (byte.toNat % 16)].map Char.toUpper

/-- A character with its encoding, if it is in the set. -/
def encodeChar (set : EncodeSet) (c : Char) : List Char :=
  if set c then (String.singleton c).toUTF8.toList.flatMap encodedByte else [c]

/-- A text with all characters of a set encoded. -/
def encode (set : EncodeSet) (chars : List Char) : String :=
  String.ofList (chars.flatMap (encodeChar set))

/-! ### Decoding -/

/-- The value of a hexadecimal digit. -/
def hexValue? (c : Char) : Option Nat :=
  if c.isDigit then some (c.toNat - '0'.toNat)
  else if 'a' ≤ c && c ≤ 'f' then some (c.toNat - 'a'.toNat + 10)
  else if 'A' ≤ c && c ≤ 'F' then some (c.toNat - 'A'.toNat + 10)
  else none

/-- The byte that two hexadecimal digits stand for. -/
def hexByte? (high low : Char) : Option UInt8 := do
  return UInt8.ofNat (16 * (← hexValue? high) + (← hexValue? low))

/--
The bytes of a text, with encoded bytes decoded; a percent sign without digits stands for itself.
-/
def decodeBytes : List Char → List UInt8
  | [] => []
  | '%' :: high :: low :: rest =>
    match hexByte? high low with
    | some byte => byte :: decodeBytes rest
    | none => 0x25 :: decodeBytes (high :: low :: rest)
  | c :: rest => (String.singleton c).toUTF8.toList ++ decodeBytes rest
termination_by chars => chars.length

/-- The text that is left after decoding, if it is UTF-8. -/
def decode? (chars : List Char) : Option String :=
  String.fromUTF8? ⟨(decodeBytes chars).toArray⟩

/-! ### Paths -/

/-- A step with encoded dots decoded, in lower case. -/
def plainDots : List Char → List Char
  | '%' :: '2' :: 'e' :: rest => '.' :: plainDots rest
  | '%' :: '2' :: 'E' :: rest => '.' :: plainDots rest
  | c :: rest => c :: plainDots rest
  | [] => []

/-- Whether a step stays in place. -/
def isSingleDot (step : List Char) : Bool := plainDots step = ['.']

/-- Whether a step goes back. -/
def isDoubleDot (step : List Char) : Bool := plainDots step = ['.', '.']

/-- Whether a step is the letter of a drive. -/
def isDriveLetter : List Char → Bool
  | [letter, mark] => letter.isAlpha && (mark = ':' || mark = '|')
  | _ => false

/-- A step as it is written; in files the mark after the letter of a drive is a colon. -/
def writtenStep (isFile : Bool) (step : List Char) : String :=
  match step with
  | [letter, _] =>
    if isFile && isDriveLetter step then String.ofList [letter, ':'] else encode pathSet step
  | _ => encode pathSet step

/-- The steps of a path after it has gone back once; the letter of a drive is never left. -/
def goBack (isFile : Bool) : List String → List String
  | [] => []
  | last :: earlier =>
    if isFile && isDriveLetter last.toList then last :: earlier else earlier

/-- The steps of a path, the last one first, after some more of them. -/
def walk (isFile : Bool) (taken : List String) : List (List Char) → List String
  | [] => taken
  | step :: rest =>
    let atEnd := rest.isEmpty
    let next :=
      if isDoubleDot step then
        let left := goBack isFile taken
        if atEnd then "" :: left else left
      else if isSingleDot step then if atEnd then "" :: taken else taken
      else writtenStep isFile step :: taken
    walk isFile next rest

/-- The text of a path, the characters after whose first slash are given. -/
def pathText (isSpecial isFile : Bool) (chars : List Char) : String :=
  let isSlash (c : Char) : Bool := c = '/' || (isSpecial && c = '\\')
  let steps := (walk isFile [] (Text.splitOn isSlash chars)).reverse
  let kept := if isFile then steps.dropWhile (·.isEmpty) else steps
  "/" ++ "/".intercalate kept

end LogForwarder.Url
