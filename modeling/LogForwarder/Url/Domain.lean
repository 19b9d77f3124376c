/-
Domains: the form in which a domain is looked up, which has no capital letters and no characters
outside ASCII. Whoever reads a domain may have written it in characters that only stand for others.
A label of it with characters outside ASCII is looked up under a name in ASCII. Not every label may
have such a name: its characters have to be in the form in which they are looked up, and marks,
joiners and directions have to make sense where they stand.
-/

import LogForwarder.Text.Composition
import LogForwarder.Text.Direction
import LogForwarder.Text.Joining
import LogForwarder.Url.Host
import LogForwarder.Url.Punycode
import LogForwarder.Url.StandIn

namespace LogForwarder.Url

open Text

/-- A label as people read it and as it is looked up. -/
structure Label where
  chars : List Char
  written : List Char
  deriving DecidableEq

namespace Label

/-! ### Joiners -/

/-- The character that keeps letters from joining. -/
def nonJoiner : Nat := 0x200C

/-- The character that makes letters join. -/
def joiner : Nat := 0x200D

/-- The class of the marks that take away the vowel of a letter. -/
def viramaClass : Nat := 9

/-- The first character that letters do not join across. -/
def nearest? (chars : List Char) : Option Char :=
  (chars.dropWhile joinTransparentRuns.contains).head?

/--
Whether joiners make sense where they stand; `before` are the characters before, the last one first.
-/
def joinersFit (before : List Char) : List Char → Bool
  | [] => true
  | c :: rest =>
    let afterVirama := before.head?.any (markClass · = viramaClass)
    let betweenJoining :=
      (nearest? before).any joinsNextRuns.contains && (nearest? rest).any joinsPreviousRuns.contains
    let fits :=
      if c.toNat = joiner then afterVirama
      else if c.toNat = nonJoiner then afterVirama || betweenJoining
      else true
    fits && joinersFit (c :: before) rest

/-! ### Directions -/

/-- Whether a label is written from right to left in part. -/
def turnsDirection (label : Label) : Bool :=
  label.chars.any fun c => directionOf c ∈ [.rightToLeft, .arabicNumber]

/-- Whether the directions of a label that starts from left to right make sense. -/
def fitsLeftToRight (directions : List Direction) (last : Direction) : Bool :=
  directions.all (· ∈ [.leftToRight, .europeanNumber, .neutral, .nonspacing]) &&
    last ∈ [.leftToRight, .europeanNumber]

/-- Whether the directions of a label that starts from right to left make sense. -/
def fitsRightToLeft (directions : List Direction) (last : Direction) : Bool :=
  directions.all (· ∈ [.rightToLeft, .arabicNumber, .europeanNumber, .neutral, .nonspacing]) &&
    last ∈ [.rightToLeft, .arabicNumber, .europeanNumber] &&
    !(directions.contains .arabicNumber && directions.contains .europeanNumber)

/-- Whether the directions of a label make sense in a domain that turns its direction anywhere. -/
def directionsFit (label : Label) : Bool :=
  let directions := label.chars.map directionOf
  match directions.head?, directions.reverse.find? (· ≠ .nonspacing) with
  | none, _ => true
  | some .leftToRight, some last => fitsLeftToRight directions last
  | some .rightToLeft, some last => fitsRightToLeft directions last
  | _, _ => false

/-! ### Labels -/

/-- The form in which the characters of a domain are looked up, if all of them may stand in one. -/
def lookedUp? (chars : List Char) : Option (List Char) :=
  (chars.mapM standsFor?).map fun images => compose images.flatten

/-- Whether some characters are a label as people read it. -/
def isReadable (chars : List Char) : Bool :=
  lookedUp? chars = some chars && !chars.head?.any markRuns.contains && joinersFit [] chars

/-- What the labels start with that stand for others. -/
def mark : List Char := "xn--".toList

/-- Whether all characters of a label are in ASCII. -/
def isPlain (chars : List Char) : Bool := chars.all (·.toNat < Punycode.firstCode)

/-- The label of some characters in the form in which they are looked up. -/
def ofChars? (chars : List Char) : Option Label :=
  if mark.isPrefixOf chars then do
    let read ← Punycode.decode? (chars.drop mark.length)
    if isPlain read || !isReadable read then none else some ⟨read, chars⟩
  else if isPlain chars then some ⟨chars, chars⟩
  else if isReadable chars then some ⟨chars, mark ++ Punycode.encode chars⟩
  else none

end Label

end LogForwarder.Url

namespace LogForwarder.Url

/-- The ASCII characters that no domain may have. -/
def isForbidden (c : Char) : Bool :=
  c.toNat ≤ 32 || c.toNat = 127 ||
    c ∈ ['#', '%', '/', ':', '<', '>', '?', '@', '[', '\\', ']', '^', '|']

/-- The form of a domain in ASCII, unless it cannot have one. -/
def domainToAscii? (domain : String) : Option String := do
  let chars ← Label.lookedUp? domain.toList
  if chars.any isForbidden then none
  else
    let labels ← (Text.splitOn (· = '.') chars).mapM Label.ofChars?
    if labels.any (·.turnsDirection) && !labels.all (·.directionsFit) then none
    else some (String.ofList (['.'].intercalate (labels.map (·.written))))

/-- The host of a special scheme. -/
def readHost (chars : List Char) : Except UrlError Host :=
  match chars with
  | '[' :: rest => readBracketed rest
  | _ =>
    match (decode? chars).bind domainToAscii? with
    | none => .error .invalidDomain
    | some domain =>
      if domain.isEmpty then .error .emptyHost
      else if endsInNumber domain.toList then readIpv4 domain.toList
      else .ok (.domain domain)

/-- The characters that no host may have, whatever its scheme. -/
def isHostBreak (c : Char) : Bool :=
  c ∈ ['\x00', '\t', '\n', '\r', ' ', '#', '/', ':', '<', '>', '?', '@', '[', '\\', ']', '^', '|']

/-- The host of a scheme that is not special, which is taken as it is written. -/
def readOpaqueHost (chars : List Char) : Except UrlError Host :=
  match chars with
  | '[' :: rest => readBracketed rest
  | _ =>
    if chars.any isHostBreak then .error .invalidHostCharacter
    else .ok (.domain (encode controlSet chars))

end LogForwarder.Url
