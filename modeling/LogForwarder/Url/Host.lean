/-
Hosts of addresses: domains, and addresses of the Internet Protocol in both versions. A domain whose
last part is a number is an address of version 4 or nothing.
-/

import LogForwarder.Text.CodeRuns
import LogForwarder.Text.Cut
import LogForwarder.Url.Percent

namespace LogForwarder.Url

/-- Why a text is not an address. -/
inductive UrlError
  | emptyHost
  | invalidDomain
  | invalidPort
  | invalidIpv4
  | invalidIpv6
  | invalidHostCharacter
  | noScheme
  deriving DecidableEq

/-- The text that reports why a text is not an address. -/
def UrlError.message : UrlError → String
  | .emptyHost => "empty host"
  | .invalidDomain => "invalid international domain name"
  | .invalidPort => "invalid port number"
  | .invalidIpv4 => "invalid IPv4 address"
  | .invalidIpv6 => "invalid IPv6 address"
  | .invalidHostCharacter => "invalid domain character"
  | .noScheme => "relative URL without a base"

/-- A host. -/
inductive Host
  | domain (name : String)
  | ipv4 (address : Nat)
  /-- The eight pieces of 16 bits. -/
  | ipv6 (pieces : List Nat)
  deriving DecidableEq

/-! ### Version 4 -/

/-- What a part of an address of version 4 is. -/
inductive Ipv4Number
  | none
  /-- A number that is too large for any part. -/
  | tooLarge
  | value (number : Nat)

/-- The number of digits in some base. -/
def valueInBase (base : Nat) (digits : List Nat) : Nat :=
  digits.foldl (fun value digit => base * value + digit) 0

/-- The number that digits in some base stand for, which all of them must belong to. -/
def numberInBase (base : Nat) (chars : List Char) : Ipv4Number :=
  match chars.mapM hexValue? with
  | Option.none => .none
  | some digits =>
    if digits.all (· < base) then
      let value := valueInBase base digits
      if value < Nat.pow 2 32 then .value value else .tooLarge
    else
      .none

/-- The number that a part of an address stands for, in decimal, octal or hexadecimal digits. -/
def ipv4Number : List Char → Ipv4Number
  | [] => .none
  | '0' :: 'x' :: digits => numberInBase 16 digits
  | '0' :: 'X' :: digits => numberInBase 16 digits
  | '0' :: c :: digits => numberInBase 8 (c :: digits)
  | digits => numberInBase 10 digits

/-- The parts of a domain, without an empty one at the end. -/
def domainParts (chars : List Char) : List (List Char) :=
  let parts := Text.splitOn (· = '.') chars
  if parts.getLast? = some [] then parts.dropLast else parts

/-- Whether the last part of a domain is a number. -/
def endsInNumber (chars : List Char) : Bool :=
  match (domainParts chars).getLast? with
  | none => false
  | some part =>
    (!part.isEmpty && part.all Char.isDigit) ||
      match ipv4Number part with
      | .none => false
      | _ => true

/-- The number of a part that has one. -/
def Ipv4Number.toNat? : Ipv4Number → Option Nat
  | .value number => some number
  | _ => Option.none

/-- The address of some numbers, of which the last one fills all bytes that are left. -/
def ipv4OfNumbers? (numbers : List Nat) : Option Nat :=
  match numbers.reverse with
  | [] => none
  | last :: earlier =>
    let bound := Nat.pow 256 (4 - earlier.length)
    if 3 < earlier.length || earlier.any (255 < ·) || bound ≤ last then none
    else some (valueInBase 256 earlier.reverse * bound + last)

/-- The address of version 4 that a domain stands for. -/
def readIpv4 (chars : List Char) : Except UrlError Host :=
  match ((domainParts chars).mapM fun part => (ipv4Number part).toNat?).bind ipv4OfNumbers? with
  | some address => .ok (.ipv4 address)
  | none => .error .invalidIpv4

/-! ### Version 6 -/

/-- The pieces of one part of an address: one of up to four hexadecimal digits. -/
def ipv6Piece? (chars : List Char) : Option (List Nat) :=
  if chars.isEmpty || 4 < chars.length then none
  else (chars.mapM hexValue?).map fun digits => [valueInBase 16 digits]

/-- A byte in decimal digits without leading zeros. -/
def decimalByte? (chars : List Char) : Option Nat :=
  if chars.isEmpty || !chars.all Char.isDigit then none
  else if 1 < chars.length && chars.head? = some '0' then none
  else
    let value := Text.digitsValue chars
    if value ≤ 255 then some value else none

/-- The two pieces of an address of version 4 at the end of one of version 6. -/
def embeddedIpv4? (chars : List Char) : Option (List Nat) :=
  match (Text.splitOn (· = '.') chars).mapM decimalByte? with
  | some [first, second, third, fourth] => some [256 * first + second, 256 * third + fourth]
  | _ => none

/-- The pieces of some parts, of which the last one may be an address of version 4. -/
def ipv6Pieces? : List (List Char) → Option (List Nat)
  | [] => some []
  | [last] => if last.contains '.' then embeddedIpv4? last else ipv6Piece? last
  | part :: rest => do
    let piece ← ipv6Piece? part
    let others ← ipv6Pieces? rest
    return piece ++ others

/-- The text before and after the first pair of colons. -/
def splitDoubleColon? : List Char → Option (List Char × List Char)
  | [] => none
  | ':' :: ':' :: rest => some ([], rest)
  | c :: rest => (splitDoubleColon? rest).map fun (before, after) => (c :: before, after)

/-- The pieces of a side of an address, which may be empty. -/
def sidePieces? (chars : List Char) : Option (List Nat) :=
  if chars.isEmpty then some [] else ipv6Pieces? (Text.splitOn (· = ':') chars)

/-- The eight pieces of an address; a pair of colons stands for one or more pieces of zero. -/
def ipv6Address? (chars : List Char) : Option (List Nat) :=
  match splitDoubleColon? chars with
  | some (before, after) => do
    if before.contains '.' then none
    else
      let left ← sidePieces? before
      let right ← sidePieces? after
      let count := left.length + right.length
      if count < 8 then return left ++ List.replicate (8 - count) 0 ++ right else none
  | none => do
    let pieces ← sidePieces? chars
    if pieces.length = 8 then return pieces else none

/-- The address of version 6 between brackets, the first of which has been read. -/
def readBracketed (chars : List Char) : Except UrlError Host :=
  match chars.reverse with
  | ']' :: inner =>
    match ipv6Address? inner.reverse with
    | some pieces => .ok (.ipv6 pieces)
    | none => .error .invalidIpv6
  | _ => .error .invalidIpv6

/-! ### Text of hosts -/

/-- The length of the run of zeros at the start of some pieces. -/
def zeroRun (pieces : List Nat) : Nat := (pieces.takeWhile (· = 0)).length

/-- The first of the longest runs of zeros: the pieces before it and its length. -/
def longestZeroRun : List Nat → Nat × Nat
  | [] => (0, 0)
  | piece :: rest =>
    let here := zeroRun (piece :: rest)
    let (before, length) := longestZeroRun rest
    if length ≤ here then (0, here) else (before + 1, length)

/-- Pieces in hexadecimal digits between colons. -/
def pieceText (pieces : List Nat) : String := ":".intercalate (pieces.map Text.hexadecimal)

/--
The text of an address of version 6, with the longest run of zeros left out if it is one at all.
-/
def ipv6Text (pieces : List Nat) : String :=
  let (before, length) := longestZeroRun pieces
  if length < 2 then pieceText pieces
  else pieceText (pieces.take before) ++ "::" ++ pieceText (pieces.drop (before + length))

/-- The text of an address of version 4. -/
def ipv4Text (address : Nat) : String :=
  ".".intercalate ([24, 16, 8, 0].map fun shift => toString (address >>> shift % 256))

/-- The text of a host. -/
def Host.text : Host → String
  | .domain name => name
  | .ipv4 address => ipv4Text address
  | .ipv6 pieces => "[" ++ ipv6Text pieces ++ "]"

end LogForwarder.Url
