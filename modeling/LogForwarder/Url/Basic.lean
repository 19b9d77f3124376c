/-
Addresses of the web: a scheme, mostly a host with a port, a path, a query and a fragment. A few
special schemes have rules of their own: their hosts are domains, and they know a usual port.
-/

import LogForwarder.Text.Cut
import LogForwarder.Text.Numeral
import LogForwarder.Url.Domain
import LogForwarder.Url.Percent

namespace LogForwarder

/-- An address that has been read. -/
structure Url where
  scheme : String
  /-- The name and password of a user as they are written, without the sign after them. -/
  userInfo : String
  /-- The host, if there is one. -/
  host? : Option Url.Host
  /-- The port, unless it is the usual one of the scheme. -/
  port? : Option Nat
  path : String
  query : Option String
  fragment : Option String
  deriving DecidableEq

namespace Url

/-! ### Schemes -/

/-- The special schemes with their usual ports. -/
def specialSchemes : List (String × Option Nat) :=
  [("http", some 80), ("https", some 443), ("ws", some 80), ("wss", some 443), ("ftp", some 21),
    ("file", none)]

/-- Whether a scheme is special. -/
def isSpecialScheme (scheme : String) : Bool := (specialSchemes.lookup scheme).isSome

/-- The usual port of a scheme. -/
def usualPort? (scheme : String) : Option Nat := (specialSchemes.lookup scheme).join

/-- Whether a character can stand in a scheme after the first one. -/
def isSchemeChar (c : Char) : Bool := c.isAlphanum || c = '+' || c = '-' || c = '.'

/-- The scheme in front of a colon, in lower case, and what follows the colon. -/
def splitScheme? (chars : List Char) : Option (String × List Char) :=
  match chars with
  | [] => none
  | first :: _ =>
    match chars.dropWhile isSchemeChar with
    | ':' :: rest =>
      if first.isAlpha then
        some (String.ofList ((chars.takeWhile isSchemeChar).map Char.toLower), rest)
      else
        none
    | _ => none

/-! ### Authority -/

/-- Whether a character ends the part of an address before its path. -/
def endsAuthority (isSpecial : Bool) (c : Char) : Bool :=
  c = '/' || c = '?' || c = '#' || (isSpecial && c = '\\')

/-- The characters before and after the last sign between user and host, if there is one. -/
def splitUser? (authority : List Char) : Option (List Char × List Char) :=
  match authority.reverse.dropWhile (· ≠ '@') with
  | _ :: before => some (before.reverse, (authority.reverse.takeWhile (· ≠ '@')).reverse)
  | [] => none

/-- The name and password of a user as they are written; an empty password has no colon. -/
def writtenUser (user : List Char) : String :=
  let name := encode userInfoSet (user.takeWhile (· ≠ ':'))
  let password := (user.dropWhile (· ≠ ':')).drop 1
  if password.isEmpty then name else name ++ ":" ++ encode userInfoSet password

/--
The host at the start of some characters and what follows it; colons between brackets belong to it.
-/
def splitHost : (inBrackets : Bool) → List Char → List Char × List Char
  | _, [] => ([], [])
  | inBrackets, c :: rest =>
    if c = ':' && !inBrackets then ([], c :: rest)
    else
      let nowInBrackets := if c = '[' then true else if c = ']' then false else inBrackets
      let (host, after) := splitHost nowInBrackets rest
      (c :: host, after)

/-- The largest port. -/
def maxPort : Nat := 65535

/-- The port in front of a path, if one is given. -/
def readPort (chars : List Char) : Except UrlError (Option Nat × List Char) :=
  let (digits, rest) := Text.spanDigits chars
  let ended :=
    match rest with
    | [] => true
    | c :: _ => endsAuthority true c
  if maxPort < Text.digitsValue digits then .error .invalidPort
  else if !ended then .error .invalidPort
  else .ok (if digits.isEmpty then none else some (Text.digitsValue digits), rest)

/-! ### Path, query and fragment -/

/-- The path, the query and the fragment of some characters, all as they stand. -/
def splitTail (chars : List Char) : List Char × Option (List Char) × Option (List Char) :=
  let beforeFragment := chars.takeWhile (· ≠ '#')
  let fragment :=
    match chars.dropWhile (· ≠ '#') with
    | [] => none
    | _ :: rest => some rest
  let query :=
    match beforeFragment.dropWhile (· ≠ '?') with
    | [] => none
    | _ :: rest => some rest
  (beforeFragment.takeWhile (· ≠ '?'), query, fragment)

/-- An address together with the path, query and fragment after its host. -/
def withTail (url : Url) (path : List Char → String) (chars : List Char) : Url :=
  let (pathChars, query, fragment) := splitTail chars
  { url with
    path := path pathChars
    query := query.map (encode (querySet (isSpecialScheme url.scheme)))
    fragment := fragment.map (encode fragmentSet) }

/-- An address of which only the scheme is known. -/
def ofScheme (scheme : String) : Url := ⟨scheme, "", none, none, "", none, none⟩

/-- The path after a host. Special schemes always have one. -/
def pathAfterHost (isSpecial isFile : Bool) (chars : List Char) : String :=
  match chars with
  | [] => if isSpecial then "/" else ""
  | c :: rest =>
    if c = '/' || (isSpecial && c = '\\') then pathText isSpecial isFile rest
    else pathText isSpecial isFile (c :: rest)

/-! ### Reading -/

/-- The host of an address that has one, unless it is empty. -/
def hostOf (isSpecial : Bool) (chars : List Char) : Except UrlError (Option Host) :=
  if chars.isEmpty then if isSpecial then .error .emptyHost else .ok none
  else some <$> if isSpecial then readHost chars else readOpaqueHost chars

/-- The address of a scheme, of which what follows the two slashes is given. -/
def readAuthority (scheme : String) (chars : List Char) : Except UrlError Url := do
  let isSpecial := isSpecialScheme scheme
  let authority := chars.takeWhile (!endsAuthority isSpecial ·)
  let tail := chars.dropWhile (!endsAuthority isSpecial ·)
  let (user, address) := (splitUser? authority).getD ([], authority)
  if (splitUser? authority).isSome && user.isEmpty && address.isEmpty && !tail.isEmpty then
    throw .emptyHost
  let (hostChars, afterHost) := splitHost false address
  let host? ← hostOf isSpecial hostChars
  let (port?, rest) ←
    match afterHost with
    | ':' :: digits =>
      if host?.isNone then throw .emptyHost else readPort (digits ++ tail)
    | _ => pure (none, afterHost ++ tail)
  let userInfo := writtenUser user
  if host?.isNone && !userInfo.isEmpty then throw .emptyHost
  let url : Url :=
    { ofScheme scheme with
      userInfo := userInfo
      host? := host?
      port? := if port? = usualPort? scheme then none else port? }
  return url.withTail (pathAfterHost isSpecial false) rest

/-- Whether some characters are slashes of either kind. -/
def isAnySlash (c : Char) : Bool := c = '/' || c = '\\'

/-- The host of a file; the machine itself has no name. -/
def fileHostOf (chars : List Char) : Except UrlError (Option Host) := do
  if chars.isEmpty then return none
  let host ← readHost chars
  return if host = .domain "localhost" then none else some host

/-- Whether a step of a path is the letter of a drive, which leaves no room for a host. -/
def namesDrive (chars : List Char) : Bool :=
  (Text.splitOn isAnySlash (splitTail chars).1).any isDriveLetter

/-- The address of a file, of which what follows the colon is given. -/
def readFile (chars : List Char) : Except UrlError Url := do
  match chars with
  | first :: second :: rest =>
    if isAnySlash first && isAnySlash second then
      let hostChars := rest.takeWhile (!endsAuthority true ·)
      if isDriveLetter hostChars then
        return (ofScheme "file").withTail (pathText true true) rest
      let host? ← fileHostOf hostChars
      let tail := rest.dropWhile (!endsAuthority true ·)
      let url := (ofScheme "file").withTail (pathAfterHost true true) tail
      return { url with host? := if namesDrive tail then none else host? }
    else if isAnySlash first then
      return (ofScheme "file").withTail (pathText true true) (second :: rest)
    else
      return (ofScheme "file").withTail (pathText true true) chars
  | [c] =>
    return (ofScheme "file").withTail (pathText true true) (if isAnySlash c then [] else [c])
  | [] => return (ofScheme "file").withTail (pathText true true) []

/-- The address of a scheme, of which what follows the colon is given. -/
def readAfterScheme (scheme : String) (chars : List Char) : Except UrlError Url :=
  if scheme = "file" then readFile chars
  else if isSpecialScheme scheme then readAuthority scheme (chars.dropWhile isAnySlash)
  else
    match chars with
    | '/' :: '/' :: rest => readAuthority scheme rest
    | '/' :: rest => .ok ((ofScheme scheme).withTail (pathText false false) rest)
    | _ => .ok ((ofScheme scheme).withTail (encode controlSet) chars)

/-- Characters without those that are left out of addresses wherever they stand. -/
def significant (chars : List Char) : List Char :=
  let isEdge (c : Char) : Bool := c.toNat ≤ 32
  (Text.dropWhileEnd isEdge (chars.dropWhile isEdge)).filter (· ∉ ['\t', '\n', '\r'])

/-- The address that a text stands for. -/
def read (text : String) : Except UrlError Url :=
  match splitScheme? (significant text.toList) with
  | some (scheme, rest) => readAfterScheme scheme rest
  | none => .error .noScheme

/-! ### Views -/

/-- The text of the host. -/
def hostText? (url : Url) : Option String := url.host?.map Host.text

/-- The port, or the usual one of the scheme. -/
def portOrUsual? (url : Url) : Option Nat := url.port? <|> usualPort? url.scheme

/-- The text of an address. -/
def text (url : Url) : String :=
  let user := if url.userInfo.isEmpty then "" else url.userInfo ++ "@"
  let port := (url.port?.map fun port => s!":{port}").getD ""
  let host := ((url.host?.map fun host => "//" ++ user ++ host.text ++ port)).getD
    (if url.scheme = "file" then "//" else "")
  let query := (url.query.map ("?" ++ ·)).getD ""
  let fragment := (url.fragment.map ("#" ++ ·)).getD ""
  s!"{url.scheme}:" ++ host ++ url.path ++ query ++ fragment

end Url

end LogForwarder
