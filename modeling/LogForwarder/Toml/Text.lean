/-
Strings and keys of TOML documents: basic strings with escapes, literal strings without, and the
forms of both that run over several lines. A reader returns what it read and the characters after
it.
-/

import LogForwarder.Text.Numeral

namespace LogForwarder.Toml

/-! ### Characters -/

/-- Whether a character separates words on a line. -/
def isSpace (c : Char) : Bool := c = ' ' || c = '\t'

/-- Whether a character may stand as it is in a string or a comment. -/
def isPlain (c : Char) : Bool := c = '\t' || (32 ≤ c.toNat && c.toNat ≠ 127)

/-- The value of a hexadecimal digit. -/
def hexDigit? (c : Char) : Option Nat :=
  if c.isDigit then some (c.toNat - '0'.toNat)
  else if 'a' ≤ c && c ≤ 'f' then some (c.toNat - 'a'.toNat + 10)
  else if 'A' ≤ c && c ≤ 'F' then some (c.toNat - 'A'.toNat + 10)
  else none

/-- The number that hexadecimal digits stand for. -/
def hexValue? (digits : List Char) : Option Nat :=
  digits.foldlM (fun value digit => (hexDigit? digit).map (value * 16 + ·)) 0

/-- The character of a numeric escape. -/
def escapedCode? (digits : List Char) : Option Char :=
  (hexValue? digits).bind fun code => if code.isValidChar then some (Char.ofNat code) else none

/-- The character of an escape of one letter. -/
def escapedLetter? (letter : Char) : Option Char :=
  if letter = '"' || letter = '\\' then some letter
  else if letter = 'b' then some (Char.ofNat 8)
  else if letter = 't' then some '\t'
  else if letter = 'n' then some '\n'
  else if letter = 'f' then some (Char.ofNat 12)
  else if letter = 'r' then some '\r'
  else if letter = 'e' then some (Char.ofNat 27)
  else none

/-! ### Strings on one line -/

/-- The rest of a basic string; `taken` holds its characters so far, the last one first. -/
def basicText (taken : List Char) : List Char → Option (List Char × List Char)
  | [] => none
  | '"' :: rest => some (taken.reverse, rest)
  | '\\' :: 'x' :: a :: b :: rest =>
    (escapedCode? [a, b]).bind fun c => basicText (c :: taken) rest
  | '\\' :: 'u' :: a :: b :: c :: d :: rest =>
    (escapedCode? [a, b, c, d]).bind fun c => basicText (c :: taken) rest
  | '\\' :: 'U' :: a :: b :: c :: d :: e :: f :: g :: h :: rest =>
    (escapedCode? [a, b, c, d, e, f, g, h]).bind fun c => basicText (c :: taken) rest
  | '\\' :: letter :: rest => (escapedLetter? letter).bind fun c => basicText (c :: taken) rest
  | c :: rest => if isPlain c && c ≠ '\\' then basicText (c :: taken) rest else none

/-- The rest of a literal string. -/
def literalText (taken : List Char) : List Char → Option (List Char × List Char)
  | [] => none
  | '\'' :: rest => some (taken.reverse, rest)
  | c :: rest => if isPlain c then literalText (c :: taken) rest else none

/-! ### Strings on several lines -/

/-- Text without the line break that follows the opening quotes. -/
def dropFirstBreak : List Char → List Char
  | '\n' :: rest => rest
  | '\r' :: '\n' :: rest => rest
  | chars => chars

/-- Where in a basic string on several lines a reader is. -/
inductive LineMode
  | inside
  /-- After a backslash that ends its line, as long as nothing but spaces follows. -/
  | beforeBreak
  /-- After such a line, as long as nothing but blanks follows. -/
  | afterBreak
  deriving DecidableEq

/--
The rest of a basic string on several lines. Of up to five quotes in a row the last three close it.
-/
def basicLines (mode : LineMode) (taken : List Char) : List Char → Option (List Char × List Char)
  | [] => none
  | c :: rest =>
    match mode with
    | .beforeBreak =>
      if isSpace c then basicLines .beforeBreak taken rest
      else if c = '\n' then basicLines .afterBreak taken rest
      else
        match c, rest with
        | '\r', '\n' :: others => basicLines .afterBreak taken others
        | _, _ => none
    | mode =>
      let blank := isSpace c || c = '\n'
      if mode = .afterBreak && blank then basicLines .afterBreak taken rest
      else
        match c, rest with
        | '\r', '\n' :: others =>
          if mode = .afterBreak then basicLines .afterBreak taken others
          else basicLines .inside ('\n' :: '\r' :: taken) others
        | '"', '"' :: '"' :: '"' :: '"' :: others => some (('"' :: '"' :: taken).reverse, others)
        | '"', '"' :: '"' :: '"' :: others => some (('"' :: taken).reverse, others)
        | '"', '"' :: '"' :: others => some (taken.reverse, others)
        | '\\', 'x' :: a :: b :: others =>
          (escapedCode? [a, b]).bind fun c => basicLines .inside (c :: taken) others
        | '\\', 'u' :: a :: b :: c :: d :: others =>
          (escapedCode? [a, b, c, d]).bind fun c => basicLines .inside (c :: taken) others
        | '\\', 'U' :: a :: b :: c :: d :: e :: f :: g :: h :: others =>
          (escapedCode? [a, b, c, d, e, f, g, h]).bind fun c =>
            basicLines .inside (c :: taken) others
        | '\\', letter :: others =>
          if isSpace letter then basicLines .beforeBreak taken others
          else if letter = '\n' then basicLines .afterBreak taken others
          else if letter = '\r' then
            match others with
            | '\n' :: later => basicLines .afterBreak taken later
            | _ => none
          else (escapedLetter? letter).bind fun c => basicLines .inside (c :: taken) others
        | c, others =>
          if c = '\n' || (isPlain c && c ≠ '\\') then basicLines .inside (c :: taken) others
          else none

/--
The rest of a literal string on several lines. Of up to five quotes in a row the last three close
it.
-/
def literalLines (taken : List Char) : List Char → Option (List Char × List Char)
  | [] => none
  | '\'' :: '\'' :: '\'' :: '\'' :: '\'' :: rest => some (('\'' :: '\'' :: taken).reverse, rest)
  | '\'' :: '\'' :: '\'' :: '\'' :: rest => some (('\'' :: taken).reverse, rest)
  | '\'' :: '\'' :: '\'' :: rest => some (taken.reverse, rest)
  | '\r' :: '\n' :: rest => literalLines ('\n' :: '\r' :: taken) rest
  | c :: rest => if c = '\n' || isPlain c then literalLines (c :: taken) rest else none

/-- A string of any form, if one begins here. -/
def readText : List Char → Option (String × List Char)
  | '"' :: '"' :: '"' :: rest => finish (basicLines .inside [] (dropFirstBreak rest))
  | '"' :: rest => finish (basicText [] rest)
  | '\'' :: '\'' :: '\'' :: rest => finish (literalLines [] (dropFirstBreak rest))
  | '\'' :: rest => finish (literalText [] rest)
  | _ => none
where
  finish (read : Option (List Char × List Char)) : Option (String × List Char) :=
    read.map fun (chars, rest) => (String.ofList chars, rest)

/-! ### Keys -/

/-- Whether a character may stand in a key without quotes. -/
def isBareKey (c : Char) : Bool := c.isAlphanum || c = '_' || c = '-'

/-- One segment of a key. -/
def readSegment : List Char → Option (String × List Char)
  | '"' :: rest => (basicText [] rest).map fun (chars, rest) => (String.ofList chars, rest)
  | '\'' :: rest => (literalText [] rest).map fun (chars, rest) => (String.ofList chars, rest)
  | chars =>
    let bare := chars.takeWhile isBareKey
    if bare.isEmpty then none else some (String.ofList bare, chars.dropWhile isBareKey)

/-- A key of at most `limit` segments between dots, and the characters after it and its spaces. -/
def readKey : (limit : Nat) → List Char → Option (List String × List Char)
  | 0, _ => none
  | limit + 1, chars => do
    let (segment, rest) ← readSegment (chars.dropWhile isSpace)
    match rest.dropWhile isSpace with
    | '.' :: others => do
      let (segments, rest) ← readKey limit others
      return (segment :: segments, rest)
    | others => return ([segment], others)

/-! ### Ends of lines -/

/--
What is left after blanks, line breaks and comments; nothing if a comment holds what it may not.
-/
def skipLines (inComment : Bool) : List Char → Option (List Char)
  | [] => some []
  | '\n' :: rest => skipLines false rest
  | '\r' :: '\n' :: rest => skipLines false rest
  | c :: rest =>
    if inComment then if isPlain c then skipLines true rest else none
    else if isSpace c then skipLines false rest
    else if c = '#' then skipLines true rest
    else some (c :: rest)

/-- The next line, if nothing but spaces and a comment is left of this one. -/
def endLine (inComment : Bool) : List Char → Option (List Char)
  | [] => some []
  | '\n' :: rest => some rest
  | '\r' :: '\n' :: rest => some rest
  | c :: rest =>
    if inComment then if isPlain c then endLine true rest else none
    else if isSpace c then endLine false rest
    else if c = '#' then endLine true rest
    else none

end LogForwarder.Toml
