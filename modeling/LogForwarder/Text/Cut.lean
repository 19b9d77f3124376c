/-
Cuts of texts: what is left when something at an end is taken off, and the parts between separators.
Quantities, secret values and indented lines are all read without the blanks around them, so one set
of blanks serves them all.
-/

namespace LogForwarder.Text

/-- A list without the members at its end that satisfy a test. -/
def dropWhileEnd (test : Char → Bool) (chars : List Char) : List Char :=
  (chars.reverse.dropWhile test).reverse

/-- What follows the text `start` in a text that begins with it. -/
def afterStart? (start text : String) : Option String :=
  if start.toList.isPrefixOf text.toList then
    some (String.ofList (text.toList.drop start.toList.length))
  else
    none

/-- The parts of a text between separators. -/
def splitOn (isSeparator : Char → Bool) : List Char → List (List Char)
  | [] => [[]]
  | c :: rest =>
    if isSeparator c then [] :: splitOn isSeparator rest
    else
      match splitOn isSeparator rest with
      | [] => [[c]]
      | part :: others => (c :: part) :: others

/-! ### Blanks -/

/-- A blank is a character with the White_Space property of Unicode. -/
def isBlank (c : Char) : Bool :=
  let code := c.toNat
  (9 ≤ code && code ≤ 13) || code == 0x20 || code == 0x85 || code == 0xA0 || code == 0x1680 ||
    (0x2000 ≤ code && code ≤ 0x200A) || code == 0x2028 || code == 0x2029 || code == 0x202F ||
    code == 0x205F || code == 0x3000

/-- Characters without the blanks at both ends. -/
def trimChars (chars : List Char) : List Char :=
  dropWhileEnd isBlank (chars.dropWhile isBlank)

/-- A text without the blanks at both ends. -/
def trim (text : String) : String :=
  String.ofList (trimChars text.toList)

/-- Whether a text holds nothing but blanks. -/
def isAllBlank (text : String) : Bool :=
  text.toList.all isBlank

end LogForwarder.Text
