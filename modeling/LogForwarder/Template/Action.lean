/-
Reading of actions. The text between the braces of an action is cut into lexemes, and these are put
together by a stack of open parentheses. A text that is no action is refused without further detail.
-/

import LogForwarder.Template.Syntax
import LogForwarder.Text.Numeral

namespace LogForwarder.Template

/-! ### Lexemes -/

/-- A part of an expression's text. -/
inductive Lexeme
  | opening
  | closing
  | bar
  | operand (value : Operand)

/-- Whether a character separates lexemes. -/
def isSpace (c : Char) : Bool := c = ' ' || c = '\t' || c = '\r' || c = '\n'

/-- Whether a character can begin a name. -/
def beginsName (c : Char) : Bool := c.isAlpha || c = '_'

/-- Whether a character can stand inside a name. -/
def isNameChar (c : Char) : Bool := c.isAlphanum || c = '_'

/-- The name at the start of some characters, if there is one, and what follows. -/
def splitName? (chars : List Char) : Option (String × List Char) :=
  match chars with
  | [] => none
  | c :: _ =>
    if beginsName c then
      some (String.ofList (chars.takeWhile isNameChar), chars.dropWhile isNameChar)
    else
      none

/-- The character that an escape stands for. -/
def escaped (c : Char) : Char :=
  if c = 'n' then '\n' else if c = 't' then '\t' else c

/-- How far a lexeme has been read. -/
inductive LexMode
  /-- Between lexemes. -/
  | between
  /-- Inside a name; characters so far, the last one first. -/
  | name (chars : List Char)
  /-- Inside a number, its sign and the digits so far. -/
  | number (negative : Bool) (digits : List Char)
  /--
  Inside a path, whether it starts at the root, its finished steps and the step at hand, all the
  last one first.
  -/
  | path (fromRoot : Bool) (steps : List String) (step : List Char)
  /-- After the sign of the root, before any dot. -/
  | rootSign
  /-- Inside a string. -/
  | text (chars : List Char)
  /-- After a backslash inside a string. -/
  | escape (chars : List Char)

/-- The state of cutting a text into lexemes: the finished ones, the last one first. -/
structure Lexing where
  lexemes : List Lexeme
  mode : LexMode

/-- Characters collected with the last one first, as a text. -/
def collected (chars : List Char) : String := String.ofList chars.reverse

/-- The operand of a name. -/
def nameOperand (name : String) : Operand :=
  if name = "true" then .boolean true
  else if name = "false" then .boolean false
  else .function name

/-- The operand of a path. -/
def pathOperand (fromRoot : Bool) (path : List String) : Operand :=
  if fromRoot then .root path else .dot path

/-- The largest whole number in an expression. -/
def maxInteger : Nat := Nat.pow 2 63 - 1

namespace Lexing

/-- One more finished lexeme. -/
def emit (lexing : Lexing) (lexeme : Lexeme) : Lexing := ⟨lexeme :: lexing.lexemes, .between⟩

/-- The state after the lexeme at hand, if it can end here. -/
def finish? (lexing : Lexing) : Option Lexing :=
  match lexing.mode with
  | .between => some lexing
  | .name chars => some (lexing.emit (.operand (nameOperand (collected chars))))
  | .number negative digits =>
    (Text.numeral? maxInteger digits.reverse).map fun (value : Nat) =>
      let value : Int := value
      lexing.emit (.operand (.integer (if negative then -value else value)))
  | .path fromRoot steps step =>
    match step, steps with
    | [], [] => some (lexing.emit (.operand (pathOperand fromRoot [])))
    | [], _ => none
    | _, _ => some (lexing.emit (.operand (pathOperand fromRoot (collected step :: steps).reverse)))
  | .rootSign => some (lexing.emit (.operand (.root [])))
  | .text _ => none
  | .escape _ => none

/-- The state after the first character of a lexeme. -/
def start? (lexing : Lexing) (c : Char) : Option Lexing :=
  if isSpace c then some lexing
  else if c = '(' then some (lexing.emit .opening)
  else if c = ')' then some (lexing.emit .closing)
  else if c = '|' then some (lexing.emit .bar)
  else if c = '"' then some { lexing with mode := .text [] }
  else if c = '.' then some { lexing with mode := .path false [] [] }
  else if c = '$' then some { lexing with mode := .rootSign }
  else if c = '-' then some { lexing with mode := .number true [] }
  else if c.isDigit then some { lexing with mode := .number false [c] }
  else if beginsName c then some { lexing with mode := .name [c] }
  else none

/-- The state after a character that does not belong to the lexeme at hand. -/
def restart? (lexing : Lexing) (c : Char) : Option Lexing :=
  lexing.finish?.bind (·.start? c)

/-- The state after one more character. -/
def advance? (lexing : Lexing) (c : Char) : Option Lexing :=
  match lexing.mode with
  | .between => lexing.start? c
  | .name chars =>
    if isNameChar c then some { lexing with mode := .name (c :: chars) } else lexing.restart? c
  | .number negative digits =>
    if c.isDigit then some { lexing with mode := .number negative (c :: digits) }
    else lexing.restart? c
  | .path fromRoot steps [] =>
    if beginsName c then some { lexing with mode := .path fromRoot steps [c] }
    else lexing.restart? c
  | .path fromRoot steps step =>
    if isNameChar c then some { lexing with mode := .path fromRoot steps (c :: step) }
    else if c = '.' then some { lexing with mode := .path fromRoot (collected step :: steps) [] }
    else lexing.restart? c
  | .rootSign =>
    if c = '.' then some { lexing with mode := .path true [] [] } else lexing.restart? c
  | .text chars =>
    if c = '"' then some (lexing.emit (.operand (.text (collected chars))))
    else if c = '\\' then some { lexing with mode := .escape chars }
    else some { lexing with mode := .text (c :: chars) }
  | .escape chars => some { lexing with mode := .text (escaped c :: chars) }

end Lexing

/-- The lexemes of an expression's text. -/
def lexemes? (chars : List Char) : Option (List Lexeme) := do
  let lexing ← chars.foldlM Lexing.advance? ⟨[], .between⟩
  let lexing ← lexing.finish?
  return lexing.lexemes.reverse

/-! ### Expressions -/

/--
An expression that has been begun: its finished commands and the operands of the one at hand, the
last one first.
-/
structure OpenExpression where
  commands : List Command
  operands : List Operand

/-- Whether an operand takes arguments. -/
def Operand.isFunction : Operand → Bool
  | .function _ => true
  | _ => false

namespace OpenExpression

/-- The expression of which nothing has been read. -/
def empty : OpenExpression := ⟨[], []⟩

/-- One more operand. -/
def add (expression : OpenExpression) (operand : Operand) : OpenExpression :=
  { expression with operands := operand :: expression.operands }

/-- The finished commands together with the one at hand, the last one first. -/
def finishCommand? (expression : OpenExpression) : Option (List Command) :=
  match expression.operands.reverse with
  | [] => none
  | head :: arguments =>
    if arguments.isEmpty || head.isFunction then some (.mk head arguments :: expression.commands)
    else none

/-- The expression after a bar. -/
def nextCommand? (expression : OpenExpression) : Option OpenExpression :=
  expression.finishCommand?.map fun commands => ⟨commands, []⟩

/-- The finished expression. -/
def finish? (expression : OpenExpression) : Option Expression :=
  expression.finishCommand?.map List.reverse

end OpenExpression

/-- The innermost expression that is being read, and those around it. -/
structure Parsing where
  inner : OpenExpression
  outer : List OpenExpression

/-- The state after one more lexeme. -/
def Parsing.advance? (parsing : Parsing) : Lexeme → Option Parsing
  | .operand value => some { parsing with inner := parsing.inner.add value }
  | .bar => parsing.inner.nextCommand?.map fun inner => { parsing with inner := inner }
  | .opening => some ⟨.empty, parsing.inner :: parsing.outer⟩
  | .closing =>
    match parsing.outer with
    | [] => none
    | around :: outer =>
      parsing.inner.finish?.map fun commands => ⟨around.add (.group commands), outer⟩

/-- The expression of some lexemes. -/
def expressionOf? (lexemes : List Lexeme) : Option Expression := do
  let parsing ← lexemes.foldlM Parsing.advance? ⟨.empty, []⟩
  if parsing.outer.isEmpty then parsing.inner.finish? else none

/-- The expression of a text. -/
def readExpression? (chars : List Char) : Option Expression :=
  (lexemes? chars).bind expressionOf?

/-! ### Tags -/

/-- What an action says. -/
inductive Tag
  | expression (value : Expression)
  | ifTag (condition : Expression)
  | elseIfTag (condition : Expression)
  | elseTag
  | endTag
  | rangeTag (collection : Expression)
  | withTag (value : Expression)

/-- What follows a keyword at the start of some characters. -/
def afterKeyword? (keyword : String) (chars : List Char) : Option (List Char) :=
  match splitName? chars with
  | some (name, rest) => if name = keyword then some rest else none
  | none => none

/-- The expression after a keyword, which a separator must come before. -/
def clause? (chars : List Char) : Option Expression :=
  match chars with
  | c :: rest => if isSpace c then readExpression? rest else none
  | [] => none

/-- The tag of an action's text. -/
def readTag? (text : List Char) : Option Tag :=
  let chars := text.dropWhile isSpace
  match splitName? chars with
  | some ("if", rest) => (clause? rest).map .ifTag
  | some ("else", rest) =>
    let following := rest.dropWhile isSpace
    match afterKeyword? "if" following with
    | some condition => (clause? condition).map .elseIfTag
    | none => if following.isEmpty then some .elseTag else none
  | some ("end", rest) => if rest.all isSpace then some .endTag else none
  | some ("range", rest) => (clause? rest).map .rangeTag
  | some ("with", rest) => (clause? rest).map .withTag
  | _ => (readExpression? chars).map .expression

end LogForwarder.Template
