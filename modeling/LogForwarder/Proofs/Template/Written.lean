/-
This file says how templates are written down, as the inverse of reading them. An expression is a
row of lexemes with one blank between neighbours, except inside parentheses; an action stands
between braces with a blank on either side; and a block is written by the actions that open, divide
and close it. What can be written so that it is read back is said beside it, as tests.
-/

import LogForwarder.Template.Reader
import Mathlib.Data.List.Infix

namespace LogForwarder.Template

/-! ### Operands -/

/-- A character of a string: quotes, backslashes, line breaks and tabs come after a backslash. -/
def writtenChar (c : Char) : List Char :=
  if c = '"' then ['\\', '"']
  else if c = '\\' then ['\\', '\\']
  else if c = '\n' then ['\\', 'n']
  else if c = '\t' then ['\\', 't']
  else [c]

def writtenInteger (value : Int) : List Char :=
  if value < 0 then '-' :: Nat.toDigits 10 value.natAbs else Nat.toDigits 10 value.natAbs

/-- The steps of a path, with a dot before each of them. -/
def writtenSteps (path : List String) : List Char :=
  path.flatMap fun step => '.' :: step.toList

/-- An operand that is a single lexeme. -/
def Operand.written : Operand → List Char
  | .dot path => if path.isEmpty then ['.'] else writtenSteps path
  | .root path => '$' :: writtenSteps path
  | .text value => '"' :: (value.toList.flatMap writtenChar ++ ['"'])
  | .integer value => writtenInteger value
  | .boolean value => if value then "true".toList else "false".toList
  | .function name => name.toList
  | .group _ => []

def isName (name : String) : Bool :=
  match name.toList with
  | [] => false
  | c :: rest => beginsName c && rest.all isNameChar

/-- The names that no function can have. -/
def keywords : List String := ["if", "else", "end", "range", "with", "true", "false"]

/-- Whether an operand is a single lexeme that can be read back. -/
def Operand.isAtom : Operand → Bool
  | .dot path | .root path => path.all isName
  | .text _ | .boolean _ => true
  | .integer value => value.natAbs ≤ maxInteger
  | .function name => isName name && name ∉ keywords
  | .group _ => false

/-! ### Expressions -/

mutual

/-- The lexemes of an operand. -/
def Operand.lexemes : Operand → List Lexeme
  | .group commands => .opening :: (lexemesOfCommands commands ++ [.closing])
  | operand => [.operand operand]

/-- The lexemes of a command. -/
def Command.lexemes : Command → List Lexeme
  | .mk head arguments => head.lexemes ++ lexemesOfOperands arguments

/-- The lexemes of some operands, one after the other. -/
def lexemesOfOperands : List Operand → List Lexeme
  | [] => []
  | operand :: rest => operand.lexemes ++ lexemesOfOperands rest

/-- The lexemes of commands with a bar between neighbours. -/
def lexemesOfCommands : List Command → List Lexeme
  | [] => []
  | command :: rest => command.lexemes ++ lexemesBehindBars rest

/-- The lexemes of commands with a bar before each. -/
def lexemesBehindBars : List Command → List Lexeme
  | [] => []
  | command :: rest => .bar :: (command.lexemes ++ lexemesBehindBars rest)

end

def Lexeme.written : Lexeme → List Char
  | .opening => ['(']
  | .closing => [')']
  | .bar => ['|']
  | .operand value => value.written

def Lexeme.isWritable : Lexeme → Bool
  | .operand value => value.isAtom
  | _ => true

/-- What stands between two lexemes. -/
def separator : Lexeme → Lexeme → List Char
  | .opening, _ => []
  | _, .closing => []
  | _, _ => [' ']

def writtenLexemes : List Lexeme → List Char
  | [] => []
  | [lexeme] => lexeme.written
  | lexeme :: next :: rest =>
    lexeme.written ++ (separator lexeme next ++ writtenLexemes (next :: rest))

def writtenExpression (expression : Expression) : List Char :=
  writtenLexemes (lexemesOfCommands expression)

mutual

def Operand.isWritable : Operand → Bool
  | .group commands => !commands.isEmpty && areWritableCommands commands
  | operand => operand.isAtom

/-- Whether a command can be read back: nothing but a function has arguments. -/
def Command.isWritable : Command → Bool
  | .mk head arguments =>
    (arguments.isEmpty || head.isFunction) && head.isWritable && areWritableOperands arguments

def areWritableOperands : List Operand → Bool
  | [] => true
  | operand :: rest => operand.isWritable && areWritableOperands rest

def areWritableCommands : List Command → Bool
  | [] => true
  | command :: rest => command.isWritable && areWritableCommands rest

end

def isWritableExpression (expression : Expression) : Bool :=
  !expression.isEmpty && areWritableCommands expression

/-! ### Segments -/

def Tag.written : Tag → List Char
  | .expression value => writtenExpression value
  | .ifTag condition => "if".toList ++ ' ' :: writtenExpression condition
  | .elseIfTag condition =>
    "else".toList ++ ' ' :: ("if".toList ++ ' ' :: writtenExpression condition)
  | .elseTag => "else".toList
  | .endTag => "end".toList
  | .rangeTag collection => "range".toList ++ ' ' :: writtenExpression collection
  | .withTag value => "with".toList ++ ' ' :: writtenExpression value

def Segment.written : Segment → List Char
  | .text value => value.toList
  | .tag action => '{' :: '{' :: ' ' :: (action.written ++ [' ', '}', '}'])

/-- The text of a template with some segments. -/
def writtenSegments (segments : List Segment) : String :=
  String.ofList (segments.flatMap Segment.written)

/-- Whether the expression of an action, if it has one, can be read back. -/
def Tag.isWritable : Tag → Bool
  | .expression value | .ifTag value | .elseIfTag value | .rangeTag value | .withTag value =>
    isWritableExpression value
  | .elseTag | .endTag => true

/-- Whether a text is not empty and cannot be taken for the start of an action. -/
def isWritableText (value : String) : Bool :=
  !value.isEmpty && !(['{', '{'] <:+: value.toList : Bool) && value.toList.getLast? ≠ some '{'

def Segment.isWritable : Segment → Bool
  | .text value => isWritableText value
  | .tag action => action.isWritable

def Segment.isText : Segment → Bool
  | .text _ => true
  | .tag _ => false

/-- Whether each of some segments can be read back and no two neighbours are texts. -/
def areWritableSegments : List Segment → Bool
  | [] => true
  | segment :: rest =>
    segment.isWritable && !(segment.isText && rest.head?.any Segment.isText) &&
      areWritableSegments rest

/-! ### Nodes -/

/-- The segments of a block between its opening and its end. -/
def blockSegments (opening : Tag) (body otherwise : List Segment) : List Segment :=
  .tag opening ::
    (body ++ ((if otherwise.isEmpty then [] else .tag .elseTag :: otherwise) ++ [.tag .endTag]))

mutual

def Node.segments : Node → List Segment
  | .text value => [.text value]
  | .action expression => [.tag (.expression expression)]
  | .branch condition body otherwise =>
    blockSegments (.ifTag condition) (segmentsOf body) (segmentsOf otherwise)
  | .each collection body otherwise =>
    blockSegments (.rangeTag collection) (segmentsOf body) (segmentsOf otherwise)
  | .within value body otherwise =>
    blockSegments (.withTag value) (segmentsOf body) (segmentsOf otherwise)

def segmentsOf : List Node → List Segment
  | [] => []
  | node :: rest => node.segments ++ segmentsOf rest

end

/-- The text of a template with some nodes. -/
def written (nodes : List Node) : String := writtenSegments (segmentsOf nodes)

def Node.isText : Node → Bool
  | .text _ => true
  | _ => false

mutual

def Node.isWritable : Node → Bool
  | .text value => isWritableText value
  | .action expression => isWritableExpression expression
  | .branch expression body otherwise | .each expression body otherwise
  | .within expression body otherwise =>
    isWritableExpression expression && areWritable body && areWritable otherwise

/-- Whether each of some nodes can be read back and no two neighbours are texts. -/
def areWritable : List Node → Bool
  | [] => true
  | node :: rest =>
    node.isWritable && !(node.isText && rest.head?.any Node.isText) && areWritable rest

end

end LogForwarder.Template
