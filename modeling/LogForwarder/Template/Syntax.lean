/-
Syntax trees of templates. A template is text with actions in it; an action evaluates an expression,
or opens, divides or closes a block that is rendered depending on one.
-/

namespace LogForwarder.Template

mutual

/-- What stands for a value in an expression. -/
inductive Operand
  /-- A path from the value at hand; the empty path is that value itself. -/
  | dot (path : List String)
  /-- A path from the value that the template was called with. -/
  | root (path : List String)
  | text (value : String)
  | integer (value : Int)
  | boolean (value : Bool)
  | function (name : String)
  /-- An expression in parentheses. -/
  | group (commands : List Command)

/-- An operand, or a function with its arguments. -/
inductive Command
  | mk (head : Operand) (arguments : List Operand)

end

/-- Commands joined by bars: the value of each is the last argument of the next one. -/
abbrev Expression := List Command

/-- A part of a template. -/
inductive Node
  | text (value : String)
  /-- The text of an expression's value. -/
  | action (expression : Expression)
  /-- One of two bodies, as a condition says. -/
  | branch (condition : Expression) (body otherwise : List Node)
  /-- A body for each item of a collection, or another one if there are none. -/
  | each (collection : Expression) (body otherwise : List Node)
  /-- A body with a new value at hand, or another one if there is no such value. -/
  | within (value : Expression) (body otherwise : List Node)

/-! ### Expressions inside trees -/

/-- The head and the arguments of a command. -/
def Command.operands : Command → List Operand
  | .mk head arguments => head :: arguments

mutual

/-- The expressions in parentheses inside an operand, outer ones first. -/
def Operand.groups : Operand → List Expression
  | .group commands => commands :: groupsOfCommands commands
  | _ => []

/-- The expressions in parentheses inside a command, outer ones first. -/
def Command.groups : Command → List Expression
  | .mk head arguments => head.groups ++ groupsOfOperands arguments

/-- The expressions in parentheses inside some operands. -/
def groupsOfOperands : List Operand → List Expression
  | [] => []
  | operand :: rest => operand.groups ++ groupsOfOperands rest

/-- The expressions in parentheses inside some commands. -/
def groupsOfCommands : List Command → List Expression
  | [] => []
  | command :: rest => command.groups ++ groupsOfCommands rest

end

/-- An expression and all those inside it, outer ones first. -/
def withGroups (expression : Expression) : List Expression :=
  expression :: groupsOfCommands expression

mutual

/-- All expressions of a node, in the order of the text. -/
def Node.expressions : Node → List Expression
  | .text _ => []
  | .action expression => withGroups expression
  | .branch condition body otherwise =>
    withGroups condition ++ (expressionsOf body ++ expressionsOf otherwise)
  | .each collection body otherwise =>
    withGroups collection ++ (expressionsOf body ++ expressionsOf otherwise)
  | .within value body otherwise =>
    withGroups value ++ (expressionsOf body ++ expressionsOf otherwise)

/-- All expressions of some nodes, in the order of the text. -/
def expressionsOf : List Node → List Expression
  | [] => []
  | node :: rest => node.expressions ++ expressionsOf rest

end

end LogForwarder.Template
