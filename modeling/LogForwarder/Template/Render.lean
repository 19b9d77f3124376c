/-
Rendering of one template: expressions are evaluated against the value at hand and the value that
the template was called with, and the texts of all nodes are joined.
-/

import LogForwarder.Template.Function
import LogForwarder.Template.Syntax

namespace LogForwarder.Template

/-- What a template is rendered with. -/
structure Context where
  includer : Includer
  /-- The value at hand. -/
  dot : Value
  /-- The value that the template was called with. -/
  root : Value

/-- The value at the end of a path; what is missing on the way is null. -/
def followPath : Value → List String → Except RenderError Value
  | value, [] => .ok value
  | .object entries, step :: rest =>
    match entries.lookup step with
    | some next => followPath next rest
    | none => .ok .null
  | .null, _ :: _ => .ok .null
  | value, step :: _ => .error (.fieldOf step value.kindName)

/-- The value of the function of a name at some arguments. -/
def call (includer : Includer) (name : String) (arguments : List Value) :
    Except RenderError Value :=
  match Function.ofName? name with
  | none => .error (.unknownFunction name)
  | some function => (function.apply includer arguments).mapError (.inCall name)

/-! ### Expressions -/

mutual

/-- The value of an operand. -/
def Operand.evaluate (context : Context) : Operand → Except RenderError Value
  | .dot path => followPath context.dot path
  | .root path => followPath context.root path
  | .text value => .ok (.text value)
  | .integer value => .ok (.integer value)
  | .boolean value => .ok (.boolean value)
  | .function name => call context.includer name []
  | .group commands => evaluateCommands context none commands

/-- The values of some operands. -/
def evaluateOperands (context : Context) : List Operand → Except RenderError (List Value)
  | [] => .ok []
  | operand :: rest => do
    let value ← operand.evaluate context
    return value :: (← evaluateOperands context rest)

/-- The value of a command that the value `piped` flows into. -/
def Command.evaluate (context : Context) (piped : Option Value) :
    Command → Except RenderError Value
  | .mk (.function name) arguments => do
    let values ← evaluateOperands context arguments
    call context.includer name (values ++ piped.toList)
  | .mk head _ =>
    match piped with
    | some _ => .error .pipedIntoValue
    | none => head.evaluate context

/-- The value of the last of some commands, the first of which the value `piped` flows into. -/
def evaluateCommands (context : Context) (piped : Option Value) :
    List Command → Except RenderError Value
  | [] => .ok (piped.getD .null)
  | command :: rest => do
    let value ← command.evaluate context piped
    evaluateCommands context (some value) rest

end

/-- The value of an expression. -/
def evaluate (context : Context) (expression : Expression) : Except RenderError Value :=
  evaluateCommands context none expression

/-! ### Nodes -/

/-- The items of a collection, in order. -/
def itemsOf : Value → Except RenderError (List Value)
  | .list items => .ok items
  | .object entries => .ok (entries.map (·.2))
  | .null => .ok []
  | value => .error (.rangeOver value.kindName)

mutual

/-- The text of a node. -/
def Node.render (context : Context) : Node → Except RenderError String
  | .text value => .ok value
  | .action expression => do return (← evaluate context expression).plainText
  | .branch condition body otherwise => do
    if (← evaluate context condition).isPresent then renderNodes context body
    else renderNodes context otherwise
  | .within expression body otherwise => do
    let value ← evaluate context expression
    if value.isPresent then renderNodes { context with dot := value } body
    else renderNodes context otherwise
  | .each collection body otherwise => do
    match ← itemsOf (← evaluate context collection) with
    | [] => renderNodes context otherwise
    | items => do
      let texts ← items.mapM fun item => renderNodes { context with dot := item } body
      return String.join texts

/-- The text of some nodes. -/
def renderNodes (context : Context) : List Node → Except RenderError String
  | [] => .ok ""
  | node :: rest => do
    let text ← node.render context
    return text ++ (← renderNodes context rest)

end

end LogForwarder.Template
