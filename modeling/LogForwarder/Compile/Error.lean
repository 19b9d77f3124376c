/-
Errors of compilation: why no text is generated from a spec. Each error has a reason, which is one
of a few classes with a number, and a detail that says what happened.
-/

import LogForwarder.Check.Problem
import LogForwarder.Element.Basic
import LogForwarder.Template.Engine

namespace LogForwarder

/-! ### Reasons -/

/-- A class of errors of compilation. -/
inductive CompileReason
  | reference
  | uniqueness
  | requiredField
  | unknownOutputType
  | authConfiguration
  | templateRender
  | internal
  deriving DecidableEq

namespace CompileReason

/-- The number of a reason. -/
def code : CompileReason → Nat
  | .reference => 3001
  | .uniqueness => 3002
  | .requiredField => 3003
  | .unknownOutputType => 3004
  | .authConfiguration => 3005
  | .templateRender => 3006
  | .internal => 3007

/-- The text of a reason. -/
def message : CompileReason → String
  | .reference => "unresolved reference"
  | .uniqueness => "duplicate name"
  | .requiredField => "missing required field"
  | .unknownOutputType => "unknown output type"
  | .authConfiguration => "invalid authentication"
  | .templateRender => "template render error"
  | .internal => "internal error"

/-- The reason of a spec that is rejected for a problem of some class. -/
def ofProblemKind : ProblemKind → CompileReason
  | .reference => .reference
  | .uniqueness => .uniqueness
  | .requiredField => .requiredField
  | .unknownOutputType => .unknownOutputType
  | .authConfiguration => .authConfiguration

end CompileReason

/-! ### Errors -/

/-- Why no text is generated. -/
inductive CompileError
  /-- The problems of a spec that is rejected. -/
  | rejected (first : Problem) (others : List Problem)
  /-- Elements that are no configuration. -/
  | element (error : ElementError)
  /-- A setting that the sink of an output cannot do without. -/
  | missingField (output field : String)
  | endpoint (output : String) (error : EndpointError)
  /-- An output of a type that a dialect has no sink for. -/
  | noSink (output : String) (type : OutputType) (dialect : Dialect)
  | templates (dialect : Dialect) (error : Template.RegisterError)
  /-- An element, or a part of it, that cannot be rendered. -/
  | render (owner template : String) (error : Template.RenderError)

namespace CompileError

/-- The reason of an error. A rejected spec has that of its first problem. -/
def reason : CompileError → CompileReason
  | .rejected first _ => .ofProblemKind first.kind
  | .element _ => .internal
  | .missingField _ _ => .requiredField
  | .endpoint _ _ => .requiredField
  | .noSink _ _ _ => .unknownOutputType
  | .templates _ _ => .internal
  | .render _ _ _ => .templateRender

/-- What the sinks of a dialect are called. -/
def sinkWord : Dialect → String
  | .fluentd => "fluentd store"
  | .vector => "vector sink"

/-- What happened. -/
def detail : CompileError → String
  | .rejected first others => "spec errors:\n" ++ "\n".intercalate ((first :: others).map (·.text))
  | .element error => error.message
  | .missingField output field => s!"output `{output}`: `{field}` is required"
  | .endpoint output error => s!"output `{output}`: {error.message}"
  | .noSink output type dialect =>
    s!"output `{output}`: type `{type.name}` has no {sinkWord dialect}"
  | .templates dialect error => s!"{dialect.name} templates: {error.message}"
  | .render owner template error => s!"`{owner}` ({template}): {error.message}"

/-- The text of an error: its number, its reason and what happened. -/
def text (error : CompileError) : String :=
  s!"[{error.reason.code}] {error.reason.message}\n  -> Details: {error.detail}"

end CompileError

end LogForwarder
