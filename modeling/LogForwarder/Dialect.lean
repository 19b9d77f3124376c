/-
Dialects: the configuration languages that text is generated in, and the types of outputs that each
of them has a sink for.
-/

import LogForwarder.Spec.Output

namespace LogForwarder

/-- A configuration language. -/
inductive Dialect
  /-- Labels and match blocks. -/
  | fluentd
  /-- Tables with typed components. -/
  | vector
  deriving DecidableEq, Inhabited

namespace Dialect

/-- The name of a dialect. -/
def name : Dialect → String
  | .fluentd => "fluentd"
  | .vector => "vector"

/-- Both dialects. -/
def all : List Dialect := [.fluentd, .vector]

/-- The dialect of a name. -/
def ofName? (name : String) : Option Dialect := all.find? (·.name = name)

/-- The text that reports a name that is no dialect. -/
def unknownMessage (name : String) : String :=
  s!"unknown dialect {Text.quoted name} (expected fluentd or vector)"

/-- Dialects are written by name. -/
def codec : Codec Dialect := .choiceOf name all

/-- Whether a dialect has a sink for a type of output. -/
def supports : Dialect → OutputType → Bool
  | .fluentd, type =>
    type ∈ [.elasticsearch, .fluentForward, .syslog, .kafka, .loki, .lokistack, .cloudwatch, .http]
  | .vector, type => type.isKnown && type ≠ .fluentForward

end Dialect

end LogForwarder
