/-
Events: what a run tells about itself. An event has a level, the module that it happens in, a
message and fields; it may happen within a span, which stands for the whole of what is being done.
-/

namespace LogForwarder

/-- How much an event matters. -/
inductive LogLevel
  | error
  | warn
  | info
  | debug
  | trace
  deriving DecidableEq

namespace LogLevel

/-- All levels, from the one that matters most to the one that matters least. -/
def all : List LogLevel := [.error, .warn, .info, .debug, .trace]

/-- The name of a level. -/
def name : LogLevel → String
  | .error => "ERROR"
  | .warn => "WARN"
  | .info => "INFO"
  | .debug => "DEBUG"
  | .trace => "TRACE"

/-- The number of levels that matter more. -/
def rank : LogLevel → Nat
  | .error => 0
  | .warn => 1
  | .info => 2
  | .debug => 3
  | .trace => 4

/-- The level of a name, in upper or lower case. -/
def ofName? (name : String) : Option LogLevel := all.find? (·.name = name.toUpper)

end LogLevel

/-- The value of a field. -/
inductive LogValue
  /-- A text that is shown as it is. -/
  | plain (text : String)
  /-- A text that lines for people show in quotes. -/
  | quoted (text : String)
  | count (number : Nat)
  | flag (value : Bool)
  deriving DecidableEq

/-- Values by the names of their fields, in order. -/
abbrev LogFields := List (String × LogValue)

/-- What a run tells about itself. -/
structure LogEvent where
  level : LogLevel
  /-- The module that it happens in. -/
  target : String
  /-- The part of the program that it belongs to, for people. -/
  domain? : Option String
  message : String
  fields : LogFields
  deriving DecidableEq

/-- What is being done while events happen. -/
structure LogSpan where
  level : LogLevel
  target : String
  name : String
  fields : LogFields
  deriving DecidableEq

end LogForwarder
