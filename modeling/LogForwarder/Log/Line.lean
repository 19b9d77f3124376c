/-
Lines of a log: one event as text, for people or as JSON. Lines for people may be coloured, where
they are read on a screen.
-/

import LogForwarder.Config.Logging
import LogForwarder.Document.Value
import LogForwarder.Log.Event

namespace LogForwarder

/-! ### Colours -/

/-- How a part of a line is painted. -/
inductive Paint
  | bold
  | dim
  | italic
  | heading
  | level (level : LogLevel)

/-- The number that switches a paint on. -/
def Paint.code : Paint → String
  | .bold => "1"
  | .dim => "2"
  | .italic => "3"
  | .heading => "1;36"
  | .level .error => "31"
  | .level .warn => "33"
  | .level .info => "32"
  | .level .debug => "34"
  | .level .trace => "35"

/-- A text in a paint, if there are colours at all. -/
def painted (colored : Bool) (paint : Paint) (text : String) : String :=
  if colored then s!"\x1b[{paint.code}m{text}\x1b[0m" else text

/-! ### Lines for people -/

/-- A text with blanks in front of it, up to a width. -/
def rightAligned (width : Nat) (text : String) : String :=
  String.ofList (List.replicate (width - text.length) ' ') ++ text

/-- A value as people read it. -/
def LogValue.text : LogValue → String
  | .plain text => text
  | .quoted text => Text.quoted text
  | .count number => toString number
  | .flag true => "true"
  | .flag false => "false"

/-- A span in front of a message. -/
def LogSpan.text (colored : Bool) (span : LogSpan) : String :=
  let field (name : String) (value : LogValue) : String :=
    painted colored .italic name ++ painted colored .dim "=" ++ value.text
  let fields := " ".intercalate (span.fields.map fun (name, value) => field name value)
  let shown := if fields.isEmpty then "" else "\x7b" ++ fields ++ "\x7d"
  painted colored .bold span.name ++ shown ++ ": "

/-- An event as a line for people. -/
def LogEvent.plainLine (colored : Bool) (time : String) (span? : Option LogSpan)
    (event : LogEvent) : String :=
  let source :=
    match event.domain? with
    | some domain => painted colored .heading s!"[{domain}]"
    | none => painted colored .dim event.target
  let span := (span?.map (·.text colored)).getD ""
  let fields := " ".intercalate (event.fields.map fun (name, value) => s!"{name}={value.text}")
  let shown := if fields.isEmpty then "" else " " ++ painted colored .italic fields
  " ".intercalate
      [painted colored .dim time,
        painted colored (.level event.level) (rightAligned 5 event.level.name), source,
        span ++ event.message] ++
    shown ++ "\n"

/-! ### Lines as JSON -/

/-- A value in JSON. -/
def LogValue.value : LogValue → Value
  | .plain text => .text text
  | .quoted text => .text text
  | .count number => .integer number
  | .flag value => .boolean value

/-- Fields in JSON. -/
def LogFields.entries (fields : LogFields) : List (String × Value) :=
  fields.map fun (name, value) => (name, value.value)

/-- A span in JSON. -/
def LogSpan.value (span : LogSpan) : Value :=
  .object (LogFields.entries span.fields ++ [("name", .text span.name)])

/-- An event as a line of JSON. -/
def LogEvent.jsonLine (time : String) (span? : Option LogSpan) (event : LogEvent) : String :=
  let domain := event.domain?.toList.map fun domain => ("domain", Value.text domain)
  let fields := ("message", Value.text event.message) :: domain ++ LogFields.entries event.fields
  let spans :=
    match span? with
    | some span => [("span", span.value), ("spans", Value.list [span.value])]
    | none => []
  let entries := [("timestamp", Value.text time), ("level", .text event.level.name),
    ("fields", .object fields)] ++ spans
  (Value.object entries).compact ++ "\n"

/-- An event as a line of a log. Only lines for people are ever coloured. -/
def LogEvent.line (format : LogFormat) (colored : Bool) (time : String) (span? : Option LogSpan)
    (event : LogEvent) : String :=
  match format with
  | .plain => event.plainLine colored time span?
  | .json => event.jsonLine time span?

end LogForwarder
