/-
Logging: how much of what a run does is told, of the whole program and of single modules, in which
form, and to which file.
-/

import LogForwarder.FilePath

namespace LogForwarder

/-- How a line of a log is written. -/
inductive LogFormat
  | plain
  | json
  deriving DecidableEq, Inhabited

namespace LogFormat

/-- The name of a format. -/
def name : LogFormat → String
  | .plain => "plain"
  | .json => "json"

/-- Formats are written by name. -/
def codec : Codec LogFormat := .choiceOf name [.plain, .json]

end LogFormat

/-- What is asked of the log. -/
structure Logging where
  /-- The level of the whole program. -/
  level : String
  /-- The levels of single modules. -/
  modules : Dictionary String
  /-- A file that lines are added to. -/
  file? : Option FilePath
  format : LogFormat
  deriving DecidableEq

namespace Logging

/-- The log of a program of which nothing is asked. -/
def standard : Logging := ⟨"info", ∅, none, .plain⟩

instance : Inhabited Logging := ⟨standard⟩

/-- What is asked of the log. -/
def codec : Codec Logging :=
  .record "LoggingConfig"
    (.cons (.defaulted "level" .text standard.level) <|
      .cons (.defaulted "modules" (.dictionary .text) standard.modules) <|
      .cons (.optional "file" FilePath.codec) <|
      .cons (.defaulted "format" LogFormat.codec standard.format) .nil)
    (fun logging => (logging.level, logging.modules, logging.file?, logging.format, ()))
    (fun (level, modules, file?, format, ()) => { level, modules, file?, format })

/-- The names of the levels, from the one that tells all to the one that tells nothing. -/
def levelNames : List String := ["trace", "debug", "info", "warn", "error", "off"]

/-- Whether a text is the name of a level, in upper or lower case. -/
def isLevelName (name : String) : Bool := name.toLower ∈ levelNames

/-- The level of the program and those of its modules, as one text. -/
def directives (logging : Logging) : String :=
  ",".intercalate (logging.level ::
    logging.modules.entries.map fun (name, level) => s!"{name}={level}")

end Logging

end LogForwarder
