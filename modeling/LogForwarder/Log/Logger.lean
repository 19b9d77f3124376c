/-
Loggers: where lines of a log go. They go to the error stream, and without colours to a file as well
if the configuration names one.
-/

import LogForwarder.Config.Logging
import LogForwarder.Files.Basic
import LogForwarder.Log.Filter
import LogForwarder.Log.Line

namespace LogForwarder

/-- What a program may do with its streams. -/
class Console (m : Type → Type) where
  /-- A text to the standard output. -/
  print : String → m Unit
  /-- A text to the error stream. -/
  report : String → m Unit
  /-- The present time, as lines of a log give it. -/
  time : m String

/-- Where lines of a log go. -/
structure Logger where
  filter : LogFilter
  format : LogFormat
  colored : Bool
  file? : Option FilePath

/-- Why there is no log. -/
inductive LogError
  /-- Directives of which one says nothing. -/
  | badDirectives (directives : String) (error : LogDirectiveError)
  | noFolder
  | noName
  | folderUnusable (path : FilePath) (error : IoError)
  | fileUnusable (path : FilePath) (error : IoError)

/-- The text that reports why there is no log. -/
def LogError.text : LogError → String
  | .badDirectives directives error => s!"invalid log filter '{directives}': {error.message}"
  | .noFolder => "log file path has no parent directory"
  | .noName => "log file path has no file name"
  | .folderUnusable path error =>
    s!"failed to create log dir {path.text}\n\nCaused by:\n    {error.message}"
  | .fileUnusable path error =>
    s!"failed to open log file {path.text}\n\nCaused by:\n    {error.message}"

namespace Logger

variable {m : Type → Type} [Monad m] [Files m]

/--
The file of a log at a path, ready for lines. The path names a file even if it ends in a slash.
-/
def openFile (path : FilePath) : ExceptT LogError m FilePath := do
  match path.parent?, path.fileName? with
  | none, _ => throw .noFolder
  | some _, none => throw .noName
  | some folder, some name =>
    let file := folder.join ⟨name⟩
    (Files.ensureDirectories folder).adapt (.folderUnusable folder)
    (Files.append file .empty).adapt (.fileUnusable file)
    return file

/--
The path that is given for the file of a log when the configuration is in the directory `base`.
-/
def filePath? (logging : Logging) (base : FilePath) : Option FilePath :=
  logging.file?.map base.join

/-- The logger that a configuration in the directory `base` asks for. -/
def ofLogging (logging : Logging) (base : FilePath) (colored : Bool) :
    ExceptT LogError m Logger := do
  match LogFilter.ofText logging.directives with
  | .error error => throw (.badDirectives logging.directives error)
  | .ok filter =>
    let file? ← (filePath? logging base).mapM openFile
    return { filter, format := logging.format, colored, file? }

variable [Console m]

/-- An event told within a span, if the filter lets them through. -/
def tell (logger : Logger) (span? : Option LogSpan) (event : LogEvent) : m Unit := do
  if logger.filter.allows event.target event.level then
    let span? := span?.filter fun span => logger.filter.allows span.target span.level
    let time ← Console.time
    Console.report (event.line logger.format logger.colored time span?)
    if let some file := logger.file? then
      let line := event.line logger.format false time span?
      discard (Files.append file line.toUTF8).run

end Logger

end LogForwarder
