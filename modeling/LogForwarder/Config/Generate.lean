/-
Generation: the text of a configuration is compiled first and written after that, so a spec that
cannot be compiled leaves all files as they are.
-/

import LogForwarder.Compile.Spec
import LogForwarder.Config.Load
import LogForwarder.Route.Explanation

namespace LogForwarder

/-! ### Errors -/

/-- Why a run comes to nothing. -/
inductive RunError
  /-- The configuration at a path cannot be loaded. -/
  | config (path : FilePath) (error : ConfigError)
  | file (path : FilePath) (error : IoError)
  | compile (error : CompileError)

namespace RunError

/-- The number of the class of an error. -/
def code : RunError → Nat
  | .config _ _ => 2001
  | .file _ _ => 2002
  | .compile error => error.reason.code

/-- The class of an error. -/
def reason : RunError → String
  | .config _ _ => "bootstrap error"
  | .file _ _ => "i/o error"
  | .compile error => error.reason.message

/-- The path at which a run came to nothing. -/
def position? : RunError → Option FilePath
  | .config path _ => some path
  | .file path _ => some path
  | .compile _ => none

/-- What happened. -/
def detail : RunError → String
  | .config _ error => error.message
  | .file _ error => error.message
  | .compile error => error.detail

/-- The text of an error: its number, its class, where it happened and what happened. -/
def text (error : RunError) : String :=
  let position :=
    match error.position? with
    | some path => s!"\n  -> At: {path.text}"
    | none => ""
  s!"[{error.code}] {error.reason}{position}\n  -> Details: {error.detail}"

end RunError

/-! ### Runs -/

namespace Config

variable {m : Type → Type} [Monad m] [Files m]

/-- The configuration in a file, for a run. -/
def loadForRun (path : FilePath) : ExceptT RunError m Config :=
  (Config.load path).adapt (.config path)

/-- All problems that would keep the spec of a configuration from being compiled. -/
def problems (config : Config) : List Problem :=
  config.spec.problems config.secrets config.options config.dialect

/-- Where the records of the spec of a configuration go. -/
def routes (config : Config) : RouteExplanation := config.spec.explain

/-- The text of the spec of a configuration. -/
def compile (config : Config) : Except CompileError String :=
  config.spec.compile config.secrets config.options config.dialect

/-- A text in a file, whose directory is made if it is missing. -/
def writeOutput (path : FilePath) (text : String) : ExceptT RunError m Unit := do
  if let some folder := path.folder? then
    (Files.ensureDirectories folder).adapt (.file folder)
  (Files.write path text.toUTF8).adapt (.file path)

/--
The text of the spec of a configuration, which is also written to the file that the configuration
names.
-/
def generate (config : Config) : ExceptT RunError m String := do
  let text ← ExceptT.mk (pure (config.compile.mapError .compile))
  if let some path := config.output? then writeOutput path text
  return text

end Config

end LogForwarder
