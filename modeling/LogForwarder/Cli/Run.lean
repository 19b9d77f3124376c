/-
Runs of the program: a command is carried out on whatever file system and streams there are. A run
ends with a number, which is zero if all went well.
-/

import LogForwarder.Cli.Command
import LogForwarder.Compile.Journal
import LogForwarder.Config.Generate
import LogForwarder.Log.Logger
import LogForwarder.Log.Milestone

namespace LogForwarder.Cli

/-! ### Texts -/

/-- Why the program does nothing, in words. -/
def Refusal.text : Refusal → String
  | .help topic => topic.text
  | .noCommand => "a command is required"
  | .unknownCommand word => s!"unrecognized subcommand '{word}'"
  | .unexpected argument => s!"unexpected argument '{argument}' found"
  | .noValue switch => s!"a value is required for '{switch}' but none was supplied"
  | .badValue switch value => s!"invalid value '{value}' for '{switch}'"
  | .needlessValue switch => s!"unexpected value for '{switch}' found"
  | .repeated switch => s!"the argument '{switch}' cannot be used multiple times"

/-- Why a command comes to nothing. -/
inductive CommandError
  | run (error : RunError)
  | log (error : LogError)

/-- The text of the reason for which a command comes to nothing. -/
def CommandError.text : CommandError → String
  | .run error => error.text
  | .log error => error.text

/-! ### Events -/

/-- The span of a generation. -/
def generateSpan (dialect : Dialect) : LogSpan :=
  ⟨.info, "clf_runtime::service", "clf.generate", [("dialect", .plain dialect.name)]⟩

/-- A command starts. -/
def startEvent (path : FilePath) (dialect : Dialect) : LogEvent :=
  ⟨.debug, "clf_gen", some "sys", s!"{programName} starting",
    [("config", .plain path.text), ("dialect", .plain dialect.name)]⟩

/-- The text is in its file. -/
def writtenEvent (path : FilePath) (text : String) : LogEvent :=
  ⟨.info, "clf_runtime::service", some "gen", "configuration written",
    [("path", .plain path.text), ("bytes", .count text.utf8ByteSize)]⟩

/-- A generation is over. -/
def endEvent (dialect : Dialect) (succeeded : Bool) : LogEvent :=
  let outcome := if succeeded then "suc!" else "fail!"
  ⟨if succeeded then .info else .error, "domain", none,
    s!"{outcome} want=clf-generate: \ncall context:\n\tdialect : {dialect.name}\n",
    [("mod_path", .plain "clf_runtime::service")]⟩

/-- A spec has been checked. -/
def checkedEvent (dialect : Dialect) (problems : Nat) : LogEvent :=
  ⟨.debug, "clf_runtime::service", some "gen", "spec checked",
    [("dialect", .plain dialect.name), ("errors", .count problems)]⟩

/-! ### Commands -/

variable {m : Type → Type} [Monad m] [Files m] [Console m]

/--
A configuration with what the arguments put in place of its parts. An output of `-` is the standard
output.
-/
def adjusted (command : Command) (config : Config) : Config :=
  let output? :=
    match command.output? with
    | some path => if path.text = "-" then none else some path
    | none => config.output?
  { config with
    dialect := command.dialect?.getD config.dialect
    output? := output?
    options := { config.options with debug := config.options.debug || command.debug } }

/-- The configuration is generated, and told about. -/
def generate (logger : Logger) (config : Config) : m (Except RunError Nat) := do
  let tell := logger.tell (some (generateSpan config.dialect))
  for milestone in config.spec.journal config.secrets config.options config.dialect do
    tell milestone.event
  match ← config.generate.run with
  | .error error =>
    tell (endEvent config.dialect false)
    return .error error
  | .ok text =>
    if let some path := config.output? then tell (writtenEvent path text)
    tell (endEvent config.dialect true)
    match config.output? with
    | some path => Console.report s!"wrote {config.dialect.name} configuration to {path.text}\n"
    | none => Console.print text
    return .ok 0

/-- All problems of the spec are told. -/
def check (logger : Logger) (config : Config) : m Nat := do
  let problems := config.problems
  logger.tell none (checkedEvent config.dialect problems.length)
  if problems.isEmpty then
    Console.report "No issues found.\n"
    return 0
  else
    for problem in problems do
      Console.report s!"{problem.text}\n"
    Console.report s!"\n{problems.length} error(s) for the {config.dialect.name} dialect\n"
    return 1

/-- The routes of the spec are shown. -/
def routes (logger : Logger) (config : Config) : m Nat := do
  logger.tell none config.spec.normalize.routeMilestone.event
  Console.print config.routes.text
  return 0

/-- A command is carried out. -/
def carryOut (colored : Bool) (command : Command) : ExceptT CommandError m Nat := do
  let loaded ← (Config.loadForRun command.config).adapt .run
  let config := adjusted command loaded
  let logger ← (Logger.ofLogging config.logging config.base colored).adapt .log
  ExceptT.lift (logger.tell none (startEvent command.config config.dialect))
  match command.name with
  | .generate => (ExceptT.mk (generate logger config)).adapt .run
  | .check => ExceptT.lift (check logger config)
  | .routes => ExceptT.lift (routes logger config)

/-- A run of the program with some arguments. -/
def run (colored : Bool) (arguments : List String) : m Nat := do
  match Command.ofArguments arguments with
  | .error (.help topic) =>
    Console.print topic.text
    return 0
  | .error refusal =>
    Console.report s!"error: {refusal.text}\n"
    return 2
  | .ok command =>
    match ← (carryOut colored command).run with
    | .ok code => return code
    | .error error =>
      Console.report s!"Error: {error.text}\n"
      return 1

end LogForwarder.Cli
