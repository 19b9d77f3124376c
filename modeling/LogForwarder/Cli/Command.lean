/-
Commands: what the arguments of the program ask for. A command is followed by its switches, in any
order and each at most once; a switch with a value has it in the same argument or in the next one.
Help tells in a text how all of them are used.
-/

import LogForwarder.Dialect
import LogForwarder.FilePath

namespace LogForwarder.Cli

/-! ### Commands -/

/-- The name of a command. -/
inductive CommandName
  | generate
  | check
  | routes
  deriving DecidableEq

namespace CommandName

/-- All commands. -/
def all : List CommandName := [.generate, .check, .routes]

/-- The word of a command. -/
def word : CommandName → String
  | .generate => "generate"
  | .check => "check"
  | .routes => "routes"

/-- What a command is for. -/
def summary : CommandName → String
  | .generate => "Compile the spec and write the collector configuration"
  | .check => "Validate the spec and print every diagnostic"
  | .routes => "Show which inputs reach which outputs"

/-- The command of a word. -/
def ofWord? (word : String) : Option CommandName := all.find? (·.word = word)

end CommandName

/-- What the program is asked for. -/
structure Command where
  name : CommandName
  /-- The file of the configuration. -/
  config : FilePath
  /-- The dialect that counts in place of the configured one. -/
  dialect? : Option Dialect
  /-- The file that counts in place of the configured one. -/
  output? : Option FilePath
  /-- Whether all outputs are replaced by the console. -/
  debug : Bool
  deriving DecidableEq

/-- What the program can be asked to explain. -/
inductive HelpTopic
  | program
  | command (name : CommandName)
  /-- How to ask for explanations. -/
  | help
  deriving DecidableEq

/-- Why the program does nothing that its arguments ask for. -/
inductive Refusal
  /-- The arguments ask how something is used. -/
  | help (topic : HelpTopic)
  | noCommand
  | unknownCommand (word : String)
  | unexpected (argument : String)
  | noValue (switch : String)
  | badValue (switch value : String)
  | needlessValue (switch : String)
  | repeated (switch : String)
  deriving DecidableEq

/-! ### Switches -/

/-- A switch. -/
inductive Switch
  | config
  | dialect
  | output
  | debug
  | help
  deriving DecidableEq

namespace Switch

/-- All switches. -/
def all : List Switch := [.config, .dialect, .output, .debug, .help]

/-- The name of a switch after two dashes. -/
def longName : Switch → String
  | .config => "config"
  | .dialect => "dialect"
  | .output => "output"
  | .debug => "debug"
  | .help => "help"

/-- The letter of a switch after one dash, if it has one. -/
def letter? : Switch → Option Char
  | .config => some 'c'
  | .dialect => some 'd'
  | .output => some 'o'
  | .debug => none
  | .help => some 'h'

/-- A switch as it is written. -/
def text (switch : Switch) : String := s!"--{switch.longName}"

/-- What a switch is for. -/
def summary : Switch → String
  | .config => "Path to clf.toml [default: clf.toml]"
  | .dialect => "Override `[collector] dialect`"
  | .output => "Override `[collector] output`; `-` writes to stdout"
  | .debug => "Replace every output with stdout sinks"
  | .help => "Print help"

/-- Whether a switch has a value. -/
def takesValue : Switch → Bool
  | .config | .dialect | .output => true
  | .debug | .help => false

/-- Whether a command has a switch. -/
def belongsTo (switch : Switch) (name : CommandName) : Bool :=
  match switch with
  | .output | .debug => name = .generate
  | .config | .dialect | .help => true

end Switch

/-- The switches that have been taken in. -/
structure Given where
  config? : Option FilePath
  dialect? : Option Dialect
  output? : Option FilePath
  debug : Bool

namespace Given

/-- No switches. -/
def none : Given := ⟨.none, .none, .none, false⟩

/-- A path as the value of a switch. -/
def path (switch : Switch) (value : String) : Except Refusal FilePath :=
  if value.isEmpty then .error (.noValue switch.text) else .ok ⟨value⟩

/-- One more switch with a value. -/
def takeValue (given : Given) (switch : Switch) (value : String) : Except Refusal Given :=
  match switch with
  | .config =>
    if given.config?.isSome then .error (.repeated switch.text)
    else return { given with config? := some (← path switch value) }
  | .output =>
    if given.output?.isSome then .error (.repeated switch.text)
    else return { given with output? := some (← path switch value) }
  | .dialect =>
    if given.dialect?.isSome then .error (.repeated switch.text)
    else
      match Dialect.ofName? value with
      | some dialect => .ok { given with dialect? := some dialect }
      | .none => .error (.badValue switch.text value)
  | .debug | .help => .error (.needlessValue switch.text)

/-- One more switch without a value, for a command. -/
def take (given : Given) (name : CommandName) (switch : Switch) : Except Refusal Given :=
  match switch with
  | .help => .error (.help (.command name))
  | .debug =>
    if given.debug then .error (.repeated switch.text) else .ok { given with debug := true }
  | .config | .dialect | .output => .error (.noValue switch.text)

end Given

/-! ### Arguments -/

/-- The word that asks for explanations. -/
def helpWord : String := "help"

/-- What an argument is. -/
inductive Argument
  /-- Two dashes, after which no argument is a switch. -/
  | dashes
  /-- A switch, with the value that stands in the same argument. -/
  | known (switch : Switch) (value? : Option String)
  | other
  deriving DecidableEq

namespace Argument

/-- An argument after its two dashes. -/
def ofLong (name : CommandName) (chars : List Char) : Argument :=
  let word := String.ofList (chars.takeWhile (· ≠ '='))
  let value? :=
    match chars.dropWhile (· ≠ '=') with
    | _ :: value => some (String.ofList value)
    | [] => none
  match Switch.all.find? fun switch => switch.longName = word && switch.belongsTo name with
  | some switch => .known switch value?
  | none => .other

/-- An argument after its one dash. An equals sign may stand between the letter and the value. -/
def ofShort (name : CommandName) (letter : Char) (chars : List Char) : Argument :=
  let value? :=
    match chars with
    | [] => none
    | '=' :: value => some (String.ofList value)
    | value => some (String.ofList value)
  match Switch.all.find? fun switch => switch.letter? = some letter && switch.belongsTo name with
  | some .help => .known .help none
  | some switch => .known switch value?
  | none => .other

/-- What an argument of a command is. -/
def ofText (name : CommandName) (text : String) : Argument :=
  match text.toList with
  | ['-', '-'] => .dashes
  | '-' :: '-' :: rest => ofLong name rest
  | '-' :: letter :: rest => ofShort name letter rest
  | _ => .other

end Argument

/-- Whether an argument can be the value of the switch before it. -/
def isValue (argument : String) : Bool :=
  argument = "-" || argument.toList.head? ≠ some '-'

/-- The switches of a command, taken in one after the other. -/
def takeArguments (name : CommandName) (given : Given) : List String → Except Refusal Given
  | [] => .ok given
  | argument :: rest =>
    match Argument.ofText name argument with
    | .dashes =>
      match rest with
      | [] => .ok given
      | next :: _ => .error (.unexpected next)
    | .other => .error (.unexpected argument)
    | .known switch (some value) => do takeArguments name (← given.takeValue switch value) rest
    | .known switch .none =>
      if switch.takesValue then
        match rest with
        | value :: others =>
          if isValue value then do takeArguments name (← given.takeValue switch value) others
          else .error (.noValue switch.text)
        | [] => .error (.noValue switch.text)
      else do takeArguments name (← given.take name switch) rest

/-- The file of the configuration when the arguments name none. -/
def defaultConfig : FilePath := ⟨"clf.toml"⟩

/-- The topic of a word. -/
def HelpTopic.ofWord? (word : String) : Option HelpTopic :=
  if word = helpWord then some .help else (CommandName.ofWord? word).map .command

/-- What some words ask for help with. A command has no topics of its own. -/
def helpRefusal : List String → Refusal
  | [] => .help .program
  | word :: rest =>
    match HelpTopic.ofWord? word, rest with
    | none, _ => .unknownCommand word
    | some topic, [] => .help topic
    | some _, next :: _ => .unknownCommand next

/-- What the arguments of the program ask for. -/
def Command.ofArguments : List String → Except Refusal Command
  | [] => .error .noCommand
  | word :: rest =>
    match CommandName.ofWord? word with
    | some name => do
      let given ← takeArguments name .none rest
      return { name, config := given.config?.getD defaultConfig, dialect? := given.dialect?,
               output? := given.output?, debug := given.debug }
    | none =>
      if word = helpWord then .error (helpRefusal rest)
      else if word = Switch.help.text || ['-', 'h'].isPrefixOf word.toList then
        .error (.help .program)
      else if word.toList.head? = some '-' then .error (.unexpected word)
      else .error (.unknownCommand word)

/-! ### Help -/

/-- The name of the program. -/
def programName : String := "clf-gen"

/-- Lines of two columns, of which the first is as wide as its widest entry. -/
def columns (rows : List (String × String)) : String :=
  let width := rows.foldl (fun widest row => max widest row.1.length) 0
  String.join (rows.map fun (left, right) =>
    let gap := String.ofList (List.replicate (width - left.length) ' ')
    s!"  {left}{gap}  {right}\n")

/-- A switch with its letter and the name of its value. -/
def Switch.heading (switch : Switch) : String :=
  let letter :=
    match switch.letter? with
    | some letter => s!"-{letter}, "
    | none => "    "
  let value := if switch.takesValue then s!" <{switch.longName.toUpper}>" else ""
  letter ++ switch.text ++ value

/-- What the word that asks for help is for. -/
def helpSummary : String := "Print this message or the help of the given subcommand(s)"

/-- The lines about some switches. -/
def switchLines (switches : List Switch) : String :=
  "Options:\n" ++ columns (switches.map fun switch => (switch.heading, switch.summary))

/-- How something is used. -/
def HelpTopic.text : HelpTopic → String
  | .program =>
    let commands := CommandName.all.map fun name => (name.word, name.summary)
    "Compile log forwarder specs into collector configuration\n\n" ++
      s!"Usage: {programName} <COMMAND>\n\nCommands:\n" ++
      columns (commands ++ [(helpWord, helpSummary)]) ++ "\n" ++ switchLines [.help]
  | .command name =>
    s!"{name.summary}\n\nUsage: {programName} {name.word} [OPTIONS]\n\n" ++
      switchLines (Switch.all.filter (·.belongsTo name))
  | .help =>
    s!"{helpSummary}\n\nUsage: {programName} {helpWord} [COMMAND]...\n\nArguments:\n" ++
      columns [("[COMMAND]...", "Print help for the subcommand(s)")]

end LogForwarder.Cli
