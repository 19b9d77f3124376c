/-
This file finds out which file a log is written to. The directory of the configuration is joined to
the path of the log twice: when the configuration is loaded, and again when the log is opened. For
paths from the root and for directories from the root the second time changes nothing, and neither
does it if the configuration is in the directory that the program works in. In any other directory
the log goes astray: it is looked for in that directory as seen from itself.
-/

import LogForwarder.Proofs.FilePath
import LogForwarder.Proofs.Loading

namespace LogForwarder

open InMemory

/-! ### Files of logs -/

namespace Logger

/-- The file of a log is the one that its path leads to, however the path is written. -/
theorem comesTo_openFile (path : FilePath) :
    ComesTo (openFile path : ExceptT LogError InMemory FilePath) (·.LeadsAlike path) := by
  unfold openFile
  split
  · exact comesTo_throw _
  · exact comesTo_throw _
  · next folder name isFolder isName =>
    obtain ⟨other, isOther, leads⟩ := FilePath.exists_parent_leadsAlike isName
    obtain rfl : other = folder := Option.some.inj (isOther.symm.trans isFolder)
    exact (comesTo_anything _).bind fun _ _ => (comesTo_anything _).bind fun _ _ =>
      comesTo_pure leads

/-- A logger has the file that the path for its log leads to, and none without such a path. -/
theorem comesTo_ofLogging (logging : Logging) (base : FilePath) (colored : Bool) :
    ComesTo (ofLogging logging base colored : ExceptT LogError InMemory Logger)
      fun logger => Option.Rel FilePath.LeadsAlike logger.file? (filePath? logging base) := by
  unfold ofLogging
  split
  · exact comesTo_throw _
  · exact (comesTo_mapM comesTo_openFile _).bind fun file? related => comesTo_pure related

end Logger

/-! ### Logs of configurations -/

/-- Whether a configuration keeps what is written about the log, with its path from a directory. -/
structure Config.KeepsLogging (config : Config) (written : ConfigText) (base : FilePath) : Prop where
  directory : config.base = base
  file : config.logging.file? = written.logging.file?.map base.join

/-- A configuration that is loaded keeps what is written in its file about the log. -/
theorem Config.exists_of_load {before after : Memory} {path : FilePath} {config : Config}
    (loads : execute (load path : ExceptT ConfigError InMemory Config).run before =
      (.ok config, after)) :
    ∃ text written, before.2.HasText path text ∧ ConfigText.codec.readToml text = .ok written ∧
      config.KeepsLogging written (baseOf path) := by
  unfold load at loads
  obtain ⟨text, between, reads, later⟩ := exists_of_execute_bind loads
  obtain ⟨written, spec, secrets, isRead, _, rfl⟩ := exists_of_ofText later
  exact ⟨text, written, FileTree.hasText_of_readNeeded reads, isRead, rfl, rfl⟩

/-- The directory that the paths of a configuration start from is the one that its file is in. -/
theorem Config.baseOf_join_leadsAlike {path : FilePath} {name : String}
    (isName : path.fileName? = some name) : ((baseOf path).join ⟨name⟩).LeadsAlike path := by
  obtain ⟨folder, isFolder, leads⟩ := FilePath.exists_parent_leadsAlike isName
  unfold baseOf FilePath.folder?
  rw [isFolder, Option.filter_some]
  split
  · exact leads
  · next noText =>
    -- Without a directory in front, the name is one in the directory that the program works in.
    have isEmpty : folder.text = "" := by simpa using noText
    refine FilePath.LeadsAlike.trans (FilePath.LeadsAlike.join ?_ ⟨name⟩) leads
    show FilePath.here.LeadsAlike ⟨folder.text⟩
    rw [isEmpty]
    decide

namespace Cli

/-! ### Runs of commands -/

section

variable {m : Type → Type} [Monad m] [Files m]

/-- What a command is carried out with: its configuration, and the logger that this asks for. -/
def prepare (colored : Bool) (command : Command) : ExceptT CommandError m (Config × Logger) := do
  let loaded ← (Config.loadForRun command.config).adapt .run
  let config := adjusted command loaded
  let logger ← (Logger.ofLogging config.logging config.base colored).adapt .log
  return (config, logger)

/-- What a command does with its configuration and its logger. -/
def proceed [Console m] (command : Command) (prepared : Config × Logger) :
    ExceptT CommandError m Nat := do
  let (config, logger) := prepared
  ExceptT.lift (logger.tell none (startEvent command.config config.dialect))
  match command.name with
  | .generate => (ExceptT.mk (generate logger config)).adapt .run
  | .check => ExceptT.lift (check logger config)
  | .routes => ExceptT.lift (routes logger config)

/-- A command is carried out with what was prepared for it. -/
theorem carryOut_eq [LawfulMonad m] [Console m] (colored : Bool) (command : Command) :
    (carryOut colored command : ExceptT CommandError m Nat) =
      prepare colored command >>= proceed command := by
  unfold carryOut prepare
  rw [bind_assoc]
  refine bind_congr fun loaded => ?_
  rw [bind_assoc]
  exact bind_congr fun logger =>
    (pure_bind (adjusted command loaded, logger) (proceed command)).symm

end

/-- The file of the log that a command is carried out with in memory. -/
def logFile? (colored : Bool) (command : Command) (before : Memory) : Option FilePath :=
  match (execute (prepare colored command : ExceptT CommandError InMemory _).run before).1 with
  | .error _ => none
  | .ok (_, logger) => logger.file?

/-- The path of the log of a command has the directory of its configuration in front of it twice. -/
theorem filePath?_adjusted (command : Command) {config : Config} {written : ConfigText}
    {base : FilePath} (keeps : config.KeepsLogging written base) :
    Logger.filePath? (adjusted command config).logging (adjusted command config).base =
      written.logging.file?.map fun value => base.join (base.join value) := by
  show config.logging.file?.map config.base.join = _
  rw [keeps.directory, keeps.file, Option.map_map]
  rfl

theorem exists_of_logFile? {colored : Bool} {command : Command} {before : Memory} {file : FilePath}
    (opened : logFile? colored command before = some file) :
    ∃ config logger after,
      execute (prepare colored command : ExceptT CommandError InMemory _).run before =
        (.ok (config, logger), after) ∧ logger.file? = some file := by
  unfold logFile? at opened
  split at opened
  · cases opened
  · next config logger comes => exact ⟨config, logger, _, Prod.ext comes rfl, opened⟩

/-- What a command is carried out with follows from what its configuration says about the log. -/
theorem exists_of_prepare {colored : Bool} {command : Command} {before after : Memory}
    {config : Config} {logger : Logger}
    (prepared : execute (prepare colored command : ExceptT CommandError InMemory _).run before =
      (.ok (config, logger), after)) :
    ∃ text written, before.2.HasText command.config text ∧
      ConfigText.codec.readToml text = .ok written ∧
      Option.Rel FilePath.LeadsAlike logger.file? (written.logging.file?.map fun value =>
        (Config.baseOf command.config).join ((Config.baseOf command.config).join value)) := by
  unfold prepare at prepared
  obtain ⟨loaded, between, loads, later⟩ := exists_of_execute_bind prepared
  obtain ⟨text, written, isText, isRead, keeps⟩ :=
    Config.exists_of_load (execute_eq_of_adapt (execute_eq_of_adapt loads))
  obtain ⟨opened, last, opens, ends⟩ := exists_of_execute_bind later
  cases ends
  have related := Logger.comesTo_ofLogging _ _ colored _ _ _ (execute_eq_of_adapt opens)
  rw [filePath?_adjusted command keeps] at related
  exact ⟨text, written, isText, isRead, related⟩

/--
The file of a log is the one at the path that is written for it, if the directory of the
configuration is joined to the path twice. That is where the path leads from this directory if one
of them is absolute, or if the directory is the one that the program works in, and otherwise it is
not.
-/
theorem logFile_leadsAlike_iff (colored : Bool) (command : Command) (before : Memory)
    {file : FilePath} (opened : logFile? colored command before = some file) :
    let base := Config.baseOf command.config
    (∀ name, command.config.fileName? = some name →
      (base.join ⟨name⟩).LeadsAlike command.config) ∧
    ∃ text written value, before.2.HasText command.config text ∧
      ConfigText.codec.readToml text = .ok written ∧ written.logging.file? = some value ∧
      file.LeadsAlike (base.join (base.join value)) ∧
      (file.LeadsAlike (base.join value) ↔
        value.isAbsolute ∨ base.isAbsolute ∨ base.steps = []) := by
  intro base
  refine ⟨fun name => Config.baseOf_join_leadsAlike, ?_⟩
  obtain ⟨config, logger, after, prepared, isFile⟩ := exists_of_logFile? opened
  obtain ⟨text, written, isText, isRead, related⟩ := exists_of_prepare prepared
  cases given : written.logging.file? with
  | none =>
    rw [isFile, given] at related
    cases related
  | some value =>
    rw [isFile, given] at related
    obtain ⟨alike⟩ := related
    refine ⟨text, written, value, isText, isRead, given, alike, ?_⟩
    rw [← FilePath.join_join_leadsAlike_iff]
    exact ⟨alike.symm.trans, alike.trans⟩

/-- A configuration whose log goes to a file with a relative path. -/
def loggingConfig : String :=
  "[collector]\ndialect = \"vector\"\n[[forwarder.pipelines]]\ninputRefs = [\"audit\"]\n" ++
    "outputRefs = [\"web\"]\n[logging]\nfile = \"log.txt\"\n"

/-- What a run starts from, with the configuration in a directory. -/
def loggingMemory (folder : Place) : Memory :=
  (.blank "", (FileTree.empty.put folder .directory).put (folder ++ ["clf.toml"])
    (.file loggingConfig.toUTF8))

/-- A check of the configuration in a file. -/
def checkOf (path : FilePath) : Command := ⟨.check, path, none, none, false⟩

/-- In the directory that the program works in, the log is where its path says. -/
theorem logFile_leadsAlike_here :
    logFile? false (checkOf ⟨"clf.toml"⟩) (loggingMemory []) = some ⟨"./log.txt"⟩ ∧
      ∃ text written value, (loggingMemory []).2.HasText ⟨"clf.toml"⟩ text ∧
        ConfigText.codec.readToml text = .ok written ∧ written.logging.file? = some value ∧
        FilePath.LeadsAlike ⟨"./log.txt"⟩ ((Config.baseOf ⟨"clf.toml"⟩).join value) := by
  have opened : logFile? false (checkOf ⟨"clf.toml"⟩) (loggingMemory []) = some ⟨"./log.txt"⟩ := by
    decide +kernel
  obtain ⟨_, text, written, value, isText, isRead, given, _, leads⟩ :=
    logFile_leadsAlike_iff false (checkOf ⟨"clf.toml"⟩) (loggingMemory []) opened
  exact ⟨opened, text, written, value, isText, isRead, given,
    leads.mpr (.inr (.inr (by decide)))⟩

/--
In another directory the log is in a directory of the same name inside of this one, although its
path has no directory at all.
-/
theorem exists_not_logFile_leadsAlike :
    logFile? false (checkOf ⟨"sub/clf.toml"⟩) (loggingMemory ["sub"]) = some ⟨"sub/sub/log.txt"⟩ ∧
      (loggingMemory ["sub"]).2.HasText ⟨"sub/clf.toml"⟩ loggingConfig ∧
      (∃ written, ConfigText.codec.readToml loggingConfig = .ok written ∧
        written.logging.file? = some ⟨"log.txt"⟩) ∧
      (Config.baseOf ⟨"sub/clf.toml"⟩).join ⟨"log.txt"⟩ = ⟨"sub/log.txt"⟩ ∧
      ¬FilePath.LeadsAlike ⟨"sub/sub/log.txt"⟩ ⟨"sub/log.txt"⟩ := by
  refine ⟨by decide +kernel, ⟨loggingConfig.toUTF8, ?_, by decide +kernel⟩, ?_, by decide,
    by decide⟩
  · rfl
  · have evaluated : (ConfigText.codec.readToml loggingConfig).toOption.map (·.logging.file?) =
        some (some ⟨"log.txt"⟩) := by
      decide +kernel
    exact exists_of_toOption_map evaluated

end Cli

end LogForwarder
