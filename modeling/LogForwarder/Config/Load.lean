/-
Loading of configurations: a configuration is read together with the spec and the secrets that it
refers to. Its paths start from its own directory, whatever directory the program works in.
-/

import LogForwarder.Config.Basic
import LogForwarder.Config.Error

namespace LogForwarder

variable {m : Type → Type} [Monad m] [Files m]

/-! ### Specs in files -/

/-- The spec in a text, which is JSON if its file says so and TOML otherwise. -/
def Spec.ofText (path : FilePath) (text : String) : Except ConfigError Spec :=
  if path.extension? = some "json" then (Spec.codec.readJson text).mapError .jsonSpec
  else (Spec.codec.readToml text).mapError .tomlSpec

/-- The text of a file that a configuration needs. -/
def readNeeded (path : FilePath) : ExceptT ConfigError m String :=
  (Files.readText path).adapt (.fileUnreadable path)

/-- The spec in a file. -/
def Spec.load (path : FilePath) : ExceptT ConfigError m Spec := do
  let text ← readNeeded path
  ExceptT.mk (pure (Spec.ofText path text))

/-! ### Secrets in directories -/

namespace Secret

/-- Whether a name is that of a hidden file. -/
def isHidden (name : String) : Bool := name.toList.head? = some '.'

/--
The paths to the entries of a directory that are of some kind and not hidden, with their names.
-/
def entriesOf (path : FilePath) (kind : FileKind) :
    ExceptT IoError m (List (String × FilePath)) := do
  let names ← Files.list path
  let candidates := (names.filter (!isHidden ·)).map fun name => (name, path.join ⟨name⟩)
  (candidates.filterM fun (_, entry) => return (← Files.kind? entry) = some kind : m _)

/-- The secret whose keys are the files in a directory. -/
def load (path : FilePath) : ExceptT ConfigError m Secret := do
  let files ← (entriesOf path .file).adapt .secretUnreadable
  let keys ← files.mapM fun (key, file) => do
    return (key, ← (Files.read file).adapt (.keyUnreadable file))
  return .ofList keys

end Secret

/-- The secrets that are directories in a directory. -/
def SecretStore.load (path : FilePath) : ExceptT ConfigError m SecretStore := do
  let directories ← (Secret.entriesOf path .directory).adapt (.secretsUnreadable path)
  let secrets ← directories.mapM fun (name, directory) => return (name, ← Secret.load directory)
  return .ofList secrets

/-! ### Configurations -/

namespace ForwarderSection

/-- Whether the section has any part of a spec that says what flows where. -/
def hasSpec (forwarder : ForwarderSection) : Bool :=
  !forwarder.spec.inputs.isEmpty || !forwarder.spec.outputs.isEmpty ||
    !forwarder.spec.pipelines.isEmpty

end ForwarderSection

namespace Config

/-- What is wrong with a configuration as it is, if it is not the path of its output. -/
def fault? (config : Config) : Option ConfigError :=
  if config.spec.pipelines.isEmpty then some .noPipeline
  else if !Logging.isLevelName config.logging.level then some (.unknownLevel config.logging.level)
  else
    (config.logging.modules.entries.find? fun (_, level) => !Logging.isLevelName level).map
      fun (name, level) => .unknownModuleLevel name level

/-- A configuration that there is nothing wrong with, or what is wrong with it. -/
def checked (config : Config) : ExceptT ConfigError m Config := do
  if let some fault := config.fault? then throw fault
  if let some output := config.output? then
    if ← (Files.isDirectory output : m Bool) then throw (.outputIsDirectory output)
  if config.options.serviceAccountTokenSecret.isEmpty then throw .noServiceAccountSecret
  return config

/-- The configuration of a text whose paths start from the directory `base`. -/
def ofText (base : FilePath) (text : String) : ExceptT ConfigError m Config := do
  let written ← ExceptT.mk (pure ((ConfigText.codec.readToml text).mapError .unreadable))
  let specPath? := written.forwarder.specPath?.map base.join
  if specPath?.isSome && written.forwarder.hasSpec then throw .twoSpecs
  let spec ←
    match specPath? with
    | some path => Spec.load path
    | none => pure written.forwarder.spec
  let mounted ←
    match written.secrets.directory? with
    | some directory => SecretStore.load (base.join directory)
    | none => pure ∅
  checked
    { dialect := written.collector.dialect
      output? := written.collector.output?.map base.join
      spec := spec
      specPath? := specPath?
      secrets := SecretStore.merge mounted (.ofTexts written.secrets.inline)
      options := written.options
      logging := { written.logging with file? := written.logging.file?.map base.join }
      base := base }

/-- The directory that the paths of a configuration start from. -/
def baseOf (path : FilePath) : FilePath := path.folder?.getD .here

/-- The configuration in a file. -/
def load (path : FilePath) : ExceptT ConfigError m Config := do
  ofText (baseOf path) (← readNeeded path)

end Config

end LogForwarder
