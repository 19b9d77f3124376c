/-
Configurations: the file that says which dialect to generate, where the spec and the secrets come
from, where the text goes and what is told about it.
-/

import LogForwarder.Config.Logging
import LogForwarder.Dialect
import LogForwarder.Options
import LogForwarder.Secret.Store
import LogForwarder.Spec.Basic

namespace LogForwarder

/-- All that a run of the generator depends on. -/
structure Config where
  dialect : Dialect
  /-- The file that the text is written to. -/
  output? : Option FilePath
  spec : Spec
  /-- The file that the spec was read from, if it is not a part of the configuration. -/
  specPath? : Option FilePath
  secrets : SecretStore
  options : Options
  logging : Logging
  /-- The directory that the paths of the configuration start from. -/
  base : FilePath

/-! ### Sections -/

/-- What is generated. -/
structure CollectorSection where
  dialect : Dialect
  output? : Option FilePath

/-- What is generated. -/
def CollectorSection.codec : Codec CollectorSection :=
  .record "CollectorSection"
    (.cons (.required "dialect" Dialect.codec) <| .cons (.optional "output" FilePath.codec) .nil)
    (fun collector => (collector.dialect, collector.output?, ()))
    (fun (dialect, output?, ()) => { dialect, output? })

/-- Where the spec comes from: a file, or the section itself. -/
structure ForwarderSection where
  specPath? : Option FilePath
  spec : Spec

namespace ForwarderSection

/-- The section that says nothing. -/
def empty : ForwarderSection := ⟨none, .empty⟩

/-- Where the file of the spec is named. -/
def pathName : String := "spec"

/--
The entries of the spec stand in the section beside the path, and are set aside until that is read.
-/
def decode : Decoder ForwarderSection := fun medium document =>
  match document with
  | .table entries => do
    let specPath? ←
      match entries.lookup pathName with
      | some path => decodeOption FilePath.codec.decode medium path
      | none => pure none
    let spec ← Spec.codec.decode .buffered (.table (entries.filter (·.1 ≠ pathName)))
    return ⟨specPath?, spec⟩
  | _ => .error (mismatch "struct ForwarderSection" medium document)

/-- Where the spec comes from. -/
def codec : Codec ForwarderSection where
  encode := fun forwarder =>
    match forwarder.specPath?, Spec.codec.encode forwarder.spec with
    | some path, .object entries => .ofEntries ((pathName, .text path.text) :: entries)
    | _, value => value
  decode := decode

end ForwarderSection

/-- Where the secrets come from: a directory, and the section itself. -/
structure SecretsSection where
  directory? : Option FilePath
  inline : Dictionary (Dictionary String)

/-- Where the secrets come from. -/
def SecretsSection.codec : Codec SecretsSection :=
  .record "SecretsSection"
    (.cons (.optional "dir" FilePath.codec) <|
      .cons (.defaulted "inline" (.dictionary (.dictionary .text)) ∅) .nil)
    (fun secrets => (secrets.directory?, secrets.inline, ()))
    (fun (directory?, inline, ()) => { directory?, inline })

/-- A configuration as it is written. -/
structure ConfigText where
  collector : CollectorSection
  forwarder : ForwarderSection
  secrets : SecretsSection
  options : Options
  logging : Logging

/-- Configurations as they are written. -/
def ConfigText.codec : Codec ConfigText :=
  .record "CollectorConfigRaw"
    (.cons (.required "collector" CollectorSection.codec) <|
      .cons (.defaulted "forwarder" ForwarderSection.codec .empty) <|
      .cons (.defaulted "secrets" SecretsSection.codec ⟨none, ∅⟩) <|
      .cons (.defaulted "options" Options.codec .standard) <|
      .cons (.defaulted "logging" Logging.codec .standard) .nil)
    (fun config =>
      (config.collector, config.forwarder, config.secrets, config.options, config.logging, ()))
    (fun (collector, forwarder, secrets, options, logging, ()) =>
      { collector, forwarder, secrets, options, logging })

end LogForwarder
