/-
Errors of configurations: why a file is no configuration, or why what it refers to cannot be used.
-/

import LogForwarder.Config.Logging
import LogForwarder.Document.Text
import LogForwarder.Files.Basic

namespace LogForwarder

/-- Why there is no configuration. -/
inductive ConfigError
  /-- A text that is no configuration. -/
  | unreadable (error : TomlError)
  /-- The spec is a file and a part of the configuration at once. -/
  | twoSpecs
  | fileUnreadable (path : FilePath) (error : IoError)
  | jsonSpec (error : DecodeError)
  | tomlSpec (error : TomlError)
  | secretsUnreadable (path : FilePath) (error : IoError)
  /-- One of the directories that hold a secret each. -/
  | secretUnreadable (error : IoError)
  | keyUnreadable (path : FilePath) (error : IoError)
  | noPipeline
  | unknownLevel (level : String)
  | unknownModuleLevel (name level : String)
  | outputIsDirectory (path : FilePath)
  | noServiceAccountSecret
  deriving DecidableEq

/-- The text that reports why a TOML text cannot be read. -/
def TomlError.message : TomlError → String
  | .malformed => "TOML parse error"
  | .undecodable error => s!"TOML parse error: {error.message}"

/-- The text that reports why there is no configuration. -/
def ConfigError.message : ConfigError → String
  | .unreadable error => error.message
  | .twoSpecs => "forwarder: `spec` and inline inputs/outputs/pipelines are mutually exclusive"
  | .fileUnreadable path error => s!"failed to read {path.text}: {error.message}"
  | .jsonSpec error => s!"invalid forwarder spec: {error.message}"
  | .tomlSpec error => s!"invalid forwarder spec: {error.message}"
  | .secretsUnreadable path error => s!"failed to read secrets dir {path.text}: {error.message}"
  | .secretUnreadable error => error.message
  | .keyUnreadable path error => s!"failed to read secret key {path.text}: {error.message}"
  | .noPipeline => "forwarder: at least one pipeline is required"
  | .unknownLevel level =>
    s!"logging.level: unknown level {Text.quoted level} (expected one of " ++
      "/".intercalate Logging.levelNames ++ ")"
  | .unknownModuleLevel name level =>
    s!"logging.modules.{name}: unknown level {Text.quoted level}"
  | .outputIsDirectory path => s!"collector.output: {path.text} is a directory"
  | .noServiceAccountSecret => "options.service_account_token_secret_name must not be empty"

end LogForwarder
