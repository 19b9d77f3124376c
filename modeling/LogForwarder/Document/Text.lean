/-
Values in texts: what a codec reads from a JSON text or a TOML text as a whole.
-/

import LogForwarder.Document.Codec
import LogForwarder.Json.Reader
import LogForwarder.Toml.Reader

namespace LogForwarder

/-- Why a TOML text is no value of some type. -/
inductive TomlError
  /-- The text is no TOML document at all. -/
  | malformed
  | undecodable (error : DecodeError)
  deriving DecidableEq

namespace Codec

variable {α : Type}

/--
The value in a JSON text. What follows the value is looked at only when there is nothing wrong with
it.
-/
def readJson (codec : Codec α) (text : String) : Except DecodeError α := do
  let reading := Json.read text
  let value ← codec.decode .jsonText reading.document
  match reading.trailing with
  | none => return value
  | some fault => throw (.malformed fault)

/-- The value in a TOML text. -/
def readToml (codec : Codec α) (text : String) : Except TomlError α :=
  match Toml.read text with
  | none => .error .malformed
  | some document => (codec.decode .toml document).mapError .undecodable

end Codec

end LogForwarder
