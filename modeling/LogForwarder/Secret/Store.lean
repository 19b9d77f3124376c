/-
Secrets: named sets of keys with bytes, which outputs refer to by name. A value is read as text
without the blanks around it; whether a key is there at all is asked of its bytes.
-/

import LogForwarder.Dictionary
import LogForwarder.Text.Cut

namespace LogForwarder

/-- The keys of one secret with their bytes. -/
abbrev Secret := Dictionary ByteArray

/-- All secrets by name. -/
abbrev SecretStore := Dictionary Secret

namespace Secret

/-! ### Keys with a meaning -/

/-- The certificate of a client. -/
def clientCertificate : String := "tls.crt"

/-- The private key of a client. -/
def clientKey : String := "tls.key"

/-- The certificates that are trusted. -/
def caBundle : String := "ca-bundle.crt"

/-- The passphrase of the private key. -/
def passphrase : String := "passphrase"

/-- A bearer token. -/
def token : String := "token"

/-- The name of a user. -/
def username : String := "username"

/-- The password of a user. -/
def password : String := "password"

/-- Whether a kafka broker asks for authentication. -/
def saslEnable : String := "sasl.enable"

/-- How a kafka client proves who it is. -/
def saslMechanisms : String := "sasl.mechanisms"

/-- A key that both sides share. -/
def sharedKey : String := "shared_key"

/-- The id of an AWS access key. -/
def awsAccessKeyId : String := "aws_access_key_id"

/-- The secret part of an AWS access key. -/
def awsSecretAccessKey : String := "aws_secret_access_key"

/-- An AWS role. -/
def awsRole : String := "role_arn"

/-- The token of a splunk collector. -/
def splunkToken : String := "hecToken"

/-- The credentials of a Google service account. -/
def googleCredentials : String := "google-application-credentials.json"

/-! ### Values -/

/-- The text of some bytes without blanks around it, if they are UTF-8 and more than blanks. -/
def textOf? (bytes : ByteArray) : Option String :=
  ((String.fromUTF8? bytes).map Text.trim).filter (!·.isEmpty)

/-- The path under which the collector finds a key of a secret. -/
def mountPath (name key : String) : String := s!"/var/run/ocp-collector/secrets/{name}/{key}"

end Secret

namespace SecretStore

/-- The bytes at a key of a secret. -/
def bytes? (secrets : SecretStore) (name key : String) : Option ByteArray :=
  (secrets.get? name).bind (·.get? key)

/-- The text at a key of a secret. -/
def value? (secrets : SecretStore) (name key : String) : Option String :=
  (secrets.bytes? name key).bind Secret.textOf?

/-- Whether a key of a secret has any bytes. -/
def hasKey (secrets : SecretStore) (name key : String) : Bool :=
  (secrets.bytes? name key).any (!·.isEmpty)

/-- All keys of two stores; where both have a key of a secret the second one counts. -/
def merge (first second : SecretStore) : SecretStore :=
  second.entries.foldl
    (fun merged (name, secret) => merged.insert name (((merged.get? name).getD ∅).union secret))
    first

/-- The store of some secrets whose values are texts. -/
def ofTexts (secrets : Dictionary (Dictionary String)) : SecretStore :=
  secrets.mapValues (·.mapValues (·.toUTF8))

end SecretStore

end LogForwarder
