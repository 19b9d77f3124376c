/-
Parts of sinks in the vector dialect: transport security, credentials, buffers, batches and
requests. A part extends the table of its sink, whose path it is given; it is left out when there is
nothing to say in it.
-/

import LogForwarder.Element.Basic
import LogForwarder.Options
import LogForwarder.Secret.Credentials

namespace LogForwarder.Vector

/-- A number that may be missing, in which case it is null. -/
def numberValue (number? : Option Nat) : Value :=
  (number?.map fun number => Value.integer number).getD .null

/-! ### Transport security -/

/-- The certificates that are trusted by outputs to the store inside the cluster. -/
def serviceCaPath : String := "/var/run/secrets/kubernetes.io/serviceaccount/service-ca.crt"

/-- What a sink is told about transport security. -/
structure Tls where
  enabled : Bool
  insecure : Bool
  minVersion : Option String
  ciphersuites : Option String
  keyFile : Option String
  certificateFile : Option String
  caFile : Option String
  passphrase : Option String
  deriving DecidableEq

namespace Tls

/-- Transport security as the options of the generator ask for it. -/
def ofOptions (options : Options) (enabled : Bool) : Tls where
  enabled := enabled
  insecure := false
  minVersion := options.minTlsVersion
  ciphersuites := options.joinedCiphers?
  keyFile := none
  certificateFile := none
  caFile := none
  passphrase := none

/-- The file with a key of a secret, if the key has any bytes. -/
def secretFile? (secrets : SecretStore) (name key : String) : Option String :=
  if secrets.hasKey name key then some (Secret.mountPath name key) else none

/-- Transport security with the keys of a secret. -/
def withSecret (tls : Tls) (secrets : SecretStore) (name : String) : Tls :=
  { tls with
    keyFile := secretFile? secrets name Secret.clientKey
    certificateFile := secretFile? secrets name Secret.clientCertificate
    caFile := secretFile? secrets name Secret.caBundle
    passphrase := secrets.value? name Secret.passphrase }

/-- Whether nothing is said about transport security. -/
def isSilent (tls : Tls) : Bool :=
  !tls.enabled && !tls.insecure && tls.minVersion.isNone && tls.ciphersuites.isNone &&
    tls.keyFile.isNone && tls.certificateFile.isNone && tls.caFile.isNone && tls.passphrase.isNone

/--
What the sink of an output is told about transport security. An output to the store inside the
cluster trusts the certificates of the service; any other needs a secure address, and takes
certificates from its secret.
-/
def ofOutput? (output : Output) (secrets : SecretStore) (options : Options)
    (isSecure enabled : Bool) : Option Tls :=
  let common := { ofOptions options enabled with insecure := output.skipsVerification }
  let tls? :=
    if output.isClusterStore then some { common with caFile := some serviceCaPath }
    else if !isSecure then none
    else
      match output.secretName with
      | some name => some (common.withSecret secrets name)
      | none => some common
  tls?.filter (!·.isSilent)

/-- Transport security as a part of a table. -/
def params (tls : Tls) (table : String) : Params :=
  [("table", .text table), ("enabled", .boolean tls.enabled), ("insecure", .boolean tls.insecure),
    ("min_tls_version", .ofText? tls.minVersion), ("ciphersuites", .ofText? tls.ciphersuites),
    ("key_file", .ofText? tls.keyFile), ("crt_file", .ofText? tls.certificateFile),
    ("ca_file", .ofText? tls.caFile), ("key_pass", .ofText? tls.passphrase)]

end Tls

/-! ### Credentials -/

/-- Credentials as a part of a table, if there are any. -/
def authParams? (credentials : Credentials) (table : String) : Option Params :=
  match credentials with
  | .none => none
  | .basic username password =>
    some [("table", .text table), ("strategy", .text credentials.strategy),
      ("user", .text username), ("password", .text password)]
  | .bearer token _ =>
    some [("table", .text table), ("strategy", .text credentials.strategy), ("token", .text token)]
  | .serviceAccount token =>
    some [("table", .text table), ("strategy", .text credentials.strategy), ("token", .text token)]

/-! ### Tuning -/

/-- The size of a buffer on disk, in bytes. -/
def diskBufferSize : Nat := 268435488

/-- The buffer of an output, if a promise is made about delivery. -/
def bufferParams? (tuning : Option OutputTuning) (table : String) : Option Params :=
  (tuning.bind (·.delivery)).map fun
    | .atLeastOnce =>
      [("table", .text table), ("type", .text "disk"), ("max_size", .integer diskBufferSize),
        ("when_full", .text "block")]
    | .atMostOnce => [("table", .text table), ("when_full", .text "drop_newest")]

/-- The batches of an output, if they are limited. -/
def batchParams? (tuning : Option OutputTuning) (table : String) : Option Params :=
  (tuning.bind (·.maxWrite)).map fun size =>
    [("table", .text table), ("max_bytes", .integer size.bytes)]

/-- Texts by name as a table on one line. -/
def inlineTable (entries : Dictionary String) : String :=
  let pairs := entries.entries.map fun (key, value) =>
    s!"{Value.textLiteral key} = {Value.textLiteral value}"
  "\x7b" ++ ", ".intercalate pairs ++ "\x7d"

/-- How long requests may take, how they are retried, and what goes with them. -/
structure Request where
  timeout : Option Nat
  initialBackoff : Option Nat
  maxDuration : Option Nat
  headers : Dictionary String
  deriving DecidableEq

namespace Request

/-- The requests of an output. -/
def ofTuning (tuning : Option OutputTuning) (timeout : Option Nat) (headers : Dictionary String) :
    Request where
  timeout := timeout
  initialBackoff := (tuning.bind (·.minRetryDuration)).map (·.seconds)
  maxDuration := (tuning.bind (·.maxRetryDuration)).map (·.seconds)
  headers := headers

/-- Whether nothing is said about requests. -/
def isSilent (request : Request) : Bool :=
  request.timeout.isNone && request.initialBackoff.isNone && request.maxDuration.isNone &&
    request.headers.isEmpty

/-- Requests as a part of a table, if anything is said about them. -/
def params? (request : Request) (table : String) : Option Params :=
  if request.isSilent then none
  else
    let headers := if request.headers.isEmpty then none else some (inlineTable request.headers)
    some [("table", .text table), ("timeout_secs", numberValue request.timeout),
      ("retry_initial_backoff_secs", numberValue request.initialBackoff),
      ("retry_max_duration_secs", numberValue request.maxDuration),
      ("headers", .ofText? headers)]

end Request

end LogForwarder.Vector
