/-
Outputs of the fluentd dialect that hand records on as messages: to another fluentd, to Kafka and to
web servers.
-/

import LogForwarder.Fluentd.Store.Basic

namespace LogForwarder.Fluentd.Store

/-! ### Another fluentd -/

/-- The port of another fluentd whose address names none. -/
def defaultForwardPort : Nat := 24224

/-- The settings of a store to another fluentd. Only transport security needs any. -/
def forwardSettings (store : Store) : List Setting :=
  let url := store.output.url
  if url.startsWith "tls://" || url.startsWith "https://" then
    Setting.line "transport" "tls" ++ Setting.line "tls_verify_hostname" "false" ++
      Setting.line "tls_version" (singleQuoted (sslVersion store.options)) ++
      Setting.lineIf store.output.skipsVerification "tls_insecure_mode" "true" ++
      Setting.line? "tls_ciphers" (cipherList? store.options) ++
      (if store.output.isClusterStore then
        Setting.line "tls_cert_path" (singleQuoted serviceCaPath)
      else
        Setting.line? "tls_cert_path" (store.quotedSecretFile? Secret.caBundle) ++
          Setting.line? "tls_client_cert_path"
            (store.quotedSecretFile? Secret.clientCertificate) ++
          Setting.line? "tls_client_private_key_path" (store.quotedSecretFile? Secret.clientKey) ++
          Setting.line? "tls_client_private_key_passphrase"
            (store.secretExpression? Secret.passphrase))
  else []

/-- The label of an output to another fluentd. -/
def forwardLabel (store : Store) : Except CompileError Element := do
  let address ← (Endpoint.hostPort store.output.url).mapError store.endpointError
  return store.label Templates.forward
    [("host", .text address.host), ("port", .integer (address.port?.getD defaultForwardPort)),
      ("shared_key", .ofText? (store.secretExpression? Secret.sharedKey)),
      ("settings", Setting.params store.forwardSettings),
      ("buffer", (store.buffer "5s" []).param)]

/-! ### Kafka -/

/-- How a client proves who it is by a challenge, if its secret asks for that. -/
def scramMechanism? (store : Store) : Option String :=
  ((store.secretValue? Secret.saslMechanisms).bind fun mechanism =>
    Text.afterStart? "scram-" mechanism.toLower).map fun name =>
      String.ofList (name.toList.filter (· ≠ '-'))

/-- The settings of a kafka store. -/
def kafkaSettings (store : Store) : List Setting :=
  let usesTls := store.output.kafkaUsesTls
  (match store.credentials with
  | .basic _ _ =>
    Setting.line? "username" (store.secretExpression? Secret.username) ++
      Setting.line? "password" (store.secretExpression? Secret.password) ++
      Setting.line "sasl_over_ssl" (if usesTls then "true" else "false") ++
      Setting.line? "scram_mechanism" store.scramMechanism?
  | _ => []) ++
    (if usesTls then
      Setting.line? "ssl_ca_cert" (store.quotedSecretFile? Secret.caBundle) ++
        Setting.line? "ssl_client_cert" (store.quotedSecretFile? Secret.clientCertificate) ++
        Setting.line? "ssl_client_cert_key" (store.quotedSecretFile? Secret.clientKey) ++
        Setting.lineIf store.output.skipsVerification "ssl_verify_hostname" "false"
    else [])

/-- The label of a kafka output. -/
def kafkaLabel (store : Store) : Except CompileError Element := do
  let brokers ← store.output.kafkaBrokers.mapError store.endpointError
  return store.label Templates.kafka
    [("brokers", .ofTexts brokers), ("topic", .text store.output.kafkaTopic),
      ("settings", Setting.params store.kafkaSettings),
      ("buffer", (store.buffer "1s" []).param)]

/-! ### Web servers -/

/-- The time that a request to a web server may take, in seconds, if none is given. -/
def defaultHttpTimeout : Nat := 10

/-- The headers of requests to a web server, with a token if there is one. -/
def httpHeaders (store : Store) (options : HttpSection) : Dictionary String :=
  match store.credentials.token? with
  | some token => options.headers.insert "Authorization" s!"Bearer {token}"
  | none => options.headers

/-- The name and password for a web server, which the collector reads from files. -/
def httpAuthParam (store : Store) : Value :=
  match store.credentials, store.output.secretName with
  | .basic _ _, some name =>
    .ofEntries [("username", .text (readOrNil (Secret.mountPath name Secret.username))),
      ("password", .text (readOrNil (Secret.mountPath name Secret.password)))]
  | _, _ => .null

/-- The settings of a store to a web server. Only transport security needs any. -/
def httpSettings (store : Store) : List Setting :=
  if store.output.url.startsWith "https://" then
    Setting.line? "tls_ca_cert_path" (store.secretFile? Secret.caBundle) ++
      Setting.line? "tls_client_cert_path" (store.secretFile? Secret.clientCertificate) ++
      Setting.line? "tls_private_key_path" (store.secretFile? Secret.clientKey) ++
      Setting.line "tls_version" (sslVersion store.options) ++
      Setting.lineIf store.output.skipsVerification "tls_verify_mode" "none" ++
      Setting.line? "tls_ciphers" (cipherList? store.options)
  else []

/-- The label of an output to a web server. -/
def httpLabel (store : Store) : Element :=
  let options := store.output.http.getD default
  let headers := store.httpHeaders options
  let headersText := if headers.isEmpty then none else some (Value.ofDictionary headers).compact
  store.label Templates.http
    [("url", .text store.output.url),
      ("method", .text ((options.method.map (·.toLower)).getD "post")),
      ("timeout", .integer (options.timeout.getD defaultHttpTimeout)),
      ("headers", .ofText? headersText), ("auth", store.httpAuthParam),
      ("settings", Setting.params store.httpSettings), ("buffer", (store.buffer "1s" []).param)]

end LogForwarder.Fluentd.Store
