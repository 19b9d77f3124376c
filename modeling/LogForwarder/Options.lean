/-
Options: switches of the generator that are given beside a spec.
-/

import LogForwarder.Document.Codec

namespace LogForwarder

/-- The switches of the generator. -/
structure Options where
  /-- The secret with the token of the collector's service account. -/
  serviceAccountTokenSecret : String
  includeLegacySecureForward : Bool
  includeLegacySyslog : Bool
  /-- Whether syslog stores use the plugin that came before the present one. -/
  useOldRemoteSyslogPlugin : Bool
  /-- The lowest version of TLS in every block with transport security. -/
  minTlsVersion : Option String
  /-- The cipher suites in every block with transport security. -/
  ciphers : List String
  /-- The log sources that otlp sinks accept of each kind; of other kinds they accept all. -/
  otlpLogSources : Dictionary (List String)
  /-- Whether every output is replaced by the console. -/
  debug : Bool
  deriving DecidableEq

namespace Options

/-- The options without any choice made. -/
def standard : Options where
  serviceAccountTokenSecret := "logcollector-token"
  includeLegacySecureForward := false
  includeLegacySyslog := false
  useOldRemoteSyslogPlugin := false
  minTlsVersion := none
  ciphers := []
  otlpLogSources := ∅
  debug := false

instance : Inhabited Options := ⟨standard⟩

/-- The cipher suites in one text, if there are any. -/
def joinedCiphers? (options : Options) : Option String :=
  if options.ciphers.isEmpty then none else some (",".intercalate options.ciphers)

/-- Whether anything is asked of transport security. -/
def hasTlsProfile (options : Options) : Bool :=
  options.minTlsVersion.isSome || !options.ciphers.isEmpty

/-- Options. -/
def codec : Codec Options :=
  .record "Options"
    (.cons
        (.defaulted "service_account_token_secret_name" .text standard.serviceAccountTokenSecret) <|
      .cons (.defaulted "include_legacy_secure_forward" .boolean false) <|
      .cons (.defaulted "include_legacy_syslog" .boolean false) <|
      .cons (.defaulted "use_old_remote_syslog_plugin" .boolean false) <|
      .cons (.optional "min_tls_version" .text) <|
      .cons (.defaulted "ciphers" (.list .text) []) <|
      .cons (.defaulted "otlp_log_sources" (.dictionary (.list .text)) ∅) <|
      .cons (.defaulted "debug" .boolean false) .nil)
    (fun options =>
      (options.serviceAccountTokenSecret, options.includeLegacySecureForward,
        options.includeLegacySyslog, options.useOldRemoteSyslogPlugin, options.minTlsVersion,
        options.ciphers, options.otlpLogSources, options.debug, ()))
    (fun (serviceAccountTokenSecret, includeLegacySecureForward, includeLegacySyslog,
        useOldRemoteSyslogPlugin, minTlsVersion, ciphers, otlpLogSources, debug, ()) =>
      { serviceAccountTokenSecret, includeLegacySecureForward, includeLegacySyslog,
        useOldRemoteSyslogPlugin, minTlsVersion, ciphers, otlpLogSources, debug })

end Options

end LogForwarder
