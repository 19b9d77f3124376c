/-
Sinks of the vector dialect that hand records on as messages: Kafka, syslog servers, web servers and
collectors of OpenTelemetry records.
-/

import LogForwarder.Vector.FieldTemplate
import LogForwarder.Vector.Sink.Basic

namespace LogForwarder.Vector.Sink

/-! ### Kafka -/

/-- How a client of Kafka proves who it is if its secret does not say that. -/
def defaultSaslMechanism : String := "PLAIN"

/-- The credentials of a client of Kafka, if its secret asks for them. -/
def saslParams? (sink : Sink) : Option Params := do
  let username ← sink.secretValue? Secret.username
  let password ← sink.secretValue? Secret.password
  let mechanism := sink.secretValue? Secret.saslMechanisms
  if sink.secretValue? Secret.saslEnable = some "true" || mechanism.isSome then
    return [("table", .text sink.table), ("mechanism", .text (mechanism.getD defaultSaslMechanism)),
      ("username", .text username), ("password", .text password)]
  else
    none

/-- The transform that finds out the topic of a record, if it is not the same for all. -/
def topicRemap (sink : Sink) (topic : String) : List Element :=
  if hasFieldGroup topic then
    [remap (sink.child "topic") sink.intake s!"._internal.topic = {fieldExpression topic}"]
  else []

/-- The topic that the sink is told. -/
def topicParam (topic : String) : String :=
  if hasFieldGroup topic then "\x7b\x7b _internal.topic \x7d\x7d" else topic

/-- The inputs of an element after some transforms that may be missing. -/
def inputsAfter (sink : Sink) (transforms : List Element) : List String :=
  match transforms.getLast? with
  | some element => [element.id]
  | none => sink.intake

/-- The chain to Kafka. -/
def kafkaChain (sink : Sink) : Except CompileError (List Element) := do
  let brokers ← sink.output.kafkaBrokers.mapError sink.endpointError
  let topic := sink.output.kafkaTopic
  let transforms := sink.topicRemap topic
  let element := Element.create .sink sink.id (sink.inputsAfter transforms) Templates.kafka.name
    [("bootstrap_servers", .text (",".intercalate brokers)), ("topic", .text (topicParam topic)),
      ("compression", .ofText? sink.compression?)]
  let encoded := sink.withEncoding element
    [("timestamp_format", .text "rfc3339"), ("except_fields", .ofTexts ["_internal"])]
  let isSecure := sink.output.kafkaUsesTls
  return transforms ++ [sink.finish ⟨none, sink.tlsParams? sink.table isSecure isSecure, none⟩
    (encoded.withPart? Templates.sasl.name sink.saslParams?)]

/-! ### Syslog -/

/-- The port of a syslog server whose address names none. -/
def defaultSyslogPort : Nat := 514

/-- Names the program and the process that a record comes from. -/
def syslogProgram : String := Template.withBraces r#"._internal.syslog.app_name = "-"
._internal.syslog.proc_id = "-"
if .log_source == "container" ⦃
  ._internal.syslog.app_name = join([.kubernetes.namespace_name, .kubernetes.pod_name, .kubernetes.container_name], "_") ?? "-"
  ._internal.syslog.proc_id = to_string(.kubernetes.pod_id) ?? "-"
⦄
if .log_source == "node" ⦃
  ._internal.syslog.app_name = to_string(.systemd.u.SYSLOG_IDENTIFIER) ?? "-"
  ._internal.syslog.proc_id = to_string(.systemd.t.PID) ?? "-"
⦄
if .log_type == "audit" ⦃
  ._internal.syslog.app_name = .log_source
⦄"#

/--
A setting of syslog messages: a field of the record if it starts with `$.`, else the text itself.
-/
def recordValue (value : String) : String :=
  match Text.afterStart? "$." value with
  | some path => s!"$$.message.{path}"
  | none => value

/-- A setting of syslog messages, or a default that is taken as it is. -/
def recordValueOr (value : Option String) (default : String) : String :=
  (value.map recordValue).getD default

/-- The form of syslog messages. -/
def syslogEncodingParams (sink : Sink) (options : SyslogSection) : Params :=
  let appName := recordValueOr options.appName "$$.message._internal.syslog.app_name"
  let procId := recordValueOr options.procId "$$.message._internal.syslog.proc_id"
  [("table", .text sink.table), ("rfc", .text (options.rfc.getD .rfc5424).lowerName),
    ("facility", .text (recordValueOr options.facility "user")),
    ("severity", .text (recordValueOr options.severity "informational")),
    ("app_name", .text appName), ("msg_id", .ofText? (options.msgId.map recordValue)),
    ("proc_id", .text procId), ("tag", .ofText? (options.tag.map recordValue)),
    ("add_log_source", .boolean options.addLogSource),
    ("payload_key", .ofText? options.payloadKey)]

/-- The chain to a syslog server. -/
def syslogChain (sink : Sink) : Except CompileError (List Element) := do
  let options := sink.output.syslog.getD default
  let transport := SyslogTransport.ofAddress sink.output.url
  let address ← (Endpoint.hostPort sink.output.url).mapError sink.endpointError
  let port := address.port?.getD defaultSyslogPort
  let parse := remap (sink.child "parse_encoding") sink.intake syslogProgram
  let element := Element.create .sink sink.id [parse.id] Templates.socket.name
    [("address", .text s!"{address.host}:{port}"), ("mode", .text transport.protocol)]
  let encoded := element.withPart Templates.syslogEncoding.name (sink.syslogEncodingParams options)
  let isSecure := decide (transport = .tls)
  return [parse, sink.finish ⟨none, sink.tlsParams? sink.table isSecure isSecure, none⟩ encoded]

/-! ### Web servers -/

/-- The time that a request to a web server may take, in seconds, if none is given. -/
def defaultHttpTimeout : Nat := 10

/-- The chain to a web server. -/
def httpChain (sink : Sink) : List Element :=
  let options := sink.output.http.getD default
  let url := sink.output.url
  let clean := remap (sink.child "normalize_http") sink.intake "del(.file)\ndel(.source_type)"
  let element := Element.create .sink sink.id [clean.id] Templates.http.name
    [("uri", .text url), ("method", .text ((options.method.map (·.toLower)).getD "post")),
      ("compression", .ofText? sink.compression?)]
  let timeout := options.timeout.getD defaultHttpTimeout
  [clean, sink.finish
    ⟨sink.requestParams? sink.table (some timeout) options.headers,
      sink.tlsParams? sink.table (Endpoint.isSecure url) false,
      authParams? sink.credentials sink.table⟩
    (sink.withEncoding element [])]

/-! ### OpenTelemetry -/

/-- Brings a record into the form of OpenTelemetry. -/
def resourceProgram : String := Template.withBraces r#"r = ⦃⦄
r.resource.attributes = [
  ⦃"key": "k8s.namespace.name", "value": ⦃"stringValue": .kubernetes.namespace_name⦄⦄,
  ⦃"key": "k8s.pod.name", "value": ⦃"stringValue": .kubernetes.pod_name⦄⦄,
  ⦃"key": "k8s.container.name", "value": ⦃"stringValue": .kubernetes.container_name⦄⦄,
  ⦃"key": "k8s.node.name", "value": ⦃"stringValue": .hostname⦄⦄,
  ⦃"key": "openshift.log.type", "value": ⦃"stringValue": .log_type⦄⦄,
  ⦃"key": "openshift.log.source", "value": ⦃"stringValue": .log_source⦄⦄
]
r.scopeLogs = [⦃"logRecords": [⦃
  "timeUnixNano": to_string(to_unix_timestamp(timestamp(."@timestamp") ?? now(), unit: "nanoseconds")),
  "severityText": .level,
  "body": ⦃"stringValue": .message⦄
⦄]⦄]
. = r"#

/-- The branch of the records of a kind, from some log sources only if any are given. -/
def otlpBranch (options : Options) (kind : LogKind) : Branch :=
  let ofKind := s!".log_type == {Value.textLiteral kind.name}"
  match (options.otlpLogSources.get? kind.name).filter (!·.isEmpty) with
  | some sources =>
    ⟨kind.name, s!"{ofKind} && includes({Template.quoteList sources}, .log_source)"⟩
  | none => ⟨kind.name, ofKind⟩

/-- The chain to a collector of OpenTelemetry records. -/
def otlpChain (sink : Sink) : List Element :=
  let url := sink.output.url
  let branches := sink.kinds.map (otlpBranch sink.options)
  let reroute := route (sink.child "reroute") sink.intake branches
  let streams := branches.map fun branch => branchOf reroute.id branch.name
  let resources := remap (sink.child "resource_logs") streams resourceProgram
  let protocol := s!"{sink.table}.protocol"
  let element := Element.create .sink sink.id [resources.id] Templates.otlp.name []
  let addressed := element.withPart Templates.otlpProtocol.name
    [("table", .text sink.table), ("uri", .text url),
      ("payload_prefix", .text "\x7b\"resourceLogs\":"),
      ("compression", .ofText? sink.compression?)]
  [reroute, resources, sink.finish
    ⟨sink.requestParams? protocol none ∅, sink.tlsParams? protocol (Endpoint.isSecure url) false,
      authParams? sink.credentials protocol⟩ addressed]

end LogForwarder.Vector.Sink
