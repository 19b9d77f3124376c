/-
Sinks of the vector dialect to services of cloud providers: Cloudwatch, Azure Monitor and Google
Cloud Logging. Their credentials always come from the secret of the output.
-/

import LogForwarder.Vector.Sink.Basic

namespace LogForwarder.Vector.Sink

/-! ### Cloudwatch -/

/-- The expression for the group of a record of an application. -/
def applicationGroup (options : CloudwatchSection) (start : String) : String :=
  match options.groupBy with
  | .logType => Value.textLiteral (start ++ "application")
  | .namespaceName =>
    s!"( {Value.textLiteral start} + .kubernetes.namespace_name ) ?? \"application\""
  | .namespaceUuid =>
    s!"( {Value.textLiteral start} + .kubernetes.namespace_id ) ?? \"application\""

/-- What the names of all groups start with. -/
def groupStart (options : CloudwatchSection) : String :=
  match options.groupPrefix.filter (!·.isEmpty) with
  | some start => s!"{start}."
  | none => ""

/-- Names the group and the stream of a record. -/
def groupProgram (options : CloudwatchSection) : String :=
  let start := groupStart options
  Template.withBraces r#".group_name = "default"
.stream_name = "default"
if (.file != null) ⦃
  .file = "kubernetes" + replace!(.file, "/", ".")
  .stream_name = del(.file)
⦄
if ( .log_type == "application") ⦃
  .group_name = "# ++ applicationGroup options start ++
  Template.withBraces r#"
⦄
if ( .log_type == "audit") ⦃
  .group_name = "# ++ Value.textLiteral (start ++ "audit") ++
  Template.withBraces r#"
  .stream_name = ( "$⦃VECTOR_SELF_NODE_NAME⦄" + .tag ) ?? .stream_name
⦄
if ( .log_type == "infrastructure") ⦃
  .group_name = "# ++ Value.textLiteral (start ++ "infrastructure") ++
  Template.withBraces r#"
  .stream_name = ( .hostname + "." + .stream_name ) ?? .stream_name
⦄
if ( .tag == ".journal.system" ) ⦃
  .stream_name = ( .hostname + .tag ) ?? .stream_name
⦄
del(.tag)
del(.source_type)"#

/--
The chain to Cloudwatch. Without an address of its own it goes to the provider, which is secure.
-/
def cloudwatchChain (sink : Sink) : Except CompileError (List Element) := do
  let options := sink.output.cloudwatch.getD default
  let groups := remap (sink.child "normalize_group_and_streams") sink.intake (groupProgram options)
  let region ← sink.require "region" options.region
  let endpoint := sink.output.url?.filter (!·.isEmpty)
  let element := Element.create .sink sink.id [groups.id] Templates.cloudwatch.name
    [("region", .text region), ("compression", .text (sink.compression?.getD "none")),
      ("group_name", .text "\x7b\x7b group_name \x7d\x7d"),
      ("stream_name", .text "\x7b\x7b stream_name \x7d\x7d"),
      ("access_key_id", .ofText? (sink.secretValue? Secret.awsAccessKeyId)),
      ("secret_access_key", .ofText? (sink.secretValue? Secret.awsSecretAccessKey)),
      ("assume_role", .ofText? (sink.secretValue? Secret.awsRole)),
      ("endpoint", .ofText? endpoint)]
  return [groups, sink.finish
    ⟨sink.plainRequest?, sink.tlsParams? sink.table (endpoint.all Endpoint.isSecure) false, none⟩
    element]

/-! ### Azure Monitor -/

/-- The chain to Azure Monitor. -/
def azureMonitorChain (sink : Sink) : Except CompileError (List Element) := do
  let options := sink.output.azureMonitor.getD default
  let customerId ← sink.require "customerId" options.customerId
  let logType ← sink.require "logType" options.logType
  let sharedKey ← sink.require Secret.sharedKey (sink.secretValue? Secret.sharedKey)
  let element := Element.create .sink sink.id sink.intake Templates.azureMonitor.name
    [("customer_id", .text customerId), ("log_type", .text logType),
      ("shared_key", .text sharedKey), ("azure_resource_id", .ofText? options.azureResourceId),
      ("host", .ofText? options.host)]
  return [sink.finish ⟨sink.plainRequest?, sink.tlsParams? sink.table true false, none⟩ element]

/-! ### Google Cloud Logging -/

/-- The destination of records in Google Cloud Logging, under its name. -/
def googleDestination (sink : Sink) (options : GoogleCloudLoggingSection) :
    Except CompileError (String × String) :=
  match options.destinations with
  | destination :: _ => .ok destination
  | [] => .error (.missingField sink.output.name "projectId")

/-- The chain to Google Cloud Logging. -/
def googleCloudChain (sink : Sink) : Except CompileError (List Element) := do
  let options := sink.output.googleCloudLogging.getD default
  let (key, destination) ← sink.googleDestination options
  let secret ← sink.require "secret" sink.output.secretName
  let logId ← sink.require "logId" options.logId
  let element := Element.create .sink sink.id sink.intake Templates.googleCloud.name
    [("destination_key", .text key), ("destination", .text destination),
      ("credentials_path", .text (Secret.mountPath secret Secret.googleCredentials)),
      ("log_id", .text logId)]
  let located := element.withPart Templates.googleResource.name
    [("table", .text sink.table), ("node_name", .text "\x7b\x7bhostname\x7d\x7d")]
  return [sink.finish ⟨sink.plainRequest?, sink.tlsParams? sink.table true false, none⟩ located]

end LogForwarder.Vector.Sink
