/-
Sinks of the vector dialect to stores that index records: Elasticsearch, Loki and Splunk.
-/

import LogForwarder.LabelKey
import LogForwarder.Vector.Sink.Basic

namespace LogForwarder.Vector.Sink

/-! ### Elasticsearch -/

/-- The time that requests may take, in seconds: they rather wait for the cluster than fail. -/
def elasticsearchTimeout : Nat := 2147483648

/-- Names the index of a record by its kind, and gives the record an id. -/
def indexProgram : String := Template.withBraces r#"index = "default"
if (.log_type == "application")⦃
  index = "app"
⦄
if (.log_type == "infrastructure")⦃
  index = "infra"
⦄
if (.log_type == "audit")⦃
  index = "audit"
⦄
.write_index = index + "-write"
._id = encode_base64(uuid_v4())
del(.file)
del(.source_type)"#

/-- The path of a key without the dots in front of it. -/
def withoutLeadingDots (key : String) : String := String.ofList (key.toList.dropWhile (· = '.'))

/-- Takes the name of the index of structured records from a field. -/
def structuredKeyLine (key : String) : String :=
  s!"  val = to_string(.{LabelKey.path (withoutLeadingDots key)}) ?? \"\""

/-- Takes a given name for the index of structured records if there is no other. -/
def structuredNameLines (name : String) : String :=
  "  if val == \"\" \x7b\n    val = " ++ Value.textLiteral name ++ "\n  \x7d"

/-- Sends structured records of applications to an index of their own. -/
def structuredProgram (options : ElasticsearchSection) : String :=
  "\n".intercalate
    (["if .log_type == \"application\" && .structured != null \x7b", "  val = \"\""] ++
      (options.structuredTypeKey.map structuredKeyLine).toList ++
      (options.structuredTypeName.map structuredNameLines).toList ++
      ["  if val != \"\" \x7b", "    .write_index = \"app-\" + val + \"-write\"", "  \x7d", "\x7d"])

/-- The chain to Elasticsearch. A token goes with every request as a header. -/
def elasticsearchChain (sink : Sink) : List Element :=
  let options := sink.output.elasticsearch.getD default
  let url := sink.output.url
  let program :=
    if options.hasStructuredIndex then indexProgram ++ "\n" ++ structuredProgram options
    else indexProgram
  let index := remap (sink.child "add_es_index") sink.intake program
  let element := Element.create .sink sink.id [index.id] Templates.elasticsearch.name
    [("endpoints", .ofTexts [url]), ("index", .text "\x7b\x7b write_index \x7d\x7d"),
      ("api_version", .ofText? (options.version.map fun version => s!"v{version}")),
      ("suppress_type_name", .boolean options.suppressesTypeName),
      ("compression", .ofText? sink.compression?)]
  let headers : Dictionary String :=
    match sink.credentials.token? with
    | some token => .ofList [("Authorization", s!"Bearer {token}")]
    | none => ∅
  let auth :=
    match sink.credentials with
    | .basic _ _ => authParams? sink.credentials sink.table
    | _ => none
  [index, sink.finish
    ⟨sink.requestParams? sink.table (some elasticsearchTimeout) headers,
      sink.tlsParams? sink.table (Endpoint.isSecure url) false, auth⟩ element]

/-! ### Loki -/

/-- Gives a record the fields that label its stream, if it lacks them. -/
def streamLabelProgram : String := Template.withBraces r#"if !exists(.kubernetes.namespace_name) ⦃
  .kubernetes.namespace_name = ""
⦄
if !exists(.kubernetes.pod_name) ⦃
  .kubernetes.pod_name = ""
⦄
if !exists(.kubernetes.container_name) ⦃
  .kubernetes.container_name = ""
⦄"#

/-- A field of a record between double braces. -/
def fieldReference (path : String) : String := "\x7b\x7b" ++ path ++ "\x7d\x7d"

/-- The value of the label of a key. The node is known to the collector, all else to the record. -/
def streamLabelValue (key : String) : String :=
  if key = LabelKey.host then "$\x7bVECTOR_SELF_NODE_NAME\x7d"
  else fieldReference (LabelKey.escapedPath key)

/-- The labels of a stream of records: their names and values. -/
def streamLabels (options : Option LokiSection) : List (String × String) :=
  (LabelKey.ofLoki options).map fun key => (LabelKey.name key, streamLabelValue key)

/-- A label as a parameter. -/
def streamLabelParam (label : String × String) : Value :=
  .ofEntries [("name", .text label.1), ("value", .text label.2)]

/-- The chain to Loki. -/
def lokiChain (sink : Sink) : List Element :=
  let options := sink.output.loki
  let url := sink.output.url
  let labels := remap (sink.child "remap_label") sink.intake streamLabelProgram
  let tenant := (options.bind (·.tenantKey)).filter (!·.isEmpty)
  let element := Element.create .sink sink.id [labels.id] Templates.loki.name
    [("endpoint", .text url), ("tenant_id", .ofText? (tenant.map fieldReference)),
      ("compression", .ofText? sink.compression?)]
  let labelled := (sink.withEncoding element []).withPart Templates.labels.name
    [("table", .text sink.table), ("labels", .list ((streamLabels options).map streamLabelParam))]
  [labels, sink.finish
    ⟨sink.plainRequest?, sink.tlsParams? sink.table (Endpoint.isSecure url) false,
      authParams? sink.credentials sink.table⟩ labelled]

/-! ### Splunk -/

/-- Gives a record the name of its node, if it lacks that. -/
def splunkProgram : String := Template.withBraces r#"if !exists(.hostname) ⦃
  .hostname = get_env_var("VECTOR_SELF_NODE_NAME") ?? ""
⦄
del(.file)"#

/-- The index of records in Splunk: a field of theirs, else one that is given. -/
def splunkIndex? (options : SplunkSection) : Option String :=
  match options.indexKey.filter (!·.isEmpty) with
  | some key => some (fieldReference s!" {withoutLeadingDots key} ")
  | none => options.indexName.filter (!·.isEmpty)

/-- The chain to Splunk. -/
def splunkChain (sink : Sink) : Except CompileError (List Element) := do
  let options := sink.output.splunk.getD default
  let url := sink.output.url
  let metadata := remap (sink.child "splunk_metadata") sink.intake splunkProgram
  let token ← sink.require Secret.splunkToken (sink.secretValue? Secret.splunkToken)
  let element := Element.create .sink sink.id [metadata.id] Templates.splunk.name
    [("endpoint", .text url), ("compression", .text (sink.compression?.getD "none")),
      ("default_token", .text token), ("index", .ofText? (splunkIndex? options))]
  return [metadata, sink.finish
    ⟨sink.plainRequest?, sink.tlsParams? sink.table (Endpoint.isSecure url) false, none⟩
    (sink.withEncoding element [])]

end LogForwarder.Vector.Sink
