/-
Templates of the vector dialect, in which every stanza is a table. A part extends the table of the
element it belongs to, whose path it is given. Braces are written as the source of a template says.
-/

import LogForwarder.Template.Engine

namespace LogForwarder.Vector.Templates

/-- The source of container records. -/
def kubernetesLogs : Template.Source := .braced "source_kubernetes_logs" r#"# Logs from containers (including openshift containers)
[sources.⟦.id⟧]
type = "kubernetes_logs"
glob_minimum_cooldown_ms = 15000
auto_partial_merge = true
exclude_paths_glob_patterns = ⟦quoteList .exclude⟧
pod_annotation_fields.pod_labels = "kubernetes.labels"
pod_annotation_fields.pod_namespace = "kubernetes.namespace_name"
pod_annotation_fields.pod_annotations = "kubernetes.annotations"
pod_annotation_fields.pod_uid = "kubernetes.pod_id"
pod_annotation_fields.pod_node_name = "hostname"
"#

/-- The source of journal records. -/
def journald : Template.Source := .braced "source_journald" r#"[sources.⟦.id⟧]
type = "journald"
journal_directory = "/var/log/journal"
"#

/-- A source of audit records in files. -/
def file : Template.Source := .braced "source_file" r#"# ⟦.desc⟧
[sources.⟦.id⟧]
type = "file"
include = ⟦quoteList .include⟧
host_key = "hostname"
glob_minimum_cooldown_ms = 15000
"#

/-- The source of the collector's own metrics. -/
def internalMetrics : Template.Source := .braced "source_internal_metrics" r#"[sources.⟦.id⟧]
type = "internal_metrics"
"#

/-- A transform that runs a program on every record. -/
def remap : Template.Source := .braced "remap" r#"⟦with .desc⟧# ⟦.⟧
⟦end⟧[transforms.⟦.id⟧]
type = "remap"
inputs = ⟦quoteList .inputs⟧
source = '''
⟦indent 2 .vrl⟧
'''
"#

/-- A transform that sends records to branches by condition. -/
def route : Template.Source := .braced "route" r#"[transforms.⟦.id⟧]
type = "route"
inputs = ⟦quoteList .inputs⟧
⟦range .routes⟧route.⟦.name⟧ = '⟦.condition⟧'
⟦end⟧"#

/-- A transform that lets records through by condition. -/
def filter : Template.Source := .braced "filter" r#"[transforms.⟦.id⟧]
type = "filter"
inputs = ⟦quoteList .inputs⟧
condition = '⟦.condition⟧'
"#

/-- A sink to the console. -/
def console : Template.Source := .braced "sink_console" r#"[sinks.⟦.id⟧]
type = "console"
inputs = ⟦quoteList .inputs⟧
encoding.codec = "json"
"#

/-- A sink to Loki. -/
def loki : Template.Source := .braced "sink_loki" r#"[sinks.⟦.id⟧]
type = "loki"
inputs = ⟦quoteList .inputs⟧
endpoint = ⟦quote .endpoint⟧
out_of_order_action = "accept"
healthcheck.enabled = false
⟦with .tenant_id⟧tenant_id = ⟦quote .⟧
⟦end⟧⟦with .compression⟧compression = ⟦quote .⟧
⟦end⟧"#

/-- A sink to Elasticsearch. -/
def elasticsearch : Template.Source := .braced "sink_elasticsearch" r#"[sinks.⟦.id⟧]
type = "elasticsearch"
inputs = ⟦quoteList .inputs⟧
endpoints = ⟦quoteList .endpoints⟧
bulk.index = ⟦quote .index⟧
bulk.action = "create"
encoding.except_fields = ["write_index"]
id_key = "_id"
⟦with .api_version⟧api_version = ⟦quote .⟧
⟦end⟧⟦if .suppress_type_name⟧suppress_type_name = true
⟦end⟧⟦with .compression⟧compression = ⟦quote .⟧
⟦end⟧"#

/-- A sink to Kafka. -/
def kafka : Template.Source := .braced "sink_kafka" r#"[sinks.⟦.id⟧]
type = "kafka"
inputs = ⟦quoteList .inputs⟧
bootstrap_servers = ⟦quote .bootstrap_servers⟧
topic = ⟦quote .topic⟧
healthcheck.enabled = false
⟦with .compression⟧compression = ⟦quote .⟧
⟦end⟧"#

/-- A sink to a socket, which syslog servers listen on. -/
def socket : Template.Source := .braced "sink_socket" r#"[sinks.⟦.id⟧]
type = "socket"
inputs = ⟦quoteList .inputs⟧
address = ⟦quote .address⟧
mode = ⟦quote .mode⟧
"#

/-- A sink to Cloudwatch. -/
def cloudwatch : Template.Source := .braced "sink_cloudwatch" r#"[sinks.⟦.id⟧]
type = "aws_cloudwatch_logs"
inputs = ⟦quoteList .inputs⟧
region = ⟦quote .region⟧
compression = ⟦quote .compression⟧
group_name = ⟦quote .group_name⟧
stream_name = ⟦quote .stream_name⟧
⟦with .access_key_id⟧auth.access_key_id = ⟦quote .⟧
auth.secret_access_key = ⟦quote $.secret_access_key⟧
⟦end⟧⟦with .assume_role⟧auth.assume_role = ⟦quote .⟧
⟦end⟧encoding.codec = "json"
healthcheck.enabled = false
⟦with .endpoint⟧endpoint = ⟦quote .⟧
⟦end⟧"#

/-- A sink to a web server. -/
def http : Template.Source := .braced "sink_http" r#"[sinks.⟦.id⟧]
type = "http"
inputs = ⟦quoteList .inputs⟧
uri = ⟦quote .uri⟧
method = ⟦quote .method⟧
⟦with .compression⟧compression = ⟦quote .⟧
⟦end⟧"#

/-- A sink to Splunk. -/
def splunk : Template.Source := .braced "sink_splunk" r#"[sinks.⟦.id⟧]
type = "splunk_hec_logs"
inputs = ⟦quoteList .inputs⟧
endpoint = ⟦quote .endpoint⟧
compression = ⟦quote .compression⟧
default_token = ⟦quote .default_token⟧
⟦with .index⟧index = ⟦quote .⟧
⟦end⟧timestamp_key = "@timestamp"
host_key = "hostname"
"#

/-- A sink to Azure Monitor. -/
def azureMonitor : Template.Source := .braced "sink_azure_monitor" r#"[sinks.⟦.id⟧]
type = "azure_monitor_logs"
inputs = ⟦quoteList .inputs⟧
customer_id = ⟦quote .customer_id⟧
log_type = ⟦quote .log_type⟧
shared_key = ⟦quote .shared_key⟧
⟦with .azure_resource_id⟧azure_resource_id = ⟦quote .⟧
⟦end⟧⟦with .host⟧host = ⟦quote .⟧
⟦end⟧"#

/-- A sink to Google Cloud Logging. -/
def googleCloud : Template.Source := .braced "sink_gcp" r#"[sinks.⟦.id⟧]
type = "gcp_stackdriver_logs"
inputs = ⟦quoteList .inputs⟧
⟦.destination_key⟧ = ⟦quote .destination⟧
credentials_path = ⟦quote .credentials_path⟧
log_id = ⟦quote .log_id⟧
severity_key = "level"
"#

/-- A sink to a collector of OpenTelemetry records. -/
def otlp : Template.Source := .braced "sink_otlp" r#"[sinks.⟦.id⟧]
type = "opentelemetry"
inputs = ⟦quoteList .inputs⟧
"#

/-- The place where metrics can be read. -/
def prometheus : Template.Source := .braced "sink_prometheus" r#"[sinks.⟦.id⟧]
type = "prometheus_exporter"
inputs = ⟦quoteList .inputs⟧
address = ⟦quote .address⟧
default_namespace = "collector"
"#

/-- The form of the records that a sink sends. -/
def encoding : Template.Source := .braced "part_encoding" r#"[⟦.table⟧.encoding]
codec = ⟦quote .codec⟧
⟦with .timestamp_format⟧timestamp_format = ⟦quote .⟧
⟦end⟧⟦with .except_fields⟧except_fields = ⟦quoteList .⟧
⟦end⟧"#

/-- The form of syslog messages. -/
def syslogEncoding : Template.Source := .braced "part_syslog_encoding" r#"[⟦.table⟧.encoding]
codec = "syslog"
except_fields = ["_internal"]
rfc = ⟦quote .rfc⟧
facility = ⟦quote .facility⟧
severity = ⟦quote .severity⟧
⟦with .app_name⟧app_name = ⟦quote .⟧
⟦end⟧⟦with .msg_id⟧msg_id = ⟦quote .⟧
⟦end⟧⟦with .proc_id⟧proc_id = ⟦quote .⟧
⟦end⟧⟦with .tag⟧tag = ⟦quote .⟧
⟦end⟧⟦if .add_log_source⟧add_log_source = true
⟦end⟧⟦with .payload_key⟧payload_key = ⟦quote .⟧
⟦end⟧"#

/-- The labels of a stream of records. -/
def labels : Template.Source := .braced "part_labels" r#"[⟦.table⟧.labels]
⟦range .labels⟧⟦.name⟧ = "⟦.value⟧"
⟦end⟧"#

/-- Transport security. -/
def tls : Template.Source := .braced "part_tls" r#"[⟦.table⟧.tls]
⟦if .enabled⟧enabled = true
⟦end⟧⟦if .insecure⟧verify_certificate = false
verify_hostname = false
⟦end⟧⟦with .min_tls_version⟧min_tls_version = ⟦quote .⟧
⟦end⟧⟦with .ciphersuites⟧ciphersuites = ⟦quote .⟧
⟦end⟧⟦with .key_file⟧key_file = ⟦quote .⟧
⟦end⟧⟦with .crt_file⟧crt_file = ⟦quote .⟧
⟦end⟧⟦with .ca_file⟧ca_file = ⟦quote .⟧
⟦end⟧⟦with .key_pass⟧key_pass = ⟦quote .⟧
⟦end⟧"#

/-- Credentials. -/
def auth : Template.Source := .braced "part_auth" r#"[⟦.table⟧.auth]
strategy = ⟦quote .strategy⟧
⟦if eq .strategy "basic"⟧user = ⟦quote .user⟧
password = ⟦quote .password⟧
⟦else⟧token = ⟦quote .token⟧
⟦end⟧"#

/-- Credentials of a Kafka client. -/
def sasl : Template.Source := .braced "part_sasl" r#"[⟦.table⟧.sasl]
enabled = true
mechanism = ⟦quote .mechanism⟧
username = ⟦quote .username⟧
password = ⟦quote .password⟧
"#

/-- What is done with records that cannot be sent yet. -/
def buffer : Template.Source := .braced "part_buffer" r#"[⟦.table⟧.buffer]
⟦with .type⟧type = ⟦quote .⟧
⟦end⟧⟦with .max_size⟧max_size = ⟦.⟧
⟦end⟧when_full = ⟦quote .when_full⟧
"#

/-- How much is sent at once. -/
def batch : Template.Source := .braced "part_batch" r#"[⟦.table⟧.batch]
max_bytes = ⟦.max_bytes⟧
"#

/-- How long requests may take, and what goes with them. -/
def request : Template.Source := .braced "part_request" r#"[⟦.table⟧.request]
⟦with .timeout_secs⟧timeout_secs = ⟦.⟧
⟦end⟧⟦with .retry_initial_backoff_secs⟧retry_initial_backoff_secs = ⟦.⟧
⟦end⟧⟦with .retry_max_duration_secs⟧retry_max_duration_secs = ⟦.⟧
⟦end⟧⟦with .headers⟧headers = ⟦.⟧
⟦end⟧"#

/-- The resource that records are logged for. -/
def googleResource : Template.Source := .braced "part_gcp_resource" r#"[⟦.table⟧.resource]
type = "k8s_node"
node_name = ⟦quote .node_name⟧
"#

/-- How OpenTelemetry records are sent. -/
def otlpProtocol : Template.Source := .braced "part_otlp_protocol" r#"[⟦.table⟧.protocol]
type = "http"
uri = ⟦quote .uri⟧
method = "post"
encoding.codec = "json"
payload_prefix = ⟦quote .payload_prefix⟧
payload_suffix = "⦄"
⟦with .compression⟧compression = ⟦quote .⟧
⟦end⟧"#

/-- All templates. -/
def all : List Template.Source :=
  [kubernetesLogs, journald, file, internalMetrics, remap, route, filter, console, loki,
    elasticsearch, kafka, socket, cloudwatch, http, splunk, azureMonitor, googleCloud, otlp,
    prometheus, encoding, syslogEncoding, labels, tls, auth, sasl, buffer, batch, request,
    googleResource, otlpProtocol]

/-- The engine that renders the elements of the dialect. -/
def engine : Except Template.RegisterError Template.Engine :=
  Template.Engine.ofSources all

end LogForwarder.Vector.Templates
