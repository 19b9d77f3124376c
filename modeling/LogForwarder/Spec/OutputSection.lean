/-
Sections of outputs: the settings that only one type of output has.
-/

import LogForwarder.Spec.Input

namespace LogForwarder

/-! ### Elasticsearch -/

/-- Settings of an elasticsearch output. -/
structure ElasticsearchSection where
  version : Option Nat
  /-- The record path whose value names the index of structured records. -/
  structuredTypeKey : Option String
  /-- The index of structured records without such a value. -/
  structuredTypeName : Option String
  deriving DecidableEq, Inhabited

namespace ElasticsearchSection

/-- Whether types of mappings are left out, as versions from 8 on demand. -/
def suppressesTypeName (options : ElasticsearchSection) : Bool :=
  options.version.any (8 ≤ ·)

/-- Whether structured records go to an index of their own. -/
def hasStructuredIndex (options : ElasticsearchSection) : Bool :=
  options.structuredTypeKey.isSome || options.structuredTypeName.isSome

/-- Elasticsearch sections. -/
def codec : Codec ElasticsearchSection :=
  .record "Elasticsearch"
    (.cons (.optional "version" (.nat 32)) <|
      .cons (.optional "structuredTypeKey" .text) <|
      .cons (.optional "structuredTypeName" .text) .nil)
    (fun options => (options.version, options.structuredTypeKey, options.structuredTypeName, ()))
    (fun (version, structuredTypeKey, structuredTypeName, ()) =>
      { version, structuredTypeKey, structuredTypeName })

end ElasticsearchSection

/-! ### Syslog -/

/-- The format of syslog messages. -/
inductive SyslogFormat
  | rfc3164
  | rfc5424
  deriving DecidableEq

/-- Settings of a syslog output. -/
structure SyslogSection where
  rfc : Option SyslogFormat
  facility : Option String
  severity : Option String
  appName : Option String
  msgId : Option String
  procId : Option String
  tag : Option String
  payloadKey : Option String
  addLogSource : Bool
  deriving DecidableEq, Inhabited

/-- The name of a syslog format in a spec. -/
def SyslogFormat.name : SyslogFormat → String
  | .rfc3164 => "RFC3164"
  | .rfc5424 => "RFC5424"

/-- The name of a syslog format in generated text. -/
def SyslogFormat.lowerName : SyslogFormat → String
  | .rfc3164 => "rfc3164"
  | .rfc5424 => "rfc5424"

/-- Syslog formats, under their names in either case. -/
def SyslogFormat.codec : Codec SyslogFormat :=
  .choice SyslogFormat.name
    [("RFC3164", .rfc3164), ("rfc3164", .rfc3164), ("RFC5424", .rfc5424), ("rfc5424", .rfc5424)]

/-- Syslog sections. -/
def SyslogSection.codec : Codec SyslogSection :=
  .record "Syslog"
    (.cons (.optional "rfc" SyslogFormat.codec) <|
      .cons (.optional "facility" .text) <|
      .cons (.optional "severity" .text) <|
      .cons (.optional "appName" .text) <|
      .cons (.optional "msgID" .text) <|
      .cons (.optional "procID" .text) <|
      .cons (.optional "tag" .text) <|
      .cons (.optional "payloadKey" .text) <|
      .cons (.defaulted "addLogSource" .boolean false) .nil)
    (fun options =>
      (options.rfc, options.facility, options.severity, options.appName, options.msgId,
        options.procId, options.tag, options.payloadKey, options.addLogSource, ()))
    (fun (rfc, facility, severity, appName, msgId, procId, tag, payloadKey, addLogSource, ()) =>
      { rfc, facility, severity, appName, msgId, procId, tag, payloadKey, addLogSource })

/-! ### Kafka and Loki -/

/-- Settings of a kafka output. -/
structure KafkaSection where
  topic : Option String
  brokers : List String
  deriving DecidableEq, Inhabited

/-- Kafka sections. -/
def KafkaSection.codec : Codec KafkaSection :=
  .record "Kafka"
    (.cons (.optional "topic" .text) <| .cons (.defaulted "brokers" (.list .text) []) .nil)
    (fun options => (options.topic, options.brokers, ()))
    (fun (topic, brokers, ()) => { topic, brokers })

/-- Settings of a loki output. -/
structure LokiSection where
  tenantKey : Option String
  labelKeys : List String
  deriving DecidableEq, Inhabited

/-- Loki sections. -/
def LokiSection.codec : Codec LokiSection :=
  .record "Loki"
    (.cons (.optional "tenantKey" .text) <| .cons (.defaulted "labelKeys" (.list .text) []) .nil)
    (fun options => (options.tenantKey, options.labelKeys, ()))
    (fun (tenantKey, labelKeys, ()) => { tenantKey, labelKeys })

/-! ### LokiStack -/

/-- Where a lokistack runs. -/
structure LokiStackTarget where
  name : String
  namespaceName : String
  deriving DecidableEq, Inhabited

/-- The form in which records reach a lokistack. -/
inductive DataModel
  | viaq
  | otel
  deriving DecidableEq, Inhabited

/-- Label keys of one tenant of a lokistack. -/
structure TenantLabelKeys where
  ignoreGlobal : Bool
  labelKeys : List String
  deriving DecidableEq, Inhabited

/-- Label keys of a lokistack, for all tenants and for each alone. -/
structure LokiStackLabelKeys where
  global : List String
  application : Option TenantLabelKeys
  infrastructure : Option TenantLabelKeys
  audit : Option TenantLabelKeys
  deriving DecidableEq, Inhabited

/-- Settings of a lokistack output. -/
structure LokiStackSection where
  target : LokiStackTarget
  dataModel : DataModel
  labelKeys : Option LokiStackLabelKeys
  deriving DecidableEq, Inhabited

/-- The label keys of the tenant of a kind. -/
def LokiStackLabelKeys.tenant? (keys : LokiStackLabelKeys) : LogKind → Option TenantLabelKeys
  | .application => keys.application
  | .infrastructure => keys.infrastructure
  | .audit => keys.audit

/-- Targets of lokistacks. -/
def LokiStackTarget.codec : Codec LokiStackTarget :=
  .record "LokiStackTarget"
    (.cons (.defaulted "name" .text "") <| .cons (.defaulted "namespace" .text "") .nil)
    (fun target => (target.name, target.namespaceName, ()))
    (fun (name, namespaceName, ()) => { name, namespaceName })

/-- The name of a data model. -/
def DataModel.name : DataModel → String
  | .viaq => "viaq"
  | .otel => "otel"

/-- Data models, under all their names. -/
def DataModel.codec : Codec DataModel :=
  .choice DataModel.name
    [("ViaQ", .viaq), ("Viaq", .viaq), ("viaq", .viaq),
      ("OpenTelemetry", .otel), ("openTelemetry", .otel), ("otel", .otel)]

/-- Label keys of tenants. -/
def TenantLabelKeys.codec : Codec TenantLabelKeys :=
  .record "TenantLabelKeys"
    (.cons (.defaulted "ignoreGlobal" .boolean false) <|
      .cons (.defaulted "labelKeys" (.list .text) []) .nil)
    (fun keys => (keys.ignoreGlobal, keys.labelKeys, ()))
    (fun (ignoreGlobal, labelKeys, ()) => { ignoreGlobal, labelKeys })

/-- Label keys of lokistacks. -/
def LokiStackLabelKeys.codec : Codec LokiStackLabelKeys :=
  .record "LokiStackLabelKeys"
    (.cons (.defaulted "global" (.list .text) []) <|
      .cons (.optional "application" TenantLabelKeys.codec) <|
      .cons (.optional "infrastructure" TenantLabelKeys.codec) <|
      .cons (.optional "audit" TenantLabelKeys.codec) .nil)
    (fun keys => (keys.global, keys.application, keys.infrastructure, keys.audit, ()))
    (fun (global, application, infrastructure, audit, ()) =>
      { global, application, infrastructure, audit })

/-- Lokistack sections. -/
def LokiStackSection.codec : Codec LokiStackSection :=
  .record "LokiStack"
    (.cons (.defaulted "target" LokiStackTarget.codec default) <|
      .cons (.defaulted "dataModel" DataModel.codec .viaq) <|
      .cons (.optional "labelKeys" LokiStackLabelKeys.codec) .nil)
    (fun options => (options.target, options.dataModel, options.labelKeys, ()))
    (fun (target, dataModel, labelKeys, ()) => { target, dataModel, labelKeys })

/-! ### Cloud services -/

/-- What the log groups of a cloudwatch output are formed by. -/
inductive GroupBy
  | logType
  | namespaceName
  | namespaceUuid
  deriving DecidableEq, Inhabited

/-- Settings of a cloudwatch output. -/
structure CloudwatchSection where
  region : Option String
  groupBy : GroupBy
  groupPrefix : Option String
  deriving DecidableEq, Inhabited

/-- The name of a grouping. -/
def GroupBy.name : GroupBy → String
  | .logType => "logType"
  | .namespaceName => "namespaceName"
  | .namespaceUuid => "namespaceUUID"

/-- Cloudwatch sections. -/
def CloudwatchSection.codec : Codec CloudwatchSection :=
  .record "Cloudwatch"
    (.cons (.optional "region" .text) <|
      .cons (.defaulted "groupBy"
        (.choiceOf GroupBy.name [.logType, .namespaceName, .namespaceUuid]) .logType) <|
      .cons (.optional "groupPrefix" .text) .nil)
    (fun options => (options.region, options.groupBy, options.groupPrefix, ()))
    (fun (region, groupBy, groupPrefix, ()) => { region, groupBy, groupPrefix })

/-- Settings of an http output. -/
structure HttpSection where
  method : Option String
  headers : Dictionary String
  /-- The time that a request may take, in seconds. -/
  timeout : Option Nat
  deriving DecidableEq, Inhabited

/-- Http sections. -/
def HttpSection.codec : Codec HttpSection :=
  .record "Http"
    (.cons (.optional "method" .text) <|
      .cons (.defaulted "headers" (.dictionary .text) ∅) <|
      .cons (.optional "timeout" (.nat 64)) .nil)
    (fun options => (options.method, options.headers, options.timeout, ()))
    (fun (method, headers, timeout, ()) => { method, headers, timeout })

/-- Settings of a splunk output. -/
structure SplunkSection where
  indexKey : Option String
  indexName : Option String
  deriving DecidableEq, Inhabited

/-- Splunk sections. -/
def SplunkSection.codec : Codec SplunkSection :=
  .record "Splunk"
    (.cons (.optional "indexKey" .text) <| .cons (.optional "indexName" .text) .nil)
    (fun options => (options.indexKey, options.indexName, ()))
    (fun (indexKey, indexName, ()) => { indexKey, indexName })

/-- Settings of an output to Azure Monitor. -/
structure AzureMonitorSection where
  customerId : Option String
  logType : Option String
  azureResourceId : Option String
  host : Option String
  deriving DecidableEq, Inhabited

/-- Azure Monitor sections. -/
def AzureMonitorSection.codec : Codec AzureMonitorSection :=
  .record "AzureMonitor"
    (.cons (.optional "customerId" .text) <|
      .cons (.optional "logType" .text) <|
      .cons (.optional "azureResourceId" .text) <|
      .cons (.optional "host" .text) .nil)
    (fun options =>
      (options.customerId, options.logType, options.azureResourceId, options.host, ()))
    (fun (customerId, logType, azureResourceId, host, ()) =>
      { customerId, logType, azureResourceId, host })

/-- Settings of an output to Google Cloud Logging. -/
structure GoogleCloudLoggingSection where
  projectId : Option String
  folderId : Option String
  organizationId : Option String
  billingAccountId : Option String
  logId : Option String
  deriving DecidableEq, Inhabited

namespace GoogleCloudLoggingSection

/-- The destinations that are given, each under its name in generated text. One should be. -/
def destinations (options : GoogleCloudLoggingSection) : List (String × String) :=
  [("billing_account_id", options.billingAccountId), ("folder_id", options.folderId),
    ("organization_id", options.organizationId), ("project_id", options.projectId)].filterMap
    fun (key, value) => value.map fun value => (key, value)

/-- Google Cloud Logging sections. -/
def codec : Codec GoogleCloudLoggingSection :=
  .record "GoogleCloudLogging"
    (.cons (.optional "projectId" .text) <|
      .cons (.optional "folderId" .text) <|
      .cons (.optional "organizationId" .text) <|
      .cons (.optional "billingAccountId" .text) <|
      .cons (.optional "logId" .text) .nil)
    (fun options =>
      (options.projectId, options.folderId, options.organizationId, options.billingAccountId,
        options.logId, ()))
    (fun (projectId, folderId, organizationId, billingAccountId, logId, ()) =>
      { projectId, folderId, organizationId, billingAccountId, logId })

end GoogleCloudLoggingSection

end LogForwarder
