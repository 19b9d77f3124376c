/-
Sources of the vector dialect: where records of each kind are found, and the transforms that bring
them into a common form.
-/

import LogForwarder.Vector.Id
import LogForwarder.Vector.Transform

namespace LogForwarder.Vector

/-- Whether records of containers are needed for some kinds. -/
def needsContainers (kinds : List LogKind) : Bool := .application ∈ kinds || .infrastructure ∈ kinds

/-! ### Records as they are found -/

/-- The files of containers that are left alone. -/
def containerExcludes : List String :=
  ["/var/log/pods/openshift-logging_collector-*/*/*.log",
    "/var/log/pods/openshift-logging_*/loki*/*.log", "/var/log/pods/*/*/*.gz",
    "/var/log/pods/*/*/*.tmp"]

/-- What a source of audit records is called. -/
def auditDescription : AuditSource → String
  | .auditd => "Logs from linux audit"
  | .kubeApi => "Logs from kubernetes audit"
  | .openshiftApi => "Logs from openshift audit"
  | .ovn => "Logs from ovn audit"

/-- The files of a source of audit records. -/
def auditPaths : AuditSource → List String
  | .auditd => ["/var/log/audit/audit.log"]
  | .kubeApi => ["/var/log/kube-apiserver/audit.log"]
  | .openshiftApi =>
    ["/var/log/oauth-apiserver/audit.log", "/var/log/openshift-apiserver/audit.log",
      "/var/log/oauth-server/audit.log"]
  | .ovn => ["/var/log/ovn/acl-audit-log.log"]

/-- The source of container records. -/
def containerSource : Element :=
  .create .source Id.rawContainerLogs [] Templates.kubernetesLogs.name
    [("exclude", .ofTexts containerExcludes)]

/-- The source of journal records. -/
def journalSource : Element := .create .source Id.rawJournalLogs [] Templates.journald.name []

/-- The source of audit records of one origin. -/
def auditSource (source : AuditSource) : Element :=
  .create .source (Id.rawAuditLogs source) [] Templates.file.name
    [("desc", .text (auditDescription source)), ("include", .ofTexts (auditPaths source))]

/-- The sources of the records of some kinds. -/
def rawSources (kinds : List LogKind) : List Element :=
  (if needsContainers kinds then [containerSource] else []) ++
    (if .infrastructure ∈ kinds then [journalSource] else []) ++
    (if .audit ∈ kinds then AuditSource.all.map auditSource else [])

/-! ### Records in common form -/

/-- Finds out the level of a record that has none from its message. -/
def levelProgram : String := Template.withBraces r#"if !exists(.level) ⦃
  .level = "default"
  if match!(.message, r'Error|ERROR|^E[0-9]+|level=error|"level":"error"') ⦃
    .level = "error"
  ⦄ else if match!(.message, r'Warning|WARN|^W[0-9]+|level=warn|"level":"warn"') ⦃
    .level = "warn"
  ⦄ else if match!(.message, r'Info|INFO|^I[0-9]+|level=info|"level":"info"') ⦃
    .level = "info"
  ⦄ else if match!(.message, r'Debug|DEBUG|^D[0-9]+|level=debug|"level":"debug"') ⦃
    .level = "debug"
  ⦄ else if match!(.message, r'Critical|CRITICAL|^C[0-9]+|level=critical') ⦃
    .level = "critical"
  ⦄
⦄"#

/-- Moves the time of a record to its usual place. -/
def timestampProgram : String := Template.withBraces
  r#"ts = del(.timestamp); if !exists(."@timestamp") ⦃ ."@timestamp" = ts ⦄"#

/-- Marks records of containers, and drops what is of no use in them. -/
def containerProgram : String := r#".log_source = "container"
del(.source_type)
del(.stream)
del(.kubernetes.pod_ips)"#

/-- Marks records of the journal, and names their level. -/
def journalProgram : String := r#".log_source = "node"
.tag = ".journal.system"
del(.source_type)
.hostname = del(.host)
priority = to_int(.PRIORITY) ?? 6
.level = get(["emerg", "alert", "crit", "err", "warning", "notice", "info", "debug"], [priority]) ?? "unknown""#

/-- Marks audit records of one origin, and takes their message apart. -/
def auditProgram : AuditSource → String
  | .auditd => Template.withBraces r#".log_source = "auditd"
.tag = ".linux-audit.log"
match1 = parse_regex(.message, r'type=(?P<type>[^ ]+)') ?? ⦃⦄
."audit.linux" = ⦃"type": match1.type⦄
.level = "default""#
  | .kubeApi => r#".log_source = "kubeAPI"
.tag = ".k8s-audit.log"
. = merge(., parse_json!(string!(.message))) ?? .
del(.message)
.k8s_audit_level = .level
.level = "default""#
  | .openshiftApi => r#".log_source = "openshiftAPI"
.tag = ".openshift-audit.log"
. = merge(., parse_json!(string!(.message))) ?? .
del(.message)
.openshift_audit_level = .level
.level = "default""#
  | .ovn => r#".log_source = "ovn"
.tag = ".ovn-audit.log""#

/-- Records of containers in common form. -/
def containerForm : Element :=
  remap Id.containerLogs [Id.rawContainerLogs]
    ("\n".intercalate [containerProgram, levelProgram, timestampProgram])

/-- Records of the journal in common form, without those for debugging. -/
def journalForms : List Element :=
  [filter Id.dropJournalLogs [Id.rawJournalLogs] r#".PRIORITY != "7" && .PRIORITY != 7"#,
    remap Id.journalLogs [Id.dropJournalLogs]
      ("\n".intercalate [journalProgram, timestampProgram])]

/-- Audit records of one origin in common form. -/
def auditForm (source : AuditSource) : Element :=
  remap (Id.auditLogs source) [Id.rawAuditLogs source] (auditProgram source)

/-- The transforms that bring the records of some kinds into a common form. -/
def commonForms (kinds : List LogKind) : List Element :=
  (if needsContainers kinds then [containerForm] else []) ++
    (if .infrastructure ∈ kinds then journalForms else []) ++
    (if .audit ∈ kinds then AuditSource.all.map auditForm else [])

end LogForwarder.Vector
