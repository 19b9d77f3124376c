/-
Ids of the components that every configuration in the vector dialect may have. Names of inputs,
outputs and pipelines must not turn into any of them.
-/

import LogForwarder.Spec.Input

namespace LogForwarder.Vector.Id

/-! ### Container and journal records -/

/-- Records of containers as they are found. -/
def rawContainerLogs : String := "raw_container_logs"

/-- Records of the journal as they are found. -/
def rawJournalLogs : String := "raw_journal_logs"

/-- Records of containers in common form. -/
def containerLogs : String := "container_logs"

/-- Records of the journal without those for debugging. -/
def dropJournalLogs : String := "drop_journal_logs"

/-- Records of the journal in common form. -/
def journalLogs : String := "journal_logs"

/-- The router that tells application records from infrastructure records. -/
def routeContainerLogs : String := "route_container_logs"

/-- The router that tells apart application records by namespace and label. -/
def routeApplicationLogs : String := "route_application_logs"

/-! ### Audit records -/

/-- Audit records of a source as they are found. -/
def rawAuditLogs : AuditSource → String
  | .auditd => "raw_host_audit_logs"
  | .kubeApi => "raw_k8s_audit_logs"
  | .openshiftApi => "raw_openshift_audit_logs"
  | .ovn => "raw_ovn_audit_logs"

/-- Audit records of a source in common form. -/
def auditLogs : AuditSource → String
  | .auditd => "host_audit_logs"
  | .kubeApi => "k8s_audit_logs"
  | .openshiftApi => "openshift_audit_logs"
  | .ovn => "ovn_audit_logs"

/-! ### The collector's own metrics -/

/-- The metrics as the collector gives them. -/
def internalMetrics : String := "internal_metrics"

/-- The metrics together with the name of the node. -/
def addNodename : String := "add_nodename_to_metric"

/-- The place where the metrics can be read. -/
def prometheusOutput : String := "prometheus_output"

/-! ### All of them -/

/-- All ids that are taken. -/
def reserved : List String :=
  [rawContainerLogs, rawJournalLogs] ++ AuditSource.all.map rawAuditLogs ++
    [containerLogs, dropJournalLogs, journalLogs] ++ AuditSource.all.map auditLogs ++
    [routeContainerLogs, routeApplicationLogs] ++ LogKind.all.map (·.name) ++
    [internalMetrics, addNodename, prometheusOutput]

end LogForwarder.Vector.Id
