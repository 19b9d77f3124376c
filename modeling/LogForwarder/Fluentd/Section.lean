/-
Sections of the fluentd dialect that do not depend on pipelines and outputs: the head of the file,
the collector's own metrics, the sources, the label where the lines of one record are put together,
and the label where all records come in and are told apart by kind.
-/

import LogForwarder.Element.Basic
import LogForwarder.Fluentd.Routing
import LogForwarder.Fluentd.Templates
import LogForwarder.Fluentd.TlsVersion

namespace LogForwarder.Fluentd

/-! ### Head -/

/-- The head of the file. -/
def header : Element := .create .block "system" [] Templates.header.name []

/-- The collector's own metrics. -/
def metrics (options : Options) : Element :=
  .create .source "metrics" [] Templates.metrics.name
    [("min_version", .ofText? (minTlsVersion? options "TLS")),
      ("ciphers", .ofText? (cipherList? options))]

/-! ### Sources -/

/-- The id of the source of container records. -/
def containerInput : String := "container-input"

/-- The id of the source of journal records. -/
def journalInput : String := "systemd-input"

/-- The id of the source of audit records of one origin. -/
def auditInput : AuditSource → String
  | .auditd => "audit-input"
  | .kubeApi => "k8s-audit-input"
  | .openshiftApi => "openshift-audit-input"
  | .ovn => "ovn-audit-input"

/-- The files of containers that are left alone. -/
def containerExcludes : List String :=
  ["/var/log/pods/openshift-logging_collector-*/*/*.log",
    "/var/log/pods/openshift-logging_elasticsearch-*/*/*.log",
    "/var/log/pods/openshift-logging_kibana-*/*/*.log",
    "/var/log/pods/openshift-logging_*/loki*/*.log",
    "/var/log/pods/openshift-logging_*/gateway/*.log",
    "/var/log/pods/openshift-logging_*/opa/*.log", "/var/log/pods/*/*/*.gz",
    "/var/log/pods/*/*/*.tmp"]

/--
What is known about a source of audit records: a line about it, its files, and how they are read.
-/
def auditTailParams : AuditSource → Params
  | .auditd =>
    [("desc", .text "linux audit logs"), ("path", .text "/var/log/audit/audit.log"),
      ("pos_file", .text "/var/lib/fluentd/pos/audit.log.pos"), ("tag", .text "linux-audit.log"),
      ("parse", .text "viaq_host_audit")]
  | .kubeApi =>
    [("desc", .text "k8s audit logs"), ("path", .text "/var/log/kube-apiserver/audit.log"),
      ("pos_file", .text "/var/lib/fluentd/pos/kube-apiserver.audit.log.pos"),
      ("tag", .text "k8s-audit.log"), ("parse", .text "json")]
  | .openshiftApi =>
    [("desc", .text "Openshift audit logs"),
      ("path", .text "/var/log/oauth-apiserver/audit.log,/var/log/openshift-apiserver/audit.log"),
      ("pos_file", .text "/var/lib/fluentd/pos/oauth-apiserver.audit.log"),
      ("tag", .text "openshift-audit.log"), ("parse", .text "json")]
  | .ovn =>
    [("desc", .text "Openshift Virtual Network (OVN) audit logs"),
      ("path", .text "/var/log/ovn/acl-audit-log.log"),
      ("pos_file", .text "/var/lib/fluentd/pos/acl-audit-log.pos"), ("tag", .text "ovn-audit.log"),
      ("parse", .text "none")]

/-- The source of container records. -/
def containerSource : Element :=
  .create .source containerInput [] Templates.container.name
    [("exclude", .ofTexts containerExcludes), ("label", .text Label.concat)]

/-- The source of journal records. -/
def journalSource : Element :=
  .create .source journalInput [] Templates.journal.name [("label", .text Label.ingress)]

/-- The source of audit records of one origin. -/
def auditSource (source : AuditSource) : Element :=
  .create .source (auditInput source) [] Templates.audit.name
    (auditTailParams source ++ [("label", .text Label.ingress)])

/-- The sources of all records that go anywhere. -/
def sources (routing : Routing) : List Element :=
  (if routing.hasContainers then [containerSource] else []) ++
    (if routing.has .infrastructure then [journalSource] else []) ++
    (if routing.has .audit then AuditSource.all.map auditSource else [])

/-! ### Where records come in -/

/--
The tags of records of a kind. Those of infrastructure records are among those of application
records.
-/
def tagsOf : LogKind → String
  | .application => "kubernetes.**"
  | .infrastructure =>
    "kubernetes.var.log.pods.openshift_** kubernetes.var.log.pods.openshift-*_** " ++
      "kubernetes.var.log.pods.default_** kubernetes.var.log.pods.kube-*_** " ++
      "journal.** system.var.log**"
  | .audit => "linux-audit.log** k8s-audit.log** openshift-audit.log** ovn-audit.log**"

/-- The levels of records, each with the pattern of the messages that it is found in. -/
def levels : List (String × String) :=
  [("warn", r#"Warning|WARN|^W[0-9]+|level=warn|Value:warn|"level":"warn""#),
    ("info", r#"Info|INFO|^I[0-9]+|level=info|Value:info|"level":"info""#),
    ("error", r#"Error|ERROR|^E[0-9]+|level=error|Value:error|"level":"error""#),
    ("critical", r#"Critical|CRITICAL|^C[0-9]+|level=critical|Value:critical|"level":"critical""#),
    ("debug", r#"Debug|DEBUG|^D[0-9]+|level=debug|Value:debug|"level":"debug""#)]

/-- The title of a kind in the label where records come in. -/
def titleOf : LogKind → String
  | .application => "Application"
  | .infrastructure => "Infrastructure"
  | .audit => "Audit"

/--
The kinds in the order in which records are matched: infrastructure records before application
records.
-/
def matchOrder : List LogKind := [.infrastructure, .application, .audit]

/--
Where the records of a kind go from the label where they come in: to their label, if they go
anywhere.
-/
def ingressRoute (routing : Routing) (kind : LogKind) : Value :=
  .ofEntries [("title", .text (titleOf kind)), ("tags", .text (tagsOf kind)),
    ("label", .ofText? (if routing.has kind then some (Label.ofKind kind) else none))]

/-- The label where the lines of one record are put together. -/
def concatLabel : Element :=
  .create .block Label.concat [containerInput] Templates.concat.name
    [("next", .text Label.ingress)]

/-- What leads to the label where records come in. -/
def ingressInputs (routing : Routing) : List String :=
  (if routing.hasContainers then [Label.concat] else []) ++
    (if routing.has .infrastructure then [journalInput] else []) ++
    (if routing.has .audit then AuditSource.all.map auditInput else [])

/-- The label where all records come in. -/
def ingressLabel (routing : Routing) : Element :=
  let levelParam (level : String × String) : Value :=
    .ofEntries [("name", .text level.1), ("pattern", .text level.2)]
  .create .block Label.ingress (ingressInputs routing) Templates.ingress.name
    [("routes", .list (matchOrder.map (ingressRoute routing))),
      ("levels", .list (levels.map levelParam))]

/-- The labels that all records go through. -/
def ingress (routing : Routing) : List Element :=
  (if routing.hasContainers then [concatLabel] else []) ++ [ingressLabel routing]

end LogForwarder.Fluentd
