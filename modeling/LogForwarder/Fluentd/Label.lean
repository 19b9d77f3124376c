/-
Labels that every configuration in the fluentd dialect may have. Names of outputs and pipelines must
not turn into any of them.
-/

import LogForwarder.Name
import LogForwarder.Spec.Input

namespace LogForwarder.Fluentd.Label

/-- Where the lines of one record are put together again. -/
def concat : String := "@CONCAT"

/-- Where all records come in. -/
def ingress : String := "@INGRESS"

/-- Application records that no selector has taken. -/
def applicationAll : String := "@_APPLICATION_ALL"

/-- Where records leave for a forwarder of the old kind. -/
def legacySecureForward : String := "@_LEGACY_SECUREFORWARD"

/-- Where records leave for a syslog server of the old kind. -/
def legacySyslog : String := "@_LEGACY_SYSLOG"

/-- The label of the records of a kind. -/
def ofKind : LogKind → String
  | .application => "@_APPLICATION"
  | .infrastructure => "@_INFRASTRUCTURE"
  | .audit => "@_AUDIT"

/-- All labels that are taken. -/
def reserved : List String :=
  [concat, ingress, ofKind .application, applicationAll, ofKind .infrastructure, ofKind .audit,
    legacySecureForward, legacySyslog]

end LogForwarder.Fluentd.Label
