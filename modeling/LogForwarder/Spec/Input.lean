/-
Inputs: which records a forwarder takes in. Three kinds of records are built in, under reserved
names; an input that a user declares narrows one of these kinds.
-/

import LogForwarder.Document.Codec

namespace LogForwarder

/-! ### Kinds of records -/

/-- A built-in class of log records. -/
inductive LogKind
  | application
  | infrastructure
  | audit
  deriving DecidableEq, Inhabited

namespace LogKind

/-- All kinds, in the order in which they are gone through. -/
def all : List LogKind := [.application, .infrastructure, .audit]

/-- The reserved input name of a kind. -/
def name : LogKind → String
  | .application => "application"
  | .infrastructure => "infrastructure"
  | .audit => "audit"

/-- The kind of a reserved input name. -/
def ofName? (name : String) : Option LogKind := all.find? (·.name = name)

end LogKind

/-! ### Narrowed kinds -/

/-- The pod labels that a record's pod must carry. -/
structure LabelSelector where
  matchLabels : Dictionary String
  deriving DecidableEq, Inhabited

/-- Application records from some namespaces, of pods with some labels. -/
structure ApplicationInput where
  namespaces : List String
  selector : Option LabelSelector
  deriving DecidableEq, Inhabited

/-- Where infrastructure records come from. -/
inductive InfrastructureSource
  | container
  | node
  deriving DecidableEq

/-- Infrastructure records from some sources. -/
structure InfrastructureInput where
  sources : List InfrastructureSource
  deriving DecidableEq, Inhabited

/-- Where audit records come from. -/
inductive AuditSource
  | auditd
  | kubeApi
  | openshiftApi
  | ovn
  deriving DecidableEq

/-- Audit records from some sources. -/
structure AuditInput where
  sources : List AuditSource
  deriving DecidableEq, Inhabited

/-- An input that a user declares. It should have exactly one of its sections. -/
structure Input where
  name : String
  application : Option ApplicationInput
  infrastructure : Option InfrastructureInput
  audit : Option AuditInput
  deriving DecidableEq, Inhabited

/-- The name of a source of infrastructure records. -/
def InfrastructureSource.name : InfrastructureSource → String
  | .container => "container"
  | .node => "node"

/-- All sources of infrastructure records. -/
def InfrastructureSource.all : List InfrastructureSource := [.container, .node]

/-- The name of a source of audit records. -/
def AuditSource.name : AuditSource → String
  | .auditd => "auditd"
  | .kubeApi => "kubeAPI"
  | .openshiftApi => "openshiftAPI"
  | .ovn => "ovn"

/-- All sources of audit records. -/
def AuditSource.all : List AuditSource := [.auditd, .kubeApi, .openshiftApi, .ovn]

/-! ### Questions to an input -/

namespace Input

/-- The kind that an input narrows, if it has exactly one section. -/
def kind? (input : Input) : Option LogKind :=
  match input.application, input.infrastructure, input.audit with
  | some _, none, none => some .application
  | none, some _, none => some .infrastructure
  | none, none, some _ => some .audit
  | _, _, _ => none

/-- The number of sections of an input. -/
def sectionCount (input : Input) : Nat :=
  [input.application.isSome, input.infrastructure.isSome, input.audit.isSome].countP id

/-- The pod labels that an input asks for. -/
def matchLabels (input : Input) : Dictionary String :=
  ((input.application.bind (·.selector)).map (·.matchLabels)).getD ∅

/-- The namespaces that an input asks for. -/
def namespaces (input : Input) : List String :=
  (input.application.map (·.namespaces)).getD []

/-- Whether an input narrows application records by namespace or label. -/
def hasSelector (input : Input) : Bool :=
  !input.namespaces.isEmpty || !input.matchLabels.isEmpty

end Input

/-! ### Written form -/

/-- Label selectors. -/
def LabelSelector.codec : Codec LabelSelector :=
  .record "LabelSelector"
    (.cons (.defaulted "matchLabels" (.dictionary .text) ∅) .nil)
    (fun selector => (selector.matchLabels, ()))
    (fun (matchLabels, ()) => ⟨matchLabels⟩)

/-- Application sections. -/
def ApplicationInput.codec : Codec ApplicationInput :=
  .record "ApplicationInput"
    (.cons (.defaulted "namespaces" (.list .text) []) <|
      .cons (.optional "selector" LabelSelector.codec) .nil)
    (fun input => (input.namespaces, input.selector, ()))
    (fun (namespaces, selector, ()) => ⟨namespaces, selector⟩)

/-- Infrastructure sections. -/
def InfrastructureInput.codec : Codec InfrastructureInput :=
  .record "InfrastructureInput"
    (.cons (.defaulted "sources"
      (.list (.choiceOf InfrastructureSource.name InfrastructureSource.all)) []) .nil)
    (fun input => (input.sources, ()))
    (fun (sources, ()) => ⟨sources⟩)

/-- Audit sections. -/
def AuditInput.codec : Codec AuditInput :=
  .record "AuditInput"
    (.cons (.defaulted "sources" (.list (.choiceOf AuditSource.name AuditSource.all)) []) .nil)
    (fun input => (input.sources, ()))
    (fun (sources, ()) => ⟨sources⟩)

/-- Declared inputs. -/
def Input.codec : Codec Input :=
  .record "InputSpec"
    (.cons (.required "name" .text) <|
      .cons (.optional "application" ApplicationInput.codec) <|
      .cons (.optional "infrastructure" InfrastructureInput.codec) <|
      .cons (.optional "audit" AuditInput.codec) .nil)
    (fun input => (input.name, input.application, input.infrastructure, input.audit, ()))
    (fun (name, application, infrastructure, audit, ()) =>
      ⟨name, application, infrastructure, audit⟩)

end LogForwarder
