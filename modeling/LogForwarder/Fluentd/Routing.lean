/-
Routing in the fluentd dialect: where the records of each kind go. A pipeline that reads a kind gets
its records directly; one that reads an application input with a selector gets them from a router.
Sources of infrastructure and audit records are not told apart, so an input that asks for some of
them gets all records of its kind.
-/

import LogForwarder.Fluentd.Label
import LogForwarder.Options
import LogForwarder.Spec.Basic

namespace LogForwarder.Fluentd

/-- The records that an application input selects, on their way to one pipeline. -/
structure Selection where
  namespaces : List String
  /-- Pod labels as `key:value`. -/
  labels : List String
  /-- The label of the pipeline. -/
  pipeline : String
  deriving DecidableEq

/-- What a pipeline reads by one of its input references. -/
structure Reading where
  kind : LogKind
  /-- The input whose selector has to be met, if there is one. -/
  selector? : Option Input

/-- Where the records of one kind go. -/
structure KindRoute where
  kind : LogKind
  /-- The labels of the pipelines that read all records of the kind. -/
  direct : List String
  selected : List Selection
  /-- The labels of the files of the old kind. -/
  legacy : List String
  deriving DecidableEq

/-- The kinds of records that go anywhere. -/
abbrev Routing := List KindRoute

/-- What an input reference reads, if it leads anywhere. -/
def readingOf? (spec : Spec) (reference : String) : Option Reading :=
  match LogKind.ofName? reference with
  | some kind => some ⟨kind, none⟩
  | none => do
    let input ← spec.input? reference
    let kind ← input.kind?
    return ⟨kind, if input.hasSelector then some input else none⟩

/-- The records that an input selects for a pipeline. -/
def selectionOf (pipeline : String) (input : Input) : Selection where
  namespaces := input.namespaces
  labels := input.matchLabels.entries.map fun (key, value) => s!"{key}:{value}"
  pipeline := pipeline

/-- All readings of all pipelines, each with the label of its pipeline. -/
def readings (spec : Spec) : List (String × Reading) :=
  spec.pipelines.flatMap fun pipeline =>
    (pipeline.inputRefs.filterMap (readingOf? spec)).map fun reading =>
      (Name.label pipeline.name, reading)

/-- The labels of the files of the old kind that the options ask for. -/
def legacyTargets (options : Options) : List String :=
  (if options.includeLegacySecureForward then [Label.legacySecureForward] else []) ++
    (if options.includeLegacySyslog then [Label.legacySyslog] else [])

namespace KindRoute

/-- Where the records of a kind go. -/
def ofKind (spec : Spec) (options : Options) (kind : LogKind) : KindRoute :=
  let ofKind := (readings spec).filter (·.2.kind = kind)
  { kind := kind
    direct := ((ofKind.filter (·.2.selector?.isNone)).map (·.1)).eraseDups
    selected := ofKind.filterMap fun (pipeline, reading) =>
      reading.selector?.map (selectionOf pipeline)
    legacy := legacyTargets options }

/-- Whether the records of a kind go nowhere. -/
def isEmpty (route : KindRoute) : Bool :=
  route.direct.isEmpty && route.selected.isEmpty && route.legacy.isEmpty

/-- Where all records of a kind go: to pipelines, and then to the files of the old kind. -/
def targets (route : KindRoute) : List String := route.direct ++ route.legacy

/-- Whether records that no selector has taken go on to where all records go. -/
def hasFallback (route : KindRoute) : Bool :=
  !route.selected.isEmpty && !route.targets.isEmpty

end KindRoute

namespace Routing

/-- The routing of a spec. -/
def ofSpec (spec : Spec) (options : Options) : Routing :=
  (LogKind.all.map (KindRoute.ofKind spec options)).filter (!·.isEmpty)

/-- Whether records of a kind go anywhere. -/
def has (routing : Routing) (kind : LogKind) : Bool := routing.any (·.kind = kind)

/-- Whether records of containers go anywhere. -/
def hasContainers (routing : Routing) : Bool :=
  routing.has .application || routing.has .infrastructure

/-- The labels of the kinds of records that go anywhere. -/
def kindLabels (routing : Routing) : List String := routing.map fun route => Label.ofKind route.kind

/-- Whether there is a router for the records of a kind. -/
def isSplit (routing : Routing) (kind : LogKind) : Bool :=
  routing.any fun route => route.kind = kind && !route.selected.isEmpty

/-- The label that a pipeline reads from. -/
def labelOf (routing : Routing) (reading : Reading) : String :=
  if reading.kind = .application && routing.isSplit .application && reading.selector?.isNone then
    Label.applicationAll
  else
    Label.ofKind reading.kind

end Routing

end LogForwarder.Fluentd
