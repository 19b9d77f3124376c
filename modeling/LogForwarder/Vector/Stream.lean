/-
Streams and pipelines of the vector dialect. There is a stream of the records of each kind, and one
for each input that takes in only some of them: application inputs are branches of one router;
infrastructure and audit inputs filter the stream of their kind by the source of a record. Each
pipeline is one transform; console sinks take the place of all outputs when a configuration is
debugged.
-/

import LogForwarder.Name
import LogForwarder.Route.Plan
import LogForwarder.Vector.Source

namespace LogForwarder.Vector

/-! ### Kinds -/

/-- Whether a record of a container comes from the cluster itself. -/
def infrastructureCondition : String :=
  let starts := ["kube-", "openshift-"].map fun start =>
    s!"starts_with!(.kubernetes.namespace_name,\"{start}\")"
  let names := ["default", "openshift", "kube"].map fun name =>
    s!".kubernetes.namespace_name == \"{name}\""
  " || ".intercalate (starts ++ names)

/-- The branch of records of applications. -/
def applicationBranch : Branch := ⟨"app", s!"!({infrastructureCondition})"⟩

/-- The branch of records of the cluster itself. -/
def infrastructureBranch : Branch := ⟨"infra", infrastructureCondition⟩

/-- The router that tells records of applications from those of the cluster itself. -/
def containerRouter (kinds : List LogKind) : Element :=
  route Id.routeContainerLogs [Id.containerLogs]
    ((if .application ∈ kinds then [applicationBranch] else []) ++
      (if .infrastructure ∈ kinds then [infrastructureBranch] else []))

/-- Where the records of a kind come from. -/
def kindInputs : LogKind → List String
  | .application => [branchOf Id.routeContainerLogs applicationBranch.name]
  | .infrastructure => [branchOf Id.routeContainerLogs infrastructureBranch.name, Id.journalLogs]
  | .audit => AuditSource.all.map Id.auditLogs

/-- Marks a record with its kind. -/
def kindProgram (kind : LogKind) : String :=
  s!".log_type = \"{kind.name}\"" ++
    match kind with
    | .audit => "\n.hostname = get_env_var(\"VECTOR_SELF_NODE_NAME\") ?? \"\""
    | _ => ""

/-- The stream of the records of a kind. -/
def kindStream (kind : LogKind) : Element :=
  describedRemap kind.name (kindInputs kind) s!"Set log_type to \"{kind.name}\"" (kindProgram kind)

/-! ### Inputs -/

/-- The names of the inputs that pipelines read, each once and in the order of the pipelines. -/
def referenceNames (spec : Spec) : List String := (spec.pipelines.flatMap (·.inputRefs)).eraseDups

/-- The declared inputs that pipelines read, in the order of the pipelines. -/
def referencedInputs (spec : Spec) : List Input := (referenceNames spec).filterMap spec.input?

/-- The application inputs among those that pipelines read, in rising order of their names. -/
def selectorInputs (spec : Spec) : List Input :=
  ((sortedTexts (referenceNames spec)).filterMap spec.input?).filter (·.hasSelector)

/-- The names of the sources that an infrastructure or audit input takes records from. -/
def sourceNames (input : Input) : List String :=
  match input.kind? with
  | some .infrastructure =>
    ((input.infrastructure.map (·.sources)).getD []).map InfrastructureSource.name
  | some .audit => ((input.audit.map (·.sources)).getD []).map AuditSource.name
  | _ => []

/-- The inputs that take in only some sources of their kind, among those that pipelines read. -/
def sourceInputs (spec : Spec) : List Input :=
  (referencedInputs spec).filter fun input =>
    !(sourceNames input).isEmpty && input.wholeKind?.isNone

/-- Whether a record comes from one of some namespaces. -/
def namespaceCondition (namespaces : List String) : String :=
  " || ".intercalate (namespaces.map fun name =>
    s!".kubernetes.namespace_name == {Value.textLiteral name}")

/-- Whether a record comes from a pod with some labels. -/
def labelCondition (labels : Dictionary String) : String :=
  " && ".intercalate (labels.entries.map fun (key, value) =>
    s!".kubernetes.labels.{Value.textLiteral key} == {Value.textLiteral value}")

/--
Whether an application input takes in a record: by its namespace and by its labels, as far as it
asks for them.
-/
def selectorCondition (input : Input) : String :=
  let conditions := [namespaceCondition input.namespaces, labelCondition input.matchLabels]
  " && ".intercalate ((conditions.filter (!·.isEmpty)).map fun condition => s!"({condition})")

/-- Whether a record comes from one of some sources. -/
def sourceCondition (names : List String) : String :=
  " || ".intercalate (names.map fun name => s!".log_source == {Value.textLiteral name}")

/-- The branch of an application input. -/
def selectorBranch (input : Input) : Branch :=
  ⟨Name.componentId input.name, selectorCondition input⟩

/-- The router that tells the application inputs apart, if there are any. -/
def selectorRouter (spec : Spec) : List Element :=
  let branches := (selectorInputs spec).map selectorBranch
  if branches.isEmpty then []
  else [route Id.routeApplicationLogs [LogKind.application.name] branches]

/-- The filter of an input that takes in only some sources of its kind. -/
def sourceFilter (input : Input) : Element :=
  filter (Name.componentId input.name) ((input.kind?.map (·.name)).toList)
    (sourceCondition (sourceNames input))

/-- The streams of a spec whose pipelines read some kinds. -/
def streams (spec : Spec) (kinds : List LogKind) : List Element :=
  (if needsContainers kinds then [containerRouter kinds] else []) ++
    (LogKind.all.filter (· ∈ kinds)).map kindStream ++ selectorRouter spec ++
    (sourceInputs spec).map sourceFilter

/-- The stream that a pipeline reads for one of its input references. -/
def streamOf (spec : Spec) (reference : String) : String :=
  match spec.input? reference with
  | none => reference
  | some input =>
    if input.hasSelector then branchOf Id.routeApplicationLogs (Name.componentId input.name)
    else if (LogKind.ofName? reference).isSome then reference
    else
      match input.wholeKind? with
      | some kind => kind.name
      | none => Name.componentId input.name

/-! ### Pipelines -/

/-- Reads the message of an application record as JSON, and leaves it alone if it is none. -/
def parseProgram : String := Template.withBraces r#"if .log_type == "application" ⦃
  parsed, err = parse_json(string!(.message))
  if err == null ⦃
    .structured = parsed
  ⦄
⦄"#

/-- Adds labels to a record. -/
def labelsProgram (labels : Dictionary String) : String :=
  s!".openshift.labels = {(Value.ofDictionary labels).compact}"

/-- What a pipeline does with a record. -/
def pipelineProgram (pipeline : Pipeline) : String :=
  let lines :=
    (if pipeline.labels.isEmpty then [] else [labelsProgram pipeline.labels]) ++
      (if pipeline.parse = some .json then [parseProgram] else [])
  if lines.isEmpty then "." else "\n".intercalate lines

/-- The transform of a pipeline. It reads each stream once, whatever its references. -/
def pipelineRemap (spec : Spec) (pipeline : Pipeline) : Element :=
  remap (Name.componentId pipeline.name) (pipeline.inputRefs.map (streamOf spec)).eraseDups
    (pipelineProgram pipeline)

/-- The transforms of all pipelines. -/
def pipelines (spec : Spec) : List Element := spec.pipelines.map (pipelineRemap spec)

/-- The console sink of a pipeline. -/
def debugSink (pipeline : Pipeline) : Element :=
  let id := Name.componentId pipeline.name
  .create .sink s!"{id}_debug" [id] Templates.console.name []

/-- The console sinks of all pipelines. -/
def debugSinks (spec : Spec) : List Element := spec.pipelines.map debugSink

end LogForwarder.Vector
