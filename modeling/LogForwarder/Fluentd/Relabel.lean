/-
Labels between the sources and the stores of the fluentd dialect: one for each kind of records, one
for each pipeline, and those that lead to files of the old kind. All they do is mark records and
hand them on.
-/

import LogForwarder.Element.Basic
import LogForwarder.Fluentd.Routing
import LogForwarder.Fluentd.Templates

namespace LogForwarder.Fluentd

/-! ### Handing on -/

/-- How records are handed on: to the console, to one label, or a copy to each of several. -/
def fanParam (isDeep : Bool) : List String → Value
  | [] => .ofEntries [("stdout", .boolean true)]
  | [target] => .ofEntries [("stdout", .boolean false), ("single", .text target)]
  | targets =>
    .ofEntries [("stdout", .boolean false),
      ("copy", .ofEntries [("deep", .boolean isDeep), ("targets", .ofTexts targets)])]

/-! ### Kinds -/

/-- A selection as a parameter. -/
def Selection.param (selection : Selection) : Value :=
  .ofEntries [("label", .text selection.pipeline), ("namespaces", .ofTexts selection.namespaces),
    ("labels", .ofTexts selection.labels)]

/-- The router of a kind, if any of its records are selected. -/
def KindRoute.routerParam (route : KindRoute) : Value :=
  if route.selected.isEmpty then .null
  else
    .ofEntries [("routes", .list (route.selected.map Selection.param)),
      ("fallback", .ofText? (if route.hasFallback then some Label.applicationAll else none))]

/-- The label of a kind. -/
def KindRoute.label (route : KindRoute) : Element :=
  .create .block (Label.ofKind route.kind) [Label.ingress] Templates.sourceType.name
    [("kind", .text route.kind.name), ("router", route.routerParam),
      ("fan", fanParam false route.targets)]

/-- The label of the records that no selector has taken. -/
def KindRoute.fallbackLabel (route : KindRoute) : Element :=
  .create .block Label.applicationAll [Label.ofKind route.kind] Templates.fanLabel.name
    [("desc", .text "Sending unrouted application to pipelines"),
      ("fan", fanParam false route.targets)]

/-- The labels of all kinds. -/
def kindElements (routing : Routing) : List Element :=
  routing.flatMap fun route =>
    route.label :: (if route.hasFallback then [route.fallbackLabel] else [])

/-! ### Pipelines -/

/--
The label of a pipeline. Its outputs get a copy each; when debugging, the console gets its records.
-/
def pipelineLabel (spec : Spec) (routing : Routing) (options : Options) (pipeline : Pipeline) :
    Element :=
  let inputs := (pipeline.inputRefs.filterMap (readingOf? spec)).map routing.labelOf
  let targets := if options.debug then [] else pipeline.outputRefs.map Name.label
  let labels :=
    if pipeline.labels.isEmpty then none else some (Value.ofDictionary pipeline.labels).compact
  .create .transform (Name.label pipeline.name) inputs.eraseDups Templates.pipeline.name
    [("name", .text pipeline.name), ("labels", .ofText? labels),
      ("parse_json", .boolean (decide (pipeline.parse = some .json))),
      ("fan", fanParam true targets)]

/-- The labels of all pipelines. -/
def pipelineElements (spec : Spec) (routing : Routing) (options : Options) : List Element :=
  spec.pipelines.map (pipelineLabel spec routing options)

/-! ### Files of the old kind -/

/-- A label that leads to a file of the old kind. -/
def legacyLabel (routing : Routing) (id description path : String) : Element :=
  .create .sink id routing.kindLabels Templates.legacy.name
    [("desc", .text description), ("include", .text path)]

/-- The labels that lead to the files of the old kind that the options ask for. -/
def legacyElements (routing : Routing) (options : Options) : List Element :=
  (if options.includeLegacySecureForward then
    [legacyLabel routing Label.legacySecureForward "legacy secure-forward.conf"
      "/etc/fluent/configs.d/secure-forward/secure-forward.conf"]
  else []) ++
    (if options.includeLegacySyslog then
      [legacyLabel routing Label.legacySyslog "legacy Syslog"
        "/etc/fluent/configs.d/syslog/syslog.conf"]
    else [])

end LogForwarder.Fluentd
