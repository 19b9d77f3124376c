/-
Configurations in the vector dialect: sources and their common form, the streams of kinds and
inputs, one transform per pipeline, one chain per output, and the collector's own metrics, which are
exported from a source of theirs with the name of the node.
-/

import LogForwarder.Compile.Text
import LogForwarder.Name
import LogForwarder.Route.Plan
import LogForwarder.Vector.Id
import LogForwarder.Vector.Part
import LogForwarder.Vector.Stream
import LogForwarder.Vector.Sink.Cloud
import LogForwarder.Vector.Sink.Message
import LogForwarder.Vector.Sink.Store
import LogForwarder.Vector.Transform

namespace LogForwarder.Vector

/-! ### Metrics -/

/-- The address at which metrics can be read. -/
def metricsAddress : String := "[::]:24231"

/-- The private key of the place where metrics can be read. -/
def metricsKeyFile : String := "/etc/collector/metrics/tls.key"

/-- The certificate of the place where metrics can be read. -/
def metricsCertificateFile : String := "/etc/collector/metrics/tls.crt"

/-- Transport security of the place where metrics can be read. -/
def metricsTls (options : Options) : Tls :=
  { Tls.ofOptions options true with
    keyFile := some metricsKeyFile
    certificateFile := some metricsCertificateFile }

/-- The elements that export the collector's own metrics. -/
def metrics (options : Options) : List Element :=
  [.create .source Id.internalMetrics [] Templates.internalMetrics.name [],
    remap Id.addNodename [Id.internalMetrics]
      ".tags.hostname = get_env_var!(\"VECTOR_SELF_NODE_NAME\")",
    (Element.create .sink Id.prometheusOutput [Id.addNodename] Templates.prometheus.name
      [("address", .text metricsAddress)]).withPart Templates.tls.name
        ((metricsTls options).params s!"sinks.{Id.prometheusOutput}")]

end LogForwarder.Vector

namespace LogForwarder.Vector.Sink

/-! ### Chains -/

/-- What the chain of an output of a spec is made from. -/
def ofOutput (spec : Spec) (secrets : SecretStore) (options : Options) (output : Output) :
    Sink where
  output := output
  id := Name.componentId output.name
  inputs := (spec.routes.pipelinesFor output.name).map Name.componentId
  kinds := spec.routes.kindsFor spec output.name
  secrets := secrets
  options := options

/-- The part of a chain that depends on the type of the output. -/
def tail (sink : Sink) : Except CompileError (List Element) :=
  match sink.output.type with
  | .loki => .ok sink.lokiChain
  | .elasticsearch => .ok sink.elasticsearchChain
  | .kafka => sink.kafkaChain
  | .syslog => sink.syslogChain
  | .cloudwatch => sink.cloudwatchChain
  | .http => .ok sink.httpChain
  | .splunk => sink.splunkChain
  | .azureMonitor => sink.azureMonitorChain
  | .googleCloudLogging => sink.googleCloudChain
  | .otlp => .ok sink.otlpChain
  | type => .error (.noSink sink.output.name type .vector)

/-- The chain of an output. -/
def chain (sink : Sink) : Except CompileError (List Element) := do
  return sink.head ++ (← sink.tail)

end LogForwarder.Vector.Sink

namespace LogForwarder.Vector

/-! ### Configurations -/

/-- The elements up to the pipelines, in which outputs play no part. -/
def upToPipelines (spec : Spec) : List Element :=
  let kinds := spec.routedKinds
  rawSources kinds ++ commonForms kinds ++ streams spec kinds ++ pipelines spec

/-- An arena with the chain of an output at its end. -/
def addChain (spec : Spec) (secrets : SecretStore) (options : Options) (arena : Arena)
    (output : Output) : Except CompileError Arena := do
  arena.extended (← (Sink.ofOutput spec secrets options output).chain)

/--
The elements of a spec in normal form. When debugging, the console takes the place of all outputs.
-/
def build (spec : Spec) (secrets : SecretStore) (options : Options) :
    Except CompileError Arena := do
  let arena ← Arena.empty.extended (upToPipelines spec)
  if options.debug then
    arena.extended (debugSinks spec)
  else
    let arena ← spec.routedOutputs.foldlM (addChain spec secrets options) arena
    arena.extended (metrics options)

/-- The text of a spec in normal form. -/
def generate (spec : Spec) (secrets : SecretStore) (options : Options) :
    Except CompileError String := do
  let arena ← build spec secrets options
  let engine ← Templates.engine.mapError (.templates .vector)
  arena.text engine

end LogForwarder.Vector
