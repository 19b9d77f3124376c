/-
Configurations in the fluentd dialect: the head of the file, the sources and the labels that all
records go through, one label for each kind, for each pipeline and for each output, and at the end
the labels that lead to files of the old kind.
-/

import LogForwarder.Compile.Text
import LogForwarder.Fluentd.Relabel
import LogForwarder.Fluentd.Section
import LogForwarder.Fluentd.Store.Cloud
import LogForwarder.Fluentd.Store.Elasticsearch
import LogForwarder.Fluentd.Store.Message
import LogForwarder.Fluentd.Store.Syslog
import LogForwarder.Route.Plan

namespace LogForwarder.Fluentd

namespace Store

/-- What the label of an output of a spec is made from. -/
def ofOutput (spec : Spec) (secrets : SecretStore) (options : Options) (output : Output) :
    Store where
  output := output
  id := Name.label output.name
  storeId := Name.storeId output.name
  inputs := (spec.routes.pipelinesFor output.name).map Name.label
  secrets := secrets
  options := options
  tuning := spec.tuning

/-- The label of an output of any type. -/
def outputLabel (store : Store) : Except CompileError Element :=
  match store.output.type with
  | .elasticsearch => store.elasticsearchLabel
  | .fluentForward => store.forwardLabel
  | .syslog => store.syslogLabel
  | .kafka => store.kafkaLabel
  | .loki => store.lokiLabel
  | .cloudwatch => store.cloudwatchLabel
  | .http => .ok store.httpLabel
  | type => .error (.noSink store.output.name type .fluentd)

end Store

/-- The elements up to the pipelines, in which outputs play no part. -/
def upToPipelines (spec : Spec) (options : Options) : List Element :=
  let routing := Routing.ofSpec spec options
  [header, metrics options] ++ sources routing ++ ingress routing ++ kindElements routing ++
    pipelineElements spec routing options

/-- An arena with the label of an output at its end. -/
def addOutput (spec : Spec) (secrets : SecretStore) (options : Options) (arena : Arena)
    (output : Output) : Except CompileError Arena := do
  arena.extended [← (Store.ofOutput spec secrets options output).outputLabel]

/--
The elements of a spec in normal form. When debugging, the console takes the place of all outputs.
-/
def build (spec : Spec) (secrets : SecretStore) (options : Options) :
    Except CompileError Arena := do
  let arena ← Arena.empty.extended (upToPipelines spec options)
  let outputs := if options.debug then [] else spec.routedOutputs
  let arena ← outputs.foldlM (addOutput spec secrets options) arena
  arena.extended (legacyElements (Routing.ofSpec spec options) options)

/-- The text of a spec in normal form. -/
def generate (spec : Spec) (secrets : SecretStore) (options : Options) :
    Except CompileError String := do
  let arena ← build spec secrets options
  let engine ← Templates.engine.mapError (.templates .fluentd)
  arena.text engine

end LogForwarder.Fluentd
