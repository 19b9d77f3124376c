/-
Explanations of routes: where the records of each input go, as a text for whoever wrote the spec.
Outputs that stand for one tenant of a lokistack say which output they come from.
-/

import LogForwarder.Route.Plan
import LogForwarder.Spec.Normal

namespace LogForwarder

/-- A pipeline as it is explained. -/
structure PipelineRoute where
  name : String
  inputs : List String
  outputs : List String
  deriving DecidableEq

/-- The routes of a spec in normal form, for readers. -/
structure RouteExplanation where
  pipelines : List PipelineRoute
  byInput : Dictionary TextSet
  byOutput : Dictionary TextSet
  orderedOutputs : List String
  /-- The outputs that expansion added, each with the declared output it comes from. -/
  expanded : List (String × String)
  deriving DecidableEq

namespace Spec

/--
The declared output that an added one comes from: the first whose name and a dash it starts with.
-/
def expandedFrom? (spec : Spec) (name : String) : Option String :=
  (spec.outputs.map (·.name)).find? fun declared =>
    (declared ++ "-").toList.isPrefixOf name.toList

/-- The explanation of a spec's routes. -/
def explain (spec : Spec) : RouteExplanation :=
  let normal := spec.normalize
  let plan := normal.routes
  let declared := spec.outputs.map (·.name)
  let added := (normal.outputs.map (·.name)).filter (· ∉ declared)
  { pipelines := normal.pipelines.map fun pipeline =>
      ⟨pipeline.name, pipeline.inputRefs, pipeline.outputRefs⟩
    byInput := plan.byInput
    byOutput := plan.byOutput
    orderedOutputs := plan.orderedOutputs
    expanded := added.filterMap fun name =>
      (spec.expandedFrom? name).map fun source => (name, source) }

end Spec

namespace RouteExplanation

/-- Names between commas. -/
def names (texts : List String) : String := ", ".intercalate texts

/-- The line of a pipeline. -/
def pipelineLine (pipeline : PipelineRoute) : String :=
  s!"  {pipeline.name}: [{names pipeline.inputs}] -> [{names pipeline.outputs}]"

/-- The line of an output. -/
def outputLine (explanation : RouteExplanation) (output : String) : String :=
  let inputs := ((explanation.byOutput.get? output).map (·.toTexts)).getD []
  let flow := s!"  {output} <- {names inputs}"
  match explanation.expanded.lookup output with
  | some source => s!"{flow}  [expanded from {source}]"
  | none => flow

/-- The lines of an explanation. -/
def lines (explanation : RouteExplanation) : List String :=
  ["Pipelines:"] ++ explanation.pipelines.map pipelineLine ++
    ["Inputs:"] ++
    explanation.byInput.entries.map (fun (input, outputs) =>
      s!"  {input} -> {names outputs.toTexts}") ++
    ["Outputs:"] ++ explanation.orderedOutputs.map explanation.outputLine

/-- The text of an explanation. -/
def text (explanation : RouteExplanation) : String :=
  String.join (explanation.lines.map (· ++ "\n"))

end RouteExplanation

end LogForwarder
