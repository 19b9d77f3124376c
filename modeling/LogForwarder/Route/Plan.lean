/-
Route plans: which outputs each input reaches, which inputs flow to each output, and the orders in
which pipelines and outputs are gone through. A plan is filled pipeline by pipeline.
-/

import LogForwarder.Dictionary
import LogForwarder.Spec.Basic

namespace LogForwarder

/-- The routes of a spec. -/
structure RoutePlan where
  /-- The outputs that each input reference reaches. -/
  byInput : Dictionary TextSet
  /-- The input references that flow to each output. -/
  byOutput : Dictionary TextSet
  /-- The names of the pipelines, in the order of the spec. -/
  orderedPipelines : List String
  /-- The declared outputs that pipelines lead to, in the order of the spec. -/
  orderedOutputs : List String
  /-- The names of the pipelines that lead to each output, each name once. -/
  pipelinesByOutput : Dictionary (List String)
  deriving DecidableEq

namespace RoutePlan

/-! ### Questions -/

/-- The outputs that an input reference reaches, in rising order. -/
def outputsFor (plan : RoutePlan) (input : String) : List String :=
  ((plan.byInput.get? input).getD ∅).toTexts

/-- The input references that flow to an output, in rising order. -/
def inputsFor (plan : RoutePlan) (output : String) : List String :=
  ((plan.byOutput.get? output).getD ∅).toTexts

/-- The names of the pipelines that lead to an output. -/
def pipelinesFor (plan : RoutePlan) (output : String) : List String :=
  (plan.pipelinesByOutput.get? output).getD []

/-- The kinds of records that flow to an output. -/
def kindsFor (plan : RoutePlan) (spec : Spec) (output : String) : List LogKind :=
  LogKind.all.filter fun kind =>
    (plan.inputsFor output).any fun input => spec.refKind? input = some kind

/-! ### Pipelines -/

/-- The plan of no pipelines. -/
def empty : RoutePlan := ⟨∅, ∅, [], [], ∅⟩

/-- A plan with one more pair of an input reference and an output that it reaches. -/
def addPair (plan : RoutePlan) (input output : String) : RoutePlan :=
  { plan with
    byInput := plan.byInput.insert input (((plan.byInput.get? input).getD ∅).insert output ())
    byOutput := plan.byOutput.insert output (((plan.byOutput.get? output).getD ∅).insert input ()) }

/-- Names with one more at their end, unless it is there. -/
def withName (names : List String) (name : String) : List String :=
  if name ∈ names then names else names ++ [name]

/-- A plan in which a pipeline of some name leads to an output. -/
def addFeeder (plan : RoutePlan) (name output : String) : RoutePlan :=
  { plan with
    pipelinesByOutput :=
      plan.pipelinesByOutput.insert output (withName (plan.pipelinesFor output) name) }

/-- A plan with all pairs of a pipeline. -/
def addPairs (plan : RoutePlan) (inputs outputs : List String) : RoutePlan :=
  inputs.foldl (fun plan input => outputs.foldl (·.addPair input ·) plan) plan

/-- A plan with one more pipeline. -/
def addPipeline (plan : RoutePlan) (pipeline : Pipeline) : RoutePlan :=
  let named := { plan with orderedPipelines := plan.orderedPipelines ++ [pipeline.name] }
  pipeline.outputRefs.foldl (·.addFeeder pipeline.name ·)
    (named.addPairs pipeline.inputRefs pipeline.outputRefs)

end RoutePlan

namespace Spec

/-- The routes of a spec. -/
def routes (spec : Spec) : RoutePlan :=
  let plan := spec.pipelines.foldl RoutePlan.addPipeline .empty
  { plan with
    orderedOutputs := (spec.outputs.map (·.name)).filter plan.pipelinesByOutput.contains }

/-- The outputs that pipelines lead to, in the order of the spec. -/
def routedOutputs (spec : Spec) : List Output := spec.routes.orderedOutputs.filterMap spec.output?

end Spec

end LogForwarder
