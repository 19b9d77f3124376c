/-
Specs: the declaration of what is collected and where it goes. Pipelines lead from inputs to
outputs, both given by name; behind the inputs stand the kinds of records that they narrow, some of
them in name only, so that they stand for all records of their kind.
-/

import LogForwarder.Document.Codec
import LogForwarder.Spec.Output

namespace LogForwarder

/-! ### Pipelines -/

/-- How the message of a record is taken apart. -/
inductive ParseFormat
  | json
  deriving DecidableEq

/-- A pipeline from inputs to outputs, both given by name. -/
structure Pipeline where
  name? : Option String
  inputRefs : List String
  outputRefs : List String
  /-- Labels that are added to every record. -/
  labels : Dictionary String
  parse : Option ParseFormat
  deriving DecidableEq, Inhabited

/-- The name of a pipeline, which is empty if it has none. -/
def Pipeline.name (pipeline : Pipeline) : String := pipeline.name?.getD ""

/-- The name of a format. -/
def ParseFormat.name : ParseFormat → String
  | .json => "json"

/-- Declared pipelines. -/
def Pipeline.codec : Codec Pipeline :=
  .record "PipelineSpec"
    (.cons (.optional "name" .text) <|
      .cons (.defaulted "inputRefs" (.list .text) []) <|
      .cons (.defaulted "outputRefs" (.list .text) []) <|
      .cons (.defaulted "labels" (.dictionary .text) ∅) <|
      .cons (.optional "parse" (.choiceOf ParseFormat.name [.json])) .nil)
    (fun pipeline =>
      (pipeline.name?, pipeline.inputRefs, pipeline.outputRefs, pipeline.labels, pipeline.parse,
        ()))
    (fun (name, inputRefs, outputRefs, labels, parse, ()) =>
      ⟨name, inputRefs, outputRefs, labels, parse⟩)

/-! ### Specs -/

/-- What a forwarder collects, and where it sends that. -/
structure Spec where
  inputs : List Input
  outputs : List Output
  pipelines : List Pipeline
  tuning : Option Tuning
  deriving DecidableEq, Inhabited

namespace Spec

/-- The spec that collects nothing. -/
def empty : Spec := ⟨[], [], [], none⟩

/-- The first input of a name. -/
def input? (spec : Spec) (name : String) : Option Input := spec.inputs.find? (·.name = name)

/-- The first output of a name. -/
def output? (spec : Spec) (name : String) : Option Output := spec.outputs.find? (·.name = name)

/-- The fields of a spec. -/
def fields : Fields [List Input, List Output, List Pipeline, Option Tuning] :=
  .cons (.defaulted "inputs" (.list Input.codec) []) <|
    .cons (.defaulted "outputs" (.list Output.codec) []) <|
    .cons (.defaulted "pipelines" (.list Pipeline.codec) []) <|
    .cons (.optional "tuning" Tuning.codec) .nil

/-- Specs. -/
def codec : Codec Spec :=
  .record "ForwarderSpec" fields
    (fun spec => (spec.inputs, spec.outputs, spec.pipelines, spec.tuning, ()))
    (fun (inputs, outputs, pipelines, tuning, ()) => { inputs, outputs, pipelines, tuning })

end Spec

/-! ### Kinds behind inputs -/

/-- Whether an input takes in all records of a kind that it narrows to some sources. -/
def selectsAll {α : Type} [DecidableEq α] (all chosen : List α) : Bool :=
  chosen.isEmpty || all.all (· ∈ chosen)

/-- The kind that an input stands for as a whole, if it leaves out none of its records. -/
def Input.wholeKind? (input : Input) : Option LogKind :=
  match input.kind? with
  | some .application => if input.hasSelector then none else some .application
  | some .infrastructure =>
    if input.infrastructure.any fun section' => selectsAll InfrastructureSource.all section'.sources
    then some .infrastructure
    else none
  | some .audit =>
    if input.audit.any fun section' => selectsAll AuditSource.all section'.sources
    then some .audit
    else none
  | none => none

namespace Spec

/--
The kind that an input reference resolves to: the reserved one of that name, or the one that the
input of that name narrows.
-/
def refKind? (spec : Spec) (reference : String) : Option LogKind :=
  LogKind.ofName? reference <|> (spec.input? reference).bind (·.kind?)

/-- The kinds that pipelines read, directly or through an input that narrows them. -/
def routedKinds (spec : Spec) : List LogKind :=
  LogKind.all.filter fun kind =>
    spec.pipelines.any fun pipeline =>
      pipeline.inputRefs.any fun reference => spec.refKind? reference = some kind

end Spec

end LogForwarder
