/-
Checks of specs. All problems are reported, however many there are: those of inputs, of outputs and
of pipelines, and then those that only one dialect has with the spec.
-/

import LogForwarder.Check.Identifier
import LogForwarder.Check.Output
import LogForwarder.Spec.Normal

namespace LogForwarder.Spec

/-! ### Inputs -/

/-- What is wrong with an input, some of whose name's bearers come before it. -/
def inputProblems (input : Input) (isRepeated : Bool) : List Problem :=
  if input.name.isEmpty then [⟨none, .emptyInputName⟩]
  else
    let causes : List Cause :=
      (if (LogKind.ofName? input.name).isSome then [.reservedInputName] else []) ++
        (if isRepeated then [.duplicateInputName] else []) ++
        (if input.sectionCount = 1 then [] else [.notOneSection])
    causes.map (⟨some (.input input.name), ·⟩)

/--
The problems of a list of things that have names, each judged with what it is and whether its name
came before.
-/
def problemsInTurn {α : Type} (name : α → String) (judge : α → Bool → List Problem)
    (earlier : List String) : List α → List Problem
  | [] => []
  | item :: rest =>
    judge item (name item ∈ earlier) ++ problemsInTurn name judge (name item :: earlier) rest

/-! ### Pipelines -/

/-- Whether an input reference leads anywhere. -/
def knowsInput (spec : Spec) (reference : String) : Bool :=
  (LogKind.ofName? reference).isSome || (spec.input? reference).isSome

/-- What is wrong with a pipeline, some of whose name's bearers come before it. -/
def pipelineProblems (spec : Spec) (pipeline : Pipeline) (isRepeated : Bool) : List Problem :=
  let causes : List Cause :=
    (if isRepeated then [.duplicatePipelineName] else []) ++
      (if pipeline.inputRefs.isEmpty then [.noInputRef] else []) ++
      (if pipeline.outputRefs.isEmpty then [.noOutputRef] else []) ++
      (pipeline.inputRefs.filter (!spec.knowsInput ·)).map .unknownInput ++
      (pipeline.outputRefs.filter fun reference => (spec.output? reference).isNone).map
        .unknownOutput
  causes.map (⟨some (.pipeline pipeline.name), ·⟩)

/-! ### Specs -/

/-- The problems of an output. -/
def outputProblems (secrets : SecretStore) (options : Options) (output : Output)
    (isRepeated : Bool) : List Problem :=
  (output.causes secrets options isRepeated).map (⟨some (.output output.name), ·⟩)

/-- The problems that a spec has in every dialect. -/
def commonProblems (spec : Spec) (secrets : SecretStore) (options : Options) : List Problem :=
  problemsInTurn (·.name) inputProblems [] spec.inputs ++
    problemsInTurn (·.name) (outputProblems secrets options) [] spec.outputs ++
    problemsInTurn (·.name) spec.pipelineProblems [] spec.pipelines

/-- The outputs whose type a dialect has no sink for. -/
def unsupportedProblems (spec : Spec) (dialect : Dialect) : List Problem :=
  (spec.outputs.filter fun output => output.type.isKnown && !dialect.supports output.type).map
    fun output => ⟨some (.output output.name), .unsupportedType output.type dialect⟩

/-- The problems that only one dialect has with a spec. -/
def dialectProblems (spec : Spec) (dialect : Dialect) : List Problem :=
  spec.unsupportedProblems dialect ++ spec.idProblems dialect

/-- All problems of a spec in normal form. -/
def normalProblems (spec : Spec) (secrets : SecretStore) (options : Options) (dialect : Dialect) :
    List Problem :=
  spec.commonProblems secrets options ++ spec.dialectProblems dialect

/-- All problems of a spec that would keep it from being compiled for a dialect. -/
def problems (spec : Spec) (secrets : SecretStore) (options : Options) (dialect : Dialect) :
    List Problem :=
  spec.normalize.normalProblems secrets options dialect

end LogForwarder.Spec
