/-
The normal form of a spec, which is what routes are planned and text is generated from: every
pipeline has a name, references are free of repetitions, inputs that stand for a whole kind are
referred to by that kind, and lokistacks are replaced by their tenants. One declared lokistack
stands for one endpoint per kind of records, each a tenant of its own. Expansion replaces such an
output by those of its tenants that records flow to, and splits the pipelines that lead to it, so
that no pipeline sends two kinds to one tenant.
-/

import LogForwarder.LabelKey
import LogForwarder.Spec.Basic

namespace LogForwarder

/-! ### Tenants -/

namespace LokiStackSection

/-- The address of the tenant of a kind. -/
def tenantUrl (stack : LokiStackSection) (kind : LogKind) : String :=
  s!"https://{stack.target.name}-gateway-http.{stack.target.namespaceName}.svc:8080" ++
    s!"/api/logs/v1/{kind.name}"

/--
The label keys of the tenant of a kind, in rising order and each once: those of all tenants together
with its own, unless it ignores the former. Where only tenants name keys, the defaults stand for
those of all tenants. No keys at all leave the choice to the defaults.
-/
def tenantLabelKeys (stack : LokiStackSection) (kind : LogKind) : List String :=
  match stack.labelKeys with
  | none => []
  | some keys =>
    match keys.tenant? kind with
    | none => sortedTexts keys.global
    | some tenant =>
      if tenant.ignoreGlobal then sortedTexts tenant.labelKeys
      else
        let shared := if keys.global.isEmpty then LabelKey.defaults else keys.global
        sortedTexts (shared ++ tenant.labelKeys)

end LokiStackSection

namespace Output

/-- The settings of a lokistack output that says where its stack runs. -/
def expandable? (output : Output) : Option LokiStackSection :=
  if output.type = .lokistack then
    output.lokistack.filter fun stack =>
      !stack.target.name.isEmpty && !stack.target.namespaceName.isEmpty
  else
    none

/-- The output of the tenant of a kind. -/
def tenantOutput (output : Output) (stack : LokiStackSection) (kind : LogKind) : Output :=
  let name := s!"{output.name}-{kind.name}"
  let url := stack.tenantUrl kind
  let plain : Output :=
    match stack.dataModel with
    | .viaq =>
      { Output.bare name .loki with
        url? := some url
        loki := some ⟨none, stack.tenantLabelKeys kind⟩ }
    | .otel => { Output.bare name .otlp with url? := some s!"{url}/otlp/v1/logs" }
  { plain with
    secretName := output.secretName
    tls := output.tls
    authentication := output.authentication
    tuning := output.tuning }

end Output

/-! ### Expansion -/

/-- The input references of a pipeline that resolve to one kind. -/
structure RefGroup where
  /-- The kind, unless no reference of the pipeline resolves to any. -/
  kind? : Option LogKind
  refs : List String
  deriving DecidableEq

namespace Spec

/--
The input references of a pipeline by kind; those that resolve to none ride with the first kind.
-/
def refGroups (spec : Spec) (refs : List String) : List RefGroup :=
  let ofKind (kind? : Option LogKind) : List String := refs.filter (spec.refKind? · = kind?)
  let resolved := (LogKind.all.map fun kind => RefGroup.mk (some kind) (ofKind (some kind))).filter
    fun group => !group.refs.isEmpty
  match resolved with
  | [] => [⟨none, ofKind none⟩]
  | first :: others => ⟨first.kind?, first.refs ++ ofKind none⟩ :: others

/-- The output reference of a group of inputs: a stack is replaced by its tenant. -/
def tenantRef (stackNames : List String) (kind? : Option LogKind) (reference : String) : String :=
  match kind? with
  | some kind => if reference ∈ stackNames then s!"{reference}-{kind.name}" else reference
  | none => reference

/--
The part of a pipeline that belongs to a group of its inputs. The first part keeps the pipeline's
name.
-/
def splitPart (stackNames : List String) (pipeline : Pipeline) (isFirst : Bool) (group : RefGroup) :
    Pipeline :=
  { pipeline with
    name? :=
      match isFirst, group.kind? with
      | false, some kind => some s!"{pipeline.name}-{kind.name}"
      | _, _ => pipeline.name?
    inputRefs := group.refs
    outputRefs := pipeline.outputRefs.map (tenantRef stackNames group.kind?) }

/-- The pipelines that stand for one pipeline: one per kind if it leads to a stack. -/
def splitPipeline (spec : Spec) (stackNames : List String) (pipeline : Pipeline) : List Pipeline :=
  if pipeline.outputRefs.any (· ∈ stackNames) then
    match spec.refGroups pipeline.inputRefs with
    | [] => []
    | first :: others =>
      splitPart stackNames pipeline true first :: others.map (splitPart stackNames pipeline false)
  else
    [pipeline]

/-- The kinds that pipelines send to an output. -/
def kindsTo (spec : Spec) (outputName : String) : List LogKind :=
  LogKind.all.filter fun kind =>
    spec.pipelines.any fun pipeline =>
      outputName ∈ pipeline.outputRefs &&
        pipeline.inputRefs.any fun reference => spec.refKind? reference = some kind

/-- The outputs that stand for the stack of a name: one per kind that flows to it. -/
def tenantOutputs (spec : Spec) (name : String) : List Output :=
  let stack? := spec.outputs.findSome? fun output =>
    if output.name = name then output.expandable?.map (output, ·) else none
  match stack? with
  | none => []
  | some (output, stack) => (spec.kindsTo name).map (output.tenantOutput stack)

/-- The names of the outputs that expand, each once. -/
def stackNames (spec : Spec) : List String :=
  ((spec.outputs.filter (·.expandable?.isSome)).map (·.name)).eraseDups

/--
The spec with tenants in place of stacks. Lokistacks that do not say where they run stay as they
are.
-/
def expandStacks (spec : Spec) : Spec :=
  { spec with
    outputs :=
      spec.outputs.filter (·.expandable?.isNone) ++ spec.stackNames.flatMap spec.tenantOutputs
    pipelines := spec.pipelines.flatMap (spec.splitPipeline spec.stackNames) }

end Spec

end LogForwarder

namespace LogForwarder

/-! ### Normal form -/

/-- A pipeline with a name, which is its position if it was given none. -/
def Pipeline.named (pipeline : Pipeline) (position : Nat) : Pipeline :=
  if pipeline.name.isEmpty then { pipeline with name? := some s!"pipeline_{position}" }
  else pipeline

namespace Spec

/-- An input reference in normal form: the kind itself where the input stands for all of it. -/
def normalRef (spec : Spec) (reference : String) : String :=
  if (LogKind.ofName? reference).isSome then reference
  else (((spec.input? reference).bind (·.wholeKind?)).map (·.name)).getD reference

/-- A pipeline at a position with its name and references in normal form. -/
def normalPipeline (spec : Spec) (position : Nat) (pipeline : Pipeline) : Pipeline :=
  { pipeline.named position with
    inputRefs := (pipeline.inputRefs.map spec.normalRef).eraseDups
    outputRefs := pipeline.outputRefs.eraseDups }

/-- The normal form of a spec. -/
def normalize (spec : Spec) : Spec :=
  { spec with pipelines := spec.pipelines.mapIdx spec.normalPipeline }.expandStacks

end Spec

end LogForwarder
