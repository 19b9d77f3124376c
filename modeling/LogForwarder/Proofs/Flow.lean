/-
This file proves that normalization keeps what a spec means. The meaning of a spec is the set of its
flows: which input is sent to which output, with which labels and in which form. Normalization
renames both ends of a flow and nothing else, each flow on its own: an input that stands for a whole
kind is called by that kind, and a stack is replaced by its tenant of the kind of the input. So the
flows of the normal form are the image of the flows of the spec, and no flow is lost or made up when
pipelines are split. The outputs of the normal form are also counted exactly: those that are no
stacks, and behind them one tenant for every stack and every kind that is sent to it.
-/

import LogForwarder.Proofs.Normal
import Mathlib.Data.Set.Image

namespace LogForwarder

/-! ### Flows -/

/-- A way of records through a spec: from an input to an output, with what is done to them. -/
structure Flow where
  input : String
  output : String
  labels : Dictionary String
  parse : Option ParseFormat
  deriving DecidableEq

/-- The flows of a pipeline: from each of its inputs to each of its outputs. -/
def Pipeline.flows (pipeline : Pipeline) : Set Flow :=
  {flow | flow.input ∈ pipeline.inputRefs ∧ flow.output ∈ pipeline.outputRefs ∧
    flow.labels = pipeline.labels ∧ flow.parse = pipeline.parse}

namespace Spec

/-- The flows of a spec are those of its pipelines. -/
def flows (spec : Spec) : Set Flow := {flow | ∃ pipeline ∈ spec.pipelines, flow ∈ pipeline.flows}

/--
What an input is called in normal form: by its kind, if it is a user's and stands for all of it.
-/
def inputInNormalForm (spec : Spec) (reference : String) : String :=
  match LogKind.ofName? reference, (spec.input? reference).bind (·.wholeKind?) with
  | none, some kind => kind.name
  | _, _ => reference

/--
What an output is called in normal form in a flow of some kind: by its tenant, if it is a stack.
-/
def outputInNormalForm (spec : Spec) (kind? : Option LogKind) (reference : String) : String :=
  match kind? with
  | some kind => if spec.HasStack reference then tenantName reference kind else reference
  | none => reference

/-- A flow whose input is called as in normal form. -/
def withNormalInput (spec : Spec) (flow : Flow) : Flow :=
  { flow with input := spec.inputInNormalForm flow.input }

/-- A flow whose output is called as in normal form. -/
def withNormalOutput (spec : Spec) (flow : Flow) : Flow :=
  { flow with output := spec.outputInNormalForm (spec.refKind? flow.input) flow.output }

/-- A flow whose ends are called as in normal form. -/
def normalFlow (spec : Spec) (flow : Flow) : Flow :=
  { flow with
    input := spec.inputInNormalForm flow.input
    output := spec.outputInNormalForm (spec.refKind? flow.input) flow.output }

/-! ### Tidying -/

theorem inputInNormalForm_eq (spec : Spec) (reference : String) :
    spec.inputInNormalForm reference = spec.normalRef reference := by
  unfold inputInNormalForm
  cases reserved : LogKind.ofName? reference with
  | some kind => exact (spec.normalRef_of_ofName? reserved).symm
  | none =>
    rw [spec.normalRef_of_ofName?_none reserved]
    cases (spec.input? reference).bind (·.wholeKind?) <;> rfl

/-- Tidying calls the inputs of flows as in normal form. -/
theorem flows_tidied (spec : Spec) : spec.tidied.flows = spec.withNormalInput '' spec.flows := by
  refine Set.ext fun flow => ⟨?_, ?_⟩
  · rintro ⟨pipeline, member, reads, leads, labels, parse⟩
    obtain ⟨original, declared, tidied⟩ := spec.exists_original pipeline member
    obtain ⟨reference, given, normal⟩ := (tidied.mem_inputRefs flow.input).mp reads
    refine ⟨{ flow with input := reference }, ⟨original, declared, given,
      (tidied.mem_outputRefs flow.output).mp leads, labels.trans tidied.labels,
      parse.trans tidied.parse⟩, ?_⟩
    show { flow with input := spec.inputInNormalForm reference } = flow
    rw [inputInNormalForm_eq, normal]
  · rintro ⟨source, ⟨original, declared, given, leads, labels, parse⟩, rfl⟩
    obtain ⟨pipeline, member, tidied⟩ := spec.exists_tidied original declared
    refine ⟨pipeline, member, ?_, (tidied.mem_outputRefs source.output).mpr leads,
      labels.trans tidied.labels.symm, parse.trans tidied.parse.symm⟩
    show spec.inputInNormalForm source.input ∈ pipeline.inputRefs
    rw [inputInNormalForm_eq]
    exact (tidied.mem_inputRefs _).mpr ⟨source.input, given, rfl⟩

/-! ### Expansion -/

/-- The reference to an output in a part for a kind is what the output is called in normal form. -/
theorem tenantRef_eq (spec : Spec) (kind? : Option LogKind) (reference : String) :
    tenantRef spec.stackNames kind? reference = spec.outputInNormalForm kind? reference := by
  cases kind? with
  | none => rfl
  | some kind => exact spec.tenantRef_some kind reference

theorem outputInNormalForm_of_hasStack (spec : Spec) (kind : LogKind) (reference : String)
    (isStack : spec.HasStack reference) :
    spec.outputInNormalForm (some kind) reference = tenantName reference kind :=
  if_pos isStack

theorem outputInNormalForm_of_not_hasStack (spec : Spec) (kind? : Option LogKind)
    (reference : String) (plain : ¬spec.HasStack reference) :
    spec.outputInNormalForm kind? reference = reference := by
  unfold outputInNormalForm
  cases kind? with
  | none => rfl
  | some kind => exact if_neg plain

/-- Whether every input reference of a pipeline resolves to a kind. -/
def Resolves (spec : Spec) (pipeline : Pipeline) : Prop :=
  ∀ reference ∈ pipeline.inputRefs, (spec.refKind? reference).isSome

/--
The flows of the parts of a pipeline are those of the pipeline, with tenants in place of stacks. The
kind of the input of a flow says which part the flow is in.
-/
theorem flows_splitPipeline (spec : Spec) (pipeline : Pipeline)
    (resolves : spec.Resolves pipeline) (flow : Flow) :
    (∃ part ∈ spec.splitPipeline spec.stackNames pipeline, flow ∈ part.flows) ↔
      ∃ source ∈ pipeline.flows, spec.withNormalOutput source = flow := by
  by_cases leadsToStack : spec.LeadsToStack pipeline
  · refine ⟨?_, ?_⟩
    · rintro ⟨part, member, reads, leads, labels, parse⟩
      obtain ⟨group, inGroups, isPart⟩ :=
        spec.exists_group_of_mem_splitPipeline pipeline part leadsToStack member
      have inGroup : flow.input ∈ group.refs := isPart.inputRefs ▸ reads
      rw [isPart.outputRefs] at leads
      obtain ⟨target, given, renamed⟩ := List.mem_map.mp leads
      have inPipeline := spec.mem_of_mem_refGroup inGroups inGroup
      have ofGroup := spec.refKind?_of_mem_refGroup inGroups inGroup
        (resolves flow.input inPipeline)
      refine ⟨{ flow with output := target }, ⟨inPipeline, given, labels.trans isPart.labels,
        parse.trans isPart.parse⟩, ?_⟩
      show { flow with output := spec.outputInNormalForm (spec.refKind? flow.input) target } = flow
      rw [ofGroup, ← tenantRef_eq, renamed]
    · rintro ⟨source, ⟨reads, leads, labels, parse⟩, rfl⟩
      obtain ⟨kind, resolved⟩ := Option.isSome_iff_exists.mp (resolves source.input reads)
      obtain ⟨group, inGroups, ofKind, inGroup⟩ :=
        spec.exists_refGroup_of_kind pipeline.inputRefs source.input reads kind resolved
      obtain ⟨part, member, isPart⟩ :=
        spec.exists_part_of_mem_refGroups pipeline group leadsToStack inGroups
      refine ⟨part, member, isPart.inputRefs ▸ inGroup, ?_, labels.trans isPart.labels.symm,
        parse.trans isPart.parse.symm⟩
      show spec.outputInNormalForm (spec.refKind? source.input) source.output ∈ part.outputRefs
      rw [isPart.outputRefs, resolved, ← ofKind, ← tenantRef_eq]
      exact List.mem_map_of_mem leads
  · have unchanged : ∀ source ∈ pipeline.flows, spec.withNormalOutput source = source := by
      intro source ⟨_, leads, _⟩
      have plain : ¬spec.HasStack source.output :=
        fun isStack => leadsToStack ⟨source.output, leads, isStack⟩
      unfold withNormalOutput
      rw [spec.outputInNormalForm_of_not_hasStack _ _ plain]
    rw [spec.splitPipeline_of_not_leadsToStack pipeline leadsToStack]
    refine ⟨?_, ?_⟩
    · rintro ⟨part, member, inPart⟩
      rw [List.mem_singleton.mp member] at inPart
      exact ⟨flow, inPart, unchanged flow inPart⟩
    · rintro ⟨source, inPipeline, rfl⟩
      rw [unchanged source inPipeline]
      exact ⟨pipeline, List.mem_singleton_self pipeline, inPipeline⟩

/-- Expansion calls the outputs of flows as in normal form. -/
theorem flows_expandStacks (spec : Spec)
    (resolves : ∀ pipeline ∈ spec.pipelines, spec.Resolves pipeline) :
    spec.expandStacks.flows = spec.withNormalOutput '' spec.flows := by
  refine Set.ext fun flow => ⟨?_, ?_⟩
  · rintro ⟨part, member, inPart⟩
    obtain ⟨pipeline, declared, isPart⟩ := List.mem_flatMap.mp member
    obtain ⟨source, inPipeline, renamed⟩ :=
      (spec.flows_splitPipeline pipeline (resolves pipeline declared) flow).mp
        ⟨part, isPart, inPart⟩
    exact ⟨source, ⟨pipeline, declared, inPipeline⟩, renamed⟩
  · rintro ⟨source, ⟨pipeline, declared, inPipeline⟩, renamed⟩
    obtain ⟨part, isPart, inPart⟩ :=
      (spec.flows_splitPipeline pipeline (resolves pipeline declared) flow).mpr
        ⟨source, inPipeline, renamed⟩
    exact ⟨part, List.mem_flatMap.mpr ⟨pipeline, declared, isPart⟩, inPart⟩

theorem resolves_tidied (spec : Spec)
    (resolves : ∀ pipeline ∈ spec.pipelines, spec.Resolves pipeline) :
    ∀ pipeline ∈ spec.tidied.pipelines, spec.tidied.Resolves pipeline := by
  intro pipeline member reference reads
  obtain ⟨original, declared, tidied⟩ := spec.exists_original pipeline member
  obtain ⟨other, given, rfl⟩ := (tidied.mem_inputRefs reference).mp reads
  rw [refKind?_tidied, refKind?_normalRef]
  exact resolves original declared other given

/-- The flows of the normal form are those of the spec, with both ends called as in normal form. -/
theorem flows_normalize (spec : Spec)
    (resolves : ∀ pipeline ∈ spec.pipelines, spec.Resolves pipeline) :
    spec.normalize.flows = spec.normalFlow '' spec.flows := by
  have composed : spec.tidied.withNormalOutput ∘ spec.withNormalInput = spec.normalFlow := by
    funext flow
    show ({ flow with
      input := spec.inputInNormalForm flow.input
      output := spec.outputInNormalForm (spec.refKind? (spec.inputInNormalForm flow.input))
        flow.output } : Flow) = spec.normalFlow flow
    rw [inputInNormalForm_eq, refKind?_normalRef, ← inputInNormalForm_eq]
    rfl
  rw [normalize_eq, flows_expandStacks _ (spec.resolves_tidied resolves), flows_tidied,
    ← Set.image_comp, composed]

/--
Records of a kind are sent to an output exactly if a flow from an input of the kind ends there.
-/
theorem sends_iff_exists_flow (spec : Spec) (kind : LogKind) (output : String) :
    spec.Sends kind output ↔
      ∃ flow ∈ spec.flows, flow.output = output ∧ spec.refKind? flow.input = some kind := by
  refine ⟨?_, ?_⟩
  · rintro ⟨pipeline, declared, leads, reference, reads, resolved⟩
    exact ⟨⟨reference, output, pipeline.labels, pipeline.parse⟩,
      ⟨pipeline, declared, reads, leads, rfl, rfl⟩, rfl, resolved⟩
  · rintro ⟨flow, ⟨pipeline, declared, reads, leads, _, _⟩, rfl, resolved⟩
    exact ⟨pipeline, declared, leads, flow.input, reads, resolved⟩

/-! ### Outputs -/

/-- What a tenant takes over from its stack, and where it is found. -/
structure IsTenant (stack : Output) (kind : LogKind) (tenant : Output) : Prop where
  name : tenant.name = tenantName stack.name kind
  secretName : tenant.secretName = stack.secretName
  tls : tenant.tls = stack.tls
  authentication : tenant.authentication = stack.authentication
  tuning : tenant.tuning = stack.tuning
  endpoint : ∃ settings, stack.lokistack = some settings ∧
    ((settings.dataModel = .viaq ∧ tenant.type = .loki ∧
        tenant.url? = some (settings.tenantUrl kind)) ∨
      (settings.dataModel = .otel ∧ tenant.type = .otlp ∧
        tenant.url? = some (settings.tenantUrl kind ++ "/otlp/v1/logs")))

theorem isTenant_tenantOutput (output : Output) (settings : LokiStackSection) (kind : LogKind)
    (declared : output.lokistack = some settings) :
    IsTenant output kind (output.tenantOutput settings kind) where
  name := output.name_tenantOutput settings kind
  secretName := rfl
  tls := rfl
  authentication := rfl
  tuning := rfl
  endpoint := by
    refine ⟨settings, declared, ?_⟩
    unfold Output.tenantOutput
    cases model : settings.dataModel with
    | viaq => exact .inl ⟨rfl, rfl, rfl⟩
    | otel => exact .inr ⟨rfl, rfl, rfl⟩

/--
The tenants of a spec: for each name of a stack, in the order in which they are declared first, the
kinds that are sent to it.
-/
def tenantsInOrder (spec : Spec) : List (String × LogKind) :=
  (((spec.outputs.filter (·.IsStack)).map (·.name)).eraseDups).flatMap fun name =>
    (LogKind.all.filter fun kind => spec.Sends kind name).map fun kind => (name, kind)

/-- The names of the stacks, each once and in the order in which they are declared first. -/
theorem stackNames_eq (spec : Spec) :
    spec.stackNames = ((spec.outputs.filter (·.IsStack)).map (·.name)).eraseDups := by
  have same : ∀ output : Output, output.expandable?.isSome = decide output.IsStack := by
    intro output
    rw [Bool.eq_iff_iff, output.isSome_expandable?_iff, decide_eq_true_eq]
  unfold stackNames
  simp only [same]

/-- The kinds for which a stack has tenants after tidying are those that are sent to it. -/
theorem kindsTo_tidied (spec : Spec) (name : String) :
    spec.tidied.kindsTo name = LogKind.all.filter fun kind => spec.Sends kind name := by
  have filtered : spec.tidied.kindsTo name =
      LogKind.all.filter fun kind => decide (kind ∈ spec.tidied.kindsTo name) := by
    conv_lhs => unfold kindsTo
    refine List.filter_congr fun kind _ => ?_
    rw [Bool.eq_iff_iff, decide_eq_true_eq]
    unfold kindsTo
    rw [List.mem_filter]
    exact ⟨fun sent => ⟨LogKind.mem_all kind, sent⟩, fun sent => sent.2⟩
  rw [filtered]
  refine List.filter_congr fun kind _ => ?_
  rw [Bool.eq_iff_iff, decide_eq_true_eq, decide_eq_true_eq, mem_kindsTo, sends_tidied]

/-- The outputs behind those that are no stacks are tenants, in order. -/
theorem forall₂_tenants (spec : Spec) :
    List.Forall₂ (fun (name, kind) tenant => ∃ stack,
        spec.firstStack? name = some stack ∧ IsTenant stack kind tenant)
      spec.tenantsInOrder (spec.stackNames.flatMap spec.tidied.tenantOutputs) := by
  have eachStack : ∀ name ∈ spec.stackNames,
      List.Forall₂ (fun (name, kind) tenant => ∃ stack,
          spec.firstStack? name = some stack ∧ IsTenant stack kind tenant)
        ((LogKind.all.filter fun kind => spec.Sends kind name).map fun kind => (name, kind))
        (spec.tidied.tenantOutputs name) := by
    intro name member
    obtain ⟨output, settings, found, _, expands⟩ :=
      spec.exists_firstStack? name ((spec.mem_stackNames name).mp member)
    have declared := ((output.expandable?_eq_some_iff settings).mp expands).2.1
    rw [spec.tidied.tenantOutputs_eq name output settings found expands, kindsTo_tidied,
      List.forall₂_map_left_iff, List.forall₂_map_right_iff, List.forall₂_same]
    intro kind _
    exact ⟨output, found, isTenant_tenantOutput output settings kind declared⟩
  have names : List.Forall₂ (fun first second => first = second ∧ first ∈ spec.stackNames)
      spec.stackNames spec.stackNames :=
    List.forall₂_same.mpr fun name member => ⟨rfl, member⟩
  unfold tenantsInOrder
  rw [← stackNames_eq]
  refine List.rel_flatMap names ?_
  rintro name _ ⟨rfl, member⟩
  exact eachStack name member

/-! ### What normalization keeps -/

/--
Normalization keeps what a spec means. If all input references resolve, then the flows of the normal
form are those of the spec with both ends called as in normal form; its outputs are those that are
no stacks, and behind them one tenant per stack and kind that is sent to it, in order; its inputs
and its tuning are those of the spec.
-/
theorem normalize_keeps_meaning (spec : Spec)
    (resolves : ∀ pipeline ∈ spec.pipelines, spec.Resolves pipeline) :
    spec.normalize.flows = spec.normalFlow '' spec.flows ∧
      (∃ tenants, spec.normalize.outputs =
          spec.outputs.filter (fun output => ¬output.IsStack) ++ tenants ∧
        List.Forall₂ (fun (name, kind) tenant => ∃ stack,
            spec.firstStack? name = some stack ∧ IsTenant stack kind tenant)
          spec.tenantsInOrder tenants) ∧
      spec.normalize.inputs = spec.inputs ∧ spec.normalize.tuning = spec.tuning := by
  refine ⟨spec.flows_normalize resolves,
    ⟨spec.stackNames.flatMap spec.tidied.tenantOutputs, ?_, spec.forall₂_tenants⟩, rfl, rfl⟩
  show spec.outputs.filter (·.expandable?.isNone) ++ _ = _
  have kept : ∀ output : Output, output.expandable?.isNone = decide ¬output.IsStack := by
    intro output
    rw [Bool.eq_iff_iff, decide_eq_true_eq, ← output.isSome_expandable?_iff,
      Option.isNone_iff_eq_none, Option.not_isSome_iff_eq_none]
  simp only [kept]
  rfl

/--
A spec with a stack and a plain output, to which audit records and an input for all applications are
sent.
-/
def stackAndStore : Spec where
  inputs := [⟨"apps", some ⟨[], none⟩, none, none⟩]
  outputs :=
    [{ Output.bare "stack" .lokistack with
        secretName := some "token"
        lokistack := some { (default : LokiStackSection) with target := ⟨"store", "logs"⟩ } },
      { Output.bare "index" .elasticsearch with url? := some "https://index.logs:9200" }]
  pipelines := [⟨some "all", ["apps", "audit"], ["stack", "index"], ∅, some .json⟩]
  tuning := none

/-- The audit records of that spec are sent to the tenant for them, with their form kept. -/
theorem normalize_keeps_meaning_stackAndStore :
    (∀ pipeline ∈ stackAndStore.pipelines, stackAndStore.Resolves pipeline) ∧
      (⟨"audit", "stack-audit", ∅, some .json⟩ : Flow) ∈ stackAndStore.normalize.flows ∧
      stackAndStore.tenantsInOrder = [("stack", .application), ("stack", .audit)] := by
  have resolves : ∀ pipeline ∈ stackAndStore.pipelines, stackAndStore.Resolves pipeline := by
    unfold Resolves
    decide
  refine ⟨resolves, ?_, by decide⟩
  rw [(normalize_keeps_meaning stackAndStore resolves).1]
  exact ⟨⟨"audit", "stack", ∅, some .json⟩,
    ⟨_, List.mem_singleton_self _, by decide, by decide, rfl, rfl⟩, by decide⟩

end Spec

end LogForwarder
