/-
This file proves that a route plan is exact: it tells of the pipelines of a spec what is so, and
nothing else. A plan is filled pipeline by pipeline, and a pipeline adds each of its pairs of an
input and an output to two tables; so for each question that can be put to a plan it is shown first
what one pipeline adds to the answer, and from there what all of them do. Which inputs and which
kinds flow to an output, and which pipelines lead to it, are so many ways to say that some pipeline
has both.
-/

import LogForwarder.Proofs.Lookup
import LogForwarder.Proofs.Normal

namespace LogForwarder

/-! ### Pairs -/

namespace RoutePlan

theorem mem_outputsFor_addPair (plan : RoutePlan) (input output sought target : String) :
    target ∈ (plan.addPair input output).outputsFor sought ↔
      sought = input ∧ target = output ∨ target ∈ plan.outputsFor sought :=
  mem_toTexts_insert plan.byInput input output sought target

theorem mem_inputsFor_addPair (plan : RoutePlan) (input output source sought : String) :
    source ∈ (plan.addPair input output).inputsFor sought ↔
      source = input ∧ sought = output ∨ source ∈ plan.inputsFor sought :=
  (mem_toTexts_insert plan.byOutput output input sought source).trans (or_congr_left and_comm)

/-- A plan tells of a pair what it told before, unless the pair is among those that are added. -/
theorem addPairs_iff (tells : RoutePlan → Prop) {input output : String}
    (step : ∀ plan first second,
      tells (plan.addPair first second) ↔ input = first ∧ output = second ∨ tells plan)
    (plan : RoutePlan) (inputs outputs : List String) :
    tells (plan.addPairs inputs outputs) ↔ input ∈ inputs ∧ output ∈ outputs ∨ tells plan := by
  have row (plan : RoutePlan) (first : String) :
      tells (outputs.foldl (·.addPair first ·) plan) ↔
        input = first ∧ output ∈ outputs ∨ tells plan := by
    refine (foldl_iff_exists tells (fun second => input = first ∧ output = second)
      (fun plan second => step plan first second) outputs plan).trans (or_congr_left ?_)
    simp only [and_left_comm, exists_and_left, exists_eq_right']
  refine (foldl_iff_exists tells (fun first => input = first ∧ output ∈ outputs) row inputs
    plan).trans (or_congr_left ?_)
  simp only [← and_assoc, exists_and_right, and_comm, exists_eq_left']

/-! ### Feeders -/

theorem pipelinesByOutput_addPairs (plan : RoutePlan) (inputs outputs : List String) :
    (plan.addPairs inputs outputs).pipelinesByOutput = plan.pipelinesByOutput := by
  have row (plan : RoutePlan) (input : String) :
      (outputs.foldl (·.addPair input ·) plan).pipelinesByOutput = plan.pipelinesByOutput := by
    induction outputs generalizing plan with
    | nil => rfl
    | cons output rest inductionHypothesis => exact inductionHypothesis (plan.addPair input output)
  induction inputs generalizing plan with
  | nil => rfl
  | cons input rest inductionHypothesis => exact (inductionHypothesis _).trans (row plan input)

/-- Feeders leave the tables of pairs as they are. -/
theorem foldl_addFeeder (plan : RoutePlan) (name : String) (outputs : List String) :
    outputs.foldl (·.addFeeder name ·) plan =
      { plan with
        pipelinesByOutput := (outputs.foldl (·.addFeeder name ·) plan).pipelinesByOutput } := by
  induction outputs generalizing plan with
  | nil => rfl
  | cons output rest inductionHypothesis => exact inductionHypothesis (plan.addFeeder name output)

theorem withName_withName (names : List String) (name : String) :
    withName (withName names name) name = withName names name := by
  have present : name ∈ withName names name := by
    unfold withName
    split
    · assumption
    · exact List.mem_append_right names (List.mem_singleton_self name)
  exact if_pos present

theorem pipelinesFor_addFeeder (plan : RoutePlan) (name output sought : String) :
    (plan.addFeeder name output).pipelinesFor sought =
      if sought = output then withName (plan.pipelinesFor sought) name
      else plan.pipelinesFor sought := by
  have found : (plan.addFeeder name output).pipelinesFor sought =
      ((plan.pipelinesByOutput.insert output (withName (plan.pipelinesFor output) name)).get?
        sought).getD [] := rfl
  rw [found, Dictionary.get?_insert]
  split
  · next same =>
    rw [same]
    rfl
  · rfl

theorem pipelinesFor_foldl_addFeeder (plan : RoutePlan) (name : String) (outputs : List String)
    (sought : String) :
    (outputs.foldl (·.addFeeder name ·) plan).pipelinesFor sought =
      if sought ∈ outputs then withName (plan.pipelinesFor sought) name
      else plan.pipelinesFor sought := by
  induction outputs generalizing plan with
  | nil => rfl
  | cons output rest inductionHypothesis =>
    rw [List.foldl_cons, inductionHypothesis, pipelinesFor_addFeeder]
    by_cases same : sought = output
    · rw [if_pos same, withName_withName, ite_self, if_pos (List.mem_cons.mpr (.inl same))]
    · simp only [List.mem_cons, same, false_or, if_false]

/-! ### Pipelines -/

theorem mem_outputsFor_addPipeline (plan : RoutePlan) (pipeline : Pipeline)
    (input output : String) :
    output ∈ (plan.addPipeline pipeline).outputsFor input ↔
      input ∈ pipeline.inputRefs ∧ output ∈ pipeline.outputRefs ∨
        output ∈ plan.outputsFor input := by
  unfold addPipeline
  rw [foldl_addFeeder]
  exact addPairs_iff (fun plan => output ∈ plan.outputsFor input)
    (fun plan first second => mem_outputsFor_addPair plan first second input output) _ _ _

theorem mem_inputsFor_addPipeline (plan : RoutePlan) (pipeline : Pipeline)
    (input output : String) :
    input ∈ (plan.addPipeline pipeline).inputsFor output ↔
      input ∈ pipeline.inputRefs ∧ output ∈ pipeline.outputRefs ∨
        input ∈ plan.inputsFor output := by
  unfold addPipeline
  rw [foldl_addFeeder]
  exact addPairs_iff (fun plan => input ∈ plan.inputsFor output)
    (fun plan first second => mem_inputsFor_addPair plan first second input output) _ _ _

theorem pipelinesFor_addPipeline (plan : RoutePlan) (pipeline : Pipeline) (output : String) :
    (plan.addPipeline pipeline).pipelinesFor output =
      if output ∈ pipeline.outputRefs then withName (plan.pipelinesFor output) pipeline.name
      else plan.pipelinesFor output := by
  unfold addPipeline
  rw [pipelinesFor_foldl_addFeeder]
  unfold pipelinesFor
  rw [pipelinesByOutput_addPairs]

theorem mem_keys_addPipeline (plan : RoutePlan) (pipeline : Pipeline) (output : String) :
    output ∈ (plan.addPipeline pipeline).pipelinesByOutput.keys ↔
      output ∈ pipeline.outputRefs ∨ output ∈ plan.pipelinesByOutput.keys := by
  have feeds (plan : RoutePlan) (other : String) :
      output ∈ (plan.addFeeder pipeline.name other).pipelinesByOutput.keys ↔
        output = other ∨ output ∈ plan.pipelinesByOutput.keys :=
    plan.pipelinesByOutput.mem_keys_insert other output _
  refine (foldl_iff_exists (fun plan : RoutePlan => output ∈ plan.pipelinesByOutput.keys) (output = ·)
    feeds pipeline.outputRefs _).trans ?_
  rw [pipelinesByOutput_addPairs, exists_eq_right']

/-- The names of all pipelines that lead to an output are taken in turn. -/
theorem pipelinesFor_foldl_addPipeline (plan : RoutePlan) (pipelines : List Pipeline)
    (output : String) :
    (pipelines.foldl addPipeline plan).pipelinesFor output =
      ((pipelines.filter (output ∈ ·.outputRefs)).map (·.name)).foldl withName
        (plan.pipelinesFor output) := by
  induction pipelines generalizing plan with
  | nil => rfl
  | cons pipeline rest inductionHypothesis =>
    rw [List.foldl_cons, inductionHypothesis, pipelinesFor_addPipeline]
    by_cases leads : output ∈ pipeline.outputRefs
    · rw [if_pos leads, List.filter_cons, if_pos (decide_eq_true leads), List.map_cons,
        List.foldl_cons]
    · rw [if_neg leads, List.filter_cons, if_neg (by simpa using leads)]

/-! ### Names in turn -/

/-- Whether names are those of a list, each once, in the order in which it first gives them. -/
structure ListsOnce (names all : List String) : Prop where
  nodup : names.Nodup
  mem_iff : ∀ name, name ∈ names ↔ name ∈ all
  inOrder : names.Pairwise fun first second => all.idxOf first < all.idxOf second

theorem ListsOnce.withName {names all : List String} (once : ListsOnce names all) (name : String) :
    ListsOnce (withName names name) (all ++ [name]) := by
  have before {other : String} (present : other ∈ names) :
      (all ++ [name]).idxOf other = all.idxOf other :=
    List.idxOf_append_of_mem ((once.mem_iff other).mp present)
  have stillInOrder : names.Pairwise fun first second =>
      (all ++ [name]).idxOf first < (all ++ [name]).idxOf second :=
    once.inOrder.imp_of_mem fun first second earlier => by
      rw [before first, before second]
      exact earlier
  unfold RoutePlan.withName
  split
  · next present =>
    refine ⟨once.nodup, fun other => ?_, stillInOrder⟩
    rw [List.mem_append, List.mem_singleton, once.mem_iff]
    exact (or_iff_left_of_imp fun same => same ▸ (once.mem_iff name).mp present).symm
  · next absent =>
    have new : name ∉ all := mt (once.mem_iff name).mpr absent
    refine ⟨once.nodup.append (List.nodup_singleton name) (by simpa using absent), fun other => ?_,
      List.pairwise_append.mpr ⟨stillInOrder, List.pairwise_singleton _ _, ?_⟩⟩
    · rw [List.mem_append, List.mem_append, once.mem_iff]
    · intro other present last isLast
      rw [List.mem_singleton.mp isLast, before present, List.idxOf_append_of_notMem new,
        List.idxOf_cons_self, Nat.add_zero]
      exact List.idxOf_lt_length_of_mem ((once.mem_iff other).mp present)

theorem ListsOnce.foldl_withName {names before : List String} (once : ListsOnce names before)
    (rest : List String) : ListsOnce (rest.foldl RoutePlan.withName names) (before ++ rest) := by
  induction rest generalizing names before with
  | nil =>
    rw [List.append_nil]
    exact once
  | cons name rest inductionHypothesis =>
    rw [List.foldl_cons, List.append_cons]
    exact inductionHypothesis (once.withName name)

end RoutePlan

/-! ### Plans -/

namespace Spec

/-- Whether some pipeline leads to the output of a name. -/
def Routes (spec : Spec) (output : String) : Prop :=
  ∃ pipeline ∈ spec.pipelines, output ∈ pipeline.outputRefs

instance decidableRoutes (spec : Spec) (output : String) : Decidable (spec.Routes output) :=
  inferInstanceAs (Decidable (∃ pipeline ∈ spec.pipelines, output ∈ pipeline.outputRefs))

/-- The kinds that go anywhere are those that references of pipelines resolve to. -/
theorem mem_routedKinds (spec : Spec) (kind : LogKind) :
    kind ∈ spec.routedKinds ↔
      ∃ pipeline ∈ spec.pipelines, ∃ reference ∈ pipeline.inputRefs,
        spec.refKind? reference = some kind := by
  unfold routedKinds
  simp only [List.mem_filter, LogKind.mem_all, true_and, List.any_eq_true, decide_eq_true_eq]

/-- The outputs that a plan gives for an input are those of the pipelines that read it. -/
theorem mem_outputsFor (spec : Spec) (reference output : String) :
    output ∈ spec.routes.outputsFor reference ↔
      ∃ pipeline ∈ spec.pipelines, reference ∈ pipeline.inputRefs ∧
        output ∈ pipeline.outputRefs :=
  (foldl_iff_exists (fun plan : RoutePlan => output ∈ plan.outputsFor reference)
    (fun pipeline => reference ∈ pipeline.inputRefs ∧ output ∈ pipeline.outputRefs)
    (fun plan pipeline => plan.mem_outputsFor_addPipeline pipeline reference output)
    spec.pipelines .empty).trans (or_iff_left List.not_mem_nil)

/-- The inputs that a plan gives for an output are those of the pipelines that lead to it. -/
theorem mem_inputsFor (spec : Spec) (output reference : String) :
    reference ∈ spec.routes.inputsFor output ↔
      ∃ pipeline ∈ spec.pipelines, output ∈ pipeline.outputRefs ∧
        reference ∈ pipeline.inputRefs := by
  refine ((foldl_iff_exists (fun plan : RoutePlan => reference ∈ plan.inputsFor output)
    (fun pipeline => reference ∈ pipeline.inputRefs ∧ output ∈ pipeline.outputRefs)
    (fun plan pipeline => plan.mem_inputsFor_addPipeline pipeline reference output)
    spec.pipelines .empty).trans (or_iff_left List.not_mem_nil)).trans ?_
  simp only [and_comm]

/-- The outputs to which a plan knows pipelines are those to which some pipeline leads. -/
theorem mem_keys_pipelinesByOutput (spec : Spec) (output : String) :
    output ∈ spec.routes.pipelinesByOutput.keys ↔ spec.Routes output :=
  (foldl_iff_exists (fun plan : RoutePlan => output ∈ plan.pipelinesByOutput.keys)
    (output ∈ ·.outputRefs)
    (fun plan pipeline => plan.mem_keys_addPipeline pipeline output)
    spec.pipelines .empty).trans (or_iff_left List.not_mem_nil)

/-- A plan lists the pipelines that lead to an output as the spec does, each name once. -/
theorem listsOnce_pipelinesFor (spec : Spec) (output : String) :
    RoutePlan.ListsOnce (spec.routes.pipelinesFor output)
      ((spec.pipelines.filter (output ∈ ·.outputRefs)).map (·.name)) := by
  have inTurn : spec.routes.pipelinesFor output =
      ((spec.pipelines.filter (output ∈ ·.outputRefs)).map (·.name)).foldl
        RoutePlan.withName [] := RoutePlan.pipelinesFor_foldl_addPipeline .empty _ output
  have none : RoutePlan.ListsOnce [] [] := ⟨List.nodup_nil, fun _ => Iff.rfl, List.Pairwise.nil⟩
  rw [inTurn]
  exact none.foldl_withName _

/-- A plan has the declared outputs to which pipelines lead, in the order of the spec. -/
theorem orderedOutputs_routes (spec : Spec) :
    spec.routes.orderedOutputs = (spec.outputs.map (·.name)).filter (spec.Routes ·) := by
  refine List.filter_congr fun output _ => Bool.eq_iff_iff.mpr ?_
  rw [decide_eq_true_iff, Dictionary.contains_iff]
  exact spec.mem_keys_pipelinesByOutput output

/-- The kinds that a plan gives for an output are those that pipelines send to it. -/
theorem mem_kindsFor (spec : Spec) (output : String) (kind : LogKind) :
    kind ∈ spec.routes.kindsFor spec output ↔ spec.Sends kind output := by
  unfold RoutePlan.kindsFor
  rw [List.mem_filter, List.any_eq_true]
  refine ⟨?_, ?_⟩
  · rintro ⟨_, reference, flows, resolved⟩
    obtain ⟨pipeline, declared, leads, reads⟩ := (spec.mem_inputsFor output reference).mp flows
    exact ⟨pipeline, declared, leads, reference, reads, of_decide_eq_true resolved⟩
  · rintro ⟨pipeline, declared, leads, reference, reads, resolved⟩
    exact ⟨LogKind.mem_all kind, reference,
      (spec.mem_inputsFor output reference).mpr ⟨pipeline, declared, leads, reads⟩,
      decide_eq_true resolved⟩

/-- An output to which kinds flow is one to which a plan knows inputs. -/
theorem mem_keys_byOutput_of_sends (spec : Spec) {kind : LogKind} {output : String}
    (sends : spec.Sends kind output) : output ∈ spec.routes.byOutput.keys := by
  obtain ⟨pipeline, declared, leads, reference, reads, _⟩ := sends
  have flows := (spec.mem_inputsFor output reference).mpr ⟨pipeline, declared, leads, reads⟩
  rw [Dictionary.mem_keys_iff]
  by_contra unknown
  unfold RoutePlan.inputsFor at flows
  rw [Option.not_isSome_iff_eq_none.mp unknown] at flows
  exact absurd flows List.not_mem_nil

/-- If every pipeline leads somewhere, each kind that goes anywhere goes to some output. -/
theorem mem_routedKinds_iff_exists_output (spec : Spec)
    (lead : ∀ pipeline ∈ spec.pipelines, pipeline.outputRefs ≠ []) (kind : LogKind) :
    kind ∈ spec.routedKinds ↔
      ∃ output ∈ spec.routes.byOutput.keys, kind ∈ spec.routes.kindsFor spec output := by
  rw [spec.mem_routedKinds]
  refine ⟨?_, ?_⟩
  · rintro ⟨pipeline, declared, reference, reads, resolved⟩
    obtain ⟨output, leads⟩ := List.exists_mem_of_ne_nil _ (lead pipeline declared)
    have sends : spec.Sends kind output := ⟨pipeline, declared, leads, reference, reads, resolved⟩
    exact ⟨output, spec.mem_keys_byOutput_of_sends sends, (spec.mem_kindsFor output kind).mpr sends⟩
  · rintro ⟨output, _, flows⟩
    obtain ⟨pipeline, declared, _, reference, reads, resolved⟩ :=
      (spec.mem_kindsFor output kind).mp flows
    exact ⟨pipeline, declared, reference, reads, resolved⟩

end Spec

/-- Whether a plan tells of the pipelines of a spec what is so, and nothing else. -/
structure RoutePlan.IsExact (plan : RoutePlan) (spec : Spec) : Prop where
  /-- An input reaches the outputs of the pipelines that read it. -/
  reaches : ∀ input output, output ∈ plan.outputsFor input ↔
    ∃ pipeline ∈ spec.pipelines, input ∈ pipeline.inputRefs ∧ output ∈ pipeline.outputRefs
  /-- The table of outputs is that of inputs the other way round. -/
  transposed : ∀ input output, input ∈ plan.inputsFor output ↔ output ∈ plan.outputsFor input
  /-- The names of the pipelines that lead to an output stand where the spec first has them. -/
  feeders : ∀ output, ListsOnce (plan.pipelinesFor output)
    ((spec.pipelines.filter (output ∈ ·.outputRefs)).map (·.name))
  /-- The outputs are the declared ones to which some pipeline leads. -/
  outputs : plan.orderedOutputs = (spec.outputs.map (·.name)).filter (spec.Routes ·)
  /-- The kinds that go anywhere are those that go to the outputs that have inputs. -/
  kinds : (∀ pipeline ∈ spec.pipelines, pipeline.outputRefs ≠ []) →
    ∀ kind, kind ∈ spec.routedKinds ↔
      ∃ output ∈ plan.byOutput.keys, kind ∈ plan.kindsFor spec output

namespace Spec

/-- The plan of a spec is exact, whatever names and references its pipelines repeat. -/
theorem isExact_routes (spec : Spec) : spec.routes.IsExact spec where
  reaches := spec.mem_outputsFor
  transposed input output := by
    rw [spec.mem_inputsFor, spec.mem_outputsFor]
    simp only [and_comm]
  feeders := spec.listsOnce_pipelinesFor
  outputs := spec.orderedOutputs_routes
  kinds := spec.mem_routedKinds_iff_exists_output

/-! ### What follows of a plan -/

/-- The pipelines that a plan gives for an output are those that lead to it. -/
theorem mem_pipelinesFor (spec : Spec) (output name : String) :
    name ∈ spec.routes.pipelinesFor output ↔
      ∃ pipeline ∈ spec.pipelines, output ∈ pipeline.outputRefs ∧ pipeline.name = name := by
  rw [(spec.listsOnce_pipelinesFor output).mem_iff]
  simp only [List.mem_map, List.mem_filter, decide_eq_true_eq, and_assoc]

/-- A plan orders the outputs that pipelines lead to as the spec does. -/
theorem routedOutputs_eq (spec : Spec) (distinct : (spec.outputs.map (·.name)).Nodup) :
    spec.routedOutputs = spec.outputs.filter (spec.Routes ·.name) := by
  unfold routedOutputs
  rw [spec.orderedOutputs_routes]
  exact filterMap_find?_name Output.name distinct _

theorem sublist_routedOutputs (spec : Spec) (distinct : (spec.outputs.map (·.name)).Nodup) :
    spec.routedOutputs.Sublist spec.outputs := by
  rw [spec.routedOutputs_eq distinct]
  exact List.filter_sublist

/-- The outputs that a plan gives are those of the spec that pipelines lead to. -/
theorem mem_routedOutputs (spec : Spec) (distinct : (spec.outputs.map (·.name)).Nodup)
    (output : Output) :
    output ∈ spec.routedOutputs ↔ output ∈ spec.outputs ∧ spec.Routes output.name := by
  rw [spec.routedOutputs_eq distinct, List.mem_filter, decide_eq_true_eq]

end Spec

end LogForwarder
