/-
This file proves that a configuration in the vector dialect routes records as the spec does. Walking
backwards from the sink of an output, one comes along its chain to the transforms of the pipelines
that lead to it, from each of those to the streams of its references, and from each stream to the
kind that the reference resolves to. So the kinds from which the sink is reached are those that
pipelines send to the output. The sinks are those of the outputs that pipelines lead to, one each,
and that of the collector's own metrics.
-/

import LogForwarder.Proofs.Vector.Stream

namespace LogForwarder

namespace Vector

variable {spec : Spec} {secrets : SecretStore} {options : Options} {arena : Arena}

/-! ### The elements of a configuration -/

/--
What a configuration is made of: the elements up to the pipelines, a chain for each output that
pipelines lead to, and the collector's own metrics.
-/
theorem elements_of_build (noDebug : options.debug = false)
    (built : build spec secrets options = .ok arena) :
    ∃ chains, List.Forall₂ (fun output chain =>
        (Sink.ofOutput spec secrets options output).chain = .ok chain)
          spec.routedOutputs chains ∧
      arena.elements = upToPipelines spec ++ chains.flatten ++ metrics options := by
  unfold build at built
  simp only [noDebug, if_neg Bool.false_ne_true] at built
  have oneChain : ∀ (arena : Arena) (output : Output) (longer : Arena),
      addChain spec secrets options arena output = .ok longer →
        ∃ chain, (Sink.ofOutput spec secrets options output).chain = .ok chain ∧
          longer.elements = arena.elements ++ chain := by
    intro arena output longer added
    obtain ⟨chain, made, extended⟩ := exists_of_bind_eq_ok added
    exact ⟨chain, made, Arena.elements_of_extended extended⟩
  exact Arena.elements_of_run (addChain spec secrets options) _ oneChain spec.routedOutputs built

/-- When debugging, a configuration is made of the elements up to the pipelines and the console. -/
theorem elements_of_build_debug (debug : options.debug = true)
    (built : build spec secrets options = .ok arena) :
    arena.elements = upToPipelines spec ++ debugSinks spec := by
  unfold build at built
  simp only [debug, if_true] at built
  obtain ⟨first, firstMade, extended⟩ := exists_of_bind_eq_ok built
  rw [Arena.elements_of_extended extended, Arena.elements_of_extended firstMade]
  rfl

/--
An element of a configuration comes up to the pipelines, or in the chain of an output, or after all
of these; when debugging, consoles take the place of the chains and of what comes after them.
-/
theorem mem_cases_of_build (built : build spec secrets options = .ok arena) {element : Element}
    (member : element ∈ arena.elements) :
    element ∈ upToPipelines spec ∨
      (options.debug = true ∧ element ∈ debugSinks spec) ∨
      (options.debug = false ∧
        ((∃ output ∈ spec.routedOutputs, ∃ chain,
          (Sink.ofOutput spec secrets options output).chain = .ok chain ∧ element ∈ chain) ∨
        element ∈ metrics options)) := by
  cases debug : options.debug with
  | true =>
    rw [elements_of_build_debug debug built, List.mem_append] at member
    exact member.imp_right fun isConsole => .inl ⟨rfl, isConsole⟩
  | false =>
    obtain ⟨chains, made, elements⟩ := elements_of_build debug built
    rw [elements, List.mem_append, List.mem_append, or_assoc] at member
    refine member.imp_right fun later => .inr ⟨rfl, later.imp_left fun inChains => ?_⟩
    obtain ⟨chain, isChain, inChain⟩ := List.mem_flatten.mp inChains
    obtain ⟨output, routed, chainMade⟩ := exists_of_mem_forall₂ made.flip isChain
    exact ⟨output, routed, chain, chainMade, inChain⟩

/-- Whether debugging or not, a configuration has the elements up to the pipelines. -/
theorem present_of_build (built : build spec secrets options = .ok arena) :
    ∀ element ∈ upToPipelines spec, element ∈ arena.elements := by
  intro element member
  cases debug : options.debug with
  | true =>
    rw [elements_of_build_debug debug built]
    exact List.mem_append_left _ member
  | false =>
    obtain ⟨chains, _, elements⟩ := elements_of_build debug built
    rw [elements]
    exact List.mem_append_left _ (List.mem_append_left _ member)

/-- A clean spec sends some kind to every output that a pipeline leads to. -/
theorem exists_sends (clean : spec.IsClean) {output : String} (routed : spec.Routes output) :
    ∃ kind, spec.Sends kind output := by
  obtain ⟨pipeline, declared, leads⟩ := routed
  obtain ⟨reference, reads⟩ :=
    List.exists_mem_of_ne_nil _ (clean.pipelineConnected pipeline declared).reads
  obtain ⟨kind, resolved⟩ := Option.isSome_iff_exists.mp (clean.resolves declared reference reads)
  exact ⟨kind, pipeline, declared, leads, reference, reads, resolved⟩

/-- The chain of an output that a pipeline leads to is a line. -/
theorem isLine_ofOutput (clean : spec.IsClean) {output : Output}
    (routed : spec.Routes output.name) {chain : List Element}
    (made : (Sink.ofOutput spec secrets options output).chain = .ok chain) :
    ∃ transforms last, chain = transforms ++ [last] ∧
      (Sink.ofOutput spec secrets options output).IsLine
        ((Sink.ofOutput spec secrets options output).inputs.map Element.component)
        transforms last := by
  have plain : '.' ∉ (Sink.ofOutput spec secrets options output).id.toList :=
    Name.dot_notMem_componentId output.name
  have kinds : (Sink.ofOutput spec secrets options output).kinds ≠ [] := by
    obtain ⟨kind, sends⟩ := exists_sends clean routed
    exact List.ne_nil_of_mem ((spec.mem_kindsFor output.name kind).mpr sends)
  exact Sink.isLine_chain plain kinds made

/-! ### Kinds that reach a sink -/

/-- The kinds that come to the transform of a pipeline are those that its references resolve to. -/
theorem reaches_pipeline_iff (ready : spec.IsReady .vector)
    (present : ∀ element ∈ upToPipelines spec, element ∈ arena.elements) {pipeline : Pipeline}
    (declared : pipeline ∈ spec.pipelines) (kind : LogKind) :
    arena.Reaches kind.name (Name.componentId pipeline.name) ↔
      ∃ reference ∈ pipeline.inputRefs, spec.refKind? reference = some kind := by
  have isPresent : pipelineRemap spec pipeline ∈ arena.elements :=
    present _ (List.mem_append_right _ (List.mem_map_of_mem declared))
  have reaches : arena.Reaches kind.name (Name.componentId pipeline.name) ↔ _ :=
    arena.reaches_iff isPresent kind.name
  have feeders (feeder : String) : feeder ∈ (pipelineRemap spec pipeline).feeders ↔
      ∃ reference ∈ pipeline.inputRefs,
        Element.component (streamOf spec reference) = feeder := by
    show feeder ∈ ((pipeline.inputRefs.map (streamOf spec)).eraseDups).map Element.component ↔ _
    simp only [List.mem_map, List.mem_eraseDups, exists_exists_and_eq_and]
  have different : kind.name ≠ Name.componentId pipeline.name :=
    ready.ne_pipeline_of_reserved declared (name_mem_reserved kind)
  rw [reaches]
  refine ⟨?_, ?_⟩
  · rintro (same | ⟨feeder, feeds, before⟩)
    · exact absurd same different
    · obtain ⟨reference, reads, rfl⟩ := (feeders feeder).mp feeds
      exact ⟨reference, reads, (reaches_streamOf_iff ready present declared reads kind).mp before⟩
  · rintro ⟨reference, reads, resolved⟩
    exact .inr ⟨_, (feeders _).mpr ⟨reference, reads, rfl⟩,
      (reaches_streamOf_iff ready present declared reads kind).mpr resolved⟩

/--
No element of a chain has the name of a kind: sinks have ids that are not reserved, and the ids of
transforms have a dash.
-/
theorem name_ne_of_isLine (ready : spec.IsReady .vector) {output : Output}
    (declared : output ∈ spec.outputs) {feeders : List String} {transforms : List Element}
    {last : Element}
    (line : (Sink.ofOutput spec secrets options output).IsLine feeders transforms last)
    (kind : LogKind) : ∀ element ∈ transforms ++ [last], kind.name ≠ element.id := by
  intro element member same
  rcases List.mem_append.mp member with transform | isLast
  · obtain ⟨suffix, ofChain⟩ := line.ids element transform
    have dash : '-' ∈ kind.name.toList := by
      rw [same, ofChain, Sink.toList_child]
      exact List.mem_append_right _ List.mem_cons_self
    revert dash
    cases kind <;> decide
  · rw [List.mem_singleton.mp isLast, line.lastId] at same
    exact ready.ne_output_of_reserved declared (name_mem_reserved kind) same

/-- The kinds that come to the sink of an output are those that pipelines send to it. -/
theorem reaches_output_iff (ready : spec.IsReady .vector) (noDebug : options.debug = false)
    (built : build spec secrets options = .ok arena) {output : Output}
    (declared : output ∈ spec.outputs) (routed : spec.Routes output.name) (kind : LogKind) :
    arena.Reaches kind.name (Name.componentId output.name) ↔ spec.Sends kind output.name := by
  obtain ⟨chains, made, elements⟩ := elements_of_build noDebug built
  have present := present_of_build built
  have isRouted : output ∈ spec.routedOutputs :=
    (spec.mem_routedOutputs ready.clean.outputsDistinct output).mpr ⟨declared, routed⟩
  obtain ⟨chain, isChain, chainMade⟩ := exists_of_mem_forall₂ made isRouted
  obtain ⟨transforms, last, rfl, line⟩ := isLine_ofOutput ready.clean routed chainMade
  have linePresent : ∀ element ∈ transforms ++ [last], element ∈ arena.elements := by
    intro element member
    rw [elements]
    exact List.mem_append_left _ (List.mem_append_right _
      (List.mem_flatten.mpr ⟨_, isChain, member⟩))
  have alongLine := arena.reaches_linked_iff transforms last _ line.linked linePresent kind.name
  rw [line.lastId] at alongLine
  have fromPipelines (feeder : String) :
      feeder ∈ (Sink.ofOutput spec secrets options output).inputs.map Element.component ↔
        ∃ pipeline ∈ spec.pipelines, output.name ∈ pipeline.outputRefs ∧
          Name.componentId pipeline.name = feeder := by
    show feeder ∈ ((spec.routes.pipelinesFor output.name).map Name.componentId).map
      Element.component ↔ _
    simp only [List.mem_map, exists_exists_and_eq_and, spec.mem_pipelinesFor,
      Element.component_eq_self (Name.dot_notMem_componentId _)]
    refine ⟨?_, ?_⟩
    · rintro ⟨_, ⟨pipeline, isPipeline, leads, rfl⟩, rfl⟩
      exact ⟨pipeline, isPipeline, leads, rfl⟩
    · rintro ⟨pipeline, isPipeline, leads, rfl⟩
      exact ⟨_, ⟨pipeline, isPipeline, leads, rfl⟩, rfl⟩
  show arena.Reaches kind.name (Sink.ofOutput spec secrets options output).id ↔ _
  rw [alongLine]
  refine ⟨?_, ?_⟩
  · rintro (⟨element, member, same⟩ | ⟨feeder, feeds, before⟩)
    · exact absurd same (name_ne_of_isLine ready declared line kind element member)
    · obtain ⟨pipeline, isPipeline, leads, rfl⟩ := (fromPipelines feeder).mp feeds
      exact ⟨pipeline, isPipeline, leads,
        (reaches_pipeline_iff ready present isPipeline kind).mp before⟩
  · rintro ⟨pipeline, isPipeline, leads, reads⟩
    exact .inr ⟨_, (fromPipelines _).mpr ⟨pipeline, isPipeline, leads, rfl⟩,
      (reaches_pipeline_iff ready present isPipeline kind).mpr reads⟩

/-! ### Sinks -/

theorem stage_ne_sink_of_mem_upToPipelines {element : Element}
    (member : element ∈ upToPipelines spec) : element.stage ≠ .sink := by
  have before : element.stage = .source ∨ element.stage = .transform := by
    cases isUpToPipelines_of_mem member with
    | containerSource | journalSource | auditSource => exact .inl rfl
    | journalForm isForm => rcases List.mem_pair.mp isForm with rfl | rfl <;> exact .inr rfl
    | _ => exact .inr rfl
  rcases before with isSource | isTransform
  · rw [isSource]
    decide
  · rw [isTransform]
    decide

/-- Elements up to the pipelines have no parts. -/
theorem parts_of_mem_upToPipelines {element : Element} (member : element ∈ upToPipelines spec) :
    element.parts = [] := by
  cases isUpToPipelines_of_mem member with
  | journalForm isForm => rcases List.mem_pair.mp isForm with rfl | rfl <;> rfl
  | _ => rfl

/-- The sinks of the chains are those of the outputs, one each and in order. -/
theorem sinks_of_chains (clean : spec.IsClean) {outputs : List Output}
    (routed : ∀ output ∈ outputs, spec.Routes output.name) {chains : List (List Element)}
    (made : List.Forall₂ (fun output chain =>
      (Sink.ofOutput spec secrets options output).chain = .ok chain) outputs chains) :
    (chains.flatten.filter (·.stage = .sink)).map (·.id) =
      outputs.map fun output => Name.componentId output.name := by
  induction made with
  | nil => rfl
  | @cons output chain rest restChains headMade _ inductionHypothesis =>
    obtain ⟨transforms, last, rfl, line⟩ :=
      isLine_ofOutput clean (routed output List.mem_cons_self) headMade
    have noSink : transforms.filter (·.stage = .sink) = [] := by
      refine List.filter_eq_nil_iff.mpr fun element member isSink => ?_
      rw [line.stages element member] at isSink
      exact absurd isSink (by decide)
    have oneSink : [last].filter (·.stage = .sink) = [last] := by
      rw [List.filter_cons, if_pos (decide_eq_true line.lastStage), List.filter_nil]
    rw [List.flatten_cons, List.filter_append, List.filter_append, noSink, oneSink,
      List.nil_append, List.map_append, List.map_singleton, line.lastId,
      inductionHypothesis fun output member => routed output (List.mem_cons_of_mem _ member)]
    rfl

/--
The sinks of a configuration: those of the outputs that pipelines lead to, one each and in order,
and that of the collector's own metrics.
-/
theorem sinks_of_build (clean : spec.IsClean) (noDebug : options.debug = false)
    (built : build spec secrets options = .ok arena) :
    (arena.ofStage .sink).map (·.id) =
      spec.routedOutputs.map (fun output => Name.componentId output.name) ++
        [Id.prometheusOutput] := by
  obtain ⟨chains, made, elements⟩ := elements_of_build noDebug built
  have noSink : (upToPipelines spec).filter (·.stage = .sink) = [] :=
    List.filter_eq_nil_iff.mpr fun element member isSink =>
      stage_ne_sink_of_mem_upToPipelines member (of_decide_eq_true isSink)
  have metricsSink : ((metrics options).filter (·.stage = .sink)).map (·.id) =
      [Id.prometheusOutput] := rfl
  unfold Arena.ofStage
  rw [elements, List.filter_append, List.filter_append, noSink, List.nil_append, List.map_append,
    metricsSink, sinks_of_chains clean _ made]
  intro output isRouted
  exact ((spec.mem_routedOutputs clean.outputsDistinct output).mp isRouted).2

/--
The kinds whose streams are joined with the sink of an output are those that pipelines send to it.
-/
theorem joins_output_iff (ready : spec.IsReady .vector) (noDebug : options.debug = false)
    (built : build spec secrets options = .ok arena) {output : Output}
    (declared : output ∈ spec.outputs) (routed : spec.Routes output.name) (kind : LogKind) :
    arena.Joins arena.Feeds kind.name (Name.componentId output.name) ↔
      spec.Sends kind output.name := by
  have reaches := reaches_output_iff ready noDebug built declared routed kind
  refine ⟨fun joined => reaches.mp joined.2.2, ?_⟩
  intro sends
  have stream : kindStream kind ∈ arena.elements := by
    obtain ⟨pipeline, isPipeline, _, reads⟩ := sends
    exact present_of_build built _
      (kindStream_mem_upToPipelines ((spec.mem_routedKinds kind).mpr ⟨pipeline, isPipeline, reads⟩))
  have isRouted : output ∈ spec.routedOutputs :=
    (spec.mem_routedOutputs ready.clean.outputsDistinct output).mpr ⟨declared, routed⟩
  have sinkId : Name.componentId output.name ∈ (arena.ofStage .sink).map (·.id) := by
    rw [sinks_of_build ready.clean noDebug built]
    exact List.mem_append_left _ (List.mem_map.mpr ⟨output, isRouted, rfl⟩)
  obtain ⟨sink, isSink, named⟩ := List.mem_map.mp sinkId
  have sinkPresent : sink ∈ arena.elements := (List.mem_filter.mp isSink).1
  refine ⟨arena.id_mem_ids stream, ?_, reaches.mpr sends⟩
  rw [← named]
  exact arena.id_mem_ids sinkPresent

end Vector

namespace Vector.Sink

/-- What an output's type adds to its chain is among the elements of a configuration. -/
theorem exists_tail_subset_elements {spec : Spec} {secrets : SecretStore} {options : Options}
    {arena : Arena} (noDebug : options.debug = false)
    (built : build spec secrets options = .ok arena) {output : Output}
    (routed : output ∈ spec.routedOutputs) :
    ∃ elements, (ofOutput spec secrets options output).tail = .ok elements ∧
      elements ⊆ arena.elements := by
  obtain ⟨chains, made, parts⟩ := elements_of_build noDebug built
  obtain ⟨chain, isChain, chainMade⟩ := exists_of_mem_forall₂ made routed
  obtain ⟨elements, tailMade, chainMade⟩ := exists_of_bind_eq_ok chainMade
  cases chainMade
  refine ⟨elements, tailMade, fun element member => ?_⟩
  rw [parts]
  exact List.mem_append_left _ (List.mem_append_right _
    (List.mem_flatten.mpr ⟨_, isChain, List.mem_append_right _ member⟩))

/-- The sink of an output that pipelines lead to is among the elements of a configuration. -/
theorem exists_finish_mem_elements {spec : Spec} {secrets : SecretStore} {options : Options}
    {arena : Arena} (noDebug : options.debug = false)
    (built : build spec secrets options = .ok arena) {output : Output}
    (routed : output ∈ spec.routedOutputs) :
    ∃ extras element, (ofOutput spec secrets options output).finish extras element ∈ arena.elements ∧
      (ofOutput spec secrets options output).IsUnfinished extras element := by
  obtain ⟨elements, made, subset⟩ := exists_tail_subset_elements noDebug built routed
  obtain ⟨transforms, extras, element, rfl, _, unfinished⟩ := endsFinished_tail made
  exact ⟨extras, element, subset (List.mem_append_right _ (List.mem_singleton_self _)), unfinished⟩

end Vector.Sink

end LogForwarder
