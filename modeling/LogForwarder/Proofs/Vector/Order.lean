/-
This file proves that the elements of a configuration in the vector dialect are written in order.
Sources read from nothing, their common forms from them, streams from the common forms and from each
other, pipelines from streams, and the chain of an output from pipelines and then from itself. What
is written and what is read is found out in different places; that nothing is read which is not
written follows from the kinds that references of pipelines resolve to.
-/

import LogForwarder.Proofs.Vector.Routing

namespace LogForwarder

namespace Vector

/-! ### Chains -/

namespace Sink

variable {sink : Sink} {earlier : List Element}

/-- The part of a chain that depends on the type is in order behind the common transforms. -/
theorem TailShape.inOrder (plain : '.' ∉ sink.id.toList) {suffixes : List String}
    {elements : List Element} (shape : sink.TailShape suffixes elements)
    (intake : LeadsTo earlier (sink.child "dedot")) : InOrder earlier elements := by
  have reads : ∀ {element : Element} {input : String}, element.inputs = [input] →
      ∀ {before : List Element}, LeadsTo before input →
        ∀ other ∈ element.inputs, LeadsTo before other := by
    intro element input only before leads other member
    rw [only, List.mem_singleton] at member
    exact member ▸ leads
  cases shape with
  | alone extras element id stage inputs =>
    exact ⟨reads ((sink.finish_keeps extras element).2.2.trans inputs) intake, trivial⟩
  | behindRemap suffix program plainSuffix extras element id stage inputs =>
    have transform : LeadsTo (earlier ++ [remap (sink.child suffix) sink.intake program])
        (sink.child suffix) :=
      leadsTo_id _ rfl (List.mem_append_right _ (List.mem_singleton_self _))
        (dot_notMem_child plain plainSuffix)
    exact ⟨reads rfl intake,
      reads ((sink.finish_keeps extras element).2.2.trans inputs) transform, trivial⟩
  | behindRouter program extras element id stage inputs =>
    refine ⟨reads rfl intake, ?_, reads ((sink.finish_keeps extras element).2.2.trans inputs) ?_,
      trivial⟩
    · intro input member
      obtain ⟨branch, isBranch, rfl⟩ := List.mem_map.mp member
      refine leadsTo_branchOf sink.rerouter rfl
        (List.mem_append_right _ (List.mem_singleton_self _))
        (dot_notMem_child plain (by decide)) ?_
      unfold rerouter
      rw [Element.branches_route]
      exact List.mem_map_of_mem isBranch
    · exact leadsTo_id (remap (sink.child "resource_logs") sink.branchInputs program) rfl
        (List.mem_append_right _ (List.mem_singleton_self _)) (dot_notMem_child plain (by decide))

/-- A chain is in order behind the elements that its inputs lead to. -/
theorem inOrder_chain (plain : '.' ∉ sink.id.toList) {elements : List Element}
    (made : sink.chain = .ok elements) (inputs : ∀ input ∈ sink.inputs, LeadsTo earlier input) :
    InOrder earlier elements := by
  unfold chain at made
  obtain ⟨tail, tailMade, made⟩ := exists_of_bind_eq_ok made
  cases made
  refine (inOrder_append _ _ _).mpr ⟨⟨inputs, ?_, trivial⟩, ?_⟩
  · intro input member
    rw [List.mem_singleton.mp member]
    exact leadsTo_id (remap (sink.child "remap") sink.inputs "del(.tag)") rfl
      (List.mem_append_right _ (List.mem_singleton_self _)) (dot_notMem_child plain (by decide))
  · refine (shape_tail tailMade).inOrder plain ?_
    exact leadsTo_id (remap (sink.child "dedot") [sink.child "remap"] dedotProgram) rfl
      (List.mem_append_right _ (List.mem_cons_of_mem _ List.mem_cons_self))
      (dot_notMem_child plain (by decide))

end Sink

/-! ### Sources and their common forms -/

theorem inOrder_rawSources (kinds : List LogKind) : InOrder [] (rawSources kinds) := by
  refine inOrder_of_forall fun element member input reads => ?_
  unfold rawSources at member
  simp only [List.mem_append, List.mem_ite_nil_right, List.mem_singleton, List.mem_map] at member
  have noInputs : element.inputs = [] := by
    rcases member with (⟨_, rfl⟩ | ⟨_, rfl⟩) | ⟨_, _, _, rfl⟩ <;> rfl
  rw [noInputs] at reads
  exact absurd reads List.not_mem_nil

theorem inOrder_commonForms (kinds : List LogKind) :
    InOrder (rawSources kinds) (commonForms kinds) := by
  unfold commonForms
  refine (inOrder_append _ _ _).mpr ⟨(inOrder_append _ _ _).mpr ⟨?_, ?_⟩, ?_⟩
  · refine inOrder_ite _ fun needed => ⟨fun input reads => ?_, trivial⟩
    rw [List.mem_singleton.mp reads]
    refine leadsTo_id containerSource rfl ?_ (by decide)
    unfold rawSources
    rw [if_pos needed]
    exact List.mem_append_left _ (List.mem_append_left _ (List.mem_singleton_self _))
  · refine inOrder_ite _ fun routed => ⟨fun input reads => ?_, fun input reads => ?_, trivial⟩
    · rw [List.mem_singleton.mp reads]
      refine leadsTo_id journalSource rfl (List.mem_append_left _ ?_) (by decide)
      unfold rawSources
      rw [if_pos routed]
      exact List.mem_append_left _ (List.mem_append_right _ (List.mem_singleton_self _))
    · rw [List.mem_singleton.mp reads]
      exact leadsTo_id _ rfl (List.mem_append_right _ (List.mem_singleton_self _)) (by decide)
  · refine inOrder_ite _ fun routed => inOrder_of_forall fun element member input reads => ?_
    obtain ⟨source, present, rfl⟩ := List.mem_map.mp member
    rw [List.mem_singleton.mp reads]
    refine leadsTo_id (auditSource source) rfl (List.mem_append_left _ ?_)
      (by cases source <;> decide)
    unfold rawSources
    rw [if_pos routed]
    exact List.mem_append_right _ (List.mem_map_of_mem present)

/-! ### Streams of kinds -/

theorem containerForm_mem_commonForms {kinds : List LogKind} (needed : needsContainers kinds) :
    containerForm ∈ commonForms kinds := by
  unfold commonForms
  rw [if_pos needed]
  exact List.mem_append_left _ (List.mem_append_left _ (List.mem_singleton_self _))

/-- The stream of a kind that is routed reads from the router of containers and common forms. -/
theorem leadsTo_of_mem_kindInputs {kinds : List LogKind} {kind : LogKind} (routed : kind ∈ kinds)
    {input : String} (reads : input ∈ kindInputs kind) :
    LeadsTo (commonForms kinds ++ if needsContainers kinds then [containerRouter kinds] else [])
      input := by
  have router (needed : needsContainers kinds) (branch : Branch)
      (isBranch : branch.name ∈ (containerRouter kinds).branches) :
      LeadsTo (commonForms kinds ++ if needsContainers kinds then [containerRouter kinds] else [])
        (branchOf Id.routeContainerLogs branch.name) := by
    rw [if_pos needed]
    exact leadsTo_branchOf (containerRouter kinds) rfl
      (List.mem_append_right _ (List.mem_singleton_self _))
      (show '.' ∉ Id.routeContainerLogs.toList by decide) isBranch
  unfold containerRouter at router
  simp only [Element.branches_route, List.map_append, List.mem_append] at router
  cases kind with
  | application =>
    rw [List.mem_singleton.mp reads]
    refine router ?_ _ (.inl ?_)
    · unfold needsContainers
      rw [decide_eq_true routed, Bool.true_or]
    · rw [if_pos routed]
      exact List.mem_singleton_self _
  | infrastructure =>
    rcases List.mem_cons.mp reads with rfl | journal
    · refine router ?_ _ (.inr ?_)
      · unfold needsContainers
        rw [decide_eq_true routed, Bool.or_true]
      · rw [if_pos routed]
        exact List.mem_singleton_self _
    · rw [List.mem_singleton.mp journal]
      refine leadsTo_id (journalForms.getLast (List.cons_ne_nil _ _)) rfl
        (List.mem_append_left _ ?_) (by decide)
      unfold commonForms
      rw [if_pos routed]
      exact List.mem_append_left _ (List.mem_append_right _ (List.getLast_mem _))
  | audit =>
    obtain ⟨source, present, rfl⟩ := List.mem_map.mp reads
    refine leadsTo_id (auditForm source) rfl (List.mem_append_left _ ?_)
      (by cases source <;> decide)
    unfold commonForms
    rw [if_pos routed]
    exact List.mem_append_right _ (List.mem_map_of_mem present)

section Spec

variable {spec : Spec}

/-- The stream of a kind that is routed can be read where all streams of kinds can. -/
theorem leadsTo_name {earlier : List Element} {kind : LogKind} (routed : kind ∈ spec.routedKinds)
    (present : ∀ element ∈ (LogKind.all.filter (· ∈ spec.routedKinds)).map kindStream,
      element ∈ earlier) : LeadsTo earlier kind.name := by
  refine leadsTo_id (kindStream kind) rfl (present _ (List.mem_map_of_mem ?_))
    (by cases kind <;> decide)
  exact List.mem_filter.mpr ⟨LogKind.mem_all kind, decide_eq_true routed⟩

/-- The kind of an input that pipelines read is routed. -/
theorem mem_routedKinds_of_referenced (clean : spec.IsClean) {reference : String} {input : Input}
    (referenced : reference ∈ referenceNames spec) (found : spec.input? reference = some input)
    {kind : LogKind} (narrows : input.kind? = some kind) : kind ∈ spec.routedKinds := by
  obtain ⟨pipeline, declared, reads⟩ :=
    List.mem_flatMap.mp (List.mem_eraseDups.mp referenced)
  refine (spec.mem_routedKinds kind).mpr ⟨pipeline, declared, reference, reads, ?_⟩
  rw [spec.refKind?_of_ofName?_none (clean.ofName?_of_input? found), found, Option.bind_some,
    narrows]

/-! ### Streams of inputs -/

/-- The router of application inputs reads the stream of applications. -/
theorem inOrder_selectorRouter (clean : spec.IsClean) {earlier : List Element}
    (present : ∀ element ∈ (LogKind.all.filter (· ∈ spec.routedKinds)).map kindStream,
      element ∈ earlier) : InOrder earlier (selectorRouter spec) := by
  unfold selectorRouter
  cases selects : selectorInputs spec with
  | nil => trivial
  | cons selecting others =>
    have member : selecting ∈ selectorInputs spec := selects ▸ List.mem_cons_self
    obtain ⟨inputs, selector⟩ := List.mem_filter.mp member
    obtain ⟨reference, referenced, found⟩ := List.mem_filterMap.mp inputs
    have narrows := clean.inputNarrows selecting (List.mem_of_find?_eq_some found)
    refine ⟨fun input reads => ?_, trivial⟩
    rw [List.mem_singleton.mp reads]
    exact leadsTo_name (mem_routedKinds_of_referenced clean ((mem_sortedTexts _ _).mp referenced)
      found (selecting.kind?_of_hasSelector narrows selector)) present

/-- Filters of inputs read the streams of their kinds. -/
theorem inOrder_sourceFilters (clean : spec.IsClean) {earlier : List Element}
    (present : ∀ element ∈ (LogKind.all.filter (· ∈ spec.routedKinds)).map kindStream,
      element ∈ earlier) : InOrder earlier ((sourceInputs spec).map sourceFilter) := by
  refine inOrder_of_forall fun element member input reads => ?_
  obtain ⟨filtering, isSource, rfl⟩ := List.mem_map.mp member
  obtain ⟨reference, referenced, found⟩ := List.mem_filterMap.mp (List.mem_filter.mp isSource).1
  have ofKind : input ∈ (filtering.kind?.map (·.name)).toList := reads
  obtain ⟨kind, narrows, rfl⟩ := Option.map_eq_some_iff.mp (Option.mem_toList.mp ofKind)
  exact leadsTo_name (mem_routedKinds_of_referenced clean referenced found narrows) present

theorem inOrder_streams (clean : spec.IsClean) :
    InOrder (rawSources spec.routedKinds ++ commonForms spec.routedKinds)
      (streams spec spec.routedKinds) := by
  unfold streams
  rw [inOrder_append, inOrder_append, inOrder_append]
  refine ⟨⟨⟨?_, ?_⟩, inOrder_selectorRouter clean fun _ present =>
    List.mem_append_right _ (List.mem_append_right _ present)⟩, ?_⟩
  · refine inOrder_ite _ fun needed => ⟨fun input reads => ?_, trivial⟩
    rw [List.mem_singleton.mp reads]
    exact leadsTo_id containerForm rfl
      (List.mem_append_right _ (containerForm_mem_commonForms needed)) (by decide)
  · refine inOrder_of_forall fun element member input reads => ?_
    obtain ⟨kind, isRouted, rfl⟩ := List.mem_map.mp member
    have routed : kind ∈ spec.routedKinds := of_decide_eq_true (List.mem_filter.mp isRouted).2
    refine (leadsTo_of_mem_kindInputs routed reads).mono fun other present => ?_
    rw [List.append_assoc]
    exact List.mem_append_right _ present
  · exact inOrder_sourceFilters clean fun _ present =>
      List.mem_append_right _ (List.mem_append_left _ (List.mem_append_right _ present))

/-! ### Pipelines -/

/-- The stream that a pipeline reads for one of its references can be read after all streams. -/
theorem leadsTo_streamOf (clean : spec.IsClean) {pipeline : Pipeline}
    (declared : pipeline ∈ spec.pipelines) {reference : String}
    (reads : reference ∈ pipeline.inputRefs) :
    LeadsTo (streams spec spec.routedKinds) (streamOf spec reference) := by
  obtain ⟨kind, resolved⟩ := Option.isSome_iff_exists.mp (clean.resolves declared reference reads)
  have routed : kind ∈ spec.routedKinds :=
    (spec.mem_routedKinds kind).mpr ⟨pipeline, declared, reference, reads, resolved⟩
  have isStream := isStreamOf_streamOf clean declared reads resolved
  generalize streamOf spec reference = stream at isStream
  cases isStream with
  | ofKind =>
    exact leadsTo_id (kindStream kind) rfl (kindStream_mem_streams routed)
      (by cases kind <;> decide)
  | @ofSelector input selects _ =>
    refine leadsTo_branchOf (route Id.routeApplicationLogs [LogKind.application.name]
      ((selectorInputs spec).map selectorBranch)) rfl ?_
      (show '.' ∉ Id.routeApplicationLogs.toList by decide) ?_
    · exact List.mem_append_left _ (List.mem_append_right _ (mem_selectorRouter selects))
    · rw [Element.branches_route, List.map_map]
      exact List.mem_map.mpr ⟨input, selects, rfl⟩
  | @ofSources input filters _ =>
    exact leadsTo_id (sourceFilter input) rfl
      (List.mem_append_right _ (List.mem_map_of_mem filters)) (Name.dot_notMem_componentId _)

theorem inOrder_upToPipelines (clean : spec.IsClean) : InOrder [] (upToPipelines spec) := by
  unfold upToPipelines
  rw [inOrder_append, inOrder_append, inOrder_append]
  refine ⟨⟨⟨inOrder_rawSources _, inOrder_commonForms _⟩, inOrder_streams clean⟩, ?_⟩
  refine inOrder_of_forall fun element member input reads => ?_
  obtain ⟨pipeline, declared, rfl⟩ := List.mem_map.mp member
  have ofReferences : input ∈ (pipeline.inputRefs.map (streamOf spec)).eraseDups := reads
  obtain ⟨reference, given, rfl⟩ := List.mem_map.mp (List.mem_eraseDups.mp ofReferences)
  exact (leadsTo_streamOf clean declared given).mono fun _ => List.mem_append_right _

/-- After the elements up to the pipelines, the transform of a pipeline can be read. -/
theorem leadsTo_pipeline {earlier : List Element}
    (present : ∀ element ∈ upToPipelines spec, element ∈ earlier) {pipeline : Pipeline}
    (declared : pipeline ∈ spec.pipelines) :
    LeadsTo earlier (Name.componentId pipeline.name) :=
  leadsTo_id (pipelineRemap spec pipeline) rfl
    (present _ (List.mem_append_right _ (List.mem_map_of_mem declared)))
    (Name.dot_notMem_componentId _)

/-! ### Configurations -/

/-- Metrics read from their own source alone. -/
theorem inOrder_metrics (options : Options) (earlier : List Element) :
    InOrder earlier (metrics options) := by
  refine ⟨fun input reads => absurd reads List.not_mem_nil, fun input reads => ?_,
    fun input reads => ?_, trivial⟩
  · rw [List.mem_singleton.mp reads]
    exact leadsTo_id (.create .source Id.internalMetrics [] Templates.internalMetrics.name []) rfl
      (List.mem_append_right _ (List.mem_singleton_self _)) (by decide)
  · rw [List.mem_singleton.mp reads]
    exact leadsTo_id (remap Id.addNodename [Id.internalMetrics]
      ".tags.hostname = get_env_var!(\"VECTOR_SELF_NODE_NAME\")") rfl
      (List.mem_append_right _ (List.mem_singleton_self _)) (by decide)

/-- Console sinks read from the pipelines that they are for. -/
theorem inOrder_debugSinks {earlier : List Element}
    (present : ∀ element ∈ upToPipelines spec, element ∈ earlier) :
    InOrder earlier (debugSinks spec) := by
  refine inOrder_of_forall fun element member input reads => ?_
  obtain ⟨pipeline, declared, rfl⟩ := List.mem_map.mp member
  rw [List.mem_singleton.mp reads]
  exact leadsTo_pipeline present declared

variable {secrets : SecretStore} {options : Options}

/-- The chain of an output reads from the pipelines that lead to it. -/
theorem inOrder_ofOutput {earlier : List Element}
    (present : ∀ element ∈ upToPipelines spec, element ∈ earlier) {output : Output}
    {chain : List Element} (made : (Sink.ofOutput spec secrets options output).chain = .ok chain) :
    InOrder earlier chain := by
  have plain : '.' ∉ (Sink.ofOutput spec secrets options output).id.toList :=
    Name.dot_notMem_componentId output.name
  refine Sink.inOrder_chain plain made fun input reads => ?_
  have ofPipelines : input ∈ (spec.routes.pipelinesFor output.name).map Name.componentId := reads
  obtain ⟨name, flows, rfl⟩ := List.mem_map.mp ofPipelines
  obtain ⟨pipeline, declared, _, rfl⟩ := (spec.mem_pipelinesFor output.name name).mp flows
  exact leadsTo_pipeline present declared

/-- The elements of a configuration are in order. -/
theorem inOrder_of_build (clean : spec.IsClean) {arena : Arena}
    (built : build spec secrets options = .ok arena) : InOrder [] arena.elements := by
  cases debug : options.debug with
  | true =>
    rw [elements_of_build_debug debug built, inOrder_append]
    exact ⟨inOrder_upToPipelines clean, inOrder_debugSinks fun _ present => present⟩
  | false =>
    obtain ⟨chains, made, elements⟩ := elements_of_build debug built
    rw [elements, inOrder_append, inOrder_append]
    refine ⟨⟨inOrder_upToPipelines clean, inOrder_flatten fun chain isChain earlier present => ?_⟩,
      inOrder_metrics options _⟩
    obtain ⟨output, _, chainMade⟩ := exists_of_mem_forall₂ made.flip isChain
    exact inOrder_ofOutput present chainMade

end Spec

end Vector

end LogForwarder
