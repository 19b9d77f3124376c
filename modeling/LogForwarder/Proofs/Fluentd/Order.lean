/-
This file proves that the elements of a configuration in the fluentd dialect are written in order,
and that all labels that their parameters name are there. Both say that what is found out in
different places agrees: that a kind goes anywhere decides whether it has a label, whether its
sources are there and whether the label where records come in hands them on; and that all pipelines
read from the label of the rest only if there is one follows from the pipeline that reads from it.
-/

import LogForwarder.Proofs.Fluentd.Routing
import LogForwarder.Proofs.Order

namespace LogForwarder

/-- Labels of names have no dots. -/
theorem Name.dot_notMem_label (name : String) : '.' ∉ (Name.label name).toList := by
  unfold Name.label Name.labelWord
  simp only [String.toList_append, List.mem_append, String.toList_ofList, List.mem_map]
  rintro (start | ⟨character, _, isDot⟩)
  · exact absurd start (by decide)
  · unfold Name.labelChar at isDot
    split at isDot
    · exact absurd isDot (by decide)
    · rename_i plain
      rw [isDot] at plain
      exact plain (by decide)

namespace Fluentd

variable {spec : Spec} {secrets : SecretStore} {options : Options} {arena : Arena}

/-! ### Labels that parameters name -/

theorem namedLabels_header : header.namedLabels = [] := by
  unfold header Element.namedLabels
  simp [Element.field_create, routeTargets, routerTargets, fanTargets]

theorem namedLabels_metrics (options : Options) : (metrics options).namedLabels = [] := by
  unfold metrics Element.namedLabels
  simp [Element.field_create, List.lookup_cons, routeTargets, routerTargets, fanTargets]

theorem namedLabels_containerSource : containerSource.namedLabels = [Label.concat] := by
  unfold containerSource Element.namedLabels
  simp [Element.field_create, List.lookup_cons, routeTargets, routerTargets, fanTargets]

theorem namedLabels_journalSource : journalSource.namedLabels = [Label.ingress] := by
  unfold journalSource Element.namedLabels
  simp [Element.field_create, List.lookup_cons, routeTargets, routerTargets, fanTargets]

theorem namedLabels_auditSource (source : AuditSource) :
    (auditSource source).namedLabels = [Label.ingress] := by
  unfold auditSource auditTailParams Element.namedLabels
  cases source <;>
    simp [Element.field_create, List.lookup_cons, routeTargets, routerTargets, fanTargets]

theorem namedLabels_concatLabel : concatLabel.namedLabels = [Label.ingress] := by
  unfold concatLabel Element.namedLabels
  simp [Element.field_create, List.lookup_cons, routeTargets, routerTargets, fanTargets]

/-- The label where records come in hands on those of kinds that go anywhere. -/
theorem mem_namedLabels_ingressLabel (routing : Routing) (label : String) :
    label ∈ (ingressLabel routing).namedLabels ↔
      ∃ kind ∈ matchOrder, routing.has kind ∧ Label.ofKind kind = label := by
  have ofRoute : ∀ kind, ((ingressRoute routing kind).field "label").text? = some label ↔
      routing.has kind ∧ Label.ofKind kind = label := by
    intro kind
    unfold ingressRoute
    simp
  unfold ingressLabel Element.namedLabels
  simp [Element.field_create, List.lookup_cons, routerTargets, fanTargets, routeTargets, ofRoute]

/-- The label of a kind names its targets even if the router takes the place of its fan. -/
theorem namedLabels_label (route : KindRoute) :
    route.label.namedLabels =
      route.selected.map (·.pipeline) ++
        (if route.hasFallback then [Label.applicationAll] else []) ++ route.targets := by
  by_cases whole : route.selected = []
  · have noRouter : route.routerParam = .null := by
      unfold KindRoute.routerParam
      rw [whole]
      rfl
    have noFallback : route.hasFallback = false := by
      unfold KindRoute.hasFallback
      rw [whole]
      rfl
    unfold KindRoute.label Element.namedLabels
    simp [Element.field_create, List.lookup_cons, routeTargets, routerTargets, noRouter, whole,
      noFallback]
  · unfold KindRoute.label Element.namedLabels
    simp [Element.field_create, List.lookup_cons, routeTargets, routerTargets_routerParam whole]

theorem namedLabels_fallbackLabel (route : KindRoute) :
    route.fallbackLabel.namedLabels = route.targets := by
  unfold KindRoute.fallbackLabel Element.namedLabels
  simp [Element.field_create, List.lookup_cons, routeTargets, routerTargets]

theorem namedLabels_pipelineLabel (spec : Spec) (routing : Routing) (options : Options)
    (pipeline : Pipeline) :
    (pipelineLabel spec routing options pipeline).namedLabels =
      if options.debug then [] else pipeline.outputRefs.map Name.label := by
  unfold pipelineLabel Element.namedLabels
  simp [Element.field_create, List.lookup_cons, routeTargets, routerTargets]

theorem namedLabels_legacyLabel (routing : Routing) (id description path : String) :
    (legacyLabel routing id description path).namedLabels = [] := by
  unfold legacyLabel Element.namedLabels
  simp [Element.field_create, List.lookup_cons, routeTargets, routerTargets, fanTargets]

/-! ### What goes anywhere -/

theorem has_iff (routing : Routing) (kind : LogKind) :
    routing.has kind ↔ ∃ route ∈ routing, route.kind = kind := by
  unfold Routing.has
  simp only [List.any_eq_true, decide_eq_true_eq]

/-- A pipeline that reads all records of a kind is among those that the kind directly goes to. -/
theorem mem_direct (spec : Spec) (options : Options) {pipeline : Pipeline}
    (declared : pipeline ∈ spec.pipelines) {reference : String}
    (given : reference ∈ pipeline.inputRefs) {reading : Reading}
    (reads : readingOf? spec reference = some reading) (whole : reading.selector?.isNone) :
    Name.label pipeline.name ∈ (KindRoute.ofKind spec options reading.kind).direct := by
  unfold KindRoute.ofKind readings
  simp only [List.mem_eraseDups, List.mem_map, List.mem_filter, List.mem_flatMap,
    List.mem_filterMap, decide_eq_true_eq]
  exact ⟨(_, reading), ⟨⟨⟨pipeline, declared, reading, ⟨reference, given, reads⟩, rfl⟩, rfl⟩,
    whole⟩, rfl⟩

/-- Where the records of a kind are handed on to as they come from its label. -/
theorem exists_of_mem_direct_or_selected {kind : LogKind} {label : String}
    (leads : label ∈ (KindRoute.ofKind spec options kind).direct ∨
      label ∈ (KindRoute.ofKind spec options kind).selected.map (·.pipeline)) :
    ∃ pipeline ∈ spec.pipelines, Name.label pipeline.name = label := by
  obtain ⟨pipeline, declared, named, _⟩ := (mem_direct_or_selected spec options kind label).mp leads
  exact ⟨pipeline, declared, named⟩

/-! ### Order -/

/-- The head, the metrics and the sources read from nothing. -/
theorem inOrder_sources (options : Options) (routing : Routing) :
    InOrder [] ([header, metrics options] ++ sources routing) := by
  refine inOrder_of_forall fun element member input reads => ?_
  unfold sources at member
  simp only [List.mem_append, List.mem_cons, List.not_mem_nil, or_false, List.mem_ite_nil_right,
    List.mem_map] at member
  have noInputs : element.inputs = [] := by
    rcases member with (rfl | rfl) | (⟨_, rfl⟩ | ⟨_, rfl⟩) | ⟨_, _, _, rfl⟩ <;> rfl
  rw [noInputs] at reads
  exact absurd reads List.not_mem_nil

/-- Records come in from sources, those of containers after their lines have been put together. -/
theorem inOrder_ingress {earlier : List Element} {routing : Routing}
    (present : ∀ element ∈ sources routing, element ∈ earlier) :
    InOrder earlier (ingress routing) := by
  unfold sources at present
  simp only [List.mem_append, List.mem_ite_nil_right, List.mem_singleton] at present
  unfold ingress
  refine (inOrder_append _ _ _).mpr ⟨inOrder_ite _ fun containers => ⟨fun input reads => ?_,
    trivial⟩, fun input reads => ?_, trivial⟩
  · rw [List.mem_singleton.mp reads]
    exact leadsTo_id containerSource rfl (present _ (.inl (.inl ⟨containers, rfl⟩))) (by decide)
  · have member : input ∈ ingressInputs routing := reads
    unfold ingressInputs at member
    simp only [List.mem_append, List.mem_ite_nil_right, List.mem_singleton] at member
    rcases member with (⟨containers, rfl⟩ | ⟨routed, rfl⟩) | ⟨routed, isAudit⟩
    · refine leadsTo_id concatLabel rfl (List.mem_append_right _ ?_) (by decide)
      rw [if_pos containers]
      exact List.mem_singleton_self _
    · exact leadsTo_id journalSource rfl
        (List.mem_append_left _ (present _ (.inl (.inr ⟨routed, rfl⟩)))) (by decide)
    · obtain ⟨source, among, rfl⟩ := List.mem_map.mp isAudit
      exact leadsTo_id (auditSource source) rfl
        (List.mem_append_left _ (present _ (.inr ⟨routed, List.mem_map_of_mem among⟩)))
        (by cases source <;> decide)

theorem dot_notMem_ofKind (kind : LogKind) : '.' ∉ (Label.ofKind kind).toList := by
  cases kind <;> decide

/-- Labels of kinds read from where records come in, and that of the rest from its kind. -/
theorem inOrder_kindElements {start : List Element} {routing : Routing}
    (present : ingressLabel routing ∈ start) : InOrder start (kindElements routing) := by
  unfold kindElements
  rw [List.flatMap_def]
  refine inOrder_flatten fun part isPart earlier among => ?_
  obtain ⟨route, _, rfl⟩ := List.mem_map.mp isPart
  refine ⟨fun input reads => ?_, inOrder_ite _ fun _ => ⟨fun input reads => ?_, trivial⟩⟩
  · rw [List.mem_singleton.mp reads]
    exact leadsTo_id (ingressLabel routing) rfl (among _ present) (by decide)
  · rw [List.mem_singleton.mp reads]
    exact leadsTo_id route.label rfl (List.mem_append_right _ (List.mem_singleton_self _))
      (dot_notMem_ofKind route.kind)

/-- The label of a kind that is routed can be read after the labels of kinds. -/
theorem leadsTo_ofKind {earlier : List Element} {routing : Routing}
    (present : ∀ element ∈ kindElements routing, element ∈ earlier) {route : KindRoute}
    (routed : route ∈ routing) : LeadsTo earlier (Label.ofKind route.kind) :=
  leadsTo_id route.label rfl
    (present _ (List.mem_flatMap.mpr ⟨route, routed, List.mem_cons_self⟩))
    (dot_notMem_ofKind route.kind)

/-- The label that a pipeline reads from can be read after the labels of kinds. -/
theorem leadsTo_labelOf {earlier : List Element}
    (present : ∀ element ∈ kindElements (Routing.ofSpec spec options), element ∈ earlier)
    {pipeline : Pipeline} (declared : pipeline ∈ spec.pipelines) {reference : String}
    (given : reference ∈ pipeline.inputRefs) {reading : Reading}
    (reads : readingOf? spec reference = some reading) :
    LeadsTo earlier ((Routing.ofSpec spec options).labelOf reading) := by
  have resolved : spec.refKind? reference = some reading.kind := by
    rw [← kind_of_readingOf?, reads]
    rfl
  unfold Routing.labelOf
  split
  · -- The pipeline reads all records, so that those which no selector takes have a label.
    rename_i rest
    rw [Bool.and_eq_true, Bool.and_eq_true, decide_eq_true_eq] at rest
    obtain ⟨⟨application, split⟩, whole⟩ := rest
    obtain ⟨route, routed, selects⟩ := List.any_eq_true.mp split
    rw [Bool.and_eq_true, decide_eq_true_eq] at selects
    have direct := mem_direct spec options declared given reads whole
    rw [application, ← selects.1, ← ((mem_ofSpec route).mp routed).1] at direct
    have hasFallback : route.hasFallback := by
      unfold KindRoute.hasFallback
      have leads : route.targets ≠ [] := List.ne_nil_of_mem (List.mem_append_left _ direct)
      rw [selects.2, List.isEmpty_eq_false_iff.mpr leads]
      rfl
    refine leadsTo_id route.fallbackLabel rfl (present _ ?_) (by decide)
    refine List.mem_flatMap.mpr ⟨route, routed, List.mem_cons_of_mem _ ?_⟩
    rw [if_pos hasFallback]
    exact List.mem_singleton_self _
  · exact leadsTo_ofKind present
      (mem_ofSpec_of_reads options declared ⟨reference, given, resolved⟩)

/-- Labels of pipelines read from those of kinds. -/
theorem inOrder_pipelineElements {earlier : List Element}
    (present : ∀ element ∈ kindElements (Routing.ofSpec spec options), element ∈ earlier) :
    InOrder earlier (pipelineElements spec (Routing.ofSpec spec options) options) := by
  refine inOrder_of_forall fun element member input reads => ?_
  obtain ⟨pipeline, declared, rfl⟩ := List.mem_map.mp member
  have ofReadings : input ∈ ((pipeline.inputRefs.filterMap (readingOf? spec)).map
    (Routing.ofSpec spec options).labelOf).eraseDups := reads
  obtain ⟨reading, isReading, rfl⟩ := List.mem_map.mp (List.mem_eraseDups.mp ofReadings)
  obtain ⟨reference, given, found⟩ := List.mem_filterMap.mp isReading
  exact leadsTo_labelOf present declared given found

/-- The elements up to the pipelines are in order. -/
theorem inOrder_upToPipelines (spec : Spec) (options : Options) :
    InOrder [] (upToPipelines spec options) := by
  unfold upToPipelines
  rw [inOrder_append, inOrder_append, inOrder_append, List.nil_append, List.nil_append,
    List.nil_append]
  refine ⟨⟨⟨inOrder_sources options _, ?_⟩, ?_⟩, ?_⟩
  · exact inOrder_ingress fun _ present => List.mem_append_right _ present
  · refine inOrder_kindElements (List.mem_append_right _ (List.mem_append_right _ ?_))
    exact List.mem_singleton_self _
  · exact inOrder_pipelineElements fun _ present => List.mem_append_right _ present

/-- The label of a pipeline can be read after the elements up to the pipelines. -/
theorem leadsTo_label {earlier : List Element}
    (present : ∀ element ∈ upToPipelines spec options, element ∈ earlier) {pipeline : Pipeline}
    (declared : pipeline ∈ spec.pipelines) : LeadsTo earlier (Name.label pipeline.name) :=
  leadsTo_id (pipelineLabel spec (Routing.ofSpec spec options) options pipeline) rfl
    (present _ (List.mem_append_right _ (List.mem_map_of_mem declared)))
    (Name.dot_notMem_label pipeline.name)

/-- The label of an output reads from those of the pipelines that lead to it. -/
theorem inOrder_outputLabel {earlier : List Element}
    (present : ∀ element ∈ upToPipelines spec options, element ∈ earlier) {output : Output}
    {label : Element} (made : (Store.ofOutput spec secrets options output).outputLabel = .ok label) :
    InOrder earlier [label] := by
  refine ⟨fun input reads => ?_, trivial⟩
  rw [(Store.isSilentLabel_outputLabel made).inputs] at reads
  obtain ⟨name, flows, rfl⟩ := List.mem_map.mp reads
  obtain ⟨pipeline, declared, _, rfl⟩ := (spec.mem_pipelinesFor output.name name).mp flows
  exact leadsTo_label present declared

/-- The labels that lead to files of the old kind read from those of kinds. -/
theorem inOrder_legacyElements {earlier : List Element} {routing : Routing} (options : Options)
    (present : ∀ element ∈ kindElements routing, element ∈ earlier) :
    InOrder earlier (legacyElements routing options) := by
  refine inOrder_of_forall fun element member input reads => ?_
  unfold legacyElements at member
  simp only [List.mem_append, List.mem_ite_nil_right, List.mem_singleton] at member
  have ofKinds : input ∈ routing.kindLabels := by
    rcases member with ⟨_, rfl⟩ | ⟨_, rfl⟩ <;> exact reads
  obtain ⟨route, routed, rfl⟩ := List.mem_map.mp ofKinds
  exact leadsTo_ofKind present routed

/-- The elements of a configuration are in order. -/
theorem inOrder_of_build (built : build spec secrets options = .ok arena) :
    InOrder [] arena.elements := by
  obtain ⟨labels, made, elements⟩ := labels_of_build built
  rw [elements, inOrder_append, inOrder_append, List.nil_append, List.nil_append]
  refine ⟨⟨inOrder_upToPipelines spec options,
    inOrder_flatten fun part isPart earlier present => ?_⟩,
    inOrder_legacyElements options fun element member => ?_⟩
  · obtain ⟨output, _, label, rfl, labelMade⟩ := exists_of_mem_forall₂ made.flip isPart
    exact inOrder_outputLabel present labelMade
  · exact List.mem_append_left _ (List.mem_append_left _ (List.mem_append_right _ member))

/-! ### Labels that are there -/

/-- The labels that sources and the labels that all records go through name. -/
theorem namedLabels_of_intake {routing : Routing} {element : Element}
    (member : element ∈ [header, metrics options] ++ sources routing ++ ingress routing)
    {label : String} (named : label ∈ element.namedLabels) :
    (label = Label.concat ∧ routing.hasContainers) ∨ label = Label.ingress ∨
      ∃ route ∈ routing, Label.ofKind route.kind = label := by
  unfold sources ingress at member
  simp only [List.mem_append, List.mem_cons, List.not_mem_nil, or_false, List.mem_ite_nil_right,
    List.mem_map] at member
  rcases member with ((rfl | rfl) | (⟨containers, rfl⟩ | ⟨_, rfl⟩) | ⟨_, source, _, rfl⟩) |
    ⟨_, rfl⟩ | rfl
  · rw [namedLabels_header] at named
    exact absurd named List.not_mem_nil
  · rw [namedLabels_metrics] at named
    exact absurd named List.not_mem_nil
  · rw [namedLabels_containerSource] at named
    exact .inl ⟨List.mem_singleton.mp named, containers⟩
  · rw [namedLabels_journalSource] at named
    exact .inr (.inl (List.mem_singleton.mp named))
  · rw [namedLabels_auditSource] at named
    exact .inr (.inl (List.mem_singleton.mp named))
  · rw [namedLabels_concatLabel] at named
    exact .inr (.inl (List.mem_singleton.mp named))
  · obtain ⟨kind, _, routed, rfl⟩ := (mem_namedLabels_ingressLabel routing label).mp named
    obtain ⟨route, isRoute, rfl⟩ := (has_iff routing kind).mp routed
    exact .inr (.inr ⟨route, isRoute, rfl⟩)

/-- The targets of a kind are labels of pipelines, or of files of the old kind. -/
theorem mem_targets {route : KindRoute} (routed : route ∈ Routing.ofSpec spec options)
    {label : String} (target : label ∈ route.targets) :
    (∃ pipeline ∈ spec.pipelines, Name.label pipeline.name = label) ∨
      label ∈ legacyTargets options := by
  rw [((mem_ofSpec route).mp routed).1] at target
  rcases List.mem_append.mp target with direct | legacy
  · exact .inl (exists_of_mem_direct_or_selected (.inl direct))
  · exact .inr legacy

/-- The labels that the labels of a kind name. -/
theorem namedLabels_of_kind {element : Element}
    (member : element ∈ kindElements (Routing.ofSpec spec options)) {label : String}
    (named : label ∈ element.namedLabels) :
    (∃ pipeline ∈ spec.pipelines, Name.label pipeline.name = label) ∨
      label ∈ legacyTargets options ∨
      ∃ route ∈ Routing.ofSpec spec options, route.hasFallback ∧ label = Label.applicationAll := by
  obtain ⟨route, routed, isLabel⟩ := List.mem_flatMap.mp member
  have ofTargets : label ∈ route.targets →
      (∃ pipeline ∈ spec.pipelines, Name.label pipeline.name = label) ∨
        label ∈ legacyTargets options ∨
        ∃ route ∈ Routing.ofSpec spec options, route.hasFallback ∧ label = Label.applicationAll :=
    fun target => (mem_targets routed target).imp_right .inl
  rcases List.mem_cons.mp isLabel with rfl | isFallback
  · rw [namedLabels_label, List.mem_append, List.mem_append, List.mem_ite_nil_right,
      List.mem_singleton] at named
    rcases named with (selected | ⟨hasFallback, rest⟩) | target
    · rw [((mem_ofSpec route).mp routed).1] at selected
      exact .inl (exists_of_mem_direct_or_selected (.inr selected))
    · exact .inr (.inr ⟨route, routed, hasFallback, rest⟩)
    · exact ofTargets target
  · rw [List.mem_ite_nil_right, List.mem_singleton] at isFallback
    obtain ⟨_, rfl⟩ := isFallback
    rw [namedLabels_fallbackLabel] at named
    exact ofTargets named

theorem label_mem_ids (built : build spec secrets options = .ok arena) {pipeline : Pipeline}
    (declared : pipeline ∈ spec.pipelines) : Name.label pipeline.name ∈ arena.ids := by
  have member : pipelineLabel spec (Routing.ofSpec spec options) options pipeline ∈
      arena.elements :=
    present_of_build built _ (List.mem_append_right _ (List.mem_map_of_mem declared))
  exact arena.id_mem_ids member

/-- All labels that parameters name are labels of elements of the configuration. -/
theorem namedLabels_subset_ids (clean : spec.IsClean)
    (built : build spec secrets options = .ok arena) {element : Element}
    (member : element ∈ arena.elements) : element.namedLabels ⊆ arena.ids := by
  intro label named
  have ingressPresent : ∀ other ∈ ingress (Routing.ofSpec spec options), other.id ∈ arena.ids :=
    fun other present => arena.id_mem_ids (present_of_build built _
      (List.mem_append_left _ (List.mem_append_left _ (List.mem_append_right _ present))))
  rcases mem_cases_of_build built member with early | ⟨output, _, made⟩ | isLegacy
  · rcases List.mem_append.mp early with early | isPipeline
    · rcases List.mem_append.mp early with intake | isKind
      · rcases namedLabels_of_intake intake named with
          ⟨rfl, containers⟩ | rfl | ⟨route, routed, rfl⟩
        · refine ingressPresent concatLabel (List.mem_append_left _ ?_)
          rw [if_pos containers]
          exact List.mem_singleton_self _
        · exact ingressPresent (ingressLabel (Routing.ofSpec spec options))
            (List.mem_append_right _ (List.mem_singleton_self _))
        · exact arena.id_mem_ids (present_kind built routed).1
      · rcases namedLabels_of_kind isKind named with
          ⟨pipeline, declared, rfl⟩ | legacy | ⟨route, routed, hasFallback, rfl⟩
        · exact label_mem_ids built declared
        · obtain ⟨target, present, rfl, _⟩ := exists_legacy_label built legacy
          exact arena.id_mem_ids present
        · exact arena.id_mem_ids ((present_kind built routed).2 hasFallback)
    · obtain ⟨pipeline, declared, rfl⟩ := List.mem_map.mp isPipeline
      rw [namedLabels_pipelineLabel] at named
      cases debug : options.debug with
      | true =>
        rw [debug, if_pos rfl] at named
        exact absurd named List.not_mem_nil
      | false =>
        rw [debug, if_neg Bool.false_ne_true] at named
        obtain ⟨reference, leads, rfl⟩ := List.mem_map.mp named
        obtain ⟨output, outputDeclared, rfl⟩ := clean.exists_output declared leads
        obtain ⟨target, present, isTarget, _⟩ :=
          exists_output_label clean debug built outputDeclared ⟨pipeline, declared, leads⟩
        exact isTarget ▸ arena.id_mem_ids present
  · rw [(Store.isSilentLabel_outputLabel made).namedLabels_eq_nil] at named
    exact absurd named List.not_mem_nil
  · unfold legacyElements at isLegacy
    simp only [List.mem_append, List.mem_ite_nil_right, List.mem_singleton] at isLegacy
    rcases isLegacy with ⟨_, rfl⟩ | ⟨_, rfl⟩
    · rw [namedLabels_legacyLabel] at named
      exact absurd named List.not_mem_nil
    · rw [namedLabels_legacyLabel] at named
      exact absurd named List.not_mem_nil

end Fluentd

end LogForwarder
