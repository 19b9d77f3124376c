/-
This file proves that a configuration in the fluentd dialect routes records as the spec does. From
the label of a kind one comes to the pipelines that read all of its records and to those that select
some of them: straight from its fan if none selects any, or else from its router and, by way of the
label of the rest, from a fan again. From a pipeline one comes to its outputs, and from an output no
further; files of the old kind lead to nothing either.
-/

import LogForwarder.Proofs.Clean
import LogForwarder.Proofs.Fluentd.Label

namespace LogForwarder

namespace Fluentd

variable {spec : Spec} {secrets : SecretStore} {options : Options} {arena : Arena}

/-! ### What pipelines read -/

/-- What a reference reads is of the kind that the reference resolves to. -/
theorem kind_of_readingOf? (spec : Spec) (reference : String) :
    (readingOf? spec reference).map (·.kind) = spec.refKind? reference := by
  unfold readingOf?
  cases reserved : LogKind.ofName? reference with
  | some kind =>
    rw [spec.refKind?_of_ofName? reserved]
    rfl
  | none =>
    rw [spec.refKind?_of_ofName?_none reserved]
    cases declared : spec.input? reference with
    | none => rfl
    | some input =>
      show ((input.kind?.bind fun kind =>
        some (Reading.mk kind (if input.hasSelector then some input else none))).map (·.kind)) =
          input.kind?
      cases input.kind? <;> rfl

/-- The readings of a kind are those of pipelines by references that resolve to it. -/
theorem exists_reading_iff (spec : Spec) (label : String) (kind : LogKind) :
    (∃ reading, (label, reading) ∈ readings spec ∧ reading.kind = kind) ↔
      ∃ pipeline ∈ spec.pipelines, Name.label pipeline.name = label ∧
        ∃ reference ∈ pipeline.inputRefs, spec.refKind? reference = some kind := by
  unfold readings
  simp only [List.mem_flatMap, List.mem_map, List.mem_filterMap, Prod.mk.injEq,
    ← kind_of_readingOf? spec, Option.map_eq_some_iff]
  refine ⟨?_, ?_⟩
  · rintro ⟨reading, ⟨pipeline, declared, _, ⟨reference, reads, isReading⟩, named, rfl⟩, ofKind⟩
    exact ⟨pipeline, declared, named, reference, reads, _, isReading, ofKind⟩
  · rintro ⟨pipeline, declared, named, reference, reads, reading, isReading, ofKind⟩
    exact ⟨reading, ⟨pipeline, declared, reading, ⟨reference, reads, isReading⟩, named, rfl⟩,
      ofKind⟩

/-- The records of a kind go to the pipelines that read it, be it directly or by selection. -/
theorem mem_direct_or_selected (spec : Spec) (options : Options) (kind : LogKind)
    (label : String) :
    (label ∈ (KindRoute.ofKind spec options kind).direct ∨
        label ∈ (KindRoute.ofKind spec options kind).selected.map (·.pipeline)) ↔
      ∃ pipeline ∈ spec.pipelines, Name.label pipeline.name = label ∧
        ∃ reference ∈ pipeline.inputRefs, spec.refKind? reference = some kind := by
  rw [← exists_reading_iff]
  unfold KindRoute.ofKind
  simp only [List.mem_eraseDups, List.mem_map, List.mem_filter, List.mem_filterMap,
    decide_eq_true_eq, Option.map_eq_some_iff]
  refine ⟨?_, ?_⟩
  · rintro (⟨⟨_, reading⟩, ⟨⟨present, ofKind⟩, _⟩, rfl⟩ |
      ⟨_, ⟨⟨_, reading⟩, ⟨present, ofKind⟩, input, _, rfl⟩, rfl⟩)
    · exact ⟨reading, present, ofKind⟩
    · exact ⟨reading, present, ofKind⟩
  · rintro ⟨reading, present, ofKind⟩
    cases selects : reading.selector? with
    | none =>
      refine .inl ⟨(label, reading), ⟨⟨present, ofKind⟩, ?_⟩, rfl⟩
      rw [selects]
      rfl
    | some input =>
      exact .inr ⟨selectionOf label input, ⟨(label, reading), ⟨present, ofKind⟩, input, selects,
        rfl⟩, rfl⟩

/-! ### The elements of a configuration -/

/--
What a configuration is made of, when debugging or not: the elements up to the pipelines, the labels
of outputs, and the labels that lead to files of the old kind.
-/
theorem labels_of_build (built : build spec secrets options = .ok arena) :
    ∃ labels, List.Forall₂ (fun output added => ∃ label, added = [label] ∧
        (Store.ofOutput spec secrets options output).outputLabel = .ok label)
          (spec.shownOutputs options) labels ∧
      arena.elements = upToPipelines spec options ++ labels.flatten ++
        legacyElements (Routing.ofSpec spec options) options := by
  have oneLabel : ∀ (arena : Arena) (output : Output) (longer : Arena),
      addOutput spec secrets options arena output = .ok longer →
        ∃ added, (∃ label, added = [label] ∧
          (Store.ofOutput spec secrets options output).outputLabel = .ok label) ∧
            longer.elements = arena.elements ++ added := by
    intro arena output longer added
    obtain ⟨label, made, extended⟩ := exists_of_bind_eq_ok added
    exact ⟨[label], ⟨label, rfl, made⟩, Arena.elements_of_extended extended⟩
  exact Arena.elements_of_run (addOutput spec secrets options) _ oneLabel _ built

/--
An element of a configuration comes before the labels of outputs, or is one of them, or leads to a
file of the old kind.
-/
theorem mem_cases_of_build (built : build spec secrets options = .ok arena) {element : Element}
    (member : element ∈ arena.elements) :
    element ∈ upToPipelines spec options ∨
      (∃ output ∈ spec.shownOutputs options,
        (Store.ofOutput spec secrets options output).outputLabel = .ok element) ∨
      element ∈ legacyElements (Routing.ofSpec spec options) options := by
  obtain ⟨labels, made, elements⟩ := labels_of_build built
  rw [elements, List.mem_append, List.mem_append, or_assoc] at member
  refine member.imp_right (Or.imp_left fun isLabel => ?_)
  obtain ⟨added, isAdded, inAdded⟩ := List.mem_flatten.mp isLabel
  obtain ⟨output, shown, label, rfl, labelMade⟩ := exists_of_mem_forall₂ made.flip isAdded
  exact ⟨output, shown, List.mem_singleton.mp inAdded ▸ labelMade⟩

/--
What a configuration is made of: the elements up to the pipelines, a label for each output that
pipelines lead to, and the labels that lead to files of the old kind.
-/
theorem elements_of_build (noDebug : options.debug = false)
    (built : build spec secrets options = .ok arena) :
    ∃ labels, List.Forall₂ (fun output added => ∃ label, added = [label] ∧
        (Store.ofOutput spec secrets options output).IsFinal label) spec.routedOutputs labels ∧
      arena.elements = upToPipelines spec options ++ labels.flatten ++
        legacyElements (Routing.ofSpec spec options) options := by
  obtain ⟨labels, made, elements⟩ := labels_of_build built
  refine ⟨labels, (spec.shownOutputs_of_noDebug noDebug ▸ made).imp ?_, elements⟩
  rintro output added ⟨label, rfl, isLabel⟩
  exact ⟨label, rfl, Store.isFinal_outputLabel isLabel⟩

theorem present_of_build (built : build spec secrets options = .ok arena) :
    ∀ element ∈ upToPipelines spec options, element ∈ arena.elements := by
  obtain ⟨labels, _, elements⟩ := labels_of_build built
  intro element member
  rw [elements]
  exact List.mem_append_left _ (List.mem_append_left _ member)

/-- The output of a declared name that a pipeline leads to has a final label. -/
theorem exists_output_label (clean : spec.IsClean) (noDebug : options.debug = false)
    (built : build spec secrets options = .ok arena) {output : Output}
    (declared : output ∈ spec.outputs) (routed : spec.Routes output.name) :
    ∃ label ∈ arena.elements, label.id = Name.label output.name ∧ label.labelTargets = [] := by
  obtain ⟨labels, made, elements⟩ := elements_of_build noDebug built
  have isRouted : output ∈ spec.routedOutputs :=
    (spec.mem_routedOutputs clean.outputsDistinct output).mpr ⟨declared, routed⟩
  obtain ⟨_, present, label, rfl, final⟩ := exists_of_mem_forall₂ made isRouted
  refine ⟨label, ?_, final.id, final.targets⟩
  rw [elements]
  exact List.mem_append_left _ (List.mem_append_right _
    (List.mem_flatten.mpr ⟨_, present, List.mem_singleton_self label⟩))

/-- The label of every output that pipelines lead to is in a configuration. -/
theorem exists_label_of_routed (noDebug : options.debug = false)
    (built : build spec secrets options = .ok arena) {output : Output}
    (routed : output ∈ spec.routedOutputs) :
    ∃ label ∈ arena.elements, label.id = Name.label output.name ∧
      (Store.ofOutput spec secrets options output).outputLabel = .ok label := by
  obtain ⟨labels, made, elements⟩ := labels_of_build built
  have shown : output ∈ spec.shownOutputs options := by
    rw [spec.shownOutputs_of_noDebug noDebug]
    exact routed
  obtain ⟨_, isAdded, label, rfl, labelMade⟩ := exists_of_mem_forall₂ made shown
  refine ⟨label, ?_, (Store.isFinal_outputLabel labelMade).id, labelMade⟩
  rw [elements]
  exact List.mem_append_left _ (List.mem_append_right _
    (List.mem_flatten.mpr ⟨_, isAdded, List.mem_singleton_self label⟩))

/-- The labels that lead to files of the old kind hand records on to no other label. -/
theorem exists_legacy_label (built : build spec secrets options = .ok arena) {target : String}
    (legacy : target ∈ legacyTargets options) :
    ∃ label ∈ arena.elements, label.id = target ∧ label.labelTargets = [] := by
  obtain ⟨labels, _, elements⟩ := labels_of_build built
  have isLegacy : ∃ label ∈ legacyElements (Routing.ofSpec spec options) options,
      label.id = target ∧ label.labelTargets = [] := by
    unfold legacyTargets at legacy
    unfold legacyElements
    simp only [List.mem_append, List.mem_ite_nil_right, List.mem_singleton] at legacy ⊢
    rcases legacy with ⟨asked, rfl⟩ | ⟨asked, rfl⟩
    · exact ⟨_, .inl ⟨asked, rfl⟩, rfl, labelTargets_legacyLabel _ _ _ _⟩
    · exact ⟨_, .inr ⟨asked, rfl⟩, rfl, labelTargets_legacyLabel _ _ _ _⟩
  obtain ⟨label, member, isTarget, targets⟩ := isLegacy
  refine ⟨label, ?_, isTarget, targets⟩
  rw [elements]
  exact List.mem_append_right _ member

/-! ### Labels of kinds -/

theorem ofKind_mem_reserved (kind : LogKind) : Label.ofKind kind ∈ Label.reserved := by
  cases kind <;> decide

theorem ofKind_injective : Function.Injective Label.ofKind := by
  intro first second
  cases first <;> cases second <;> decide

/-- The ids of the elements that belong to no kind, pipeline or output alone. -/
def commonIds : List String :=
  ["system", "metrics", containerInput, journalInput, Label.concat, Label.ingress,
    Label.applicationAll, Label.legacySecureForward, Label.legacySyslog] ++
    AuditSource.all.map auditInput

theorem ofKind_notMem_commonIds (kind : LogKind) : Label.ofKind kind ∉ commonIds := by
  cases kind <;> decide

theorem id_mem_commonIds {routing : Routing} {element : Element}
    (member : element ∈ [header, metrics options] ++ sources routing ++ ingress routing) :
    element.id ∈ commonIds := by
  unfold sources ingress at member
  simp only [List.mem_append, List.mem_cons, List.not_mem_nil, or_false, List.mem_ite_nil_right,
    List.mem_map] at member
  have ofAudit : ∀ source, auditInput source ∈ commonIds := by
    intro source
    cases source <;> decide
  rcases member with ((rfl | rfl) | (⟨_, rfl⟩ | ⟨_, rfl⟩) | ⟨_, source, _, rfl⟩) |
    ⟨_, rfl⟩ | rfl
  · show "system" ∈ commonIds
    decide
  · show "metrics" ∈ commonIds
    decide
  · show containerInput ∈ commonIds
    decide
  · show journalInput ∈ commonIds
    decide
  · exact ofAudit source
  · show Label.concat ∈ commonIds
    decide
  · show Label.ingress ∈ commonIds
    decide

theorem id_mem_commonIds_of_legacy {routing : Routing} {element : Element}
    (member : element ∈ legacyElements routing options) : element.id ∈ commonIds := by
  unfold legacyElements at member
  simp only [List.mem_append, List.mem_ite_nil_right, List.mem_singleton] at member
  rcases member with ⟨_, rfl⟩ | ⟨_, rfl⟩
  · show Label.legacySecureForward ∈ commonIds
    decide
  · show Label.legacySyslog ∈ commonIds
    decide

theorem legacyTarget_mem_reserved {target : String} (legacy : target ∈ legacyTargets options) :
    target ∈ Label.reserved := by
  unfold legacyTargets at legacy
  simp only [List.mem_append, List.mem_ite_nil_right, List.mem_singleton] at legacy
  rcases legacy with ⟨_, rfl⟩ | ⟨_, rfl⟩ <;> decide

/-- Among the elements of a configuration only the label of a kind has its id. -/
theorem exists_route_of_id (ready : spec.IsReady .fluentd) (noDebug : options.debug = false)
    (built : build spec secrets options = .ok arena) {element : Element}
    (member : element ∈ arena.elements) {kind : LogKind} (ofKind : element.id = Label.ofKind kind) :
    ∃ route ∈ Routing.ofSpec spec options, element = route.label ∧ route.kind = kind := by
  obtain ⟨labels, made, elements⟩ := elements_of_build noDebug built
  rw [elements] at member
  rcases List.mem_append.mp member with member | legacy
  · rcases List.mem_append.mp member with member | isOutput
    · rcases List.mem_append.mp member with member | isPipeline
      · rcases List.mem_append.mp member with intake | isKind
        · have common := id_mem_commonIds intake
          rw [ofKind] at common
          exact absurd common (ofKind_notMem_commonIds kind)
        · obtain ⟨route, routed, isLabel⟩ := List.mem_flatMap.mp isKind
          rcases List.mem_cons.mp isLabel with rfl | isFallback
          · exact ⟨route, routed, rfl, ofKind_injective ofKind⟩
          · rw [List.mem_ite_nil_right, List.mem_singleton] at isFallback
            obtain ⟨_, rfl⟩ := isFallback
            have common : Label.applicationAll ∈ commonIds := by decide
            rw [show Label.applicationAll = Label.ofKind kind from ofKind] at common
            exact absurd common (ofKind_notMem_commonIds kind)
      · -- The labels of pipelines and outputs are not reserved, while those of kinds are.
        obtain ⟨pipeline, declared, rfl⟩ := List.mem_map.mp isPipeline
        exact absurd ofKind.symm
          (ready.ne_pipeline_of_reserved declared (ofKind_mem_reserved kind))
    · obtain ⟨added, isAdded, inAdded⟩ := List.mem_flatten.mp isOutput
      obtain ⟨output, isRouted, label, rfl, final⟩ := exists_of_mem_forall₂ made.flip isAdded
      have declared : output ∈ spec.outputs :=
        ((spec.mem_routedOutputs ready.clean.outputsDistinct output).mp isRouted).1
      rw [List.mem_singleton] at inAdded
      subst inAdded
      exact absurd (ofKind.symm.trans final.id)
        (ready.ne_output_of_reserved declared (ofKind_mem_reserved kind))
  · have common := id_mem_commonIds_of_legacy legacy
    rw [ofKind] at common
    exact absurd common (ofKind_notMem_commonIds kind)

/-- The label of a kind that is routed is in a configuration, and so is that of the rest. -/
theorem present_kind (built : build spec secrets options = .ok arena) {route : KindRoute}
    (routed : route ∈ Routing.ofSpec spec options) :
    route.label ∈ arena.elements ∧ (route.hasFallback → route.fallbackLabel ∈ arena.elements) := by
  have inKinds : ∀ element ∈ kindElements (Routing.ofSpec spec options),
      element ∈ arena.elements := by
    intro element member
    exact present_of_build built _ (List.mem_append_left _ (List.mem_append_right _ member))
  refine ⟨inKinds _ (List.mem_flatMap.mpr ⟨route, routed, List.mem_cons_self⟩), ?_⟩
  intro hasFallback
  refine inKinds _ (List.mem_flatMap.mpr ⟨route, routed, List.mem_cons_of_mem _ ?_⟩)
  rw [if_pos hasFallback]
  exact List.mem_singleton_self _

/-! ### Walks to the label of an output -/

/-- From the label of an output one comes to no other label. -/
theorem handed_output_iff (clean : spec.IsClean) (noDebug : options.debug = false)
    (built : build spec secrets options = .ok arena) {output : Output}
    (declared : output ∈ spec.outputs) (routed : spec.Routes output.name) (target : String) :
    Relation.ReflTransGen arena.Hands (Name.label output.name) target ↔
      Name.label output.name = target := by
  obtain ⟨label, member, isLabel, targets⟩ :=
    exists_output_label clean noDebug built declared routed
  rw [← isLabel]
  exact arena.handed_iff_of_nil member targets target

/-- From the label of a pipeline one comes to the labels of its outputs. -/
theorem handed_pipeline_iff (ready : spec.IsReady .fluentd) (noDebug : options.debug = false)
    (built : build spec secrets options = .ok arena) {pipeline : Pipeline}
    (isPipeline : pipeline ∈ spec.pipelines) {output : Output} (declared : output ∈ spec.outputs) :
    Relation.ReflTransGen arena.Hands (Name.label pipeline.name) (Name.label output.name) ↔
      output.name ∈ pipeline.outputRefs := by
  have member : pipelineLabel spec (Routing.ofSpec spec options) options pipeline ∈
      arena.elements :=
    present_of_build built _ (List.mem_append_right _ (List.mem_map_of_mem isPipeline))
  have handed : Relation.ReflTransGen arena.Hands (Name.label pipeline.name)
      (Name.label output.name) ↔ _ := arena.handed_iff member (Name.label output.name)
  rw [handed, labelTargets_pipelineLabel noDebug]
  refine ⟨?_, ?_⟩
  · rintro (same | ⟨_, isTarget, onwards⟩)
    · exact absurd same (ready.pipeline_ne_output isPipeline declared)
    · obtain ⟨reference, leads, rfl⟩ := List.mem_map.mp isTarget
      obtain ⟨other, otherDeclared, rfl⟩ := ready.clean.exists_output isPipeline leads
      have same := (handed_output_iff ready.clean noDebug built otherDeclared
        ⟨pipeline, isPipeline, leads⟩ _).mp onwards
      rw [← ready.output_name_inj otherDeclared declared same]
      exact leads
  · intro leads
    exact .inr ⟨_, List.mem_map_of_mem leads, Relation.ReflTransGen.refl⟩

/-- The routes of kinds are those of the kinds that go anywhere. -/
theorem mem_ofSpec (route : KindRoute) :
    route ∈ Routing.ofSpec spec options ↔
      route = KindRoute.ofKind spec options route.kind ∧ route.isEmpty = false := by
  unfold Routing.ofSpec
  rw [List.mem_filter, List.mem_map, Bool.not_eq_true']
  refine and_congr_left fun _ => ⟨?_, ?_⟩
  · rintro ⟨kind, _, rfl⟩
    rfl
  · intro isRoute
    exact ⟨route.kind, LogKind.mem_all route.kind, isRoute.symm⟩

/-- A kind that a pipeline reads goes somewhere. -/
theorem mem_ofSpec_of_reads (options : Options) {kind : LogKind} {pipeline : Pipeline}
    (isPipeline : pipeline ∈ spec.pipelines)
    (reads : ∃ reference ∈ pipeline.inputRefs, spec.refKind? reference = some kind) :
    KindRoute.ofKind spec options kind ∈ Routing.ofSpec spec options := by
  refine (mem_ofSpec _).mpr ⟨rfl, ?_⟩
  unfold KindRoute.isEmpty
  rcases (mem_direct_or_selected spec options kind _).mpr ⟨pipeline, isPipeline, rfl, reads⟩ with
    direct | selected
  · rw [List.isEmpty_eq_false_iff.mpr (List.ne_nil_of_mem direct)]
    rfl
  · obtain ⟨selection, member, _⟩ := List.mem_map.mp selected
    rw [List.isEmpty_eq_false_iff.mpr (List.ne_nil_of_mem member), Bool.and_false]
    rfl

/--
From all targets of a kind one comes to where one comes from the pipelines that read it directly.
-/
theorem handed_targets_iff (ready : spec.IsReady .fluentd)
    (built : build spec secrets options = .ok arena) {route : KindRoute}
    (routed : route ∈ Routing.ofSpec spec options) {output : Output}
    (declared : output ∈ spec.outputs) :
    (∃ label ∈ route.targets,
        Relation.ReflTransGen arena.Hands label (Name.label output.name)) ↔
      ∃ label ∈ route.direct,
        Relation.ReflTransGen arena.Hands label (Name.label output.name) := by
  refine ⟨?_, ?_⟩
  · rintro ⟨label, isTarget, onwards⟩
    rcases List.mem_append.mp isTarget with direct | legacy
    · exact ⟨label, direct, onwards⟩
    · rw [((mem_ofSpec route).mp routed).1] at legacy
      obtain ⟨element, member, rfl, targets⟩ := exists_legacy_label built legacy
      have same := (arena.handed_iff_of_nil member targets _).mp onwards
      exact absurd same (ready.ne_output_of_reserved declared (legacyTarget_mem_reserved legacy))
  · rintro ⟨label, direct, onwards⟩
    exact ⟨label, List.mem_append_left _ direct, onwards⟩

/-- By way of the label of the rest one comes to where one comes from all targets of a kind. -/
theorem handed_rest_iff (ready : spec.IsReady .fluentd)
    (built : build spec secrets options = .ok arena) {route : KindRoute}
    (routed : route ∈ Routing.ofSpec spec options) (splits : route.selected ≠ [])
    {output : Output} (declared : output ∈ spec.outputs) :
    (∃ label ∈ (if route.hasFallback then [Label.applicationAll] else []),
        Relation.ReflTransGen arena.Hands label (Name.label output.name)) ↔
      ∃ label ∈ route.targets,
        Relation.ReflTransGen arena.Hands label (Name.label output.name) := by
  have different : Label.applicationAll ≠ Name.label output.name :=
    ready.ne_output_of_reserved declared (by decide)
  by_cases fallback : route.hasFallback
  · have member := (present_kind built routed).2 fallback
    have handed : Relation.ReflTransGen arena.Hands Label.applicationAll
        (Name.label output.name) ↔ _ := arena.handed_iff member (Name.label output.name)
    rw [if_pos fallback]
    simp only [List.mem_singleton, exists_eq_left, handed, labelTargets_fallbackLabel]
    exact ⟨fun either => either.resolve_left different, .inr⟩
  · have noTargets : route.targets = [] := by
      unfold KindRoute.hasFallback at fallback
      rw [List.isEmpty_eq_false_iff.mpr splits, Bool.not_false, Bool.true_and,
        Bool.not_eq_true', Bool.not_eq_false, List.isEmpty_iff] at fallback
      exact fallback
    rw [if_neg fallback, noTargets]

/-- From the label of a kind one comes to where one comes from the pipelines that read it. -/
theorem handed_kind_iff (ready : spec.IsReady .fluentd)
    (built : build spec secrets options = .ok arena) {route : KindRoute}
    (routed : route ∈ Routing.ofSpec spec options) {output : Output}
    (declared : output ∈ spec.outputs) :
    Relation.ReflTransGen arena.Hands (Label.ofKind route.kind) (Name.label output.name) ↔
      ∃ label, (label ∈ route.direct ∨ label ∈ route.selected.map (·.pipeline)) ∧
        Relation.ReflTransGen arena.Hands label (Name.label output.name) := by
  have different : Label.ofKind route.kind ≠ Name.label output.name :=
    ready.ne_output_of_reserved declared (ofKind_mem_reserved route.kind)
  have handed : Relation.ReflTransGen arena.Hands (Label.ofKind route.kind)
      (Name.label output.name) ↔ _ :=
    arena.handed_iff (present_kind built routed).1 (Name.label output.name)
  have onwards : Relation.ReflTransGen arena.Hands (Label.ofKind route.kind)
      (Name.label output.name) ↔ ∃ label ∈ route.label.labelTargets,
        Relation.ReflTransGen arena.Hands label (Name.label output.name) :=
    handed.trans ⟨fun either => either.resolve_left different, .inr⟩
  simp only [onwards, or_and_right, exists_or]
  rw [← handed_targets_iff ready built routed declared]
  by_cases whole : route.selected = []
  · -- The fan of the kind leads to all of its targets.
    rw [labelTargets_label_of_nil whole, whole]
    simp only [List.map_nil, List.not_mem_nil, false_and, exists_false, or_false]
  · -- The router leads to those who select, and by way of the rest to all targets.
    rw [labelTargets_label_of_ne_nil whole,
      ← handed_rest_iff ready built routed whole declared, or_comm, ← exists_or]
    simp only [List.mem_append, or_and_right]

/-- The kinds whose labels are joined with that of an output are those that pipelines send to it. -/
theorem joins_output_iff (ready : spec.IsReady .fluentd) (noDebug : options.debug = false)
    (built : build spec secrets options = .ok arena) {output : Output}
    (declared : output ∈ spec.outputs) (routed : spec.Routes output.name) (kind : LogKind) :
    arena.Joins arena.Hands (Label.ofKind kind) (Name.label output.name) ↔
      spec.Sends kind output.name := by
  have fromRoute : ∀ route ∈ Routing.ofSpec spec options, route.kind = kind →
      (Relation.ReflTransGen arena.Hands (Label.ofKind kind) (Name.label output.name) ↔
        spec.Sends kind output.name) := by
    rintro route isRouted rfl
    rw [handed_kind_iff ready built isRouted declared]
    rw [((mem_ofSpec route).mp isRouted).1]
    simp only [mem_direct_or_selected]
    refine ⟨?_, ?_⟩
    · rintro ⟨_, ⟨pipeline, isPipeline, rfl, reads⟩, onwards⟩
      exact ⟨pipeline, isPipeline,
        (handed_pipeline_iff ready noDebug built isPipeline declared).mp onwards, reads⟩
    · rintro ⟨pipeline, isPipeline, leads, reads⟩
      exact ⟨_, ⟨pipeline, isPipeline, rfl, reads⟩,
        (handed_pipeline_iff ready noDebug built isPipeline declared).mpr leads⟩
  refine ⟨?_, ?_⟩
  · rintro ⟨present, _, handed⟩
    obtain ⟨element, member, ofKind⟩ := List.mem_map.mp present
    obtain ⟨route, isRouted, _, isKind⟩ := exists_route_of_id ready noDebug built member ofKind
    exact (fromRoute route isRouted isKind).mp handed
  · intro sends
    have ⟨_, isPipeline, _, reads⟩ := sends
    have isRouted := mem_ofSpec_of_reads options isPipeline reads
    obtain ⟨label, labelMember, isLabel, _⟩ :=
      exists_output_label ready.clean noDebug built declared routed
    refine ⟨arena.id_mem_ids (present_kind built isRouted).1, ?_,
      (fromRoute _ isRouted rfl).mpr sends⟩
    rw [← isLabel]
    exact arena.id_mem_ids labelMember

end Fluentd

end LogForwarder
