/-
This file proves that a spec without problems in the fluentd dialect has a text. Three things might
go wrong. An output might lack what its label is made from, which the checks of outputs exclude; two
elements might have one id; and a template might be handed parameters that it cannot use, which no
element does.

The shapes of what templates are called with are given first, and that all templates can be rendered
at values of their shapes is computed template by template, from the text to the expressions in it;
the engine then follows from what holds of any engine.

Ids are fixed or the labels of pipelines and outputs. The fixed ones come in one order, each at most
once; that only applications have a rest is what keeps its label from coming twice. The checks of
generated ids keep the others apart, from each other and from those that are reserved; the ids of
sources are not reserved, but no label looks like one.
-/

import LogForwarder.Compile.Spec
import LogForwarder.Proofs.Clean
import LogForwarder.Proofs.Fluentd.Routing
import LogForwarder.Proofs.Rendering
import LogForwarder.Proofs.Template.Source
import Mathlib.Data.List.Flatten

namespace LogForwarder

namespace Fluentd

section Shapes

open Template

/-! ### Shapes -/

namespace Shapes

/-- How records are handed on. -/
def fan : Shape := .ofFields [("copy", .ofFields [("targets", .list .any)])]

/-- How records are handed on by namespace and pod label. -/
def router : Shape :=
  .ofFields [("routes", .list (.ofFields [("namespaces", .list .any), ("labels", .list .any)]))]

/-- What is done with records that cannot be sent yet. -/
def buffer : Shape := .ofFields [("keys", .list .any)]

/-- Lines with a key and a value each. -/
def settings : Shape := .list .record

/-- The parameters of a store, with others. -/
def store (others : List (String × Shape)) : Shape :=
  .ofFields (others ++ [("settings", settings), ("buffer", buffer)])

/-- What the templates of the dialect are called with, each after those that it includes. -/
def signature : Signature :=
  [(Templates.fan.name, fan), (Templates.router.name, router), (Templates.buffer.name, buffer),
    (Templates.settings.name, settings), (Templates.dedot.name, .record),
    (Templates.elasticsearchStore.name, store []),
    (Templates.header.name, .record), (Templates.metrics.name, .record),
    (Templates.container.name, .ofFields [("exclude", .list .any)]),
    (Templates.journal.name, .record), (Templates.audit.name, .record),
    (Templates.concat.name, .record),
    (Templates.ingress.name, .ofFields [("routes", .list .record), ("levels", .list .record)]),
    (Templates.sourceType.name, .ofFields [("router", router), ("fan", fan)]),
    (Templates.fanLabel.name, .ofFields [("fan", fan)]),
    (Templates.pipeline.name, .ofFields [("fan", fan)]), (Templates.legacy.name, .record),
    (Templates.elasticsearch.name, .ofFields [("retry", store []), ("main", store [])]),
    (Templates.forward.name, store []), (Templates.syslog.name, store []),
    (Templates.kafka.name, store [("brokers", .list .any)]),
    (Templates.loki.name, store [("labels", .list .record)]),
    (Templates.cloudwatch.name, .ofFields [("groups", .list .record), ("settings", settings)]),
    (Templates.http.name, store [("auth", .record)])]

end Shapes

set_option maxRecDepth 20000 in
/-- All templates can be rendered at values of their shapes. -/
theorem isTyped_of_mem_all : ∀ source ∈ Templates.all, source.IsTyped Shapes.signature := by
  simp only [Templates.all, List.forall_mem_cons]
  repeat refine And.intro (by apply isTyped_braced; decide +kernel) ?_
  intro source absent
  cases absent

theorem nodup_names : (Templates.all.map (·.name)).Nodup := by
  decide

/-- There is an engine of the dialect, and it renders all templates at values of their shapes. -/
theorem exists_engine :
    ∃ engine, Templates.engine = .ok engine ∧ Renders engine.render Shapes.signature :=
  Engine.exists_ofSources nodup_names isTyped_of_mem_all (by decide)

/-! ### Parameters -/

theorem fits_fanParam (isDeep : Bool) (targets : List String) :
    Shapes.fan.Fits (fanParam isDeep targets) := by
  unfold Shapes.fan fanParam
  match targets with
  | [] => simp [Shape.fits_ofFields, List.lookup_cons]
  | [target] => simp [Shape.fits_ofFields, List.lookup_cons]
  | first :: second :: rest => simp [Shape.fits_ofFields, List.lookup_cons]

theorem fits_routerParam (route : KindRoute) : Shapes.router.Fits route.routerParam := by
  unfold Shapes.router KindRoute.routerParam Selection.param
  split
  · simp [Shape.fits_ofFields]
  · simp [Shape.fits_ofFields, List.lookup_cons]

theorem fits_settings (settings : List Setting) :
    Shapes.settings.Fits (Setting.params settings) := by
  unfold Shapes.settings Setting.params Setting.param
  simp

theorem fits_buffer (buffer : Buffer) : Shapes.buffer.Fits buffer.param := by
  unfold Shapes.buffer Buffer.param
  simp [Shape.fits_ofFields, List.lookup_cons]

/-! ### Elements up to the pipelines -/

theorem isTyped_containerSource : containerSource.IsTyped Shapes.signature :=
  Element.isTyped_create _ _ _ _ [("exclude", .list .any)] rfl
    (by simp [Element.field_create, List.lookup_cons])

theorem isTyped_ingressLabel (routing : Routing) :
    (ingressLabel routing).IsTyped Shapes.signature := by
  refine Element.isTyped_create _ _ _ _ [("routes", .list .record), ("levels", .list .record)]
    rfl ?_
  have fitsLevels : (Shape.list .record).Fits (.list (levels.map fun level =>
      .ofEntries [("name", .text level.1), ("pattern", .text level.2)])) := by
    refine (Shape.fits_list _ _).mpr fun item member => ?_
    obtain ⟨level, _, rfl⟩ := List.mem_map.mp member
    rfl
  simp only [List.forall_mem_cons]
  refine ⟨?_, ?_, fun _ absent => absurd absent List.not_mem_nil⟩
  · simp [Element.field_create, List.lookup_cons, ingressRoute]
  · rw [Element.field_create _ _ _ _ _ _ (by decide) (by decide)]
    exact fitsLevels

theorem isTyped_label (route : KindRoute) : route.label.IsTyped Shapes.signature := by
  refine Element.isTyped_create _ _ _ _ [("router", Shapes.router), ("fan", Shapes.fan)] rfl ?_
  simp [Element.field_create, List.lookup_cons, fits_routerParam, fits_fanParam]

theorem isTyped_fallbackLabel (route : KindRoute) :
    route.fallbackLabel.IsTyped Shapes.signature := by
  refine Element.isTyped_create _ _ _ _ [("fan", Shapes.fan)] rfl ?_
  simp [Element.field_create, fits_fanParam]

theorem isTyped_pipelineLabel (spec : Spec) (routing : Routing) (options : Options)
    (pipeline : Pipeline) :
    (pipelineLabel spec routing options pipeline).IsTyped Shapes.signature := by
  refine Element.isTyped_create _ _ _ _ [("fan", Shapes.fan)] rfl ?_
  simp [Element.field_create, fits_fanParam]

/-- The sources, and the labels that all records go through, are typed. -/
theorem isTyped_of_intake {options : Options} {routing : Routing} {element : Element}
    (member : element ∈ [header, metrics options] ++ sources routing ++ ingress routing) :
    element.IsTyped Shapes.signature := by
  unfold sources ingress at member
  simp only [List.mem_append, List.mem_cons, List.not_mem_nil, or_false, List.mem_ite_nil_right,
    List.mem_map] at member
  rcases member with ((rfl | rfl) | (⟨_, rfl⟩ | ⟨_, rfl⟩) | ⟨_, source, _, rfl⟩) |
    ⟨_, rfl⟩ | rfl
  · exact Element.isTyped_create_record _ _ _ _ rfl
  · exact Element.isTyped_create_record _ _ _ _ rfl
  · exact isTyped_containerSource
  · exact Element.isTyped_create_record _ _ _ _ rfl
  · exact Element.isTyped_create_record _ _ _ _ rfl
  · exact Element.isTyped_create_record _ _ _ _ rfl
  · exact isTyped_ingressLabel routing

theorem isTyped_of_upToPipelines {spec : Spec} {options : Options} {element : Element}
    (member : element ∈ upToPipelines spec options) : element.IsTyped Shapes.signature := by
  rcases List.mem_append.mp member with member | isPipeline
  · rcases List.mem_append.mp member with intake | isKind
    · exact isTyped_of_intake intake
    · obtain ⟨route, _, isLabel⟩ := List.mem_flatMap.mp isKind
      rcases List.mem_cons.mp isLabel with rfl | isFallback
      · exact isTyped_label route
      · rw [List.mem_ite_nil_right, List.mem_singleton] at isFallback
        obtain ⟨_, rfl⟩ := isFallback
        exact isTyped_fallbackLabel route
  · obtain ⟨pipeline, _, rfl⟩ := List.mem_map.mp isPipeline
    exact isTyped_pipelineLabel spec _ options pipeline

theorem isTyped_of_legacyElements {routing : Routing} {options : Options} {element : Element}
    (member : element ∈ legacyElements routing options) : element.IsTyped Shapes.signature := by
  unfold legacyElements at member
  simp only [List.mem_append, List.mem_ite_nil_right, List.mem_singleton] at member
  rcases member with ⟨_, rfl⟩ | ⟨_, rfl⟩
  · exact Element.isTyped_create_record _ _ _ _ rfl
  · exact Element.isTyped_create_record _ _ _ _ rfl

/-! ### Labels of outputs -/

namespace Store

theorem fits_elasticsearchStore (store : Store) (url : Url) (tags id : String)
    (retryTag : Option String) :
    (Shapes.store []).Fits (store.elasticsearchStore url tags id retryTag) := by
  unfold Shapes.store elasticsearchStore
  simp [Shape.fits_ofFields, List.lookup_cons, fits_settings, fits_buffer]

theorem hasFields_httpAuthParam (store : Store) : store.httpAuthParam.hasFields := by
  unfold httpAuthParam
  split <;> rfl

/-- The label of an output of any type is typed. -/
theorem isTyped_outputLabel {store : Store} {element : Element}
    (made : store.outputLabel = .ok element) : element.IsTyped Shapes.signature := by
  unfold outputLabel at made
  cases type : store.output.type <;> simp only [type] at made
  case elasticsearch =>
    obtain ⟨url, rfl⟩ := exists_of_label_made made
    refine Element.isTyped_create _ _ _ _ [("retry", Shapes.store []), ("main", Shapes.store [])]
      rfl ?_
    simp [Element.field_create, List.lookup_cons, fits_elasticsearchStore]
  case fluentForward | syslog =>
    obtain ⟨address, rfl⟩ := exists_of_label_made made
    refine Element.isTyped_create _ _ _ _ [("settings", Shapes.settings), ("buffer", Shapes.buffer)]
      rfl ?_
    simp [Element.field_create, List.lookup_cons, fits_settings, fits_buffer]
  case kafka =>
    obtain ⟨brokers, rfl⟩ := exists_of_label_made made
    refine Element.isTyped_create _ _ _ _ [("brokers", .list .any), ("settings", Shapes.settings),
      ("buffer", Shapes.buffer)] rfl ?_
    simp [Element.field_create, List.lookup_cons, fits_settings, fits_buffer]
  case loki =>
    obtain ⟨url, rfl⟩ := exists_of_label_made made
    refine Element.isTyped_create _ _ _ _ [("labels", .list .record),
      ("settings", Shapes.settings), ("buffer", Shapes.buffer)] rfl ?_
    simp [Element.field_create, List.lookup_cons, fits_settings, fits_buffer, streamLabelParam]
  case cloudwatch =>
    simp only [cloudwatchLabel] at made
    split at made
    · cases made
    · cases made
      refine Element.isTyped_create _ _ _ _ [("groups", .list .record),
        ("settings", Shapes.settings)] rfl ?_
      simp [Element.field_create, List.lookup_cons, fits_settings, groupParams, groupParam]
  case http =>
    cases made
    refine Element.isTyped_create _ _ _ _ [("auth", .record), ("settings", Shapes.settings),
      ("buffer", Shapes.buffer)] rfl ?_
    simp [Element.field_create, List.lookup_cons, fits_settings, fits_buffer,
      hasFields_httpAuthParam]
  all_goals cases made

end Store

/-! ### Configurations -/

/-- All elements of a configuration are typed. -/
theorem isTyped_of_build {spec : Spec} {secrets : SecretStore} {options : Options} {arena : Arena}
    (built : build spec secrets options = .ok arena) :
    ∀ element ∈ arena.elements, element.IsTyped Shapes.signature := by
  intro element member
  rcases mem_cases_of_build built member with upToPipelines | ⟨output, _, made⟩ | legacy
  · exact isTyped_of_upToPipelines upToPipelines
  · exact Store.isTyped_outputLabel made
  · exact isTyped_of_legacyElements legacy

end Shapes

variable {spec : Spec} {secrets : SecretStore} {options : Options}

/-! ### Fixed ids -/

/-- The ids of the elements that belong to no pipeline and no output, in the order of a file. -/
def fixedIds : List String :=
  ["system", "metrics", containerInput, journalInput] ++ AuditSource.all.map auditInput ++
    Label.reserved

theorem nodup_fixedIds : fixedIds.Nodup := by
  decide

theorem sublist_sources (options : Options) (routing : Routing) :
    (([header, metrics options] ++ sources routing).map (·.id)).Sublist
      (["system", "metrics", containerInput, journalInput] ++ AuditSource.all.map auditInput) := by
  have ofSources : ((sources routing).map (·.id)).Sublist
      ([containerInput, journalInput] ++ AuditSource.all.map auditInput) := by
    have written : (sources routing).Sublist
        ([containerSource] ++ [journalSource] ++ AuditSource.all.map auditSource) :=
      ((sublist_ite _ _).append (sublist_ite _ _)).append (sublist_ite _ _)
    exact written.map (·.id)
  exact ofSources.append_left ["system", "metrics"]

theorem sublist_ingress (routing : Routing) :
    ((ingress routing).map (·.id)).Sublist [Label.concat, Label.ingress] := by
  have written : (ingress routing).Sublist ([concatLabel] ++ [ingressLabel routing]) :=
    (sublist_ite _ _).append_right _
  exact written.map (·.id)

theorem sublist_legacyElements (routing : Routing) (options : Options) :
    ((legacyElements routing options).map (·.id)).Sublist
      [Label.legacySecureForward, Label.legacySyslog] := by
  have written : (legacyElements routing options).Sublist
      ([legacyLabel routing Label.legacySecureForward "legacy secure-forward.conf"
        "/etc/fluent/configs.d/secure-forward/secure-forward.conf"] ++
        [legacyLabel routing Label.legacySyslog "legacy Syslog"
          "/etc/fluent/configs.d/syslog/syslog.conf"]) :=
    (sublist_ite _ _).append (sublist_ite _ _)
  exact written.map (·.id)

/-- An input with a selector stands behind every selection of records of a kind. -/
theorem exists_selecting {kind : LogKind} {selection : Selection}
    (selected : selection ∈ (KindRoute.ofKind spec options kind).selected) :
    ∃ input ∈ spec.inputs, input.kind? = some kind ∧ input.hasSelector := by
  unfold KindRoute.ofKind readings at selected
  simp only [List.mem_filterMap, List.mem_filter, List.mem_flatMap, List.mem_map,
    decide_eq_true_eq, Option.map_eq_some_iff] at selected
  obtain ⟨_, ⟨⟨_, _, reading, ⟨reference, _, reads⟩, rfl⟩, ofKind⟩, input, selects, _⟩ := selected
  unfold readingOf? at reads
  cases reserved : LogKind.ofName? reference with
  | some whole =>
    rw [reserved] at reads
    cases reads
    cases selects
  | none =>
    rw [reserved] at reads
    obtain ⟨found, isInput, narrowed⟩ := Option.bind_eq_some_iff.mp reads
    obtain ⟨narrow, narrows, isReading⟩ := Option.bind_eq_some_iff.mp narrowed
    cases isReading
    by_cases hasSelector : found.hasSelector
    · exact ⟨found, List.mem_of_find?_eq_some isInput, ofKind ▸ narrows, hasSelector⟩
    · simp only [if_neg hasSelector, reduceCtorEq] at selects

/-- Only records of applications may have been selected, so only they have a rest. -/
theorem kind_of_hasFallback (clean : spec.IsClean) {kind : LogKind}
    (hasFallback : (KindRoute.ofKind spec options kind).hasFallback) : kind = .application := by
  unfold KindRoute.hasFallback at hasFallback
  rw [Bool.and_eq_true, Bool.not_eq_true', List.isEmpty_eq_false_iff_exists_mem] at hasFallback
  obtain ⟨selection, selected⟩ := hasFallback.1
  obtain ⟨input, declared, narrows, hasSelector⟩ := exists_selecting selected
  have ofApplications := input.kind?_of_hasSelector (clean.inputNarrows input declared) hasSelector
  exact Option.some.inj (narrows.symm.trans ofApplications)

theorem sublist_kindElements (clean : spec.IsClean) :
    ((kindElements (Routing.ofSpec spec options)).map (·.id)).Sublist
      [Label.ofKind .application, Label.applicationAll, Label.ofKind .infrastructure,
        Label.ofKind .audit] := by
  have noRest : ∀ kind ≠ LogKind.application,
      ¬(KindRoute.ofKind spec options kind).hasFallback :=
    fun kind other hasFallback => other (kind_of_hasFallback clean hasFallback)
  have ofAll : kindElements (LogKind.all.map (KindRoute.ofKind spec options)) =
      (KindRoute.ofKind spec options .application).label ::
        ((if (KindRoute.ofKind spec options .application).hasFallback then
            [(KindRoute.ofKind spec options .application).fallbackLabel] else []) ++
          [(KindRoute.ofKind spec options .infrastructure).label,
            (KindRoute.ofKind spec options .audit).label]) := by
    simp only [kindElements, LogKind.all, List.map_cons, List.map_nil, List.flatMap_cons,
      List.flatMap_nil, if_neg (noRest .infrastructure (by decide)),
      if_neg (noRest .audit (by decide)), List.cons_append, List.nil_append, List.append_nil]
  have routed : (kindElements (Routing.ofSpec spec options)).Sublist
      (kindElements (LogKind.all.map (KindRoute.ofKind spec options))) :=
    List.Sublist.flatMap List.filter_sublist _
  rw [ofAll] at routed
  have withRest := (sublist_ite
    ((KindRoute.ofKind spec options .application).hasFallback = true)
    [(KindRoute.ofKind spec options .application).fallbackLabel]).append_right
      [(KindRoute.ofKind spec options .infrastructure).label,
        (KindRoute.ofKind spec options .audit).label]
  exact (routed.trans (withRest.cons_cons _)).map (·.id)

/-- The fixed ids of a configuration are some of those that there are, in their order. -/
theorem sublist_fixedIds (clean : spec.IsClean) (options : Options) :
    ((([header, metrics options] ++ sources (Routing.ofSpec spec options) ++
      ingress (Routing.ofSpec spec options) ++ kindElements (Routing.ofSpec spec options)).map
        (·.id)) ++ (legacyElements (Routing.ofSpec spec options) options).map (·.id)).Sublist
      fixedIds := by
  have ofLabels : Label.reserved =
      [Label.concat, Label.ingress] ++
        [Label.ofKind .application, Label.applicationAll, Label.ofKind .infrastructure,
          Label.ofKind .audit] ++
        [Label.legacySecureForward, Label.legacySyslog] := rfl
  unfold fixedIds
  rw [ofLabels, List.map_append, List.map_append, ← List.append_assoc, ← List.append_assoc]
  exact (((sublist_sources options _).append (sublist_ingress _)).append
    (sublist_kindElements clean)).append (sublist_legacyElements _ options)

/-! ### Ids of pipelines and outputs -/

/-- A label of a pipeline or of an output is none of the fixed ids. -/
theorem label_notMem_fixedIds (ready : spec.IsReady .fluentd) {owner : Subject}
    (among : owner ∈ spec.idOwners .fluentd) : Name.label owner.name ∉ fixedIds := by
  intro fixed
  rcases List.mem_append.mp fixed with source | reserved
  · have noSource : ∀ id ∈ ["system", "metrics", containerInput, journalInput] ++
        AuditSource.all.map auditInput, id.toList.head? ≠ some '@' := by
      decide
    refine noSource _ source ?_
    unfold Name.label
    rw [String.toList_append]
    rfl
  · exact ready.ids.unreserved owner among reserved

/-! ### Configurations -/

theorem ids_of_labels {outputs : List Output} {labels : List (List Element)}
    (made : List.Forall₂ (fun output added => ∃ label, added = [label] ∧
      (Store.ofOutput spec secrets options output).outputLabel = .ok label) outputs labels) :
    labels.flatten.map (·.id) = outputs.map fun output => Name.label output.name := by
  induction made with
  | nil => rfl
  | @cons output added outputs labels isLabel _ inductionHypothesis =>
    obtain ⟨label, rfl, labelMade⟩ := isLabel
    have id : label.id = Name.label output.name := (Store.isFinal_outputLabel labelMade).id
    rw [List.flatten_cons, List.map_append, inductionHypothesis, List.map_singleton, id]
    rfl

/-- The ids of a configuration whose outputs have labels are all different. -/
theorem nodup_ids_of_labels (ready : spec.IsReady .fluentd) {labels : List (List Element)}
    (made : List.Forall₂ (fun output added => ∃ label, added = [label] ∧
      (Store.ofOutput spec secrets options output).outputLabel = .ok label)
        (spec.shownOutputs options) labels) :
    ((upToPipelines spec options ++ labels.flatten ++
      legacyElements (Routing.ofSpec spec options) options).map (·.id)).Nodup := by
  have shown := ready.clean.sublist_shownOutputs options
  have owners := ready.owners_subset shown
  have named := ready.nodup_ids owners (ready.nodup_owners shown)
  have fixed := sublist_fixedIds ready.clean options
  have ofOwners : (pipelineElements spec (Routing.ofSpec spec options) options).map (·.id) ++
      labels.flatten.map (·.id) =
        (spec.pipelines.map (Subject.pipeline ·.name) ++ (spec.shownOutputs options).map
          (Subject.output ·.name)).map fun owner => Name.label owner.name := by
    rw [ids_of_labels made, List.map_append, List.map_map, List.map_map]
    unfold pipelineElements
    rw [List.map_map]
    rfl
  unfold upToPipelines
  rw [List.map_append, List.map_append, List.map_append, List.append_assoc (List.map _ _),
    ofOwners]
  refine nodup_append_of_notMem (nodup_fixedIds.sublist fixed) named fun label isLabel common => ?_
  obtain ⟨owner, isOwner, rfl⟩ := List.mem_map.mp isLabel
  exact label_notMem_fixedIds ready (owners isOwner) (fixed.subset common)

/-! ### Labels of outputs -/

/-- An output that nothing is wrong with, of a type that there is a store for, has a label. -/
theorem exists_outputLabel {store : Store}
    (wellFormed : store.output.IsWellFormed store.secrets store.options)
    (supported : Dialect.fluentd.supports store.output.type)
    (plain : store.output.type ≠ .lokistack) : ∃ label, store.outputLabel = .ok label := by
  unfold Store.outputLabel
  cases type : store.output.type with
  | elasticsearch =>
    obtain ⟨url, read⟩ := wellFormed.exists_url (by rw [type]; rfl) (by rw [type]; decide)
    simp only [Store.elasticsearchLabel, read]
    exact ⟨_, rfl⟩
  | fluentForward =>
    obtain ⟨address, read⟩ := wellFormed.exists_hostPort (by rw [type]; rfl)
    simp only [Store.forwardLabel, read]
    exact ⟨_, rfl⟩
  | syslog =>
    obtain ⟨address, read⟩ := wellFormed.exists_hostPort (by rw [type]; rfl)
    simp only [Store.syslogLabel, read]
    exact ⟨_, rfl⟩
  | kafka =>
    obtain ⟨brokers, read⟩ := wellFormed.exists_brokers type
    simp only [Store.kafkaLabel, read]
    exact ⟨_, rfl⟩
  | loki =>
    obtain ⟨url, read⟩ := wellFormed.exists_url (by rw [type]; rfl) (by rw [type]; decide)
    simp only [Store.lokiLabel, read]
    exact ⟨_, rfl⟩
  | lokistack => exact absurd type plain
  | cloudwatch =>
    obtain ⟨region, given⟩ := wellFormed.exists_region type
    simp only [Store.cloudwatchLabel, given]
    exact ⟨_, rfl⟩
  | http => exact ⟨_, rfl⟩
  | otlp | splunk | azureMonitor | googleCloudLogging | unknown name =>
    rw [type] at supported
    cases supported

/-! ### Configurations -/

/-- A configuration can be built if all of its outputs have labels. -/
theorem exists_build (ready : spec.IsReady .fluentd)
    (makes : ∀ output ∈ spec.shownOutputs options, ∃ label,
      (Store.ofOutput spec secrets options output).outputLabel = .ok label) :
    ∃ arena, build spec secrets options = .ok arena := by
  have each : ∀ output ∈ spec.shownOutputs options, ∃ added label, added = [label] ∧
      (Store.ofOutput spec secrets options output).outputLabel = .ok label := by
    intro output shown
    obtain ⟨label, labelMade⟩ := makes output shown
    exact ⟨[label], label, rfl, labelMade⟩
  obtain ⟨labels, made⟩ := exists_forall₂ each
  have distinct := nodup_ids_of_labels ready made
  have steps : ∀ (arena : Arena) (output : Output), addOutput spec secrets options arena output =
      ((Store.ofOutput spec secrets options output).outputLabel >>= fun label => .ok [label]) >>=
        fun added => arena.extended added := by
    intro arena output
    unfold addOutput
    cases (Store.ofOutput spec secrets options output).outputLabel <;> rfl
  refine Arena.exists_run steps (made.imp ?_) distinct
  rintro output added ⟨label, rfl, labelMade⟩
  rw [labelMade]
  rfl

/-- Whatever has been built has a text. -/
theorem exists_generate {arena : Arena} (built : build spec secrets options = .ok arena) :
    ∃ text, generate spec secrets options = .ok text := by
  obtain ⟨engine, isEngine, renders⟩ := exists_engine
  obtain ⟨text, isText⟩ := Arena.exists_text renders (isTyped_of_build built)
  refine ⟨text, ?_⟩
  unfold generate
  rw [built, isEngine]
  exact isText

end Fluentd

namespace Spec

theorem exists_fluentd_build {spec : Spec} {secrets : SecretStore} {options : Options}
    (clean : spec.problems secrets options .fluentd = []) :
    ∃ arena, Fluentd.build spec.normalize secrets options = .ok arena := by
  have ready := spec.isReady_normalize clean
  have outputs := hasSoundOutputs_of_normalProblems_eq_nil clean
  refine Fluentd.exists_build ready fun output shown => ?_
  have declared := (ready.clean.sublist_shownOutputs options).subset shown
  exact Fluentd.exists_outputLabel (outputs.wellFormed output declared)
    (outputs.supported output declared) (type_ne_lokistack clean declared)

/-- What has been built of a spec without problems is written out. -/
theorem exists_compile_of_fluentd_build {spec : Spec} {secrets : SecretStore} {options : Options}
    (clean : spec.problems secrets options .fluentd = []) {arena : Arena}
    (built : Fluentd.build spec.normalize secrets options = .ok arena) :
    ∃ text, spec.compile secrets options .fluentd = .ok text := by
  unfold compile
  rw [clean]
  exact Fluentd.exists_generate built

/-- A spec that has no problems in the fluentd dialect has a text in it, when debugging or not. -/
theorem exists_fluentd_text (spec : Spec) (secrets : SecretStore) (options : Options)
    (clean : spec.problems secrets options .fluentd = []) :
    ∃ text, spec.compile secrets options .fluentd = .ok text := by
  obtain ⟨arena, built⟩ := exists_fluentd_build clean
  exact exists_compile_of_fluentd_build clean built

/-- Some records of one namespace go to a store, and all records to stores of other types. -/
def storesOfManyTypes : Spec where
  inputs := [⟨"web", some ⟨["shop"], none⟩, none, none⟩]
  outputs :=
    [{ Output.bare "index" .elasticsearch with url? := some "https://[::1]:9200" },
      { Output.bare "server" .syslog with url? := some "10.0.0.1:514" },
      { Output.bare "queue" .kafka with kafka := some ⟨none, ["tls://[::1]:9093/"]⟩ },
      { Output.bare "groups" .cloudwatch with
        secretName := some "aws"
        cloudwatch := some { (default : CloudwatchSection) with region := some "us-east-1" } },
      { Output.bare "stack" .lokistack with
        lokistack := some { (default : LokiStackSection) with target := ⟨"[::1]/", "ns"⟩ } }]
  pipelines :=
    [⟨some "shop", ["web"], ["index", "stack"], ∅, none⟩,
      ⟨some "rest", ["application", "audit"], ["server", "queue", "groups", "stack"], ∅, none⟩]
  tuning := none

/-- The secret that the output to Cloudwatch asks for. -/
def roleSecret : SecretStore := .ofList [("aws", .ofList [(Secret.awsRole, "arn".toUTF8)])]

theorem clean_storesOfManyTypes : storesOfManyTypes.problems roleSecret .standard .fluentd = [] := by
  decide

theorem exists_fluentd_text_storesOfManyTypes :
    storesOfManyTypes.problems roleSecret .standard .fluentd = [] ∧
      ∃ text, storesOfManyTypes.compile roleSecret .standard .fluentd = .ok text :=
  ⟨clean_storesOfManyTypes,
    exists_fluentd_text storesOfManyTypes roleSecret .standard clean_storesOfManyTypes⟩

end Spec

end LogForwarder
