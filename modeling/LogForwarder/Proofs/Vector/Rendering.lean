/-
This file proves that all elements of a configuration in the vector dialect, and all parts of them,
have the parameters that their templates want. The shapes of what templates are called with are
given first. No template includes another one, and almost every element reads from others, so that
its template asks for nothing but the list of these; few templates ask for a list of their own.
-/

import LogForwarder.Proofs.Rendering
import LogForwarder.Proofs.Template.Source
import LogForwarder.Proofs.Vector.Order
import LogForwarder.Vector.Templates

namespace LogForwarder.Vector

open Template

/-! ### Shapes -/

namespace Shapes

/-- The parameters of a component that reads from others, with more of them. -/
def reader (others : List (String × Shape)) : Shape :=
  .ofFields (("inputs", .list .any) :: others)

/-- What the templates of the dialect are called with. -/
def signature : Signature :=
  [(Templates.kubernetesLogs.name, .ofFields [("exclude", .list .any)]),
    (Templates.journald.name, .record),
    (Templates.file.name, .ofFields [("include", .list .any)]),
    (Templates.internalMetrics.name, .record), (Templates.remap.name, reader []),
    (Templates.route.name, reader [("routes", .list .record)]),
    (Templates.filter.name, reader []), (Templates.console.name, reader []),
    (Templates.loki.name, reader []),
    (Templates.elasticsearch.name, reader [("endpoints", .list .any)]),
    (Templates.kafka.name, reader []), (Templates.socket.name, reader []),
    (Templates.cloudwatch.name, reader []), (Templates.http.name, reader []),
    (Templates.splunk.name, reader []), (Templates.azureMonitor.name, reader []),
    (Templates.googleCloud.name, reader []), (Templates.otlp.name, reader []),
    (Templates.prometheus.name, reader []),
    (Templates.encoding.name, .ofFields [("except_fields", .list .any)]),
    (Templates.syslogEncoding.name, .record),
    (Templates.labels.name, .ofFields [("labels", .list .record)]),
    (Templates.tls.name, .record), (Templates.auth.name, .record), (Templates.sasl.name, .record),
    (Templates.buffer.name, .record), (Templates.batch.name, .record),
    (Templates.request.name, .record), (Templates.googleResource.name, .record),
    (Templates.otlpProtocol.name, .record)]

end Shapes

set_option maxRecDepth 20000 in
/-- All templates can be rendered at values of their shapes. -/
theorem isTyped_of_mem_all : ∀ source ∈ Templates.all, source.IsTyped Shapes.signature := by
  simp only [Templates.all, List.forall_mem_cons]
  repeat refine And.intro (by apply isTyped_braced; decide +kernel) ?_
  intro source absent
  cases absent

theorem nodup_names : (Templates.all.map (·.name)).Nodup := by
  decide

/-- There is an engine of the dialect, and it renders all templates at values of their shapes. -/
theorem exists_engine :
    ∃ engine, Templates.engine = .ok engine ∧ Renders engine.render Shapes.signature :=
  Engine.exists_ofSources nodup_names isTyped_of_mem_all (by decide)

/-! ### Readers -/

/-- An element that reads from others is typed if its own lists are. -/
theorem isTyped_reader (stage : Stage) (id : String) (inputs : List String) {template : String}
    (params : Params) (others : List (String × Shape))
    (known : Shapes.signature.lookup template = some (Shapes.reader others))
    (fits : ∀ entry ∈ others, entry.1 ≠ "id" ∧ entry.1 ≠ "inputs" ∧
      entry.2.Fits ((params.reverse.lookup entry.1).getD .null)) :
    (Element.create stage id inputs template params).IsTyped Shapes.signature := by
  refine Element.isTyped_create stage id inputs params _ known fun entry among => ?_
  rcases List.mem_cons.mp among with rfl | own
  · rw [Element.field_inputs_create]
    exact Shape.fits_ofTexts inputs
  · obtain ⟨notId, notInputs, fitting⟩ := fits entry own
    rw [Element.field_create _ _ _ _ _ _ notId notInputs]
    exact fitting

/-- An element whose template asks only for what it reads from is typed. -/
theorem isTyped_plainReader (stage : Stage) (id : String) (inputs : List String)
    {template : String} (params : Params)
    (known : Shapes.signature.lookup template = some (Shapes.reader [])) :
    (Element.create stage id inputs template params).IsTyped Shapes.signature :=
  isTyped_reader stage id inputs params [] known fun _ absent => absurd absent List.not_mem_nil

theorem isTyped_remap (id : String) (inputs : List String) (program : String) :
    (remap id inputs program).IsTyped Shapes.signature :=
  isTyped_plainReader _ _ _ _ rfl

theorem isTyped_filter (id : String) (inputs : List String) (condition : String) :
    (filter id inputs condition).IsTyped Shapes.signature :=
  isTyped_plainReader _ _ _ _ rfl

theorem isTyped_route (id : String) (inputs : List String) (branches : List Branch) :
    (route id inputs branches).IsTyped Shapes.signature := by
  refine isTyped_reader _ _ _ _ [("routes", .list .record)] rfl ?_
  simp [Branch.value]

/-! ### Elements up to the pipelines -/

theorem isTyped_containerSource : containerSource.IsTyped Shapes.signature :=
  Element.isTyped_create _ _ _ _ [("exclude", .list .any)] rfl
    (by simp [Element.field_create])

theorem isTyped_auditSource (source : AuditSource) :
    (auditSource source).IsTyped Shapes.signature :=
  Element.isTyped_create _ _ _ _ [("include", .list .any)] rfl
    (by simp [Element.field_create])

theorem isTyped_of_upToPipelines {spec : Spec} {element : Element}
    (member : element ∈ upToPipelines spec) : element.IsTyped Shapes.signature := by
  cases isUpToPipelines_of_mem member with
  | containerSource => exact isTyped_containerSource
  | journalSource => exact Element.isTyped_create_record _ _ _ _ rfl
  | auditSource source => exact isTyped_auditSource source
  | containerForm => exact isTyped_remap _ _ _
  | journalForm isForm =>
    rcases List.mem_pair.mp isForm with rfl | rfl
    · exact isTyped_filter _ _ _
    · exact isTyped_remap _ _ _
  | auditForm => exact isTyped_remap _ _ _
  | containerRouter => exact isTyped_route _ _ _
  | kindStream => exact isTyped_plainReader _ _ _ _ rfl
  | inputRouter => exact isTyped_route _ _ _
  | sourceFilter => exact isTyped_filter _ _ _
  | pipeline => exact isTyped_remap _ _ _

theorem isTyped_of_debugSinks {spec : Spec} {element : Element}
    (member : element ∈ debugSinks spec) : element.IsTyped Shapes.signature := by
  obtain ⟨pipeline, _, rfl⟩ := List.mem_map.mp member
  exact isTyped_plainReader _ _ _ _ rfl

theorem isTyped_of_metrics {options : Options} {element : Element}
    (member : element ∈ metrics options) : element.IsTyped Shapes.signature := by
  unfold metrics at member
  simp only [List.mem_cons, List.not_mem_nil, or_false] at member
  rcases member with rfl | rfl | rfl
  · exact Element.isTyped_create_record _ _ _ _ rfl
  · exact isTyped_remap _ _ _
  · exact (isTyped_plainReader _ _ _ _ rfl).withPart_record _ rfl

/-! ### Chains of outputs -/

namespace Sink

/-- A sink is typed with the parts that all sinks share if it is without them. -/
theorem isTyped_finish (sink : Sink) (extras : Extras) {element : Element}
    (typed : element.IsTyped Shapes.signature) :
    (sink.finish extras element).IsTyped Shapes.signature := by
  unfold finish
  repeat refine Element.IsTyped.withPart?_record ?_ _ rfl
  exact typed

/-- The form of records may leave some fields out, and lists them if it does. -/
theorem isTyped_withEncoding (sink : Sink) {element : Element} {more : Params}
    (typed : element.IsTyped Shapes.signature)
    (fits : (Shape.list .any).Fits ((more.reverse.lookup "except_fields").getD .null)) :
    (sink.withEncoding element more).IsTyped Shapes.signature := by
  have unchanged :
      ([("table", Value.text sink.table), ("codec", .text "json")] ++ more).reverse.lookup
        "except_fields" = more.reverse.lookup "except_fields" := by
    rw [List.reverse_append, List.lookup_append]
    exact Option.or_none
  refine typed.withPart _ [("except_fields", .list .any)] rfl ?_
  rw [List.forall_mem_singleton, unchanged]
  exact ⟨by decide, fits⟩

theorem isTyped_streamLabels (sink : Sink) {element : Element}
    (typed : element.IsTyped Shapes.signature) (options : Option LokiSection) :
    (element.withPart Templates.labels.name [("table", .text sink.table),
      ("labels", .list ((streamLabels options).map streamLabelParam))]).IsTyped
        Shapes.signature := by
  refine typed.withPart _ [("labels", .list .record)] rfl ?_
  have fits : (Shape.list .record).Fits (.list ((streamLabels options).map streamLabelParam)) := by
    refine (Shape.fits_list _ _).mpr fun item member => ?_
    obtain ⟨label, _, rfl⟩ := List.mem_map.mp member
    exact Shape.hasFields_ofEntries _
  exact List.forall_mem_singleton.mpr ⟨by decide, fits⟩

/-- A transform and a sink behind it are typed if the sink is without the shared parts. -/
theorem isTyped_behindRemap (sink : Sink) (extras : Extras) {id program : String}
    {inputs : List String} {last : Element} (typed : last.IsTyped Shapes.signature) :
    ∀ element ∈ [remap id inputs program, sink.finish extras last],
      element.IsTyped Shapes.signature :=
  List.forall_mem_cons.mpr ⟨isTyped_remap _ _ _,
    List.forall_mem_singleton.mpr (sink.isTyped_finish _ typed)⟩

/-- The elements of a chain that depend on the type of the output are typed, whatever the type. -/
theorem isTyped_of_tail {sink : Sink} {elements : List Element} (made : sink.tail = .ok elements) :
    ∀ element ∈ elements, element.IsTyped Shapes.signature := by
  unfold tail at made
  cases type : sink.output.type <;> simp only [type] at made
  case loki =>
    cases made
    refine isTyped_behindRemap _ _ (isTyped_streamLabels _ (isTyped_withEncoding _ ?_ ?_) _)
    · exact isTyped_plainReader _ _ _ _ rfl
    · exact Shape.fits_list_null _
  case elasticsearch =>
    cases made
    refine isTyped_behindRemap _ _ ?_
    refine isTyped_reader _ _ _ _ [("endpoints", .list .any)] rfl ?_
    exact List.forall_mem_singleton.mpr ⟨by decide, by decide, Shape.fits_ofTexts _⟩
  case kafka =>
    unfold kafkaChain at made
    obtain ⟨brokers, _, made⟩ := exists_of_bind_eq_ok made
    cases made
    refine List.forall_mem_append.mpr ⟨?_, List.forall_mem_singleton.mpr ?_⟩
    · intro element member
      unfold topicRemap at member
      rw [List.mem_ite_nil_right, List.mem_singleton] at member
      obtain ⟨_, rfl⟩ := member
      exact isTyped_remap _ _ _
    · refine isTyped_finish _ _ ?_
      refine Element.IsTyped.withPart?_record (isTyped_withEncoding _ ?_ ?_) _ rfl
      · exact isTyped_plainReader _ _ _ _ rfl
      · exact Shape.fits_ofTexts _
  case syslog =>
    unfold syslogChain at made
    obtain ⟨address, _, made⟩ := exists_of_bind_eq_ok made
    cases made
    refine isTyped_behindRemap _ _ (Element.IsTyped.withPart_record ?_ _ rfl)
    exact isTyped_plainReader _ _ _ _ rfl
  case cloudwatch =>
    unfold cloudwatchChain at made
    obtain ⟨region, _, made⟩ := exists_of_bind_eq_ok made
    cases made
    exact isTyped_behindRemap _ _ (isTyped_plainReader _ _ _ _ rfl)
  case http =>
    cases made
    refine isTyped_behindRemap _ _ (isTyped_withEncoding _ ?_ ?_)
    · exact isTyped_plainReader _ _ _ _ rfl
    · exact Shape.fits_list_null _
  case splunk =>
    unfold splunkChain at made
    obtain ⟨token, _, made⟩ := exists_of_bind_eq_ok made
    cases made
    refine isTyped_behindRemap _ _ (isTyped_withEncoding _ ?_ ?_)
    · exact isTyped_plainReader _ _ _ _ rfl
    · exact Shape.fits_list_null _
  case azureMonitor =>
    unfold azureMonitorChain at made
    obtain ⟨customerId, _, made⟩ := exists_of_bind_eq_ok made
    obtain ⟨logType, _, made⟩ := exists_of_bind_eq_ok made
    obtain ⟨sharedKey, _, made⟩ := exists_of_bind_eq_ok made
    cases made
    refine List.forall_mem_singleton.mpr (isTyped_finish _ _ ?_)
    exact isTyped_plainReader _ _ _ _ rfl
  case googleCloudLogging =>
    unfold googleCloudChain at made
    obtain ⟨destination, _, made⟩ := exists_of_bind_eq_ok made
    obtain ⟨secret, _, made⟩ := exists_of_bind_eq_ok made
    obtain ⟨logId, _, made⟩ := exists_of_bind_eq_ok made
    cases made
    refine List.forall_mem_singleton.mpr (isTyped_finish _ _ ?_)
    refine Element.IsTyped.withPart_record ?_ _ rfl
    exact isTyped_plainReader _ _ _ _ rfl
  case otlp =>
    cases made
    refine List.forall_mem_cons.mpr ⟨isTyped_route _ _ _, isTyped_behindRemap _ _ ?_⟩
    refine Element.IsTyped.withPart_record ?_ _ rfl
    exact isTyped_plainReader _ _ _ _ rfl
  all_goals cases made

theorem isTyped_of_chain {sink : Sink} {elements : List Element}
    (made : sink.chain = .ok elements) :
    ∀ element ∈ elements, element.IsTyped Shapes.signature := by
  unfold chain at made
  obtain ⟨tail, tailMade, made⟩ := exists_of_bind_eq_ok made
  cases made
  refine List.forall_mem_append.mpr ⟨?_, isTyped_of_tail tailMade⟩
  exact List.forall_mem_cons.mpr ⟨isTyped_remap _ _ _,
    List.forall_mem_singleton.mpr (isTyped_remap _ _ _)⟩

end Sink

/-! ### Configurations -/

/-- All elements of a configuration are typed. -/
theorem isTyped_of_build {spec : Spec} {secrets : SecretStore} {options : Options} {arena : Arena}
    (built : build spec secrets options = .ok arena) :
    ∀ element ∈ arena.elements, element.IsTyped Shapes.signature := by
  intro element member
  rcases mem_cases_of_build built member with
    early | ⟨_, isConsole⟩ | ⟨_, ⟨output, _, chain, made, inChain⟩ | isMetric⟩
  · exact isTyped_of_upToPipelines early
  · exact isTyped_of_debugSinks isConsole
  · exact Sink.isTyped_of_chain made element inChain
  · exact isTyped_of_metrics isMetric

end LogForwarder.Vector
