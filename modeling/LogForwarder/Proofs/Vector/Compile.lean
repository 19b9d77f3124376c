/-
This file finds out when a spec without problems in the vector dialect has a text. The checks miss
two things. They compare the ids that names turn into, but not those that are derived from them, so
an output may be called as a transform in front of another output's sink. And they ask of the key
that a sink sends along only that it has bytes, while the dialect reads it as text, which bytes that
are no UTF-8 or nothing but blanks are not. Nothing else can go wrong, so that both together say
exactly when there is a text.

There are three sorts of ids. Some are fixed, some are what the names of inputs, pipelines and
outputs turn into, and some are derived from these: those of the transforms in front of sinks, which
have a word behind a dash, and those of console sinks. The checks of generated ids keep the first
two sorts apart, and derived ids differ from each other and from the fixed ones by how they end. So
two elements have one id exactly if a name turns into an id that is derived from another one.
-/
import LogForwarder.Compile.Spec
import LogForwarder.Proofs.Clean
import LogForwarder.Proofs.Vector.Order
import LogForwarder.Proofs.Vector.Rendering
import Mathlib.Data.List.Flatten
import Mathlib.Data.List.Perm.Basic

namespace LogForwarder

namespace Vector

/-! ### Ids of a chain -/

namespace Sink

/-- The ids of the transforms in front of a sink. -/
def transformIds (sink : Sink) : List String :=
  (["remap", "dedot"] ++ sink.tailSuffixes).map sink.child

/-- What the ids of transforms end in has no dashes, and comes once in each chain. -/
theorem plain_suffixes (sink : Sink) :
    (∀ suffix ∈ ["remap", "dedot"] ++ sink.tailSuffixes, '-' ∉ suffix.toList) ∧
      (["remap", "dedot"] ++ sink.tailSuffixes).Nodup := by
  unfold tailSuffixes
  split
  case h_3 => split <;> decide
  all_goals decide

theorem TailShape.ids {sink : Sink} {suffixes : List String} {elements : List Element}
    (shape : sink.TailShape suffixes elements) :
    elements.map (·.id) = suffixes.map sink.child ++ [sink.id] := by
  cases shape with
  | alone extras element id stage inputs =>
    rw [List.map_singleton, (sink.finish_keeps extras element).1, id]
    rfl
  | behindRemap suffix program plainSuffix extras element id stage inputs =>
    rw [List.map_cons, List.map_singleton, (sink.finish_keeps extras element).1, id]
    rfl
  | behindRouter program extras element id stage inputs =>
    rw [List.map_cons, List.map_cons, List.map_singleton, (sink.finish_keeps extras element).1, id]
    rfl

theorem ids_chain {sink : Sink} {elements : List Element} (made : sink.chain = .ok elements) :
    elements.map (·.id) = sink.transformIds ++ [sink.id] := by
  unfold chain at made
  obtain ⟨tail, tailMade, made⟩ := exists_of_bind_eq_ok made
  cases made
  unfold transformIds
  rw [List.map_append, (shape_tail tailMade).ids, List.map_append, List.append_assoc]
  rfl

/-- A transform tells its sink and its place in the chain. -/
theorem child_inj {first second : Sink} {suffix other : String} (plain : '-' ∉ suffix.toList)
    (plainOther : '-' ∉ other.toList) (same : first.child suffix = second.child other) :
    first.id = second.id ∧ suffix = other := by
  have lists := congrArg String.toList same
  rw [toList_child, toList_child] at lists
  -- The dash of one id cannot stand behind that of the other one.
  have together : first.id.toList = second.id.toList ∧ suffix.toList = other.toList := by
    rcases List.append_eq_append_iff.mp lists with
      ⟨between, secondId, rest⟩ | ⟨between, firstId, rest⟩
    · cases between with
      | nil => exact ⟨by rw [secondId, List.append_nil], (List.cons.inj rest).2⟩
      | cons dash later =>
        refine absurd ?_ plain
        rw [(List.cons.inj rest).2]
        exact List.mem_append_right _ List.mem_cons_self
    · cases between with
      | nil => exact ⟨by rw [firstId, List.append_nil], (List.cons.inj rest).2.symm⟩
      | cons dash later =>
        refine absurd ?_ plainOther
        rw [(List.cons.inj rest).2]
        exact List.mem_append_right _ List.mem_cons_self
  exact ⟨String.toList_inj.mp together.1, String.toList_inj.mp together.2⟩

theorem nodup_transformIds (sink : Sink) : sink.transformIds.Nodup := by
  obtain ⟨plain, distinct⟩ := sink.plain_suffixes
  exact List.Nodup.map_on (fun suffix among other amongToo same =>
    (child_inj (plain suffix among) (plain other amongToo) same).2) distinct

theorem disjoint_transformIds {first second : Sink} (different : first.id ≠ second.id) :
    List.Disjoint first.transformIds second.transformIds := by
  intro id ofFirst ofSecond
  obtain ⟨suffix, among, rfl⟩ := List.mem_map.mp ofFirst
  obtain ⟨other, amongToo, same⟩ := List.mem_map.mp ofSecond
  exact different (child_inj (first.plain_suffixes.1 suffix among)
    (second.plain_suffixes.1 other amongToo) same.symm).1

theorem dash_mem_of_transformIds {sink : Sink} {id : String} (member : id ∈ sink.transformIds) :
    '-' ∈ id.toList := by
  obtain ⟨suffix, _, rfl⟩ := List.mem_map.mp member
  rw [toList_child]
  exact List.mem_append_right _ List.mem_cons_self

end Sink

variable {spec : Spec} {secrets : SecretStore} {options : Options}

/-! ### Fixed ids -/

/-- What comes behind the elements up to the pipelines and the chains. -/
def ending (spec : Spec) (options : Options) : List Element :=
  if options.debug then debugSinks spec else metrics options

/-- The elements with fixed ids: those up to the pipelines, and the collector's own metrics. -/
def unnamedElements (spec : Spec) (options : Options) : List Element :=
  rawSources spec.routedKinds ++ commonForms spec.routedKinds ++
    ((if needsContainers spec.routedKinds then [containerRouter spec.routedKinds] else []) ++
      (LogKind.all.filter (· ∈ spec.routedKinds)).map kindStream ++ selectorRouter spec) ++
    (if options.debug then [] else metrics options)

/-- All fixed ids, in the order of a file. -/
def fixedIds : List String :=
  [Id.rawContainerLogs] ++ [Id.rawJournalLogs] ++ AuditSource.all.map Id.rawAuditLogs ++
    ([Id.containerLogs] ++ [Id.dropJournalLogs, Id.journalLogs] ++
      AuditSource.all.map Id.auditLogs) ++
    ([Id.routeContainerLogs] ++ LogKind.all.map LogKind.name ++ [Id.routeApplicationLogs]) ++
    [Id.internalMetrics, Id.addNodename, Id.prometheusOutput]

theorem nodup_fixedIds : fixedIds.Nodup := by decide

theorem fixedIds_subset_reserved : fixedIds ⊆ Id.reserved := by decide

theorem sublist_fixedIds (spec : Spec) (options : Options) :
    ((unnamedElements spec options).map (·.id)).Sublist fixedIds := by
  have ofSources : (rawSources spec.routedKinds).Sublist
      ([containerSource] ++ [journalSource] ++ AuditSource.all.map auditSource) :=
    ((sublist_ite _ _).append (sublist_ite _ _)).append (sublist_ite _ _)
  have ofForms : (commonForms spec.routedKinds).Sublist
      ([containerForm] ++ journalForms ++ AuditSource.all.map auditForm) :=
    ((sublist_ite _ _).append (sublist_ite _ _)).append (sublist_ite _ _)
  have ofKinds : ((LogKind.all.filter (· ∈ spec.routedKinds)).map kindStream).Sublist
      (LogKind.all.map kindStream) :=
    List.filter_sublist.map _
  have ofInputs : (selectorRouter spec).Sublist
      [route Id.routeApplicationLogs [LogKind.application.name]
        ((selectorInputs spec).map selectorBranch)] :=
    sublist_ite_else (((selectorInputs spec).map selectorBranch).isEmpty = true) _
  have ofMetrics : (if options.debug then [] else metrics options).Sublist (metrics options) :=
    sublist_ite_else _ _
  have ofStreams := ((sublist_ite (needsContainers spec.routedKinds = true)
    [containerRouter spec.routedKinds]).append ofKinds).append ofInputs
  exact (((ofSources.append ofForms).append ofStreams).append ofMetrics).map (·.id)

/-! ### Ids that names turn into -/

/-- Whose names turn into ids: the inputs with a filter, the pipelines and the outputs shown. -/
def namedOwners (spec : Spec) (options : Options) : List Subject :=
  (sourceInputs spec).map (Subject.input ·.name) ++
    (spec.pipelines.map (Subject.pipeline ·.name) ++
      (spec.shownOutputs options).map (Subject.output ·.name))

/-- The inputs that some references lead to have the names of the references. -/
theorem sublist_names (spec : Spec) (references : List String) :
    ((references.filterMap spec.input?).map (·.name)).Sublist references := by
  induction references with
  | nil => exact List.Sublist.refl _
  | cons reference rest inductionHypothesis =>
    rw [List.filterMap_cons]
    cases found : spec.input? reference with
    | none => exact inductionHypothesis.cons _
    | some input =>
      rw [← spec.name_of_input? found]
      exact inductionHypothesis.cons_cons _

theorem nodup_sourceInputs (spec : Spec) : ((sourceInputs spec).map (·.name)).Nodup :=
  (nodup_eraseDups _).sublist ((List.filter_sublist.map _).trans (sublist_names spec _))

theorem namedOwners_subset (ready : spec.IsReady .vector) (options : Options) :
    namedOwners spec options ⊆ spec.idOwners .vector := by
  intro owner member
  rcases List.mem_append.mp member with isInput | other
  · obtain ⟨input, filtered, rfl⟩ := List.mem_map.mp isInput
    obtain ⟨declared, own⟩ := own_of_mem_sourceInputs filtered
    exact ready.input_mem_idOwners declared own
  · exact ready.owners_subset (ready.clean.sublist_shownOutputs options) other

theorem nodup_namedOwners (ready : spec.IsReady .vector) (options : Options) :
    (namedOwners spec options).Nodup := by
  have inputs : ((sourceInputs spec).map (Subject.input ·.name)).Nodup := by
    have distinct := (nodup_sourceInputs spec).map (f := Subject.input)
      fun _ _ same => Subject.input.inj same
    rwa [List.map_map] at distinct
  refine List.nodup_append.mpr
    ⟨inputs, ready.nodup_owners (ready.clean.sublist_shownOutputs options), ?_⟩
  rintro _ isInput _ isOther rfl
  obtain ⟨input, _, rfl⟩ := List.mem_map.mp isInput
  rcases List.mem_append.mp isOther with isPipeline | isOutput
  · obtain ⟨pipeline, _, absurdity⟩ := List.mem_map.mp isPipeline
    cases absurdity
  · obtain ⟨output, _, absurdity⟩ := List.mem_map.mp isOutput
    cases absurdity

theorem map_namedOwners (spec : Spec) (options : Options) :
    (namedOwners spec options).map (fun owner => Name.componentId owner.name) =
      (sourceInputs spec).map (fun input => Name.componentId input.name) ++
        (spec.pipelines.map (fun pipeline => Name.componentId pipeline.name) ++
          (spec.shownOutputs options).map fun output => Name.componentId output.name) := by
  unfold namedOwners
  rw [List.map_append, List.map_append, List.map_map, List.map_map, List.map_map]
  rfl

/-- Names turn into ids of their own. -/
theorem nodup_namedIds (ready : spec.IsReady .vector) (options : Options) :
    ((namedOwners spec options).map fun owner => Name.componentId owner.name).Nodup :=
  ready.nodup_ids (namedOwners_subset ready options) (nodup_namedOwners ready options)

/-! ### Ids that are derived from others -/

/-- The ids of the transforms in front of sinks or, when debugging, those of the console sinks. -/
def derivedIds (spec : Spec) (secrets : SecretStore) (options : Options) : List String :=
  if options.debug then (debugSinks spec).map (·.id)
  else spec.routedOutputs.flatMap fun output =>
    (Sink.ofOutput spec secrets options output).transformIds

/-- Whether no name turns into an id that is derived from another one. -/
def HasFreshIds (spec : Spec) (secrets : SecretStore) (options : Options) : Prop :=
  ∀ id ∈ derivedIds spec secrets options, ∀ owner ∈ namedOwners spec options,
    Name.componentId owner.name ≠ id

theorem toList_debugSink (pipeline : Pipeline) :
    (debugSink pipeline).id.toList =
      (Name.componentId pipeline.name).toList ++ "_debug".toList := by
  show (Name.componentId pipeline.name ++ "_debug").toList = _
  rw [String.toList_append]

theorem nodup_derivedIds (ready : spec.IsReady .vector) (secrets : SecretStore)
    (options : Options) : (derivedIds spec secrets options).Nodup := by
  have named := nodup_namedIds ready options
  rw [map_namedOwners] at named
  have ofPipelinesAndOutputs := (List.nodup_append.mp named).2.1
  obtain ⟨ofPipelines, ofOutputs, _⟩ := List.nodup_append.mp ofPipelinesAndOutputs
  unfold derivedIds
  cases debug : options.debug with
  | true =>
    rw [if_pos rfl]
    unfold debugSinks
    rw [List.map_map]
    refine List.pairwise_map.mpr ((List.pairwise_map.mp ofPipelines).imp ?_)
    intro first second different same
    have lists := congrArg String.toList same
    rw [Function.comp_apply, Function.comp_apply, toList_debugSink, toList_debugSink,
      List.append_left_inj] at lists
    exact different (String.toList_inj.mp lists)
  | false =>
    unfold Spec.shownOutputs at ofOutputs
    rw [debug, if_neg Bool.false_ne_true] at ofOutputs
    rw [if_neg Bool.false_ne_true]
    refine List.nodup_flatMap.mpr ⟨fun output _ => Sink.nodup_transformIds _, ?_⟩
    exact (List.pairwise_map.mp ofOutputs).imp fun different =>
      Sink.disjoint_transformIds different

/-- Fixed ids have no dashes, and none of them ends as the ids of console sinks do. -/
theorem derivedIds_notMem_fixedIds {id : String} (derived : id ∈ derivedIds spec secrets options) :
    id ∉ fixedIds := by
  intro fixed
  unfold derivedIds at derived
  split at derived
  · have noDebug : ∀ id ∈ fixedIds, ¬"_debug".toList <:+ id.toList := by decide
    obtain ⟨sink, isSink, rfl⟩ := List.mem_map.mp derived
    obtain ⟨pipeline, _, rfl⟩ := List.mem_map.mp isSink
    refine noDebug _ fixed ?_
    rw [toList_debugSink]
    exact List.suffix_append _ _
  · have noDash : ∀ id ∈ fixedIds, '-' ∉ id.toList := by decide
    obtain ⟨output, _, ofChain⟩ := List.mem_flatMap.mp derived
    exact noDash id fixed (Sink.dash_mem_of_transformIds ofChain)

/-! ### Configurations -/

theorem ids_of_chains {outputs : List Output} {chains : List (List Element)}
    (made : List.Forall₂ (fun output chain =>
      (Sink.ofOutput spec secrets options output).chain = .ok chain) outputs chains) :
    chains.flatten.map (·.id) = outputs.flatMap fun output =>
      (Sink.ofOutput spec secrets options output).transformIds ++
        [Name.componentId output.name] := by
  induction made with
  | nil => rfl
  | cons chainMade _ inductionHypothesis =>
    rw [List.flatten_cons, List.map_append, inductionHypothesis, Sink.ids_chain chainMade,
      List.flatMap_cons]
    rfl

/-- The ids of a configuration whose outputs have chains, sorted by what they come from. -/
theorem perm_ids {chains : List (List Element)}
    (made : List.Forall₂ (fun output chain =>
      (Sink.ofOutput spec secrets options output).chain = .ok chain)
        (spec.shownOutputs options) chains) :
    ((upToPipelines spec ++ chains.flatten ++ ending spec options).map (·.id)).Perm
      ((unnamedElements spec options).map (·.id) ++
        (namedOwners spec options).map (fun owner => Name.componentId owner.name) ++
          derivedIds spec secrets options) := by
  have ofChains := ids_of_chains made
  have sorted := List.flatMap_append_perm (spec.shownOutputs options)
    (fun output => (Sink.ofOutput spec secrets options output).transformIds)
    (fun output => [Name.componentId output.name])
  rw [map_namedOwners, List.perm_iff_count]
  intro id
  have counted := sorted.count_eq id
  rw [← ofChains, List.count_append, ← List.map_eq_flatMap] at counted
  have ofFilters : ((sourceInputs spec).map sourceFilter).map (·.id) =
      (sourceInputs spec).map fun input => Name.componentId input.name := List.map_map
  have ofPipelines : (pipelines spec).map (·.id) =
      spec.pipelines.map fun pipeline => Name.componentId pipeline.name := List.map_map
  unfold upToPipelines streams unnamedElements ending derivedIds
  simp only [List.map_append, List.count_append, ofFilters, ofPipelines]
  unfold Spec.shownOutputs at counted ⊢
  cases debug : options.debug with
  | true =>
    simp only [debug, if_true, List.flatMap_nil, List.map_nil, List.count_nil] at counted ⊢
    omega
  | false =>
    simp only [debug, Bool.false_eq_true, if_false] at counted ⊢
    omega

/-- Ids differ exactly if derived ones are no ids that names turn into. -/
theorem nodup_ids_iff (ready : spec.IsReady .vector) {chains : List (List Element)}
    (made : List.Forall₂ (fun output chain =>
      (Sink.ofOutput spec secrets options output).chain = .ok chain)
        (spec.shownOutputs options) chains) :
    ((upToPipelines spec ++ chains.flatten ++ ending spec options).map (·.id)).Nodup ↔
      HasFreshIds spec secrets options := by
  have fixed := nodup_fixedIds.sublist (sublist_fixedIds spec options)
  rw [(perm_ids made).nodup_iff]
  refine ⟨?_, fun fresh => ?_⟩
  · intro distinct id derived owner isOwner
    refine (List.nodup_append.mp distinct).2.2 _ ?_ id derived
    exact List.mem_append_right _ (List.mem_map_of_mem isOwner)
  · refine List.nodup_append.mpr ⟨List.nodup_append.mpr
      ⟨fixed, nodup_namedIds ready options, ?_⟩, nodup_derivedIds ready secrets options, ?_⟩
    · intro id isFixed _ named same
      obtain ⟨owner, isOwner, rfl⟩ := List.mem_map.mp named
      rw [same] at isFixed
      exact ready.ids.unreserved owner (namedOwners_subset ready options isOwner)
        (fixedIds_subset_reserved ((sublist_fixedIds spec options).subset isFixed))
    · intro id present other derived same
      rcases List.mem_append.mp present with isFixed | named
      · exact derivedIds_notMem_fixedIds derived
          ((sublist_fixedIds spec options).subset (same ▸ isFixed))
      · obtain ⟨owner, isOwner, rfl⟩ := List.mem_map.mp named
        exact fresh other derived owner isOwner same

/-! ### Chains of outputs -/

namespace Sink

/-- The key of the secret of an output that its sink sends along, if it sends one. -/
def sentKey? : OutputType → Option String
  | .azureMonitor => some Secret.sharedKey
  | .splunk => some Secret.splunkToken
  | _ => none

/-- Whether the key that a sink sends along, if it sends one, can be read as text. -/
def HasReadableKey (sink : Sink) : Prop :=
  ∀ key ∈ sentKey? sink.output.type, (sink.secretValue? key).isSome

theorem isSome_of_require {sink : Sink} {field text : String} {value : Option String}
    (required : sink.require field value = .ok text) : value.isSome := by
  cases value with
  | none => cases required
  | some text => rfl

/--
An output that nothing is wrong with, of a type that there is a sink for, has a chain exactly if its
sink can send its key along.
-/
theorem exists_tail_iff {sink : Sink}
    (wellFormed : sink.output.IsWellFormed sink.secrets sink.options)
    (supported : Dialect.vector.supports sink.output.type)
    (plain : sink.output.type ≠ .lokistack) :
    (∃ elements, sink.tail = .ok elements) ↔ sink.HasReadableKey := by
  unfold tail HasReadableKey
  have silent : ∀ {type}, sentKey? type = none →
      ∀ key ∈ sentKey? type, (sink.secretValue? key).isSome := by
    intro type noKey key among
    rw [noKey] at among
    cases among
  cases type : sink.output.type with
  | loki | elasticsearch | http | otlp => exact iff_of_true ⟨_, rfl⟩ (silent rfl)
  | kafka =>
    obtain ⟨brokers, read⟩ := wellFormed.exists_brokers type
    refine iff_of_true ?_ (silent rfl)
    simp only [kafkaChain, read]
    exact ⟨_, rfl⟩
  | syslog =>
    obtain ⟨address, read⟩ := wellFormed.exists_hostPort (by rw [type]; rfl)
    refine iff_of_true ?_ (silent rfl)
    simp only [syslogChain, read]
    exact ⟨_, rfl⟩
  | cloudwatch =>
    obtain ⟨region, given⟩ := wellFormed.exists_region type
    refine iff_of_true ?_ (silent rfl)
    simp only [cloudwatchChain, given]
    exact ⟨_, rfl⟩
  | googleCloudLogging =>
    obtain ⟨destination, logId, secretName, isDestination, isLog, isSecret⟩ :=
      wellFormed.exists_google type
    refine iff_of_true ?_ (silent rfl)
    simp only [googleCloudChain, googleDestination, isDestination, isLog, isSecret]
    exact ⟨_, rfl⟩
  | azureMonitor =>
    obtain ⟨customerId, logType, isCustomer, isLog⟩ := wellFormed.exists_azure type
    refine ⟨?_, fun readable => ?_⟩
    · rintro ⟨elements, made⟩ key among
      cases among
      obtain ⟨_, _, made⟩ := exists_of_bind_eq_ok made
      obtain ⟨_, _, made⟩ := exists_of_bind_eq_ok made
      obtain ⟨sharedKey, required, _⟩ := exists_of_bind_eq_ok made
      exact isSome_of_require required
    · obtain ⟨key, isKey⟩ := Option.isSome_iff_exists.mp (readable _ rfl)
      simp only [azureMonitorChain, isCustomer, isLog, isKey]
      exact ⟨_, rfl⟩
  | splunk =>
    refine ⟨?_, fun readable => ?_⟩
    · rintro ⟨elements, made⟩ key among
      cases among
      obtain ⟨token, required, _⟩ := exists_of_bind_eq_ok made
      exact isSome_of_require required
    · obtain ⟨key, isKey⟩ := Option.isSome_iff_exists.mp (readable _ rfl)
      simp only [splunkChain, isKey]
      exact ⟨_, rfl⟩
  | lokistack => exact absurd type plain
  | fluentForward | unknown name =>
    rw [type] at supported
    cases supported

/-- Whether there is a chain is up to the part of it that depends on the type. -/
theorem exists_chain_iff (sink : Sink) :
    (∃ elements, sink.chain = .ok elements) ↔ ∃ elements, sink.tail = .ok elements := by
  unfold chain
  refine ⟨?_, ?_⟩
  · rintro ⟨elements, made⟩
    obtain ⟨tail, tailMade, _⟩ := exists_of_bind_eq_ok made
    exact ⟨tail, tailMade⟩
  · rintro ⟨tail, tailMade⟩
    rw [tailMade]
    exact ⟨_, rfl⟩

end Sink

/-! ### Configurations -/

/-- Whether all keys that sinks of a configuration send along can be read as text. -/
def HasReadableKeys (spec : Spec) (secrets : SecretStore) (options : Options) : Prop :=
  ∀ output ∈ spec.shownOutputs options, (Sink.ofOutput spec secrets options output).HasReadableKey

/-- When debugging or not, a configuration is built from its start over the chains to its end. -/
theorem build_eq (spec : Spec) (secrets : SecretStore) (options : Options) :
    build spec secrets options =
      Arena.empty.extended (upToPipelines spec) >>= fun arena =>
        (spec.shownOutputs options).foldlM (addChain spec secrets options) arena >>= fun arena =>
          arena.extended (ending spec options) := by
  unfold build Spec.shownOutputs ending
  cases options.debug <;> rfl

/-- A configuration is built exactly if all chains can be made and no derived id is taken. -/
theorem exists_build_iff (ready : spec.IsReady .vector)
    (sound : spec.HasSoundOutputs secrets options .vector)
    (plain : ∀ output ∈ spec.outputs, output.type ≠ .lokistack) :
    (∃ arena, build spec secrets options = .ok arena) ↔
      HasFreshIds spec secrets options ∧ HasReadableKeys spec secrets options := by
  have makes : ∀ output ∈ spec.shownOutputs options,
      ((∃ chain, (Sink.ofOutput spec secrets options output).chain = .ok chain) ↔
        (Sink.ofOutput spec secrets options output).HasReadableKey) := by
    intro output shown
    have declared := (ready.clean.sublist_shownOutputs options).subset shown
    rw [Sink.exists_chain_iff]
    exact Sink.exists_tail_iff (sound.wellFormed output declared) (sound.supported output declared)
      (plain output declared)
  rw [build_eq]
  refine ⟨?_, ?_⟩
  · rintro ⟨arena, built⟩
    obtain ⟨chains, made, elements⟩ := Arena.elements_of_run (addChain spec secrets options)
      (fun output chain => (Sink.ofOutput spec secrets options output).chain = .ok chain) (by
        intro arena output longer added
        obtain ⟨chain, made, extended⟩ := exists_of_bind_eq_ok added
        exact ⟨chain, made, Arena.elements_of_extended extended⟩) _ built
    have distinct := arena.distinct
    rw [elements] at distinct
    refine ⟨(nodup_ids_iff ready made).mp distinct, fun output shown => ?_⟩
    obtain ⟨chain, _, chainMade⟩ := exists_of_mem_forall₂ made shown
    exact (makes output shown).mp ⟨chain, chainMade⟩
  · rintro ⟨fresh, readable⟩
    obtain ⟨chains, made⟩ := exists_forall₂ fun output shown =>
      (makes output shown).mpr (readable output shown)
    exact Arena.exists_run (fun _ _ => rfl) made ((nodup_ids_iff ready made).mpr fresh)

/-- Whatever has been built has a text. -/
theorem exists_generate_iff (spec : Spec) (secrets : SecretStore) (options : Options) :
    (∃ text, generate spec secrets options = .ok text) ↔
      ∃ arena, build spec secrets options = .ok arena := by
  unfold generate
  refine ⟨?_, ?_⟩
  · rintro ⟨text, generated⟩
    obtain ⟨arena, built, _⟩ := exists_of_bind_eq_ok generated
    exact ⟨arena, built⟩
  · rintro ⟨arena, built⟩
    obtain ⟨engine, isEngine, renders⟩ := exists_engine
    obtain ⟨text, isText⟩ := Arena.exists_text renders (isTyped_of_build built)
    refine ⟨text, ?_⟩
    rw [built, isEngine]
    exact isText

instance (spec : Spec) (secrets : SecretStore) (options : Options) :
    Decidable (HasFreshIds spec secrets options) :=
  inferInstanceAs (Decidable (∀ id ∈ derivedIds spec secrets options,
    ∀ owner ∈ namedOwners spec options, Name.componentId owner.name ≠ id))

instance (spec : Spec) (secrets : SecretStore) (options : Options) :
    Decidable (HasReadableKeys spec secrets options) :=
  inferInstanceAs (Decidable (∀ output ∈ spec.shownOutputs options,
    ∀ key ∈ Sink.sentKey? output.type,
      ((Sink.ofOutput spec secrets options output).secretValue? key).isSome))

end Vector

namespace Spec

/-- Specs without problems have configurations unless ids or keys of secrets are in the way. -/
theorem exists_vector_build_iff {spec : Spec} {secrets : SecretStore} {options : Options}
    (clean : spec.problems secrets options .vector = []) :
    (∃ arena, Vector.build spec.normalize secrets options = .ok arena) ↔
      Vector.HasFreshIds spec.normalize secrets options ∧
        Vector.HasReadableKeys spec.normalize secrets options :=
  Vector.exists_build_iff (spec.isReady_normalize clean)
    (hasSoundOutputs_of_normalProblems_eq_nil clean) fun _ declared =>
      type_ne_lokistack clean declared

/--
A spec that has no problems in the vector dialect has a text in it exactly if no name of the spec in
normal form turns into a derived id and all keys that are sent along can be read as text.
-/
theorem exists_vector_text_iff (spec : Spec) (secrets : SecretStore) (options : Options)
    (clean : spec.problems secrets options .vector = []) :
    (∃ text, spec.compile secrets options .vector = .ok text) ↔
      Vector.HasFreshIds spec.normalize secrets options ∧
        Vector.HasReadableKeys spec.normalize secrets options := by
  have sound := hasSoundOutputs_of_normalProblems_eq_nil clean
  rw [← Vector.exists_build_iff (spec.isReady_normalize clean) sound
    fun output declared => type_ne_lokistack clean declared, ← Vector.exists_generate_iff]
  unfold compile
  rw [clean]
  rfl

/-- Records of one namespace go to Splunk, and all application and audit records to a stack. -/
def indexAndStack : Spec where
  inputs := [⟨"web", some ⟨["shop"], none⟩, none, none⟩, ⟨"node", none, some ⟨[.node]⟩, none⟩]
  outputs :=
    [{ Output.bare "index" .splunk with
        url? := some "https://[::1]:8088"
        secretName := some "splunk" },
      { Output.bare "stack" .lokistack with
        lokistack := some { (default : LokiStackSection) with target := ⟨"[::1]/", "ns"⟩ } }]
  pipelines :=
    [⟨some "shop", ["web", "node"], ["index"], ∅, none⟩,
      ⟨some "rest", ["application", "audit"], ["stack"], ∅, none⟩]
  tuning := none

/-- A secret with some bytes as the token of a Splunk collector. -/
def tokenSecret (token : String) : SecretStore :=
  .ofList [("splunk", .ofList [(Secret.splunkToken, token.toUTF8)])]

theorem exists_vector_text_indexAndStack :
    indexAndStack.problems (tokenSecret "abc") .standard .vector = [] ∧
      ∃ text, indexAndStack.compile (tokenSecret "abc") .standard .vector = .ok text := by
  have clean : indexAndStack.problems (tokenSecret "abc") .standard .vector = [] := by
    decide
  refine ⟨clean, (exists_vector_text_iff _ _ _ clean).mpr ⟨?_, ?_⟩⟩
  · decide
  · decide

/-- An output that is called as the first transform in front of another one. -/
def outputAndNamesake : Spec where
  inputs := []
  outputs :=
    [{ Output.bare "a" .http with url? := some "http://[::1]" },
      { Output.bare "a-remap" .http with url? := some "http://[::1]" }]
  pipelines := [⟨some "p", ["application"], ["a", "a-remap"], ∅, none⟩,
    ⟨some "p_debug", ["audit"], ["a"], ∅, none⟩]
  tuning := none

/--
Some specs without problems have no text: one with an output that is called as a transform, one with
a pipeline that is called as a console sink, and one with a token that is nothing but blanks.
-/
theorem not_exists_vector_text :
    (outputAndNamesake.problems ∅ .standard .vector = [] ∧
      ¬∃ text, outputAndNamesake.compile ∅ .standard .vector = .ok text) ∧
    (outputAndNamesake.problems ∅ { Options.standard with debug := true } .vector = [] ∧
      ¬∃ text, outputAndNamesake.compile ∅ { Options.standard with debug := true } .vector =
        .ok text) ∧
    (indexAndStack.problems (tokenSecret "  ") .standard .vector = [] ∧
      ¬∃ text, indexAndStack.compile (tokenSecret "  ") .standard .vector = .ok text) := by
  have noText : ∀ {outcome : Except CompileError String}, outcome.isOk = false →
      ¬∃ text, outcome = .ok text := by
    rintro _ failed ⟨text, rfl⟩
    cases failed
  refine ⟨⟨by decide, noText ?_⟩, ⟨by decide, noText ?_⟩, by decide,
    noText ?_⟩
  · decide
  · decide
  · decide

end Spec

end LogForwarder
