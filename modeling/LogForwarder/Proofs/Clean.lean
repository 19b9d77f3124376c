/-
This file proves what it means that no problems are reported for a spec. Checks go through lists and
collect causes; a spec for which they collect none has different names everywhere, references that
all lead somewhere, and generated ids that are neither reserved nor shared. These are the facts that
make generated text say what the spec says, so they are drawn from the checks once and for all here.

If nothing is wrong with an output, all that the label or the chain of its type cannot be made
without is there. Checks and dialects look at an output in different ways. A check judges a section
that may be missing and an address that may be empty, where a dialect takes the default section and
the empty address, so each need of a dialect is traced back to the check that meets it.
-/
import LogForwarder.Proofs.Flow
import LogForwarder.Proofs.GeneratedId
import LogForwarder.Proofs.Idempotence
import LogForwarder.Proofs.Route
import LogForwarder.Proofs.Validation

namespace LogForwarder

/-- An input with exactly one section narrows a kind. -/
theorem Input.isSome_kind?_of_sectionCount (input : Input) (one : input.sectionCount = 1) :
    input.kind?.isSome := by
  unfold sectionCount at one
  unfold kind?
  cases application : input.application <;> cases infrastructure : input.infrastructure <;>
    cases audit : input.audit <;> rw [application, infrastructure, audit] at one <;>
    first | rfl | simp at one

namespace Spec

/-! ### Specs -/

/-- What holds of a spec without problems in any dialect. -/
structure IsClean (spec : Spec) : Prop where
  inputsDistinct : (spec.inputs.map (·.name)).Nodup
  outputsDistinct : (spec.outputs.map (·.name)).Nodup
  pipelinesDistinct : (spec.pipelines.map (·.name)).Nodup
  inputNamed : ∀ input ∈ spec.inputs, input.name ≠ ""
  inputUnreserved : ∀ input ∈ spec.inputs, LogKind.ofName? input.name = none
  inputNarrows : ∀ input ∈ spec.inputs, input.kind?.isSome
  outputNamed : ∀ output ∈ spec.outputs, output.name ≠ ""
  outputKnown : ∀ output ∈ spec.outputs, output.type.isKnown
  pipelineConnected : ∀ pipeline ∈ spec.pipelines, spec.IsConnected pipeline

/-- A spec without problems in normal form is clean. -/
theorem isClean_of_normalProblems_eq_nil (spec : Spec) {secrets : SecretStore} {options : Options}
    {dialect : Dialect} (clean : spec.normalProblems secrets options dialect = []) :
    spec.IsClean := by
  have valid := (spec.commonProblems_eq_nil_iff secrets options).mp
    (List.append_eq_nil_iff.mp clean).1
  exact
    { inputsDistinct := valid.inputsDistinct
      outputsDistinct := valid.outputsDistinct
      pipelinesDistinct := valid.pipelinesDistinct
      inputNamed := fun input member => (valid.inputs input member).named
      inputUnreserved := fun input member =>
        (LogKind.ofName?_eq_none_iff _).mpr (valid.inputs input member).unreserved
      inputNarrows := fun input member =>
        input.isSome_kind?_of_sectionCount (valid.inputs input member).oneSection
      outputNamed := fun output member => (valid.outputs output member).named
      outputKnown := fun output member => (valid.outputs output member).known
      pipelineConnected := valid.pipelines }

namespace IsClean

variable {spec : Spec}

/-- The input references of a clean spec resolve. -/
theorem resolves (clean : spec.IsClean) {pipeline : Pipeline} (member : pipeline ∈ spec.pipelines) :
    spec.Resolves pipeline := by
  intro reference reads
  cases reserved : LogKind.ofName? reference with
  | some kind =>
    rw [spec.refKind?_of_ofName? reserved]
    rfl
  | none =>
    have declared : ∃ input ∈ spec.inputs, input.name = reference := by
      refine ((clean.pipelineConnected pipeline member).known reference reads).resolve_left ?_
      rintro ⟨kind, isKind⟩
      exact (LogKind.ofName?_eq_none_iff reference).mp reserved kind isKind
    obtain ⟨input, found⟩ :=
      Option.isSome_iff_exists.mp ((spec.isSome_input?_iff reference).mpr declared)
    rw [spec.refKind?_of_ofName?_none reserved, found]
    exact clean.inputNarrows input (List.mem_of_find?_eq_some found)

/-- A name that an input of a clean spec is found by is not reserved. -/
theorem ofName?_of_input? (clean : spec.IsClean) {reference : String} {input : Input}
    (found : spec.input? reference = some input) : LogKind.ofName? reference = none := by
  rw [← spec.name_of_input? found]
  exact clean.inputUnreserved input (List.mem_of_find?_eq_some found)

/-- The output references of a clean spec name outputs. -/
theorem exists_output (clean : spec.IsClean) {pipeline : Pipeline}
    (member : pipeline ∈ spec.pipelines) {reference : String}
    (leads : reference ∈ pipeline.outputRefs) :
    ∃ output ∈ spec.outputs, output.name = reference :=
  (clean.pipelineConnected pipeline member).declared reference leads

end IsClean

/-! ### Outputs that are shown -/

/-- The outputs that a configuration shows: those that pipelines lead to, and none when debugging. -/
def shownOutputs (spec : Spec) (options : Options) : List Output :=
  if options.debug then [] else spec.routedOutputs

theorem shownOutputs_of_noDebug (spec : Spec) {options : Options}
    (noDebug : options.debug = false) : spec.shownOutputs options = spec.routedOutputs := by
  unfold shownOutputs
  rw [noDebug, if_neg Bool.false_ne_true]

theorem IsClean.sublist_shownOutputs {spec : Spec} (clean : spec.IsClean) (options : Options) :
    (spec.shownOutputs options).Sublist spec.outputs := by
  unfold shownOutputs
  split
  · exact List.nil_sublist _
  · exact spec.sublist_routedOutputs clean.outputsDistinct

/-! ### Specs that text is generated from -/

/-- A spec without problems in a dialect has ids that are neither reserved nor shared. -/
theorem haveOwnIds_of_normalProblems_eq_nil (spec : Spec) {secrets : SecretStore}
    {options : Options} {dialect : Dialect}
    (clean : spec.normalProblems secrets options dialect = []) :
    HaveOwnIds dialect (spec.idOwners dialect) :=
  (spec.idProblems_eq_nil_iff dialect).mp
    (List.append_eq_nil_iff.mp (List.append_eq_nil_iff.mp clean).2).2

/-- What holds of a spec in normal form without problems in a dialect. -/
structure IsReady (spec : Spec) (dialect : Dialect) : Prop where
  clean : spec.IsClean
  ids : HaveOwnIds dialect (spec.idOwners dialect)
  pipelineNamed : ∀ pipeline ∈ spec.pipelines, pipeline.name ≠ ""

/-- The normal form of a spec without problems is ready. -/
theorem isReady_normalize (spec : Spec) {secrets : SecretStore} {options : Options}
    {dialect : Dialect} (clean : spec.problems secrets options dialect = []) :
    spec.normalize.IsReady dialect where
  clean := spec.normalize.isClean_of_normalProblems_eq_nil clean
  ids := spec.normalize.haveOwnIds_of_normalProblems_eq_nil clean
  pipelineNamed := fun pipeline member =>
    (spec.isNearlyNormal_of_mem_normalize pipeline member).named

namespace IsReady

variable {spec : Spec} {dialect : Dialect}

theorem output_mem_idOwners (ready : spec.IsReady dialect) {output : Output}
    (declared : output ∈ spec.outputs) : .output output.name ∈ spec.idOwners dialect :=
  (spec.mem_idOwners_iff dialect _).mpr
    (.output output declared (ready.clean.outputNamed output declared))

theorem pipeline_mem_idOwners (ready : spec.IsReady dialect) {pipeline : Pipeline}
    (declared : pipeline ∈ spec.pipelines) :
    .pipeline pipeline.name ∈ spec.idOwners dialect :=
  (spec.mem_idOwners_iff dialect _).mpr
    (.pipeline pipeline declared (ready.pipelineNamed pipeline declared))

theorem input_mem_idOwners (ready : spec.IsReady .vector) {input : Input}
    (declared : input ∈ spec.inputs) (own : hasOwnComponent input) :
    .input input.name ∈ spec.idOwners .vector := by
  obtain ⟨ownKind, narrow⟩ := (hasOwnComponent_iff input).mp own
  exact (spec.mem_idOwners_iff .vector _).mpr
    (.input input declared (ready.clean.inputNamed input declared) rfl ownKind narrow)

theorem ne_output_of_reserved (ready : spec.IsReady dialect) {output : Output}
    (declared : output ∈ spec.outputs) {id : String} (reserved : id ∈ dialect.reservedIds) :
    id ≠ dialect.idOf output.name := by
  rintro rfl
  exact ready.ids.unreserved _ (ready.output_mem_idOwners declared) reserved

theorem ne_pipeline_of_reserved (ready : spec.IsReady dialect) {pipeline : Pipeline}
    (declared : pipeline ∈ spec.pipelines) {id : String} (reserved : id ∈ dialect.reservedIds) :
    id ≠ dialect.idOf pipeline.name := by
  rintro rfl
  exact ready.ids.unreserved _ (ready.pipeline_mem_idOwners declared) reserved

theorem ne_input_of_reserved (ready : spec.IsReady .vector) {input : Input}
    (declared : input ∈ spec.inputs) (own : hasOwnComponent input) {id : String}
    (reserved : id ∈ Vector.Id.reserved) : id ≠ Name.componentId input.name := by
  rintro rfl
  exact ready.ids.unreserved _ (ready.input_mem_idOwners declared own) reserved

/-- The id of an output tells its name. -/
theorem output_name_inj (ready : spec.IsReady dialect) {first second : Output}
    (firstDeclared : first ∈ spec.outputs) (secondDeclared : second ∈ spec.outputs)
    (same : dialect.idOf first.name = dialect.idOf second.name) : first.name = second.name := by
  have owners := ready.ids.distinct _ (ready.output_mem_idOwners firstDeclared) _
    (ready.output_mem_idOwners secondDeclared) same
  exact Subject.output.inj owners

/-- The pipelines and some of the outputs are different owners of ids. -/
theorem nodup_owners (ready : spec.IsReady dialect) {outputs : List Output}
    (among : outputs.Sublist spec.outputs) :
    (spec.pipelines.map (Subject.pipeline ·.name) ++
      outputs.map (Subject.output ·.name)).Nodup := by
  have pipelines : (spec.pipelines.map (Subject.pipeline ·.name)).Nodup := by
    have distinct := ready.clean.pipelinesDistinct.map (f := Subject.pipeline)
      fun _ _ same => Subject.pipeline.inj same
    rwa [List.map_map] at distinct
  have outputs : (outputs.map (Subject.output ·.name)).Nodup := by
    have distinct := (ready.clean.outputsDistinct.sublist (among.map (·.name))).map
      (f := Subject.output) fun _ _ same => Subject.output.inj same
    rwa [List.map_map] at distinct
  refine List.nodup_append.mpr ⟨pipelines, outputs, ?_⟩
  intro first isPipeline second isOutput
  obtain ⟨pipeline, _, rfl⟩ := List.mem_map.mp isPipeline
  obtain ⟨output, _, rfl⟩ := List.mem_map.mp isOutput
  exact Subject.noConfusion

theorem owners_subset (ready : spec.IsReady dialect) {outputs : List Output}
    (among : outputs.Sublist spec.outputs) :
    spec.pipelines.map (Subject.pipeline ·.name) ++ outputs.map (Subject.output ·.name) ⊆
      spec.idOwners dialect := by
  intro owner member
  rcases List.mem_append.mp member with isPipeline | isOutput
  · obtain ⟨pipeline, declared, rfl⟩ := List.mem_map.mp isPipeline
    exact ready.pipeline_mem_idOwners declared
  · obtain ⟨output, shown, rfl⟩ := List.mem_map.mp isOutput
    exact ready.output_mem_idOwners (among.subset shown)

/-- Owners of ids that differ have ids that differ. -/
theorem nodup_ids (ready : spec.IsReady dialect) {owners : List Subject}
    (among : owners ⊆ spec.idOwners dialect) (distinct : owners.Nodup) :
    (owners.map fun owner => dialect.idOf owner.name).Nodup :=
  List.Nodup.map_on (fun first firstMember second secondMember same =>
    ready.ids.distinct first (among firstMember) second (among secondMember) same) distinct

theorem pipeline_ne_output (ready : spec.IsReady dialect) {pipeline : Pipeline} {output : Output}
    (pipelineDeclared : pipeline ∈ spec.pipelines) (outputDeclared : output ∈ spec.outputs) :
    dialect.idOf pipeline.name ≠ dialect.idOf output.name := by
  intro same
  have owners := ready.ids.distinct _ (ready.pipeline_mem_idOwners pipelineDeclared) _
    (ready.output_mem_idOwners outputDeclared) same
  cases owners

end IsReady

end Spec

/-- An address with a scheme and a host has a host and maybe a port. -/
theorem Endpoint.exists_hostPort {address : String} {url : Url} (read : readUrl address = .ok url) :
    ∃ place, hostPort address = .ok place := by
  have hasScheme : (scheme? address).isSome := by
    by_contra noScheme
    unfold readUrl at read
    rw [if_pos (Option.not_isSome_iff_eq_none.mp noScheme ▸ rfl)] at read
    cases read
  unfold hostPort
  rw [if_pos hasScheme, read]
  exact ⟨_, rfl⟩

namespace Output.IsWellFormed

variable {output : Output} {secrets : SecretStore} {options : Options}
  (wellFormed : output.IsWellFormed secrets options)

include wellFormed

/-! ### Addresses -/

/-- An address that an output needs is one for its type. -/
theorem isReachedAt_url (needed : output.type.needsUrl) : output.type.IsReachedAt output.url := by
  obtain ⟨address, given, notEmpty⟩ := wellFormed.addressed needed
  have reached := wellFormed.reached address given notEmpty
  unfold url
  rwa [given]

theorem exists_url (needed : output.type.needsUrl) (other : output.type ≠ .syslog) :
    ∃ url, Endpoint.readUrl output.url = .ok url := by
  have reached := wellFormed.isReachedAt_url needed
  unfold OutputType.IsReachedAt at reached
  rwa [if_neg other] at reached

/-- The address of a syslog output need not have a scheme. -/
theorem exists_hostPort (needed : output.type.needsUrl) :
    ∃ place, Endpoint.hostPort output.url = .ok place := by
  by_cases isSyslog : output.type = .syslog
  · have reached := wellFormed.isReachedAt_url needed
    unfold OutputType.IsReachedAt at reached
    rwa [if_pos isSyslog] at reached
  · obtain ⟨url, read⟩ := wellFormed.exists_url needed isSyslog
    exact Endpoint.exists_hostPort read

/-! ### Fields of single types -/

theorem exists_brokers (isKafka : output.type = .kafka) :
    ∃ brokers, output.kafkaBrokers = .ok brokers := by
  have fields := wellFormed.fields
  unfold HasFields at fields
  rw [isKafka] at fields
  exact output.exists_kafkaBrokers_iff.mpr fields

theorem exists_region (isCloudwatch : output.type = .cloudwatch) :
    ∃ region, (output.cloudwatch.getD default).region = some region := by
  have fields := wellFormed.fields
  unfold HasFields at fields
  rw [isCloudwatch] at fields
  obtain ⟨⟨region, given, _⟩, _⟩ := fields
  obtain ⟨options, isSection, isRegion⟩ := Option.bind_eq_some_iff.mp given
  exact ⟨region, isSection ▸ isRegion⟩

theorem exists_azure (isAzure : output.type = .azureMonitor) :
    ∃ customerId logType, (output.azureMonitor.getD default).customerId = some customerId ∧
      (output.azureMonitor.getD default).logType = some logType := by
  have fields := wellFormed.fields
  unfold HasFields at fields
  rw [isAzure] at fields
  obtain ⟨⟨customerId, customerGiven, _⟩, ⟨logType, logGiven, _⟩, _⟩ := fields
  obtain ⟨options, isSection, isCustomer⟩ := Option.bind_eq_some_iff.mp customerGiven
  rw [isSection] at logGiven ⊢
  exact ⟨customerId, logType, isCustomer, logGiven⟩

theorem exists_google (isGoogle : output.type = .googleCloudLogging) :
    ∃ destination logId secretName,
      (output.googleCloudLogging.getD default).destinations = [destination] ∧
      (output.googleCloudLogging.getD default).logId = some logId ∧
      output.secretName = some secretName := by
  have fields := wellFormed.fields
  unfold HasFields at fields
  rw [isGoogle] at fields
  obtain ⟨⟨options, destination, isSection, isDestination⟩, ⟨logId, logGiven, _⟩, secretName, _,
    isSecret, _⟩ := fields
  rw [isSection] at logGiven ⊢
  exact ⟨destination, logId, secretName, isDestination, logGiven, isSecret⟩

/-- A lokistack that nothing is wrong with says where its stack runs. -/
theorem isStack (isLokistack : output.type = .lokistack) : output.IsStack := by
  have fields := wellFormed.fields
  unfold HasFields at fields
  rw [isLokistack] at fields
  exact ⟨isLokistack, fields⟩

end Output.IsWellFormed

/-! ### Outputs of specs -/

namespace Spec

/-- What holds of the outputs of a spec that has no problems in a dialect. -/
structure HasSoundOutputs (spec : Spec) (secrets : SecretStore) (options : Options)
    (dialect : Dialect) : Prop where
  wellFormed : ∀ output ∈ spec.outputs, output.IsWellFormed secrets options
  supported : ∀ output ∈ spec.outputs, dialect.supports output.type

variable {secrets : SecretStore} {options : Options} {dialect : Dialect}

theorem hasSoundOutputs_of_normalProblems_eq_nil {spec : Spec}
    (clean : spec.normalProblems secrets options dialect = []) :
    spec.HasSoundOutputs secrets options dialect := by
  obtain ⟨common, ofDialect⟩ := List.append_eq_nil_iff.mp clean
  obtain ⟨supported, _⟩ := List.append_eq_nil_iff.mp ofDialect
  have valid := (spec.commonProblems_eq_nil_iff secrets options).mp common
  refine ⟨valid.outputs, fun output member => ?_⟩
  have notRefused :=
    List.filter_eq_nil_iff.mp (List.map_eq_nil_iff.mp supported) output member
  rw [(valid.outputs output member).known, Bool.true_and, Bool.not_eq_true', Bool.not_eq_false]
    at notRefused
  exact notRefused

/-- Every lokistack of a spec without problems has been replaced by its tenants. -/
theorem type_ne_lokistack {spec : Spec}
    (clean : spec.problems secrets options dialect = []) {output : Output}
    (declared : output ∈ spec.normalize.outputs) : output.type ≠ .lokistack := fun isLokistack =>
  spec.not_hasStack_normalize output.name ⟨output, declared, rfl,
    ((hasSoundOutputs_of_normalProblems_eq_nil clean).wellFormed output declared).isStack
      isLokistack⟩

end Spec

end LogForwarder
