/-
This file finds out when a tenant of a stack gets the records of its own kind only. Expansion splits
the pipelines that lead to a stack, so that none of them sends two kinds to one tenant. But checks
look at the normal form alone, in which the tenants are outputs like any other: a pipeline of the
spec may name a tenant that no output of the spec has declared, and if it reads another kind, the
tenant gets the records of that kind as well. There is no other way for them to get there. The names
of tenants tell their stack and their kind, so that stacks whose names extend each other are kept
apart; and a spec whose pipelines name nothing but its own outputs is safe.
-/

import LogForwarder.Proofs.Clean

namespace LogForwarder

namespace Spec

/-! ### References before normalization -/

/-- A reference of a pipeline is, in normal form, a reference of a pipeline of the normal form. -/
theorem exists_reader (spec : Spec) {original : Pipeline} (declared : original ∈ spec.pipelines)
    {reference : String} (reads : reference ∈ original.inputRefs) :
    ∃ part ∈ spec.normalize.pipelines, spec.normalRef reference ∈ part.inputRefs := by
  obtain ⟨pipeline, member, tidied⟩ := spec.exists_tidied original declared
  have inTidied := (tidied.mem_inputRefs _).mpr ⟨reference, reads, rfl⟩
  by_cases leadsToStack : spec.tidied.LeadsToStack pipeline
  · obtain ⟨group, inGroups, inGroup⟩ :=
      spec.tidied.exists_refGroup pipeline.inputRefs _ inTidied
    obtain ⟨part, isPart, fromGroup⟩ :=
      spec.tidied.exists_part_of_mem_refGroups pipeline group leadsToStack inGroups
    exact ⟨part, (spec.tidied.mem_pipelines_expandStacks part).mpr ⟨pipeline, member, isPart⟩,
      fromGroup.inputRefs ▸ inGroup⟩
  · have whole := spec.tidied.splitPipeline_of_not_leadsToStack pipeline leadsToStack
    refine ⟨pipeline, (spec.tidied.mem_pipelines_expandStacks pipeline).mpr
      ⟨pipeline, member, ?_⟩, inTidied⟩
    rw [whole]
    exact List.mem_singleton_self pipeline

/-- A reference of a pipeline of the normal form is the normal form of a reference. -/
theorem exists_written (spec : Spec) {part : Pipeline} (member : part ∈ spec.normalize.pipelines)
    {reference : String} (reads : reference ∈ part.inputRefs) :
    ∃ original ∈ spec.pipelines, ∃ other ∈ original.inputRefs,
      spec.normalRef other = reference := by
  obtain ⟨pipeline, isTidied, isPart⟩ := (spec.tidied.mem_pipelines_expandStacks part).mp member
  obtain ⟨original, declared, tidied⟩ := spec.exists_original pipeline isTidied
  refine ⟨original, declared, (tidied.mem_inputRefs reference).mp ?_⟩
  by_cases leadsToStack : spec.tidied.LeadsToStack pipeline
  · obtain ⟨group, inGroups, ofGroup⟩ :=
      spec.tidied.exists_group_of_mem_splitPipeline pipeline part leadsToStack isPart
    rw [ofGroup.inputRefs] at reads
    exact spec.tidied.mem_of_mem_refGroup inGroups reads
  · rw [spec.tidied.splitPipeline_of_not_leadsToStack pipeline leadsToStack] at isPart
    rwa [← List.mem_singleton.mp isPart]

/-- If the normal form of a spec is clean, then the references of the spec itself resolve. -/
theorem resolves_of_isClean_normalize (spec : Spec) (clean : spec.normalize.IsClean) :
    ∀ pipeline ∈ spec.pipelines, spec.Resolves pipeline := by
  intro original declared reference reads
  obtain ⟨part, member, inPart⟩ := spec.exists_reader declared reads
  have resolved := clean.resolves member _ inPart
  rw [refKind?_normalize, refKind?_normalRef] at resolved
  exact resolved

/-! ### Kinds that reach a tenant -/

/-- The kinds that the normal form sends to an output: those of the flows that end there. -/
theorem sends_normalize_iff (spec : Spec)
    (resolves : ∀ pipeline ∈ spec.pipelines, spec.Resolves pipeline) (kind : LogKind)
    (output : String) :
    spec.normalize.Sends kind output ↔
      ∃ reference, spec.outputInNormalForm (some kind) reference = output ∧
        spec.Sends kind reference := by
  rw [sends_iff_exists_flow, spec.flows_normalize resolves]
  refine ⟨?_, ?_⟩
  · rintro ⟨_, ⟨flow, isFlow, rfl⟩, leads, resolved⟩
    have ofKind : spec.refKind? flow.input = some kind := by
      rw [← spec.refKind?_normalRef, ← inputInNormalForm_eq]
      exact resolved
    refine ⟨flow.output, ?_, (spec.sends_iff_exists_flow kind _).mpr ⟨flow, isFlow, rfl, ofKind⟩⟩
    rw [← ofKind]
    exact leads
  · rintro ⟨reference, leads, sends⟩
    obtain ⟨flow, isFlow, rfl, ofKind⟩ := (spec.sends_iff_exists_flow kind _).mp sends
    refine ⟨spec.normalFlow flow, Set.mem_image_of_mem _ isFlow, ?_, ?_⟩
    · show spec.outputInNormalForm (spec.refKind? flow.input) flow.output = output
      rw [ofKind, leads]
    · show spec.refKind? (spec.inputInNormalForm flow.input) = some kind
      rw [inputInNormalForm_eq, refKind?_normalRef, ofKind]

/--
A tenant of a stack gets its own kind from the stack, and any kind that is sent to it by name.
-/
theorem sends_tenant_iff (spec : Spec)
    (resolves : ∀ pipeline ∈ spec.pipelines, spec.Resolves pipeline) (stack : String)
    (isStack : spec.HasStack stack) (kind other : LogKind) :
    spec.normalize.Sends other (tenantName stack kind) ↔
      (other = kind ∧ spec.Sends kind stack) ∨
        (¬spec.HasStack (tenantName stack kind) ∧ spec.Sends other (tenantName stack kind)) := by
  rw [spec.sends_normalize_iff resolves]
  refine ⟨?_, ?_⟩
  · rintro ⟨reference, renamed, sends⟩
    by_cases replaced : spec.HasStack reference
    · rw [spec.outputInNormalForm_of_hasStack _ _ replaced, tenantName_inj] at renamed
      obtain ⟨rfl, rfl⟩ := renamed
      exact .inl ⟨rfl, sends⟩
    · rw [spec.outputInNormalForm_of_not_hasStack _ _ replaced] at renamed
      subst renamed
      exact .inr ⟨replaced, sends⟩
  · rintro (⟨rfl, sends⟩ | ⟨plain, sends⟩)
    · exact ⟨stack, spec.outputInNormalForm_of_hasStack _ _ isStack, sends⟩
    · exact ⟨_, spec.outputInNormalForm_of_not_hasStack _ _ plain, sends⟩

/-- The kinds that a plan gives are one kind alone exactly if that kind and no other is sent. -/
theorem kindsFor_eq_singleton_iff (spec : Spec) (output : String) (kind : LogKind) :
    spec.routes.kindsFor spec output = [kind] ↔
      ∀ other, spec.Sends other output ↔ other = kind := by
  have members : ∀ other, other ∈ spec.routes.kindsFor spec output ↔ spec.Sends other output :=
    spec.mem_kindsFor output
  refine ⟨?_, ?_⟩
  · intro alone other
    rw [← members, alone, List.mem_singleton]
  · intro only
    have distinct : (spec.routes.kindsFor spec output).Nodup := LogKind.nodup_all.filter _
    refine List.perm_singleton.mp ((List.perm_ext_iff_of_nodup distinct
      (List.nodup_singleton kind)).mpr fun other => ?_)
    rw [members, only, List.mem_singleton]

/-! ### Isolation -/

/-- A tenant is added for a name of a stack and a kind that is sent to the stack. -/
theorem mem_tenantsInOrder (spec : Spec) (stack : String) (kind : LogKind) :
    (stack, kind) ∈ spec.tenantsInOrder ↔ spec.HasStack stack ∧ spec.Sends kind stack := by
  unfold tenantsInOrder
  rw [← stackNames_eq]
  simp only [List.mem_flatMap, List.mem_map, List.mem_filter, LogKind.mem_all, true_and,
    decide_eq_true_eq, mem_stackNames, Prod.mk.injEq]
  refine ⟨?_, ?_⟩
  · rintro ⟨_, isStack, _, sends, rfl, rfl⟩
    exact ⟨isStack, sends⟩
  · rintro ⟨isStack, sends⟩
    exact ⟨stack, isStack, kind, sends, rfl, rfl⟩

/-- What is added for a name of a stack and a kind is an output of the normal form. -/
theorem exists_tenant (spec : Spec) (stack : String) (kind : LogKind)
    (added : (stack, kind) ∈ spec.tenantsInOrder) :
    ∃ first, spec.firstStack? stack = some first ∧
      ∃ tenant ∈ spec.normalize.outputs, IsTenant first kind tenant := by
  obtain ⟨isStack, sends⟩ := (spec.mem_tenantsInOrder stack kind).mp added
  obtain ⟨first, settings, found, rfl, expands⟩ := spec.exists_firstStack? stack isStack
  have declared := ((first.expandable?_eq_some_iff settings).mp expands).2.1
  refine ⟨first, found, first.tenantOutput settings kind, ?_,
    isTenant_tenantOutput first settings kind declared⟩
  exact (spec.tidied.mem_outputs_expandStacks _).mpr (.inr ⟨first, settings, kind, found, expands,
    (spec.sends_tidied kind _).mpr sends, rfl⟩)

/--
Whether records of a kind are sent to the tenant for another kind by its name, which is that of no
stack.
-/
def LeaksInto (spec : Spec) (stack : String) (kind : LogKind) : Prop :=
  ¬spec.HasStack (tenantName stack kind) ∧
    ∃ other, other ≠ kind ∧ spec.Sends other (tenantName stack kind)

/--
A tenant that normalization adds to a spec without problems gets the records of its own kind alone,
unless a pipeline of the spec reads another kind and leads to the tenant by its name.
-/
theorem kindsFor_tenant_iff (spec : Spec) (secrets : SecretStore) (options : Options)
    (dialect : Dialect) (clean : spec.problems secrets options dialect = []) (stack : String)
    (kind : LogKind) (added : (stack, kind) ∈ spec.tenantsInOrder) :
    (∃ first, spec.firstStack? stack = some first ∧
        ∃ tenant ∈ spec.normalize.outputs, IsTenant first kind tenant) ∧
      (spec.normalize.routes.kindsFor spec.normalize (tenantName stack kind) = [kind] ↔
        ¬spec.LeaksInto stack kind) := by
  refine ⟨spec.exists_tenant stack kind added, ?_⟩
  have resolves := spec.resolves_of_isClean_normalize
    (spec.normalize.isClean_of_normalProblems_eq_nil clean)
  obtain ⟨isStack, sends⟩ := (spec.mem_tenantsInOrder stack kind).mp added
  rw [kindsFor_eq_singleton_iff]
  simp only [spec.sends_tenant_iff resolves stack isStack]
  refine ⟨?_, ?_⟩
  · rintro only ⟨plain, other, different, leaks⟩
    exact different ((only other).mp (.inr ⟨plain, leaks⟩))
  · intro noLeak other
    refine ⟨?_, ?_⟩
    · rintro (⟨same, _⟩ | ⟨plain, leaks⟩)
      · exact same
      · by_contra different
        exact noLeak ⟨plain, other, different, leaks⟩
    · rintro rfl
      exact .inl ⟨rfl, sends⟩

/-- A spec with a stack, to which applications are sent, and a second pipeline to some outputs. -/
def stackAndPipelineTo (outputs : List String) : Spec where
  inputs := []
  outputs :=
    [{ Output.bare "ls" .lokistack with
        lokistack := some { (default : LokiStackSection) with target := ⟨"[::1]/", "ns"⟩ } }]
  pipelines :=
    [⟨some "apps", ["application"], ["ls"], ∅, none⟩, ⟨some "audits", ["audit"], outputs, ∅, none⟩]
  tuning := none

/-- Two kinds that are sent to one stack are kept apart. -/
theorem kindsFor_tenant_stack :
    (stackAndPipelineTo ["ls"]).problems ∅ .standard .vector = [] ∧
      (stackAndPipelineTo ["ls"]).normalize.routes.kindsFor (stackAndPipelineTo ["ls"]).normalize
        "ls-application" = [.application] := by
  have clean : (stackAndPipelineTo ["ls"]).problems ∅ .standard .vector = [] := by decide
  have added : ("ls", LogKind.application) ∈ (stackAndPipelineTo ["ls"]).tenantsInOrder := by
    decide
  refine ⟨clean,
    (kindsFor_tenant_iff _ ∅ .standard .vector clean "ls" .application added).2.mpr ?_⟩
  rintro ⟨_, other, _, leaks⟩
  revert leaks
  cases other <;> decide

/-- A pipeline that names a tenant sends audit records to the tenant for applications. -/
theorem kindsFor_namedTenant_ne :
    (stackAndPipelineTo ["ls-application"]).problems ∅ .standard .vector = [] ∧
      ("ls", LogKind.application) ∈ (stackAndPipelineTo ["ls-application"]).tenantsInOrder ∧
      (stackAndPipelineTo ["ls-application"]).normalize.routes.kindsFor
        (stackAndPipelineTo ["ls-application"]).normalize "ls-application" ≠ [.application] := by
  decide

/-- No tenant has the name of an output that is kept, if the normal form is clean. -/
theorem tenantName_ne_of_isClean (spec : Spec) (clean : spec.normalize.IsClean) (stack : String)
    (kind : LogKind) (added : (stack, kind) ∈ spec.tenantsInOrder) {output : Output}
    (declared : output ∈ spec.outputs) (plain : ¬output.IsStack) :
    output.name ≠ tenantName stack kind := by
  obtain ⟨isStack, sends⟩ := (spec.mem_tenantsInOrder stack kind).mp added
  obtain ⟨first, settings, found, named, expands⟩ := spec.exists_firstStack? stack isStack
  have kept : output ∈ spec.tidied.outputs.filter (·.expandable?.isNone) := by
    refine List.mem_filter.mpr ⟨declared, ?_⟩
    rw [Option.isNone_iff_eq_none, ← Option.not_isSome_iff_eq_none, output.isSome_expandable?_iff]
    exact plain
  have tenant : first.tenantOutput settings kind ∈
      spec.tidied.stackNames.flatMap spec.tidied.tenantOutputs := by
    refine List.mem_flatMap.mpr ⟨stack, (spec.tidied.mem_stackNames stack).mpr isStack, ?_⟩
    rw [spec.tidied.tenantOutputs_eq stack first settings found expands]
    exact List.mem_map_of_mem ((spec.tidied.mem_kindsTo kind stack).mpr
      ((spec.sends_tidied kind stack).mpr sends))
  have distinct := clean.outputsDistinct
  rw [show spec.normalize.outputs = spec.tidied.outputs.filter (·.expandable?.isNone) ++
    spec.tidied.stackNames.flatMap spec.tidied.tenantOutputs from rfl, List.map_append] at distinct
  obtain ⟨_, _, disjoint⟩ := List.nodup_append.mp distinct
  have different := disjoint _ (List.mem_map_of_mem kept) _ (List.mem_map_of_mem tenant)
  rw [first.name_tenantOutput, named] at different
  exact different

/--
Tenants are isolated if the pipelines of a spec name its own outputs only, as they must where
expansion plays no part.
-/
theorem not_leaksInto_of_declared (spec : Spec) (secrets : SecretStore) (options : Options)
    (dialect : Dialect) (clean : spec.problems secrets options dialect = [])
    (declared : ∀ pipeline ∈ spec.pipelines, ∀ reference ∈ pipeline.outputRefs,
      ∃ output ∈ spec.outputs, output.name = reference)
    (stack : String) (kind : LogKind) (added : (stack, kind) ∈ spec.tenantsInOrder) :
    ¬spec.LeaksInto stack kind := by
  rintro ⟨plain, other, _, pipeline, member, leads, _⟩
  obtain ⟨output, isOutput, named⟩ := declared pipeline member _ leads
  refine spec.tenantName_ne_of_isClean (spec.normalize.isClean_of_normalProblems_eq_nil clean) stack
    kind added isOutput ?_ named
  exact fun isStack => plain ⟨output, isOutput, named, isStack⟩

end Spec

end LogForwarder
