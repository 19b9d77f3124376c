/-
This file proves what checks say about a spec as it was written. Checks look at the normal form, in
which stacks are replaced by their tenants, and most of what they find there goes back to the spec:
pipelines keep the names that they were given, references to inputs lead to the same inputs, and
outputs that are no stacks stay as they are. Two things are lost on the way. The name of a stack is
gone before names are compared, so that it may be empty, or that of another output; and tenants are
declared before references are looked up, so that a pipeline may name a tenant that nobody declared.
Nothing else is lost: a spec without problems, without such names and without such references has
names that tell its outputs and pipelines apart, and references that stay inside it.
-/

import LogForwarder.Proofs.Isolation

namespace LogForwarder

namespace Spec

/-! ### Coherence -/

/-- The names that pipelines are given; an empty name stands for none. -/
def givenNames (spec : Spec) : List String :=
  (spec.pipelines.map (·.name)).filter (!·.isEmpty)

/--
What a spec must be for its names to mean something: outputs and pipelines are told apart by their
names, and references lead to what the spec itself declares.
-/
structure IsCoherent (spec : Spec) : Prop where
  outputNamed : ∀ output ∈ spec.outputs, output.name ≠ ""
  outputsDistinct : (spec.outputs.map (·.name)).Nodup
  givenNamesDistinct : spec.givenNames.Nodup
  inputsKnown : ∀ pipeline ∈ spec.pipelines, ∀ reference ∈ pipeline.inputRefs,
    spec.knowsInput reference
  outputsDeclared : ∀ pipeline ∈ spec.pipelines, ∀ reference ∈ pipeline.outputRefs,
    ∃ output ∈ spec.outputs, output.name = reference

/-- Whether each stack has a name that it shares with no other output. -/
def HasOwnStackNames (spec : Spec) : Prop :=
  ∀ name, spec.HasStack name → name ≠ "" ∧ (spec.outputs.map (·.name)).count name = 1

/-- Whether pipelines name no tenant of a stack that is not declared as an output of its own. -/
def DeclaresTenants (spec : Spec) : Prop :=
  ∀ pipeline ∈ spec.pipelines, ∀ stack kind, spec.HasStack stack →
    tenantName stack kind ∈ pipeline.outputRefs →
      ∃ output ∈ spec.outputs, output.name = tenantName stack kind

/-! ### Pipelines -/

/-- The first part of a pipeline, or all of it, has its name. -/
theorem exists_part_of_name (spec : Spec) (pipeline : Pipeline) :
    ∃ part rest, spec.splitPipeline spec.stackNames pipeline = part :: rest ∧
      part.name = pipeline.name := by
  by_cases leadsToStack : spec.LeadsToStack pipeline
  · rw [spec.splitPipeline_of_leadsToStack pipeline leadsToStack, refGroups_eq]
    cases spec.resolvedGroups pipeline.inputRefs with
    | nil => exact ⟨_, _, rfl, rfl⟩
    | cons first others => exact ⟨_, _, rfl, rfl⟩
  · rw [spec.splitPipeline_of_not_leadsToStack pipeline leadsToStack]
    exact ⟨pipeline, [], rfl, rfl⟩

/-- The names of pipelines are, in order, among those of their parts. -/
theorem names_sublist_expandStacks (spec : Spec) :
    (spec.pipelines.map (·.name)).Sublist (spec.expandStacks.pipelines.map (·.name)) := by
  show (spec.pipelines.map (·.name)).Sublist
    ((spec.pipelines.flatMap (spec.splitPipeline spec.stackNames)).map (·.name))
  induction spec.pipelines with
  | nil => exact List.Sublist.refl _
  | cons pipeline others inductionHypothesis =>
    obtain ⟨part, rest, split, sameName⟩ := spec.exists_part_of_name pipeline
    rw [List.flatMap_cons, split, List.cons_append, List.map_cons, List.map_cons, sameName,
      List.map_append]
    exact (inductionHypothesis.trans (List.sublist_append_right _ _)).cons_cons _

/-- Tidying keeps the names that pipelines are given. -/
theorem givenNames_sublist_tidied (spec : Spec) :
    spec.givenNames.Sublist (spec.tidied.pipelines.map (·.name)) := by
  have kept : ∀ (pipelines : List Pipeline) (position : Nat),
      ((pipelines.map (·.name)).filter (!·.isEmpty)).Sublist
        ((pipelines.mapIdx fun index => spec.normalPipeline (position + index)).map (·.name)) := by
    intro pipelines
    induction pipelines with
    | nil => exact fun _ => List.Sublist.refl _
    | cons pipeline others inductionHypothesis =>
      intro position
      rw [List.mapIdx_cons, List.map_cons, List.map_cons, List.filter_cons]
      have later := inductionHypothesis (position + 1)
      simp only [Nat.add_assoc, Nat.add_comm 1] at later
      split
      · rename_i given
        have sameName : (pipeline.named (position + 0)).name = pipeline.name :=
          congrArg Pipeline.name (pipeline.named_eq_self _ ((not_isEmpty_iff _).mp given))
        rw [show (spec.normalPipeline (position + 0) pipeline).name = pipeline.name from sameName]
        exact later.cons_cons _
      · exact later.cons _
  have fromStart := kept spec.pipelines 0
  simp only [Nat.zero_add] at fromStart
  exact fromStart

theorem givenNames_nodup_of_isClean_normalize (spec : Spec) (clean : spec.normalize.IsClean) :
    spec.givenNames.Nodup :=
  clean.pipelinesDistinct.sublist
    (spec.givenNames_sublist_tidied.trans spec.tidied.names_sublist_expandStacks)

/-! ### References -/

/-- A reference that resolves to a kind is that of a kind or of a declared input. -/
theorem knowsInput_of_refKind? (spec : Spec) (reference : String)
    (resolved : (spec.refKind? reference).isSome) : spec.knowsInput reference := by
  unfold knowsInput
  cases reserved : LogKind.ofName? reference with
  | some kind => rfl
  | none =>
    rw [spec.refKind?_of_ofName?_none reserved] at resolved
    exact Option.isSome_of_isSome_bind resolved

/-- A reference of a pipeline to an output that is no stack is a reference of its normal form. -/
theorem exists_leader (spec : Spec) {original : Pipeline} (declared : original ∈ spec.pipelines)
    {reference : String} (leads : reference ∈ original.outputRefs)
    (plain : ¬spec.HasStack reference) :
    ∃ part ∈ spec.normalize.pipelines, reference ∈ part.outputRefs := by
  obtain ⟨pipeline, member, tidied⟩ := spec.exists_tidied original declared
  have inTidied := (tidied.mem_outputRefs reference).mpr leads
  obtain ⟨part, rest, split, _⟩ := spec.tidied.exists_part_of_name pipeline
  have isPart : part ∈ spec.tidied.splitPipeline spec.tidied.stackNames pipeline :=
    split ▸ List.mem_cons_self
  refine ⟨part, (spec.tidied.mem_pipelines_expandStacks part).mpr ⟨pipeline, member, isPart⟩, ?_⟩
  by_cases leadsToStack : spec.tidied.LeadsToStack pipeline
  · obtain ⟨group, _, fromGroup⟩ :=
      spec.tidied.exists_group_of_mem_splitPipeline pipeline part leadsToStack isPart
    rw [fromGroup.outputRefs]
    refine List.mem_map.mpr ⟨reference, inTidied, ?_⟩
    cases group.kind? with
    | none => rfl
    | some kind => exact (spec.tidied.tenantRef_some kind reference).trans (if_neg plain)
  · rw [spec.tidied.splitPipeline_of_not_leadsToStack pipeline leadsToStack] at isPart
    rw [List.mem_singleton.mp isPart]
    exact inTidied

/--
An output reference of a spec whose normal form is clean is that of a declared output, or of a
tenant that stands in the normal form for a stack.
-/
theorem declared_or_tenant (spec : Spec) (clean : spec.normalize.IsClean) {pipeline : Pipeline}
    (declared : pipeline ∈ spec.pipelines) {reference : String}
    (leads : reference ∈ pipeline.outputRefs) :
    (∃ output ∈ spec.outputs, output.name = reference) ∨
      ∃ stack kind, spec.HasStack stack ∧ spec.Sends kind stack ∧
        reference = tenantName stack kind := by
  by_cases isStack : spec.HasStack reference
  · obtain ⟨output, member, named, _⟩ := isStack
    exact .inl ⟨output, member, named⟩
  · obtain ⟨part, member, inPart⟩ := spec.exists_leader declared leads isStack
    obtain ⟨output, present, rfl⟩ := clean.exists_output member inPart
    rcases (spec.tidied.mem_outputs_expandStacks output).mp present with
      ⟨kept, _⟩ | ⟨stack, settings, kind, found, expands, sends, rfl⟩
    · exact .inl ⟨output, kept, rfl⟩
    · have inOutputs : stack ∈ spec.outputs := List.mem_of_find?_eq_some found
      have expanded := stack.isSome_expandable?_iff.mp (Option.isSome_iff_exists.mpr ⟨_, expands⟩)
      exact .inr ⟨stack.name, kind, ⟨stack, inOutputs, rfl, expanded⟩,
        (spec.sends_tidied kind _).mp sends, stack.name_tenantOutput settings kind⟩

/-! ### Outputs -/

/-- The outputs that are no stacks, which normalization keeps. -/
def plainOutputs (spec : Spec) : List Output := spec.outputs.filter fun output => ¬output.IsStack

/-- Normalization puts tenants after the outputs that it keeps. -/
theorem outputs_normalize_eq (spec : Spec) :
    spec.normalize.outputs =
      spec.plainOutputs ++ spec.tidied.stackNames.flatMap spec.tidied.tenantOutputs := by
  show spec.outputs.filter (·.expandable?.isNone) ++ _ = _
  refine congrArg (· ++ _) (List.filter_congr fun output _ => ?_)
  rw [← Option.not_isSome]
  by_cases isStack : output.IsStack
  · rw [output.isSome_expandable?_iff.mpr isStack, decide_eq_false (not_not_intro isStack)]
    rfl
  · rw [eq_false_of_ne_true (mt output.isSome_expandable?_iff.mp isStack), decide_eq_true isStack]
    rfl

/-- Outputs that are no stacks have different names that are not empty. -/
theorem plainOutputs_of_isClean_normalize (spec : Spec) (clean : spec.normalize.IsClean) :
    (∀ output ∈ spec.plainOutputs, output.name ≠ "") ∧
      (spec.plainOutputs.map (·.name)).Nodup := by
  have named := clean.outputNamed
  have distinct := clean.outputsDistinct
  rw [outputs_normalize_eq] at named distinct
  rw [List.map_append] at distinct
  exact ⟨fun output member => named output (List.mem_append_left _ member),
    (List.nodup_append.mp distinct).1⟩

/-- If stacks have names of their own and plain outputs do, then all outputs do. -/
theorem outputs_nodup_of_plainOutputs (spec : Spec) (own : spec.HasOwnStackNames)
    (distinct : (spec.plainOutputs.map (·.name)).Nodup) : (spec.outputs.map (·.name)).Nodup := by
  rw [List.nodup_iff_count_le_one] at distinct ⊢
  intro name
  by_cases isStack : spec.HasStack name
  · exact (own name isStack).2.le
  · -- No output of this name is a stack, so that leaving stacks out loses none of them.
    have sameCount : (spec.outputs.map (·.name)).count name =
        (spec.plainOutputs.map (·.name)).count name := by
      rw [List.count_eq_countP, List.count_eq_countP, List.countP_map, List.countP_map]
      unfold plainOutputs
      rw [List.countP_filter]
      refine List.countP_congr fun output member => ?_
      simp only [Function.comp_apply, beq_iff_eq, Bool.and_eq_true, decide_eq_true_eq]
      exact ⟨fun named => ⟨named, fun stack => isStack ⟨output, member, named, stack⟩⟩, And.left⟩
    rw [sameCount]
    exact distinct name

/-! ### The verdict -/

/--
What checks without problems say of the spec that was checked. The names that pipelines are given
differ, inputs are known, plain outputs have names that differ, and an output reference leads to an
output or to a tenant; and the spec as a whole is coherent exactly if its stacks have names of their
own, and the tenants that it names are declared.
-/
theorem isCoherent_iff (spec : Spec) (secrets : SecretStore) (options : Options)
    (dialect : Dialect) (clean : spec.problems secrets options dialect = []) :
    spec.givenNames.Nodup ∧
      (∀ pipeline ∈ spec.pipelines, ∀ reference ∈ pipeline.inputRefs,
        spec.knowsInput reference) ∧
      (∀ output ∈ spec.plainOutputs, output.name ≠ "") ∧
      (spec.plainOutputs.map (·.name)).Nodup ∧
      (∀ pipeline ∈ spec.pipelines, ∀ reference ∈ pipeline.outputRefs,
        (∃ output ∈ spec.outputs, output.name = reference) ∨
          ∃ stack kind, spec.HasStack stack ∧ spec.Sends kind stack ∧
            reference = tenantName stack kind) ∧
      (spec.IsCoherent ↔ spec.HasOwnStackNames ∧ spec.DeclaresTenants) := by
  have normal := spec.normalize.isClean_of_normalProblems_eq_nil clean
  have names := spec.givenNames_nodup_of_isClean_normalize normal
  have inputs : ∀ pipeline ∈ spec.pipelines, ∀ reference ∈ pipeline.inputRefs,
      spec.knowsInput reference := fun pipeline member reference reads =>
    spec.knowsInput_of_refKind? reference
      (spec.resolves_of_isClean_normalize normal pipeline member reference reads)
  obtain ⟨plainNamed, plainDistinct⟩ := spec.plainOutputs_of_isClean_normalize normal
  refine ⟨names, inputs, plainNamed, plainDistinct, ?_, ?_, ?_⟩
  · exact fun pipeline member reference leads => spec.declared_or_tenant normal member leads
  · intro coherent
    refine ⟨?_, ?_⟩
    · rintro name ⟨output, declared, rfl, _⟩
      exact ⟨coherent.outputNamed output declared,
        List.count_eq_one_of_mem coherent.outputsDistinct (List.mem_map_of_mem declared)⟩
    · intro pipeline member stack kind _ leads
      exact coherent.outputsDeclared pipeline member _ leads
  · rintro ⟨own, tenants⟩
    refine ⟨?_, spec.outputs_nodup_of_plainOutputs own plainDistinct, names, inputs, ?_⟩
    · intro output declared
      by_cases isStack : output.IsStack
      · exact (own output.name ⟨output, declared, rfl, isStack⟩).1
      · exact plainNamed output (List.mem_filter.mpr ⟨declared, decide_eq_true isStack⟩)
    · intro pipeline member reference leads
      rcases spec.declared_or_tenant normal member leads with
        declared | ⟨stack, kind, isStack, _, rfl⟩
      · exact declared
      · exact tenants pipeline member stack kind isStack leads

/-- A spec with one stack, to which both of its pipelines lead, is coherent. -/
theorem isCoherent_stackAndPipelineTo :
    (stackAndPipelineTo ["ls"]).problems ∅ .standard .vector = [] ∧
      (stackAndPipelineTo ["ls"]).IsCoherent := by
  have clean : (stackAndPipelineTo ["ls"]).problems ∅ .standard .vector = [] := by decide
  obtain ⟨_, _, _, _, _, coherent⟩ := isCoherent_iff _ ∅ .standard .vector clean
  refine ⟨clean, coherent.mpr ⟨?_, ?_⟩⟩
  · rintro name ⟨output, declared, rfl, _⟩
    rw [List.mem_singleton.mp declared]
    decide
  · rintro pipeline member stack kind ⟨output, declared, rfl, _⟩
    rw [List.mem_singleton.mp declared]
    revert pipeline
    cases kind <;> decide

/-- A spec with two stacks of one name that run in different places. -/
def stackTwice : Spec where
  inputs := []
  outputs :=
    ["ns", "other"].map fun namespaceName =>
      { Output.bare "ls" .lokistack with
        lokistack :=
          some { (default : LokiStackSection) with target := ⟨"[::1]/", namespaceName⟩ } }
  pipelines := [⟨some "apps", ["application"], ["ls"], ∅, none⟩]
  tuning := none

/--
Specs without problems that are not coherent: one in which two outputs have one name, and one in
which a pipeline leads to an output that is not declared.
-/
theorem not_isCoherent_stackTwice :
    (stackTwice.problems ∅ .standard .vector = [] ∧ ¬stackTwice.IsCoherent) ∧
      (stackAndPipelineTo ["ls-application"]).problems ∅ .standard .vector = [] ∧
        ¬(stackAndPipelineTo ["ls-application"]).IsCoherent := by
  refine ⟨⟨by decide, ?_⟩, by decide, ?_⟩
  · intro coherent
    exact absurd coherent.outputsDistinct (by decide)
  · intro coherent
    exact absurd coherent.outputsDeclared (by decide)

end Spec

end LogForwarder
