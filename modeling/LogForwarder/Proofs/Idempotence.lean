/-
This file finds out when normalizing twice is the same as normalizing once. A second pass finds
names given, references in normal form and no stack to expand; all that is left for it to do is to
erase repetitions, and repetitions among output references are erased before stacks are expanded. So
a second pass does something exactly if the first one makes two output references equal: if a
pipeline leads to a stack and also, by its name, to the tenant that the stack is replaced by.
-/

import LogForwarder.Compile.Spec
import LogForwarder.Proofs.Normal

namespace LogForwarder

namespace Spec

/-! ### What a second pass finds -/

theorem expandStacks_eq_self (spec : Spec) (noStack : ∀ name, ¬spec.HasStack name) :
    spec.expandStacks = spec := by
  have noNames : spec.stackNames = [] := by
    refine List.eq_nil_iff_forall_not_mem.mpr fun name member => ?_
    exact noStack name ((spec.mem_stackNames name).mp member)
  have kept : spec.outputs.filter (·.expandable?.isNone) = spec.outputs := by
    refine List.filter_eq_self.mpr fun output member => ?_
    rw [Option.isNone_iff_eq_none, ← Option.not_isSome_iff_eq_none, output.isSome_expandable?_iff]
    exact fun isStack => noStack output.name ⟨output, member, rfl, isStack⟩
  have whole : spec.splitPipeline spec.stackNames = fun pipeline => [pipeline] := by
    funext pipeline
    refine spec.splitPipeline_of_not_leadsToStack pipeline ?_
    rintro ⟨reference, _, isStack⟩
    exact noStack reference isStack
  unfold expandStacks
  rw [whole, noNames, kept, List.flatMap_nil, List.append_nil, List.flatMap_singleton']

theorem not_hasStack_normalize (spec : Spec) (name : String) : ¬spec.normalize.HasStack name := by
  rintro ⟨output, member, _, isStack⟩
  rcases (spec.tidied.mem_outputs_expandStacks output).mp member with
    ⟨_, plain⟩ | ⟨stack, settings, kind, _, _, _, rfl⟩
  · exact plain isStack
  · exact stack.not_isStack_tenantOutput settings kind isStack

/-- All that tidying does to a pipeline that is nearly in normal form is to erase repetitions. -/
theorem normalPipeline_eq_self_iff (spec : Spec) (position : Nat) (pipeline : Pipeline)
    (nearly : spec.IsNearlyNormal pipeline) :
    spec.normalPipeline position pipeline = pipeline ↔ pipeline.outputRefs.Nodup := by
  have sameRefs : pipeline.inputRefs.map spec.normalRef = pipeline.inputRefs := by
    rw [List.map_congr_left nearly.inputRefs, List.map_id']
  have tidy : spec.normalPipeline position pipeline =
      { pipeline with outputRefs := pipeline.outputRefs.eraseDups } := by
    unfold normalPipeline
    rw [pipeline.named_eq_self position nearly.named, sameRefs,
      eraseDups_eq_self _ nearly.distinct]
  rw [tidy, ← eraseDups_eq_self_iff]
  exact ⟨fun same => congrArg Pipeline.outputRefs same, fun same => by rw [same]⟩

/-- A second pass changes nothing exactly if no pipeline of the normal form repeats an output. -/
theorem normalize_normalize_iff_nodup (spec : Spec) :
    spec.normalize.normalize = spec.normalize ↔
      ∀ pipeline ∈ spec.normalize.pipelines, pipeline.outputRefs.Nodup := by
  have secondPass : spec.normalize.normalize = spec.normalize.tidied :=
    spec.normalize.tidied.expandStacks_eq_self spec.not_hasStack_normalize
  rw [secondPass]
  refine ⟨?_, ?_⟩
  · intro same pipeline member
    obtain ⟨position, bound, rfl⟩ := List.getElem_of_mem member
    refine (spec.normalPipeline_eq_self_iff position _
      (spec.isNearlyNormal_of_mem_normalize _ member)).mp ?_
    have samePipelines : spec.normalize.pipelines.mapIdx spec.normalPipeline =
        spec.normalize.pipelines := congrArg Spec.pipelines same
    have inBoth : position <
        (spec.normalize.pipelines.mapIdx spec.normalPipeline).length := by
      rw [List.length_mapIdx]
      exact bound
    exact (List.getElem_mapIdx (h := inBoth)).symm.trans (List.getElem_of_eq samePipelines inBoth)
  · intro distinct
    have samePipelines : spec.normalize.pipelines.mapIdx spec.normalPipeline =
        spec.normalize.pipelines := by
      refine List.ext_getElem List.length_mapIdx fun position _ bound => ?_
      rw [List.getElem_mapIdx]
      have member := List.getElem_mem bound
      exact (spec.normalPipeline_eq_self_iff position _
        (spec.isNearlyNormal_of_mem_normalize _ member)).mpr (distinct _ member)
    show { spec.normalize with
      pipelines := spec.normalize.pipelines.mapIdx spec.normalPipeline } = spec.normalize
    rw [samePipelines]

/-! ### Which specs a second pass changes -/

/-- Whether a pipeline leads to a stack and, by its name, to a tenant that the stack stands for. -/
def RepeatsTenantIn (spec : Spec) (pipeline : Pipeline) : Prop :=
  ∃ stack ∈ pipeline.outputRefs, spec.HasStack stack ∧
    ∃ kind, (∃ reference ∈ pipeline.inputRefs, spec.refKind? reference = some kind) ∧
      tenantName stack kind ∈ pipeline.outputRefs ∧ ¬spec.HasStack (tenantName stack kind)

/-- Whether some pipeline leads to a stack and to a tenant that the stack stands for. -/
def RepeatsTenant (spec : Spec) : Prop :=
  ∃ pipeline ∈ spec.pipelines, spec.RepeatsTenantIn pipeline

/-- A pipeline leads to a stack and to a tenant of it exactly if its tidied form does. -/
theorem repeatsTenantIn_tidied {spec : Spec} {original pipeline : Pipeline}
    (tidied : spec.IsTidied original pipeline) :
    spec.tidied.RepeatsTenantIn pipeline ↔ spec.RepeatsTenantIn original := by
  refine ⟨?_, ?_⟩
  · rintro ⟨stack, leads, isStack, kind, ⟨reference, reads, resolved⟩, tenant, plain⟩
    obtain ⟨other, given, rfl⟩ := (tidied.mem_inputRefs reference).mp reads
    rw [refKind?_tidied, refKind?_normalRef] at resolved
    exact ⟨stack, (tidied.mem_outputRefs stack).mp leads, isStack, kind, ⟨other, given, resolved⟩,
      (tidied.mem_outputRefs _).mp tenant, plain⟩
  · rintro ⟨stack, leads, isStack, kind, ⟨reference, reads, resolved⟩, tenant, plain⟩
    refine ⟨stack, (tidied.mem_outputRefs stack).mpr leads, isStack, kind,
      ⟨spec.normalRef reference, (tidied.mem_inputRefs _).mpr ⟨reference, reads, rfl⟩, ?_⟩,
      (tidied.mem_outputRefs _).mpr tenant, plain⟩
    rw [refKind?_tidied, refKind?_normalRef, resolved]

/-- Two references are replaced by the same one only if one is the tenant that the other becomes. -/
theorem nodup_map_tenantRef_iff (spec : Spec) (kind : LogKind) (refs : List String)
    (distinct : refs.Nodup) :
    (refs.map (tenantRef spec.stackNames (some kind))).Nodup ↔
      ¬∃ stack ∈ refs, spec.HasStack stack ∧ tenantName stack kind ∈ refs ∧
        ¬spec.HasStack (tenantName stack kind) := by
  rw [List.nodup_map_iff_inj_on distinct]
  refine ⟨?_, ?_⟩
  · rintro injective ⟨stack, member, isStack, tenant, plain⟩
    have same : stack = tenantName stack kind := by
      refine injective stack member _ tenant ?_
      rw [tenantRef_some, tenantRef_some, if_pos isStack, if_neg plain]
    exact plain (same ▸ isStack)
  · intro norepetition first firstMember second secondMember same
    rw [tenantRef_some, tenantRef_some] at same
    by_cases firstStack : spec.HasStack first
    · by_cases secondStack : spec.HasStack second
      · rw [if_pos firstStack, if_pos secondStack] at same
        exact (tenantName_inj.mp same).1
      · rw [if_pos firstStack, if_neg secondStack] at same
        subst same
        exact absurd ⟨first, firstMember, firstStack, secondMember, secondStack⟩ norepetition
    · by_cases secondStack : spec.HasStack second
      · rw [if_neg firstStack, if_pos secondStack] at same
        subst same
        exact absurd ⟨second, secondMember, secondStack, firstMember, firstStack⟩ norepetition
      · rw [if_neg firstStack, if_neg secondStack] at same
        exact same

/--
The output references of the parts of a pipeline have no repetitions, unless the pipeline leads to a
stack and to a tenant of it.
-/
theorem nodup_outputRefs_parts_iff (spec : Spec) (pipeline : Pipeline)
    (distinct : pipeline.outputRefs.Nodup) :
    (∀ part ∈ spec.splitPipeline spec.stackNames pipeline, part.outputRefs.Nodup) ↔
      ¬spec.RepeatsTenantIn pipeline := by
  by_cases leadsToStack : spec.LeadsToStack pipeline
  · refine ⟨?_, ?_⟩
    · rintro nodup ⟨stack, member, isStack, kind, ⟨reference, reads, resolved⟩, tenant, plain⟩
      obtain ⟨group, inGroups, ofKind, _⟩ :=
        spec.exists_refGroup_of_kind pipeline.inputRefs reference reads kind resolved
      obtain ⟨part, isPart, fromGroup⟩ :=
        spec.exists_part_of_mem_refGroups pipeline group leadsToStack inGroups
      have partDistinct := nodup part isPart
      rw [fromGroup.outputRefs, ofKind, nodup_map_tenantRef_iff _ _ _ distinct] at partDistinct
      exact partDistinct ⟨stack, member, isStack, tenant, plain⟩
    · intro norepetition part isPart
      obtain ⟨group, inGroups, fromGroup⟩ :=
        spec.exists_group_of_mem_splitPipeline pipeline part leadsToStack isPart
      rw [fromGroup.outputRefs]
      rcases spec.mem_refGroups _ group inGroups with ⟨kind, ofKind, reads, _⟩ | ⟨noKind, _⟩
      · rw [ofKind, nodup_map_tenantRef_iff _ _ _ distinct]
        rintro ⟨stack, member, isStack, tenant, plain⟩
        exact norepetition ⟨stack, member, isStack, kind, reads, tenant, plain⟩
      · have unchanged : tenantRef spec.stackNames none = id := rfl
        rw [noKind, unchanged, List.map_id]
        exact distinct
  · rw [spec.splitPipeline_of_not_leadsToStack pipeline leadsToStack]
    refine ⟨?_, ?_⟩
    · rintro _ ⟨stack, member, isStack, _⟩
      exact leadsToStack ⟨stack, member, isStack⟩
    · intro _ part isPart
      rw [List.mem_singleton.mp isPart]
      exact distinct

/-- A second pass changes exactly the specs with a pipeline to a stack and to a tenant of it. -/
theorem normalize_normalize_iff (spec : Spec) :
    spec.normalize.normalize = spec.normalize ↔ ¬spec.RepeatsTenant := by
  rw [normalize_normalize_iff_nodup]
  refine ⟨?_, ?_⟩
  · rintro nodup ⟨original, declared, repeated⟩
    obtain ⟨pipeline, inTidied, tidied⟩ := spec.exists_tidied original declared
    have distinct : pipeline.outputRefs.Nodup := tidied.outputRefs ▸ nodup_eraseDups _
    have partsDistinct : ∀ part ∈ spec.tidied.splitPipeline spec.tidied.stackNames pipeline,
        part.outputRefs.Nodup := fun part isPart =>
      nodup part ((spec.tidied.mem_pipelines_expandStacks part).mpr ⟨pipeline, inTidied, isPart⟩)
    exact (spec.tidied.nodup_outputRefs_parts_iff pipeline distinct).mp partsDistinct
      ((repeatsTenantIn_tidied tidied).mpr repeated)
  · intro norepetition part member
    obtain ⟨pipeline, inTidied, isPart⟩ := (spec.tidied.mem_pipelines_expandStacks part).mp member
    obtain ⟨original, declared, tidied⟩ := spec.exists_original pipeline inTidied
    have distinct : pipeline.outputRefs.Nodup := tidied.outputRefs ▸ nodup_eraseDups _
    refine (spec.tidied.nodup_outputRefs_parts_iff pipeline distinct).mpr ?_ part isPart
    intro repeated
    exact norepetition ⟨original, declared, (repeatsTenantIn_tidied tidied).mp repeated⟩

/--
Whatever is compiled from a spec is compiled from its normal form, if a second pass changes nothing.
-/
theorem compile_normalize (spec : Spec) (same : spec.normalize.normalize = spec.normalize)
    (secrets : SecretStore) (options : Options) (dialect : Dialect) :
    spec.normalize.compile secrets options dialect = spec.compile secrets options dialect := by
  unfold compile problems
  rw [same]

/--
Normalizing twice is normalizing once, except for the specs with a pipeline that leads to a stack
and, by its name, to a tenant of that stack for the kind of one of its inputs. For all other specs
the same text is generated from a spec and from its normal form.
-/
theorem normalize_idempotent_iff (spec : Spec) :
    (spec.normalize.normalize = spec.normalize ↔ ¬spec.RepeatsTenant) ∧
      (¬spec.RepeatsTenant → ∀ secrets options dialect,
        spec.normalize.compile secrets options dialect =
          spec.compile secrets options dialect) := by
  refine ⟨spec.normalize_normalize_iff, ?_⟩
  intro norepetition
  exact spec.compile_normalize (spec.normalize_normalize_iff.mpr norepetition)

/-- A spec whose one pipeline leads to the outputs of some names, the first of which is a stack. -/
def toStackAnd (others : List String) : Spec where
  inputs := []
  outputs :=
    [{ Output.bare "ls" .lokistack with
        lokistack := some { (default : LokiStackSection) with target := ⟨"lk", "ns"⟩ } }]
  pipelines := [⟨some "p", ["application"], "ls" :: others, ∅, none⟩]
  tuning := none

/-- The same text is generated from a spec with one pipeline to a stack and from its normal form. -/
theorem normalize_idempotent_toStack :
    ¬(toStackAnd []).RepeatsTenant ∧
      (toStackAnd []).normalize.compile .empty .standard .vector =
        (toStackAnd []).compile .empty .standard .vector := by
  have norepetition : ¬(toStackAnd []).RepeatsTenant :=
    (normalize_idempotent_iff (toStackAnd [])).1.mp (by decide)
  exact ⟨norepetition, (normalize_idempotent_iff (toStackAnd [])).2 norepetition _ _ _⟩

/-- A second pass erases the repetition in a pipeline that leads to a stack and to its tenant. -/
theorem normalize_toStackAndTenant_ne :
    (toStackAnd ["ls-application"]).normalize.normalize ≠
      (toStackAnd ["ls-application"]).normalize := by
  decide

end Spec

end LogForwarder
