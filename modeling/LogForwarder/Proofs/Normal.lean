/-
This file proves what the normal form of a spec is made of. Normalization has two halves. The first
one tidies each pipeline on its own: it gives the pipeline a name and brings its references into
normal form. The second one expands lokistacks, and looks at all pipelines and outputs of the tidied
spec together.

Expansion is written as a computation on lists: names without repetitions, groups of references by
kind, and the parts of a pipeline. What other files need of it is said here once and without lists:
which names belong to a stack, which references a part of a pipeline has, and that every reference
that resolves to a kind ends up in the part of that kind. Inputs and outputs are the same in a spec
and its tidied form, so that references resolve alike in both, and a name is that of a stack in one
if it is in the other. What tidying does to a pipeline outlasts the expansion, but for repetitions
that this may bring back among output references.
-/

import LogForwarder.Proofs.Kind
import LogForwarder.Proofs.Repetition

namespace LogForwarder

/-! ### Stacks -/

/-- Whether an output is a lokistack that says where its stack runs. -/
def Output.IsStack (output : Output) : Prop :=
  output.type = .lokistack ∧
    ∃ stack, output.lokistack = some stack ∧
      stack.target.name ≠ "" ∧ stack.target.namespaceName ≠ ""

/-- A text that is not empty, as a condition and as a proposition. -/
theorem not_isEmpty_iff (text : String) : (!text.isEmpty) = true ↔ text ≠ "" := by
  rw [Bool.not_eq_true', ← Bool.not_eq_true, String.isEmpty_iff]

namespace Output

/-- The settings of a stack are those of a lokistack whose target has a name and a namespace. -/
theorem expandable?_eq_some_iff (output : Output) (stack : LokiStackSection) :
    output.expandable? = some stack ↔
      output.type = .lokistack ∧ output.lokistack = some stack ∧
        stack.target.name ≠ "" ∧ stack.target.namespaceName ≠ "" := by
  unfold expandable?
  by_cases isLokistack : output.type = .lokistack
  · rw [if_pos isLokistack, Option.filter_eq_some_iff, Bool.and_eq_true, not_isEmpty_iff,
      not_isEmpty_iff]
    exact ⟨fun ⟨section', named⟩ => ⟨isLokistack, section', named⟩,
      fun ⟨_, section', named⟩ => ⟨section', named⟩⟩
  · rw [if_neg isLokistack]
    exact ⟨fun absurdity => absurd absurdity.symm (Option.some_ne_none stack),
      fun ⟨lokistack, _⟩ => absurd lokistack isLokistack⟩

theorem isSome_expandable?_iff (output : Output) :
    output.expandable?.isSome = true ↔ output.IsStack := by
  rw [Option.isSome_iff_exists]
  refine ⟨?_, ?_⟩
  · rintro ⟨stack, expands⟩
    obtain ⟨lokistack, section', named⟩ := (output.expandable?_eq_some_iff stack).mp expands
    exact ⟨lokistack, stack, section', named⟩
  · rintro ⟨lokistack, stack, section', named⟩
    exact ⟨stack, (output.expandable?_eq_some_iff stack).mpr ⟨lokistack, section', named⟩⟩

instance (output : Output) : Decidable output.IsStack :=
  decidable_of_iff _ output.isSome_expandable?_iff

/-- The output of a tenant is one of Loki or one of OpenTelemetry records. -/
theorem type_tenantOutput (output : Output) (stack : LokiStackSection) (kind : LogKind) :
    (output.tenantOutput stack kind).type = .loki ∨
      (output.tenantOutput stack kind).type = .otlp := by
  unfold tenantOutput
  cases stack.dataModel with
  | viaq => exact .inl rfl
  | otel => exact .inr rfl

theorem name_tenantOutput (output : Output) (stack : LokiStackSection) (kind : LogKind) :
    (output.tenantOutput stack kind).name = tenantName output.name kind := by
  unfold tenantOutput
  cases stack.dataModel <;> rfl

theorem not_isStack_tenantOutput (output : Output) (stack : LokiStackSection) (kind : LogKind) :
    ¬(output.tenantOutput stack kind).IsStack := by
  rintro ⟨lokistack, _⟩
  rcases output.type_tenantOutput stack kind with loki | otlp
  · rw [loki] at lokistack
    cases lokistack
  · rw [otlp] at lokistack
    cases lokistack

end Output

namespace Spec

/-- Whether a name is that of a stack. -/
def HasStack (spec : Spec) (name : String) : Prop :=
  ∃ output ∈ spec.outputs, output.name = name ∧ output.IsStack

/-- The names of stacks are those that are replaced in references. -/
theorem mem_stackNames (spec : Spec) (name : String) :
    name ∈ spec.stackNames ↔ spec.HasStack name := by
  unfold stackNames
  rw [List.mem_eraseDups, List.mem_map]
  refine ⟨?_, ?_⟩
  · rintro ⟨output, member, named⟩
    obtain ⟨declared, expands⟩ := List.mem_filter.mp member
    exact ⟨output, declared, named, output.isSome_expandable?_iff.mp expands⟩
  · rintro ⟨output, declared, named, isStack⟩
    have expands := output.isSome_expandable?_iff.mpr isStack
    exact ⟨output, List.mem_filter.mpr ⟨declared, expands⟩, named⟩

instance (spec : Spec) (name : String) : Decidable (spec.HasStack name) :=
  decidable_of_iff _ (spec.mem_stackNames name)

/-- The reference to an output in the part of a pipeline that belongs to a kind. -/
theorem tenantRef_some (spec : Spec) (kind : LogKind) (reference : String) :
    tenantRef spec.stackNames (some kind) reference =
      if spec.HasStack reference then tenantName reference kind else reference := by
  unfold tenantRef
  simp only [mem_stackNames]
  rfl

/-- Whether pipelines send records of a kind to the output of a name. -/
def Sends (spec : Spec) (kind : LogKind) (output : String) : Prop :=
  ∃ pipeline ∈ spec.pipelines, output ∈ pipeline.outputRefs ∧
    ∃ reference ∈ pipeline.inputRefs, spec.refKind? reference = some kind

/-- The kinds for which a stack has tenants are those that pipelines send to it. -/
theorem mem_kindsTo (spec : Spec) (kind : LogKind) (output : String) :
    kind ∈ spec.kindsTo output ↔ spec.Sends kind output := by
  unfold kindsTo Sends
  simp only [List.mem_filter, LogKind.mem_all, true_and, List.any_eq_true, Bool.and_eq_true,
    decide_eq_true_eq]

instance (spec : Spec) (kind : LogKind) (output : String) : Decidable (spec.Sends kind output) :=
  decidable_of_iff _ (spec.mem_kindsTo kind output)

/-! ### Groups of references -/

/-- The references among some that resolve to a kind, or to none. -/
def refsOfKind (spec : Spec) (refs : List String) (kind? : Option LogKind) : List String :=
  refs.filter (spec.refKind? · = kind?)

theorem mem_refsOfKind (spec : Spec) (refs : List String) (kind? : Option LogKind)
    (reference : String) :
    reference ∈ spec.refsOfKind refs kind? ↔
      reference ∈ refs ∧ spec.refKind? reference = kind? := by
  unfold refsOfKind
  rw [List.mem_filter, decide_eq_true_eq]

/-- The groups of the kinds that some references resolve to. -/
def resolvedGroups (spec : Spec) (refs : List String) : List RefGroup :=
  (LogKind.all.map fun kind => RefGroup.mk (some kind) (spec.refsOfKind refs (some kind))).filter
    fun group => !group.refs.isEmpty

theorem mem_resolvedGroups (spec : Spec) (refs : List String) (group : RefGroup) :
    group ∈ spec.resolvedGroups refs ↔
      ∃ kind, group = ⟨some kind, spec.refsOfKind refs (some kind)⟩ ∧
        ∃ reference ∈ refs, spec.refKind? reference = some kind := by
  unfold resolvedGroups
  rw [List.mem_filter, List.mem_map]
  refine ⟨?_, ?_⟩
  · rintro ⟨⟨kind, _, rfl⟩, nonempty⟩
    obtain ⟨reference, member⟩ := List.isEmpty_eq_false_iff_exists_mem.mp
      (Bool.not_eq_true' _ |>.mp nonempty)
    exact ⟨kind, rfl, reference, (spec.mem_refsOfKind refs _ _).mp member⟩
  · rintro ⟨kind, rfl, reference, member, resolved⟩
    refine ⟨⟨kind, LogKind.mem_all kind, rfl⟩, ?_⟩
    rw [Bool.not_eq_true', List.isEmpty_eq_false_iff_exists_mem]
    exact ⟨reference, (spec.mem_refsOfKind refs _ _).mpr ⟨member, resolved⟩⟩

/-- The groups of references, with those that resolve to no kind in the first one. -/
theorem refGroups_eq (spec : Spec) (refs : List String) :
    spec.refGroups refs =
      match spec.resolvedGroups refs with
      | [] => [⟨none, spec.refsOfKind refs none⟩]
      | first :: others => ⟨first.kind?, first.refs ++ spec.refsOfKind refs none⟩ :: others :=
  rfl

/--
What a group of references is: those that resolve to its kind, and in the first group those that
resolve to none. A group without a kind has all references, none of which resolves.
-/
theorem mem_refGroups (spec : Spec) (refs : List String) (group : RefGroup)
    (member : group ∈ spec.refGroups refs) :
    (∃ kind, group.kind? = some kind ∧
      (∃ reference ∈ refs, spec.refKind? reference = some kind) ∧
      (group.refs = spec.refsOfKind refs (some kind) ∨
        group.refs = spec.refsOfKind refs (some kind) ++ spec.refsOfKind refs none)) ∨
    (group.kind? = none ∧ group.refs = spec.refsOfKind refs none ∧
      ∀ reference ∈ refs, spec.refKind? reference = none) := by
  rw [refGroups_eq] at member
  cases groups : spec.resolvedGroups refs with
  | nil =>
    rw [groups] at member
    rw [List.mem_singleton.mp member]
    refine .inr ⟨rfl, rfl, ?_⟩
    intro reference inRefs
    cases resolved : spec.refKind? reference with
    | none => rfl
    | some kind =>
      have present := (spec.mem_resolvedGroups refs _).mpr
        ⟨kind, rfl, reference, inRefs, resolved⟩
      rw [groups] at present
      exact absurd present List.not_mem_nil
  | cons first others =>
    rw [groups] at member
    have isResolved : ∀ other ∈ first :: others, ∃ kind,
        other = ⟨some kind, spec.refsOfKind refs (some kind)⟩ ∧
          ∃ reference ∈ refs, spec.refKind? reference = some kind := by
      intro other present
      exact (spec.mem_resolvedGroups refs other).mp (groups ▸ present)
    rcases List.mem_cons.mp member with rfl | later
    · obtain ⟨kind, rfl, witness⟩ := isResolved first List.mem_cons_self
      exact .inl ⟨kind, rfl, witness, .inr rfl⟩
    · obtain ⟨kind, rfl, witness⟩ := isResolved group (List.mem_cons_of_mem _ later)
      exact .inl ⟨kind, rfl, witness, .inl rfl⟩

theorem mem_of_mem_refGroup (spec : Spec) {refs : List String} {group : RefGroup}
    (member : group ∈ spec.refGroups refs) {reference : String}
    (inGroup : reference ∈ group.refs) : reference ∈ refs := by
  have given : ∀ kind?, reference ∈ spec.refsOfKind refs kind? → reference ∈ refs :=
    fun kind? present => ((spec.mem_refsOfKind refs kind? reference).mp present).1
  rcases spec.mem_refGroups refs group member with
    ⟨kind, _, _, exact | more⟩ | ⟨_, onlyUnresolved, _⟩
  · exact given (some kind) (exact ▸ inGroup)
  · rcases List.mem_append.mp (more ▸ inGroup) with present | present
    · exact given (some kind) present
    · exact given none present
  · exact given none (onlyUnresolved ▸ inGroup)

/-- A reference of a group that resolves has the kind of the group. -/
theorem refKind?_of_mem_refGroup (spec : Spec) {refs : List String} {group : RefGroup}
    (member : group ∈ spec.refGroups refs) {reference : String}
    (inGroup : reference ∈ group.refs) (resolved : (spec.refKind? reference).isSome) :
    spec.refKind? reference = group.kind? := by
  obtain ⟨found, resolves⟩ := Option.isSome_iff_exists.mp resolved
  have unresolved : reference ∉ spec.refsOfKind refs none := by
    intro present
    rw [((spec.mem_refsOfKind refs none reference).mp present).2] at resolves
    exact Option.some_ne_none found resolves.symm
  rcases spec.mem_refGroups refs group member with
    ⟨kind, ofKind, _, exact | more⟩ | ⟨_, onlyUnresolved, _⟩
  · rw [ofKind]
    exact ((spec.mem_refsOfKind refs (some kind) reference).mp (exact ▸ inGroup)).2
  · rw [more] at inGroup
    rw [ofKind]
    rcases List.mem_append.mp inGroup with present | present
    · exact ((spec.mem_refsOfKind refs (some kind) reference).mp present).2
    · exact absurd present unresolved
  · exact absurd (onlyUnresolved ▸ inGroup) unresolved

theorem exists_refGroup (spec : Spec) (refs : List String) (reference : String)
    (member : reference ∈ refs) : ∃ group ∈ spec.refGroups refs, reference ∈ group.refs := by
  have ofItsKind := (spec.mem_refsOfKind refs (spec.refKind? reference) reference).mpr
    ⟨member, rfl⟩
  rw [refGroups_eq]
  cases groups : spec.resolvedGroups refs with
  | nil =>
    cases resolved : spec.refKind? reference with
    | none =>
      rw [resolved] at ofItsKind
      exact ⟨_, List.mem_singleton_self _, ofItsKind⟩
    | some kind =>
      have present := (spec.mem_resolvedGroups refs _).mpr ⟨kind, rfl, reference, member, resolved⟩
      rw [groups] at present
      exact absurd present List.not_mem_nil
  | cons first others =>
    cases resolved : spec.refKind? reference with
    | none =>
      rw [resolved] at ofItsKind
      exact ⟨_, List.mem_cons_self, List.mem_append_right _ ofItsKind⟩
    | some kind =>
      rw [resolved] at ofItsKind
      have present := (spec.mem_resolvedGroups refs _).mpr ⟨kind, rfl, reference, member, resolved⟩
      rw [groups] at present
      rcases List.mem_cons.mp present with rfl | later
      · exact ⟨_, List.mem_cons_self, List.mem_append_left _ ofItsKind⟩
      · exact ⟨_, List.mem_cons_of_mem _ later, ofItsKind⟩

/-- A reference that resolves to a kind is in the group of that kind. -/
theorem exists_refGroup_of_kind (spec : Spec) (refs : List String) (reference : String)
    (member : reference ∈ refs) (kind : LogKind)
    (resolved : spec.refKind? reference = some kind) :
    ∃ group ∈ spec.refGroups refs, group.kind? = some kind ∧ reference ∈ group.refs := by
  obtain ⟨group, inGroups, inGroup⟩ := spec.exists_refGroup refs reference member
  have ofGroup := spec.refKind?_of_mem_refGroup inGroups inGroup (by rw [resolved]; rfl)
  exact ⟨group, inGroups, ofGroup.symm.trans resolved, inGroup⟩

/-! ### Parts of pipelines -/

/-- Whether a pipeline leads to a stack. -/
def LeadsToStack (spec : Spec) (pipeline : Pipeline) : Prop :=
  ∃ reference ∈ pipeline.outputRefs, spec.HasStack reference

/-- What a part of a pipeline takes over from it and from the group of references it is for. -/
structure IsPart (spec : Spec) (pipeline : Pipeline) (group : RefGroup) (part : Pipeline) :
    Prop where
  inputRefs : part.inputRefs = group.refs
  outputRefs : part.outputRefs = pipeline.outputRefs.map (tenantRef spec.stackNames group.kind?)
  labels : part.labels = pipeline.labels
  parse : part.parse = pipeline.parse
  named : pipeline.name ≠ "" → part.name ≠ ""

/-- The part that is split off for a group is a part for that group. -/
theorem isPart_splitPart (spec : Spec) (pipeline : Pipeline) (isFirst : Bool) (group : RefGroup) :
    spec.IsPart pipeline group (splitPart spec.stackNames pipeline isFirst group) where
  inputRefs := rfl
  outputRefs := rfl
  labels := rfl
  parse := rfl
  named := by
    intro named
    cases isFirst with
    | true => exact named
    | false =>
      cases kind : group.kind? with
      | none =>
        unfold splitPart Pipeline.name
        rw [kind]
        exact named
      | some kind' =>
        unfold splitPart Pipeline.name
        rw [kind]
        show tenantName pipeline.name kind' ≠ ""
        intro empty
        have characters := congrArg String.toList empty
        rw [toList_tenantName] at characters
        exact List.append_ne_nil_of_right_ne_nil _ (List.cons_ne_nil _ _) characters

theorem splitPipeline_of_not_leadsToStack (spec : Spec) (pipeline : Pipeline)
    (plain : ¬spec.LeadsToStack pipeline) :
    spec.splitPipeline spec.stackNames pipeline = [pipeline] := by
  unfold splitPipeline
  refine if_neg ?_
  rw [List.any_eq_true]
  rintro ⟨reference, member, isStack⟩
  exact plain ⟨reference, member, (spec.mem_stackNames reference).mp (of_decide_eq_true isStack)⟩

/-- A pipeline that leads to a stack is split into parts for the groups of its references. -/
theorem splitPipeline_of_leadsToStack (spec : Spec) (pipeline : Pipeline)
    (leads : spec.LeadsToStack pipeline) :
    spec.splitPipeline spec.stackNames pipeline =
      match spec.refGroups pipeline.inputRefs with
      | [] => []
      | first :: others =>
        splitPart spec.stackNames pipeline true first ::
          others.map (splitPart spec.stackNames pipeline false) := by
  unfold splitPipeline
  refine if_pos ?_
  obtain ⟨reference, member, isStack⟩ := leads
  rw [List.any_eq_true]
  exact ⟨reference, member, decide_eq_true ((spec.mem_stackNames reference).mpr isStack)⟩

/-- What a pipeline that leads to a stack is split into are parts for groups of its references. -/
theorem exists_group_of_mem_splitPipeline (spec : Spec) (pipeline part : Pipeline)
    (leads : spec.LeadsToStack pipeline)
    (member : part ∈ spec.splitPipeline spec.stackNames pipeline) :
    ∃ group ∈ spec.refGroups pipeline.inputRefs, spec.IsPart pipeline group part := by
  rw [spec.splitPipeline_of_leadsToStack pipeline leads] at member
  cases groups : spec.refGroups pipeline.inputRefs with
  | nil =>
    rw [groups] at member
    exact absurd member List.not_mem_nil
  | cons first others =>
    rw [groups] at member
    rcases List.mem_cons.mp member with rfl | later
    · exact ⟨first, List.mem_cons_self, spec.isPart_splitPart pipeline true first⟩
    · obtain ⟨group, present, rfl⟩ := List.mem_map.mp later
      exact ⟨group, List.mem_cons_of_mem _ present, spec.isPart_splitPart pipeline false group⟩

/-- Every group of references of a pipeline that leads to a stack has its part. -/
theorem exists_part_of_mem_refGroups (spec : Spec) (pipeline : Pipeline) (group : RefGroup)
    (leads : spec.LeadsToStack pipeline) (member : group ∈ spec.refGroups pipeline.inputRefs) :
    ∃ part ∈ spec.splitPipeline spec.stackNames pipeline, spec.IsPart pipeline group part := by
  rw [spec.splitPipeline_of_leadsToStack pipeline leads]
  cases groups : spec.refGroups pipeline.inputRefs with
  | nil =>
    rw [groups] at member
    exact absurd member List.not_mem_nil
  | cons first others =>
    rw [groups] at member
    rcases List.mem_cons.mp member with rfl | later
    · exact ⟨_, List.mem_cons_self, spec.isPart_splitPart pipeline true group⟩
    · exact ⟨_, List.mem_cons_of_mem _ (List.mem_map_of_mem later),
        spec.isPart_splitPart pipeline false group⟩

/-! ### Outputs after the expansion -/

/-- The first of the stacks of a name, whose settings its tenants take over. -/
def firstStack? (spec : Spec) (name : String) : Option Output :=
  spec.outputs.find? fun output => output.name = name ∧ output.IsStack

/-- A name of a stack has a first stack, and settings of it. -/
theorem exists_firstStack? (spec : Spec) (name : String) (isStack : spec.HasStack name) :
    ∃ output stack, spec.firstStack? name = some output ∧ output.name = name ∧
      output.expandable? = some stack := by
  obtain ⟨declared, member, named, expands⟩ := isStack
  have present : (spec.firstStack? name).isSome := by
    unfold firstStack?
    rw [List.find?_isSome]
    exact ⟨declared, member, decide_eq_true ⟨named, expands⟩⟩
  obtain ⟨output, found⟩ := Option.isSome_iff_exists.mp present
  have satisfied := List.find?_some (p := fun output : Output =>
    decide (output.name = name ∧ output.IsStack)) found
  obtain ⟨named', expands'⟩ := of_decide_eq_true satisfied
  obtain ⟨stack, settings⟩ :=
    Option.isSome_iff_exists.mp (output.isSome_expandable?_iff.mpr expands')
  exact ⟨output, stack, found, named', settings⟩

/-- The search for the settings of a stack finds those of the first stack of its name. -/
theorem findSome?_expandable? (outputs : List Output) (name : String) (output : Output)
    (stack : LokiStackSection)
    (found : outputs.find? (fun output => output.name = name ∧ output.IsStack) = some output)
    (settings : output.expandable? = some stack) :
    outputs.findSome? (fun output =>
      if output.name = name then output.expandable?.map (output, ·) else none) =
        some (output, stack) := by
  induction outputs with
  | nil => cases found
  | cons head rest inductionHypothesis =>
    rw [List.findSome?_cons]
    rw [List.find?_cons] at found
    by_cases matching : head.name = name ∧ head.IsStack
    · rw [decide_eq_true matching] at found
      obtain rfl := Option.some.inj found
      rw [if_pos matching.1, settings]
      rfl
    · rw [decide_eq_false matching] at found
      have skipped : (if head.name = name then head.expandable?.map (head, ·) else none) =
          (none : Option (Output × LokiStackSection)) := by
        by_cases named : head.name = name
        · have closed : head.expandable? = none := by
            rw [← Option.not_isSome_iff_eq_none, head.isSome_expandable?_iff]
            exact fun expands => matching ⟨named, expands⟩
          rw [if_pos named, closed]
          rfl
        · rw [if_neg named]
      rw [skipped]
      exact inductionHypothesis found

/-- The tenants of a stack are those of the first stack of its name. -/
theorem tenantOutputs_eq (spec : Spec) (name : String) (output : Output)
    (stack : LokiStackSection) (found : spec.firstStack? name = some output)
    (settings : output.expandable? = some stack) :
    spec.tenantOutputs name = (spec.kindsTo name).map (output.tenantOutput stack) := by
  unfold tenantOutputs
  rw [findSome?_expandable? spec.outputs name output stack found settings]

/-- The outputs after the expansion: those that are no stacks, and the tenants. -/
theorem mem_outputs_expandStacks (spec : Spec) (output : Output) :
    output ∈ spec.expandStacks.outputs ↔
      (output ∈ spec.outputs ∧ ¬output.IsStack) ∨
        ∃ stack settings kind, spec.firstStack? stack.name = some stack ∧
          stack.expandable? = some settings ∧ spec.Sends kind stack.name ∧
            output = stack.tenantOutput settings kind := by
  show output ∈ spec.outputs.filter (·.expandable?.isNone) ++
    spec.stackNames.flatMap spec.tenantOutputs ↔ _
  rw [List.mem_append, List.mem_filter, Option.isNone_iff_eq_none,
    ← Option.not_isSome_iff_eq_none, output.isSome_expandable?_iff, List.mem_flatMap]
  refine or_congr Iff.rfl ⟨?_, ?_⟩
  · rintro ⟨name, isName, tenant⟩
    obtain ⟨stack, settings, found, rfl, expands⟩ :=
      spec.exists_firstStack? name ((spec.mem_stackNames name).mp isName)
    rw [spec.tenantOutputs_eq stack.name stack settings found expands] at tenant
    obtain ⟨kind, sent, rfl⟩ := List.mem_map.mp tenant
    exact ⟨stack, settings, kind, found, expands, (spec.mem_kindsTo kind _).mp sent, rfl⟩
  · rintro ⟨stack, settings, kind, found, expands, sent, rfl⟩
    have declared := List.mem_of_find?_eq_some found
    have isStack := stack.isSome_expandable?_iff.mp (Option.isSome_iff_exists.mpr ⟨_, expands⟩)
    refine ⟨stack.name, (spec.mem_stackNames _).mpr ⟨stack, declared, rfl, isStack⟩, ?_⟩
    rw [spec.tenantOutputs_eq stack.name stack settings found expands]
    exact List.mem_map_of_mem ((spec.mem_kindsTo kind _).mpr sent)

/-- The pipelines after the expansion are the parts of those before. -/
theorem mem_pipelines_expandStacks (spec : Spec) (part : Pipeline) :
    part ∈ spec.expandStacks.pipelines ↔
      ∃ pipeline ∈ spec.pipelines, part ∈ spec.splitPipeline spec.stackNames pipeline :=
  List.mem_flatMap

end Spec

/-! ### Names of pipelines -/

/-- A pipeline that is given a name where it has none has one. -/
theorem Pipeline.name_named_ne (pipeline : Pipeline) (position : Nat) :
    (pipeline.named position).name ≠ "" := by
  unfold named
  split
  · intro empty
    have characters := congrArg String.toList empty
    change ("pipeline_" ++ toString position).toList = [] at characters
    rw [String.toList_append] at characters
    exact List.append_ne_nil_of_left_ne_nil (by decide) _ characters
  · rename_i nonempty
    exact fun empty => nonempty (String.isEmpty_iff.mpr empty)

theorem Pipeline.named_eq_self (pipeline : Pipeline) (position : Nat) (named : pipeline.name ≠ "") :
    pipeline.named position = pipeline := by
  unfold Pipeline.named
  exact if_neg fun empty => named (String.isEmpty_iff.mp empty)

namespace Spec

/-- The spec whose pipelines have names and references in normal form. -/
def tidied (spec : Spec) : Spec :=
  { spec with pipelines := spec.pipelines.mapIdx spec.normalPipeline }

theorem normalize_eq (spec : Spec) : spec.normalize = spec.tidied.expandStacks := rfl

@[simp]
theorem refKind?_tidied (spec : Spec) : spec.tidied.refKind? = spec.refKind? := rfl

@[simp]
theorem hasStack_tidied (spec : Spec) : spec.tidied.HasStack = spec.HasStack := rfl

@[simp]
theorem refKind?_normalize (spec : Spec) : spec.normalize.refKind? = spec.refKind? := rfl

@[simp]
theorem normalRef_normalize (spec : Spec) : spec.normalize.normalRef = spec.normalRef := rfl

/-! ### Tidied pipelines -/

/-- What a pipeline takes over from the one that it is the tidied form of. -/
structure IsTidied (spec : Spec) (original pipeline : Pipeline) : Prop where
  inputRefs : pipeline.inputRefs = (original.inputRefs.map spec.normalRef).eraseDups
  outputRefs : pipeline.outputRefs = original.outputRefs.eraseDups
  labels : pipeline.labels = original.labels
  parse : pipeline.parse = original.parse
  named : pipeline.name ≠ ""

theorem isTidied_normalPipeline (spec : Spec) (position : Nat) (original : Pipeline) :
    spec.IsTidied original (spec.normalPipeline position original) where
  inputRefs := rfl
  outputRefs := rfl
  labels := by
    show (original.named position).labels = original.labels
    unfold Pipeline.named
    split <;> rfl
  parse := by
    show (original.named position).parse = original.parse
    unfold Pipeline.named
    split <;> rfl
  named := original.name_named_ne position

/-- Every pipeline of the tidied spec is the tidied form of one of the spec. -/
theorem exists_original (spec : Spec) (pipeline : Pipeline)
    (member : pipeline ∈ spec.tidied.pipelines) :
    ∃ original ∈ spec.pipelines, spec.IsTidied original pipeline := by
  obtain ⟨position, bound, rfl⟩ := List.mem_mapIdx.mp member
  exact ⟨_, List.getElem_mem bound, spec.isTidied_normalPipeline position _⟩

/-- Every pipeline of the spec has a tidied form. -/
theorem exists_tidied (spec : Spec) (original : Pipeline) (member : original ∈ spec.pipelines) :
    ∃ pipeline ∈ spec.tidied.pipelines, spec.IsTidied original pipeline := by
  obtain ⟨position, bound, rfl⟩ := List.getElem_of_mem member
  exact ⟨_, List.mem_mapIdx.mpr ⟨position, bound, rfl⟩, spec.isTidied_normalPipeline position _⟩

namespace IsTidied

variable {spec : Spec} {original pipeline : Pipeline}

theorem mem_inputRefs (tidied : spec.IsTidied original pipeline) (reference : String) :
    reference ∈ pipeline.inputRefs ↔
      ∃ other ∈ original.inputRefs, spec.normalRef other = reference := by
  rw [tidied.inputRefs, List.mem_eraseDups, List.mem_map]

theorem mem_outputRefs (tidied : spec.IsTidied original pipeline) (reference : String) :
    reference ∈ pipeline.outputRefs ↔ reference ∈ original.outputRefs := by
  rw [tidied.outputRefs, List.mem_eraseDups]

end IsTidied

/-- Tidying changes nothing about which kinds are sent where. -/
theorem sends_tidied (spec : Spec) (kind : LogKind) (output : String) :
    spec.tidied.Sends kind output ↔ spec.Sends kind output := by
  refine ⟨?_, ?_⟩
  · rintro ⟨pipeline, member, leads, reference, reads, resolved⟩
    obtain ⟨original, declared, tidied⟩ := spec.exists_original pipeline member
    obtain ⟨other, given, rfl⟩ := (tidied.mem_inputRefs reference).mp reads
    rw [refKind?_tidied, refKind?_normalRef] at resolved
    exact ⟨original, declared, (tidied.mem_outputRefs output).mp leads, other, given, resolved⟩
  · rintro ⟨original, declared, leads, other, given, resolved⟩
    obtain ⟨pipeline, member, tidied⟩ := spec.exists_tidied original declared
    refine ⟨pipeline, member, (tidied.mem_outputRefs output).mpr leads, spec.normalRef other,
      (tidied.mem_inputRefs _).mpr ⟨other, given, rfl⟩, ?_⟩
    rw [refKind?_tidied, refKind?_normalRef, resolved]

/-! ### Pipelines of a normal form -/

/-- What a pipeline of a normal form is, up to repetitions among its output references. -/
structure IsNearlyNormal (spec : Spec) (pipeline : Pipeline) : Prop where
  named : pipeline.name ≠ ""
  inputRefs : ∀ reference ∈ pipeline.inputRefs, spec.normalRef reference = reference
  distinct : pipeline.inputRefs.Nodup

theorem isNearlyNormal_tidied (spec : Spec) {pipeline : Pipeline} :
    spec.tidied.IsNearlyNormal pipeline ↔ spec.IsNearlyNormal pipeline :=
  ⟨fun nearly => ⟨nearly.named, nearly.inputRefs, nearly.distinct⟩,
    fun nearly => ⟨nearly.named, nearly.inputRefs, nearly.distinct⟩⟩

/-- The references of a group have no repetitions if those that are grouped have none. -/
theorem nodup_refGroup (spec : Spec) {refs : List String} {group : RefGroup}
    (member : group ∈ spec.refGroups refs) (distinct : refs.Nodup) : group.refs.Nodup := by
  have ofKind : ∀ kind?, (spec.refsOfKind refs kind?).Nodup := fun kind? => distinct.filter _
  rcases spec.mem_refGroups refs group member with
    ⟨kind, _, _, exact | more⟩ | ⟨_, onlyUnresolved, _⟩
  · exact exact ▸ ofKind (some kind)
  · rw [more]
    refine List.nodup_append.mpr ⟨ofKind (some kind), ofKind none, ?_⟩
    rintro first inKind _ unresolved rfl
    have resolved := ((spec.mem_refsOfKind refs _ _).mp inKind).2
    rw [((spec.mem_refsOfKind refs _ _).mp unresolved).2] at resolved
    exact Option.some_ne_none kind resolved.symm
  · exact onlyUnresolved ▸ ofKind none

theorem IsTidied.isNearlyNormal {spec : Spec} {original pipeline : Pipeline}
    (tidied : spec.IsTidied original pipeline) : spec.IsNearlyNormal pipeline where
  named := tidied.named
  inputRefs := by
    intro reference reads
    obtain ⟨other, _, rfl⟩ := (tidied.mem_inputRefs reference).mp reads
    exact spec.normalRef_normalRef other
  distinct := by
    rw [tidied.inputRefs]
    exact nodup_eraseDups _

/-- A part of a pipeline is as nearly in normal form as the pipeline. -/
theorem IsPart.isNearlyNormal {spec : Spec} {pipeline part : Pipeline} {group : RefGroup}
    (isPart : spec.IsPart pipeline group part)
    (member : group ∈ spec.refGroups pipeline.inputRefs)
    (nearly : spec.IsNearlyNormal pipeline) : spec.IsNearlyNormal part where
  named := isPart.named nearly.named
  inputRefs := by
    intro reference reads
    rw [isPart.inputRefs] at reads
    exact nearly.inputRefs reference (spec.mem_of_mem_refGroup member reads)
  distinct := by
    rw [isPart.inputRefs]
    exact spec.nodup_refGroup member nearly.distinct

/-- Every pipeline of a normal form is nearly in normal form. -/
theorem isNearlyNormal_of_mem_normalize (spec : Spec) (part : Pipeline)
    (member : part ∈ spec.normalize.pipelines) : spec.IsNearlyNormal part := by
  obtain ⟨pipeline, declared, isPart⟩ := (spec.tidied.mem_pipelines_expandStacks part).mp member
  obtain ⟨original, _, tidied⟩ := spec.exists_original pipeline declared
  by_cases leadsToStack : spec.tidied.LeadsToStack pipeline
  · obtain ⟨group, inGroups, isPart⟩ :=
      spec.tidied.exists_group_of_mem_splitPipeline pipeline part leadsToStack isPart
    have nearly := spec.isNearlyNormal_tidied.mpr tidied.isNearlyNormal
    exact spec.isNearlyNormal_tidied.mp (isPart.isNearlyNormal inGroups nearly)
  · rw [spec.tidied.splitPipeline_of_not_leadsToStack pipeline leadsToStack] at isPart
    rw [List.mem_singleton.mp isPart]
    exact tidied.isNearlyNormal

end Spec

end LogForwarder
