/-
This file proves that an output that no pipeline refers to leaves no trace in a configuration, even
if it is a stack. A spec without problems compiles as if all such outputs had been left out. A stack
to which nothing is sent has no tenants, and its name stands in no reference that might be replaced.
Any other output survives expansion, but no pipeline leads to it afterwards either: references turn
into names of tenants and into nothing else, and a plain output that is called like a tenant is a
problem.
-/

import LogForwarder.Proofs.Arena
import LogForwarder.Proofs.Clean
import LogForwarder.Proofs.Repetition

namespace LogForwarder

/-! ### Filtered lists -/

/-- Repetitions may be erased before or after some items are left out. -/
theorem eraseDups_filter {α : Type} [BEq α] [LawfulBEq α] (keep : α → Bool) (items : List α) :
    (items.filter keep).eraseDups = items.eraseDups.filter keep := by
  -- The induction is on the length, since what is left of the tail is a filtered tail.
  induction length : items.length using Nat.strongRecOn generalizing items with
  | ind bound inductionHypothesis =>
    cases items with
    | nil => rfl
    | cons head rest =>
      have shorter : (rest.filter fun item => !item == head).length < bound := by
        rw [← length, List.length_cons]
        exact Nat.lt_succ_of_le (List.length_filter_le _ _)
      have restErased := inductionHypothesis _ shorter _ rfl
      rw [List.eraseDups_cons]
      by_cases kept : keep head = true
      · rw [List.filter_cons_of_pos kept, List.filter_cons_of_pos kept, List.eraseDups_cons,
          List.filter_comm, restErased]
      · have others : (rest.filter fun item => !item == head).filter keep = rest.filter keep := by
          rw [List.filter_filter]
          refine List.filter_congr fun item _ => ?_
          by_cases isHead : item = head
          · simp [isHead, kept]
          · simp [isHead]
        rw [List.filter_cons_of_neg kept, List.filter_cons_of_neg kept, ← restErased, others]

/-- Items that contribute nothing may be left out. -/
theorem flatMap_filter_of_nil {α β : Type} {contribution : α → List β} {keep : α → Bool}
    (silent : ∀ item, keep item = false → contribution item = []) (items : List α) :
    (items.filter keep).flatMap contribution = items.flatMap contribution := by
  induction items with
  | nil => rfl
  | cons head rest ih =>
    rw [List.flatMap_cons, List.filter_cons]
    cases kept : keep head with
    | true => rw [if_pos rfl, List.flatMap_cons, ih]
    | false => rw [if_neg Bool.false_ne_true, silent head kept, List.nil_append, ih]

namespace Spec

/-! ### Outputs that pipelines refer to -/

/-- Whether some pipeline refers to the output of a name. -/
def refersTo (spec : Spec) (name : String) : Bool := name ∈ spec.pipelines.flatMap (·.outputRefs)

theorem refersTo_iff (spec : Spec) (name : String) :
    spec.refersTo name = true ↔ spec.Routes name := by
  unfold refersTo Routes
  rw [decide_eq_true_eq, List.mem_flatMap]

/-- The spec without the outputs that no pipeline refers to. -/
def referenced (spec : Spec) : Spec :=
  { spec with outputs := spec.outputs.filter (spec.refersTo ·.name) }

/-- Tidying a spec removes repetitions from references, but none of them altogether. -/
theorem refersTo_tidied (spec : Spec) : spec.tidied.refersTo = spec.refersTo := by
  funext name
  rw [Bool.eq_iff_iff, refersTo_iff, refersTo_iff]
  refine ⟨?_, ?_⟩
  · rintro ⟨pipeline, member, leads⟩
    obtain ⟨original, declared, tidied⟩ := spec.exists_original pipeline member
    rw [tidied.outputRefs, List.mem_eraseDups] at leads
    exact ⟨original, declared, leads⟩
  · rintro ⟨original, declared, leads⟩
    obtain ⟨pipeline, member, tidied⟩ := spec.exists_tidied original declared
    exact ⟨pipeline, member, by rwa [tidied.outputRefs, List.mem_eraseDups]⟩

theorem referenced_tidied (spec : Spec) : spec.tidied.referenced = spec.referenced.tidied := by
  unfold referenced
  rw [spec.refersTo_tidied]
  rfl

/-! ### Expansion -/

theorem stackNames_referenced (spec : Spec) :
    spec.referenced.stackNames = spec.stackNames.filter spec.refersTo := by
  unfold stackNames
  rw [← eraseDups_filter, List.filter_map]
  show (((spec.outputs.filter _).filter _).map _).eraseDups = _
  rw [List.filter_comm]
  rfl

/-- The tenants of a stack depend on other outputs only if these have its name. -/
theorem tenantOutputs_referenced (spec : Spec) {name : String} (refers : spec.refersTo name) :
    spec.referenced.tenantOutputs name = spec.tenantOutputs name := by
  have stack : ∀ outputs : List Output,
      ((outputs.filter (spec.refersTo ·.name)).findSome? fun output =>
        if output.name = name then output.expandable?.map (output, ·) else none) =
      outputs.findSome? fun output =>
        if output.name = name then output.expandable?.map (output, ·) else none := by
    intro outputs
    induction outputs with
    | nil => rfl
    | cons head rest ih =>
      by_cases named : head.name = name
      · rw [List.filter_cons_of_pos (named ▸ refers), List.findSome?_cons, List.findSome?_cons, ih]
      · rw [List.findSome?_cons, if_neg named, ← ih, List.filter_cons]
        split
        · rw [List.findSome?_cons, if_neg named]
        · rfl
  unfold tenantOutputs
  rw [show spec.referenced.outputs = spec.outputs.filter (spec.refersTo ·.name) from rfl, stack]
  rfl

/-- A stack that no pipeline refers to has no tenants. -/
theorem tenantOutputs_of_not_refersTo (spec : Spec) {name : String}
    (unreferenced : spec.refersTo name = false) : spec.tenantOutputs name = [] := by
  have noKind : spec.kindsTo name = [] := by
    refine List.eq_nil_iff_forall_not_mem.mpr fun kind sent => ?_
    obtain ⟨pipeline, declared, leads, _⟩ := (spec.mem_kindsTo kind name).mp sent
    have refers := (spec.refersTo_iff name).mpr ⟨pipeline, declared, leads⟩
    rw [unreferenced] at refers
    exact Bool.false_ne_true refers
  unfold tenantOutputs
  simp only [noKind, List.map_nil]
  split <;> rfl

/-- A pipeline is split alike for names that are the same among its references. -/
theorem splitPipeline_congr (spec : Spec) {names others : List String} {pipeline : Pipeline}
    (same : ∀ reference ∈ pipeline.outputRefs, reference ∈ names ↔ reference ∈ others) :
    spec.splitPipeline names pipeline = spec.splitPipeline others pipeline := by
  have part (isFirst : Bool) (group : RefGroup) :
      splitPart names pipeline isFirst group = splitPart others pipeline isFirst group := by
    have refs : pipeline.outputRefs.map (tenantRef names group.kind?) =
        pipeline.outputRefs.map (tenantRef others group.kind?) := by
      refine List.map_congr_left fun reference member => ?_
      unfold tenantRef
      simp only [same reference member]
    unfold splitPart
    rw [refs]
  have leads : pipeline.outputRefs.any (· ∈ names) = pipeline.outputRefs.any (· ∈ others) := by
    rw [Bool.eq_iff_iff, List.any_eq_true, List.any_eq_true]
    refine exists_congr fun reference => and_congr_right fun member => ?_
    rw [decide_eq_true_eq, decide_eq_true_eq, same reference member]
  unfold splitPipeline
  simp only [leads, part true, funext (part false)]

/-- Expansion gives the same pipelines and the same tenants without unreferenced outputs. -/
theorem expandStacks_referenced (spec : Spec) :
    spec.referenced.expandStacks =
      { spec.expandStacks with
        outputs := (spec.outputs.filter (·.expandable?.isNone)).filter (spec.refersTo ·.name) ++
          spec.stackNames.flatMap spec.tenantOutputs } := by
  have tenants : spec.referenced.stackNames.flatMap spec.referenced.tenantOutputs =
      spec.stackNames.flatMap spec.tenantOutputs := by
    rw [spec.stackNames_referenced]
    calc (spec.stackNames.filter spec.refersTo).flatMap spec.referenced.tenantOutputs
        = (spec.stackNames.filter spec.refersTo).flatMap spec.tenantOutputs :=
          List.flatMap_congr fun name member =>
            spec.tenantOutputs_referenced (List.mem_filter.mp member).2
      _ = spec.stackNames.flatMap spec.tenantOutputs :=
          flatMap_filter_of_nil (fun _ => spec.tenantOutputs_of_not_refersTo) spec.stackNames
  have pipelines : spec.pipelines.flatMap
      (spec.referenced.splitPipeline spec.referenced.stackNames) =
        spec.pipelines.flatMap (spec.splitPipeline spec.stackNames) := by
    refine List.flatMap_congr fun pipeline declared => spec.splitPipeline_congr ?_
    intro reference leads
    rw [spec.stackNames_referenced, List.mem_filter]
    exact and_iff_left ((spec.refersTo_iff reference).mpr ⟨pipeline, declared, leads⟩)
  unfold expandStacks
  rw [tenants, show spec.referenced.pipelines = spec.pipelines from rfl, pipelines]
  show { spec with outputs := (spec.outputs.filter _).filter _ ++ _, pipelines := _ } = _
  rw [List.filter_comm]

/-! ### Routes -/

/-- Every kind that is sent to a stack has its tenant. -/
theorem exists_tenantOutput (spec : Spec) {name : String} {kind : LogKind}
    (isStack : spec.HasStack name) (sent : spec.Sends kind name) :
    ∃ tenant ∈ spec.stackNames.flatMap spec.tenantOutputs, tenant.name = tenantName name kind := by
  obtain ⟨output, stack, found, rfl, expands⟩ := spec.exists_firstStack? name isStack
  refine ⟨output.tenantOutput stack kind, List.mem_flatMap.mpr ⟨output.name, ?_, ?_⟩,
    output.name_tenantOutput stack kind⟩
  · exact (spec.mem_stackNames _).mpr isStack
  · rw [spec.tenantOutputs_eq output.name output stack found expands]
    exact List.mem_map_of_mem ((spec.mem_kindsTo kind _).mpr sent)

/--
After the expansion, pipelines lead to names that pipelines referred to before, and to those of
tenants.
-/
theorem routes_expandStacks (spec : Spec) {name : String} (routed : spec.expandStacks.Routes name) :
    spec.Routes name ∨
      ∃ tenant ∈ spec.stackNames.flatMap spec.tenantOutputs, tenant.name = name := by
  obtain ⟨part, member, leads⟩ := routed
  obtain ⟨pipeline, declared, isPart⟩ := (spec.mem_pipelines_expandStacks part).mp member
  by_cases leadsToStack : spec.LeadsToStack pipeline
  · obtain ⟨group, inGroups, taken⟩ :=
      spec.exists_group_of_mem_splitPipeline pipeline part leadsToStack isPart
    rw [taken.outputRefs] at leads
    obtain ⟨target, given, rfl⟩ := List.mem_map.mp leads
    cases ofGroup : group.kind? with
    | none => exact .inl ⟨pipeline, declared, given⟩
    | some kind =>
      rw [spec.tenantRef_some]
      by_cases isStack : spec.HasStack target
      · rw [if_pos isStack]
        refine .inr (spec.exists_tenantOutput isStack ⟨pipeline, declared, given, ?_⟩)
        rcases spec.mem_refGroups _ group inGroups with ⟨_, isKind, sent, _⟩ | ⟨noKind, _⟩
        · rw [ofGroup] at isKind
          exact Option.some.inj isKind ▸ sent
        · rw [ofGroup] at noKind
          cases noKind
      · rw [if_neg isStack]
        exact .inl ⟨pipeline, declared, given⟩
  · rw [spec.splitPipeline_of_not_leadsToStack pipeline leadsToStack] at isPart
    exact .inl ⟨pipeline, declared, List.mem_singleton.mp isPart ▸ leads⟩

/-- Where names are distinct, no plain output is routed that no pipeline referred to before. -/
theorem routedOutputs_referenced (spec : Spec)
    (distinct : (spec.expandStacks.outputs.map (·.name)).Nodup) :
    spec.referenced.expandStacks.routedOutputs = spec.expandStacks.routedOutputs := by
  have plain : ((spec.outputs.filter (·.expandable?.isNone)).filter (spec.refersTo ·.name)).filter
      (spec.expandStacks.Routes ·.name) =
        (spec.outputs.filter (·.expandable?.isNone)).filter (spec.expandStacks.Routes ·.name) := by
    rw [List.filter_comm]
    refine List.filter_eq_self.mpr fun output member => ?_
    obtain ⟨isPlain, routed⟩ := List.mem_filter.mp member
    rcases spec.routes_expandStacks (of_decide_eq_true routed) with before | ⟨tenant, isTenant, named⟩
    · exact (spec.refersTo_iff output.name).mpr before
    · -- A plain output and a tenant of one name are reported.
      unfold expandStacks at distinct
      rw [List.map_append] at distinct
      exact absurd named.symm ((List.nodup_append.mp distinct).2.2 _ (List.mem_map_of_mem isPlain) _
        (List.mem_map_of_mem isTenant))
  have fewer : (spec.referenced.expandStacks.outputs.map (·.name)).Sublist
      (spec.expandStacks.outputs.map (·.name)) := by
    rw [spec.expandStacks_referenced]
    exact (List.filter_sublist.append (List.Sublist.refl _)).map _
  rw [routedOutputs_eq _ (distinct.sublist fewer), routedOutputs_eq _ distinct,
    spec.expandStacks_referenced]
  show ((spec.outputs.filter (·.expandable?.isNone)).filter (spec.refersTo ·.name) ++
    spec.stackNames.flatMap spec.tenantOutputs).filter (spec.expandStacks.Routes ·.name) =
      (spec.outputs.filter (·.expandable?.isNone) ++
        spec.stackNames.flatMap spec.tenantOutputs).filter (spec.expandStacks.Routes ·.name)
  rw [List.filter_append, List.filter_append, plain]

/-! ### Texts -/

/-- Elements are built of the outputs that are routed, and of no others. -/
theorem build_of_routedOutputs {spec : Spec} {outputs : List Output}
    (same : { spec with outputs := outputs }.routedOutputs = spec.routedOutputs)
    (secrets : SecretStore) (options : Options) (dialect : Dialect) :
    dialect.build { spec with outputs := outputs } secrets options =
      dialect.build spec secrets options := by
  cases dialect with
  | fluentd =>
    show Fluentd.build _ secrets options = Fluentd.build spec secrets options
    unfold Fluentd.build
    rw [same]
    rfl
  | vector =>
    show Vector.build _ secrets options = Vector.build spec secrets options
    unfold Vector.build
    rw [same]
    rfl

/-- A spec without problems compiles as if outputs that no pipeline refers to were left out. -/
theorem compile_eq_generate_referenced {spec : Spec} {secrets : SecretStore} {options : Options}
    {dialect : Dialect} (clean : spec.problems secrets options dialect = []) :
    spec.compile secrets options dialect =
      dialect.generate spec.referenced.normalize secrets options := by
  have distinct : (spec.tidied.expandStacks.outputs.map (·.name)).Nodup :=
    (spec.isReady_normalize clean).clean.outputsDistinct
  have routed := spec.tidied.routedOutputs_referenced distinct
  rw [spec.tidied.expandStacks_referenced] at routed
  have normal : spec.referenced.normalize = spec.tidied.referenced.expandStacks :=
    congrArg expandStacks spec.referenced_tidied.symm
  rw [normal, spec.tidied.expandStacks_referenced,
    Dialect.generate_congr (build_of_routedOutputs routed secrets options dialect)]
  unfold compile
  rw [clean]
  rfl

/-- Specs that differ in unreferenced outputs alone have the same referenced outputs. -/
theorem referenced_insert {spec : Spec} {before after : List Output}
    (declared : spec.outputs = before ++ after) {extra : Output}
    (unreferenced : ¬spec.Routes extra.name) :
    { spec with outputs := before ++ extra :: after }.referenced = spec.referenced := by
  have left : spec.refersTo extra.name = false := by
    rw [← Bool.not_eq_true, spec.refersTo_iff]
    exact unreferenced
  have same : (before ++ extra :: after).filter (spec.refersTo ·.name) =
      spec.outputs.filter (spec.refersTo ·.name) := by
    rw [declared, List.filter_append, List.filter_append,
      List.filter_cons_of_neg (by rw [left]; exact Bool.false_ne_true)]
  show { spec with outputs := (before ++ extra :: after).filter (spec.refersTo ·.name) } = _
  rw [same]
  rfl

/--
An output that no pipeline refers to leaves no trace: whatever it is and wherever it is inserted,
the result of compilation is the same, if no problems are reported with it or without it.
-/
theorem compile_insert {spec : Spec} (before after : List Output)
    (declared : spec.outputs = before ++ after) {extra : Output}
    (unreferenced : ∀ pipeline ∈ spec.pipelines, extra.name ∉ pipeline.outputRefs)
    {secrets : SecretStore} {options : Options} {dialect : Dialect}
    (clean : spec.problems secrets options dialect = [])
    (longerClean :
      { spec with outputs := before ++ extra :: after }.problems secrets options dialect = []) :
    { spec with outputs := before ++ extra :: after }.compile secrets options dialect =
      spec.compile secrets options dialect := by
  have notRouted : ¬spec.Routes extra.name :=
    fun ⟨pipeline, member, leads⟩ => unreferenced pipeline member leads
  rw [compile_eq_generate_referenced clean, compile_eq_generate_referenced longerClean,
    referenced_insert declared notRouted]

/-- Records of applications on their way to two outputs, among some that are declared. -/
def toSome (outputs : List Output) : Spec where
  inputs := []
  outputs := outputs
  pipelines := [⟨some "all", ["application"], ["logs", "web"], ∅, none⟩]
  tuning := none

/-- An output to a store of records. -/
def logsOutput : Output :=
  { Output.bare "logs" .elasticsearch with url? := some "https://[::1]:9200" }

/-- An output to a web server. -/
def webOutput : Output := { Output.bare "web" .http with url? := some "https://[::1]" }

/-- A stack to which nothing is sent. -/
def idleStack : Output :=
  { Output.bare "stack" .lokistack with
    lokistack := some { (default : LokiStackSection) with target := ⟨"store", "logs"⟩ } }

/-- A stack to which nothing is sent leaves no trace between two outputs. -/
theorem compile_insert_idleStack :
    (∀ pipeline ∈ (toSome [logsOutput, webOutput]).pipelines,
      idleStack.name ∉ pipeline.outputRefs) ∧
    ∀ dialect : Dialect,
      (toSome [logsOutput, webOutput]).problems ∅ .standard dialect = [] ∧
      (toSome [logsOutput, idleStack, webOutput]).problems ∅ .standard dialect = [] ∧
      (toSome [logsOutput, idleStack, webOutput]).compile ∅ .standard dialect =
        (toSome [logsOutput, webOutput]).compile ∅ .standard dialect := by
  have unreferenced : ∀ pipeline ∈ (toSome [logsOutput, webOutput]).pipelines,
      idleStack.name ∉ pipeline.outputRefs := by
    decide
  refine ⟨unreferenced, fun dialect => ?_⟩
  have clean : (toSome [logsOutput, webOutput]).problems ∅ .standard dialect = [] := by
    cases dialect <;> decide
  have longerClean :
      (toSome [logsOutput, idleStack, webOutput]).problems ∅ .standard dialect = [] := by
    cases dialect <;> decide
  exact ⟨clean, longerClean,
    compile_insert [logsOutput] [webOutput] rfl unreferenced clean longerClean⟩

end Spec

end LogForwarder
