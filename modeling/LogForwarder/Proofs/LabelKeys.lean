/-
This file proves that lists of label keys matter only as sets. Keys may be listed by a loki output,
and by a stack for all of its tenants or for one of them. Each of these lists is brought into rising
order, without repetitions, before any use is made of it, and nobody looks at a list before that but
to see whether it is empty. A spec therefore compiles as if its lists had been in rising order from
the start, and two specs whose lists have the same members have the same lists in rising order.
-/

import LogForwarder.Proofs.Arena
import LogForwarder.Proofs.Lookup
import LogForwarder.Proofs.Normal

namespace LogForwarder

/-! ### Lists with the same members -/

/-- Whether two lists of keys have the same members, in any order and with any repetitions. -/
def SameMembers (first second : List String) : Prop := ∀ key, key ∈ first ↔ key ∈ second

theorem SameMembers.append {first second more others : List String}
    (same : SameMembers first second) (alsoSame : SameMembers more others) :
    SameMembers (first ++ more) (second ++ others) := by
  intro key
  rw [List.mem_append, List.mem_append, same key, alsoSame key]

/-- Lists with the same members are the same in rising order. -/
theorem sortedTexts_congr {first second : List String} (same : SameMembers first second) :
    sortedTexts first = sortedTexts second := by
  refine congrArg TextSet.toTexts (Dictionary.ext_get? fun key => ?_)
  -- A value of a set says nothing, so that it matters only whether there is one.
  have present : ((TextSet.ofTexts first).get? key).isSome ↔
      ((TextSet.ofTexts second).get? key).isSome := by
    rw [← Dictionary.mem_keys_iff, ← Dictionary.mem_keys_iff]
    exact (mem_sortedTexts first key).trans ((same key).trans (mem_sortedTexts second key).symm)
  cases inFirst : (TextSet.ofTexts first).get? key <;>
    cases inSecond : (TextSet.ofTexts second).get? key <;> simp [inFirst, inSecond] at present ⊢

theorem sameMembers_sortedTexts (texts : List String) : SameMembers (sortedTexts texts) texts :=
  mem_sortedTexts texts

/-- A list in rising order is empty if the list is. -/
theorem isEmpty_sortedTexts (texts : List String) :
    (sortedTexts texts).isEmpty = texts.isEmpty := by
  rw [Bool.eq_iff_iff, List.isEmpty_iff, List.isEmpty_iff, List.eq_nil_iff_forall_not_mem,
    List.eq_nil_iff_forall_not_mem]
  simp only [mem_sortedTexts]

theorem sortedTexts_sortedTexts (texts : List String) :
    sortedTexts (sortedTexts texts) = sortedTexts texts :=
  sortedTexts_congr (sameMembers_sortedTexts texts)

/-! ### Lists in rising order -/

/-- A loki section whose keys are in rising order. -/
def LokiSection.inOrder (options : LokiSection) : LokiSection :=
  { options with labelKeys := sortedTexts options.labelKeys }

/-- The keys of a tenant in rising order. -/
def TenantLabelKeys.inOrder (keys : TenantLabelKeys) : TenantLabelKeys :=
  { keys with labelKeys := sortedTexts keys.labelKeys }

/-- The keys of a stack, and those of each of its tenants, in rising order. -/
def LokiStackLabelKeys.inOrder (keys : LokiStackLabelKeys) : LokiStackLabelKeys where
  global := sortedTexts keys.global
  application := keys.application.map (·.inOrder)
  infrastructure := keys.infrastructure.map (·.inOrder)
  audit := keys.audit.map (·.inOrder)

/-- A stack whose keys are in rising order. -/
def LokiStackSection.inOrder (stack : LokiStackSection) : LokiStackSection :=
  { stack with labelKeys := stack.labelKeys.map (·.inOrder) }

/-- An output whose keys are in rising order. -/
def Output.inOrder (output : Output) : Output :=
  { output with
    loki := output.loki.map (·.inOrder)
    lokistack := output.lokistack.map (·.inOrder) }

/-- A spec whose keys are in rising order. -/
def Spec.inOrder (spec : Spec) : Spec := { spec with outputs := spec.outputs.map (·.inOrder) }

/-! ### Keys of outputs -/

theorem LabelKey.ofLoki_inOrder (options : Option LokiSection) :
    ofLoki (options.map (·.inOrder)) = ofLoki options := by
  cases options with
  | none => rfl
  | some options =>
    show sortedTexts ((if (sortedTexts options.labelKeys).isEmpty then defaults
      else sortedTexts options.labelKeys) ++ required) = _
    rw [isEmpty_sortedTexts]
    refine sortedTexts_congr (SameMembers.append ?_ fun _ => Iff.rfl)
    split
    · next empty => exact fun _ => by rw [Option.map_some, Option.getD_some, if_pos empty]
    · next listed =>
      rw [Option.map_some, Option.getD_some, if_neg listed]
      exact sameMembers_sortedTexts _

theorem LokiStackLabelKeys.tenant?_inOrder (keys : LokiStackLabelKeys) (kind : LogKind) :
    keys.inOrder.tenant? kind = (keys.tenant? kind).map (·.inOrder) := by
  cases kind <;> rfl

/-- The keys of a tenant are the same whether those of its stack are in rising order or not. -/
theorem LokiStackSection.tenantLabelKeys_inOrder (stack : LokiStackSection) (kind : LogKind) :
    stack.inOrder.tenantLabelKeys kind = stack.tenantLabelKeys kind := by
  have labelKeys : stack.inOrder.labelKeys = stack.labelKeys.map (·.inOrder) := rfl
  unfold tenantLabelKeys
  rw [labelKeys]
  cases stack.labelKeys with
  | none => rfl
  | some keys =>
    simp only [Option.map_some, keys.tenant?_inOrder]
    cases keys.tenant? kind with
    | none => exact sortedTexts_sortedTexts keys.global
    | some tenant =>
      simp only [Option.map_some, LokiStackLabelKeys.inOrder, TenantLabelKeys.inOrder,
        isEmpty_sortedTexts]
      split
      · exact sortedTexts_sortedTexts tenant.labelKeys
      · refine sortedTexts_congr (SameMembers.append ?_ (sameMembers_sortedTexts _))
        split
        · exact fun _ => Iff.rfl
        · exact sameMembers_sortedTexts _

/-- The keys of a tenant are in rising order already. -/
theorem LokiStackSection.sortedTexts_tenantLabelKeys (stack : LokiStackSection) (kind : LogKind) :
    sortedTexts (stack.tenantLabelKeys kind) = stack.tenantLabelKeys kind := by
  unfold tenantLabelKeys
  split
  · rfl
  · split
    · exact sortedTexts_sortedTexts _
    · split <;> exact sortedTexts_sortedTexts _

namespace Output

theorem expandable?_inOrder (output : Output) :
    output.inOrder.expandable? = output.expandable?.map (·.inOrder) := by
  unfold expandable?
  show (if output.type = .lokistack then (output.lokistack.map (·.inOrder)).filter _ else none) = _
  split
  · cases output.lokistack with
    | none => rfl
    | some stack =>
      simp only [Option.map_some, Option.filter_some]
      show (if (!stack.target.name.isEmpty && !stack.target.namespaceName.isEmpty) = true then
        some stack.inOrder else none) = _
      split <;> rfl
  · rfl

/-- Tenants are the same whether the keys of their stack are in rising order or not. -/
theorem tenantOutput_inOrder (output : Output) (stack : LokiStackSection) (kind : LogKind) :
    output.inOrder.tenantOutput stack.inOrder kind = output.tenantOutput stack kind := by
  unfold tenantOutput
  rw [stack.tenantLabelKeys_inOrder]
  rfl

theorem inOrder_tenantOutput (output : Output) (stack : LokiStackSection) (kind : LogKind) :
    (output.tenantOutput stack kind).inOrder = output.tenantOutput stack kind := by
  unfold tenantOutput
  cases stack.dataModel with
  | otel => rfl
  | viaq =>
    unfold inOrder
    simp only [bare, Option.map_some, LokiSection.inOrder, stack.sortedTexts_tenantLabelKeys]
    rfl

end Output

namespace Spec

/-! ### Normal forms -/

theorem stackNames_inOrder (spec : Spec) : spec.inOrder.stackNames = spec.stackNames := by
  unfold stackNames
  show (((spec.outputs.map (·.inOrder)).filter (·.expandable?.isSome)).map (·.name)).eraseDups = _
  rw [List.filter_map, List.map_map]
  simp only [Function.comp_def, Output.expandable?_inOrder, Option.isSome_map]
  rfl

/-- The first stack of a name is the same one, with its keys in rising order. -/
theorem findSome?_expandable?_inOrder (outputs : List Output) (name : String) :
    ((outputs.map (·.inOrder)).findSome? fun output =>
        if output.name = name then output.expandable?.map (output, ·) else none) =
      (outputs.findSome? fun output =>
        if output.name = name then output.expandable?.map (output, ·) else none).map
          fun found => (found.1.inOrder, found.2.inOrder) := by
  rw [List.findSome?_map, List.map_findSome?]
  refine congrArg (List.findSome? · outputs) (funext fun output => ?_)
  show (if output.name = name then output.inOrder.expandable?.map _ else none) = _
  rw [output.expandable?_inOrder]
  by_cases named : output.name = name
  · simp [named, Function.comp_def]
  · simp [named]

theorem tenantOutputs_inOrder (spec : Spec) (name : String) :
    spec.inOrder.tenantOutputs name = spec.tenantOutputs name := by
  have kinds : spec.inOrder.kindsTo name = spec.kindsTo name := rfl
  unfold tenantOutputs
  simp only [kinds]
  have first := findSome?_expandable?_inOrder spec.outputs name
  rw [show spec.inOrder.outputs = spec.outputs.map (·.inOrder) from rfl, first]
  cases (spec.outputs.findSome? fun output =>
      if output.name = name then output.expandable?.map (output, ·) else none) with
  | none => rfl
  | some found => exact List.map_congr_left fun kind _ => found.1.tenantOutput_inOrder found.2 kind

/-- Tenants have their keys in rising order already. -/
theorem inOrder_of_mem_tenantOutputs {spec : Spec} {name : String} {tenant : Output}
    (member : tenant ∈ spec.tenantOutputs name) : tenant.inOrder = tenant := by
  unfold tenantOutputs at member
  simp only at member
  split at member
  · exact absurd member List.not_mem_nil
  · obtain ⟨kind, _, rfl⟩ := List.mem_map.mp member
    exact Output.inOrder_tenantOutput _ _ kind

theorem expandStacks_inOrder (spec : Spec) :
    spec.inOrder.expandStacks = spec.expandStacks.inOrder := by
  have tenants : (spec.stackNames.flatMap spec.tenantOutputs).map (·.inOrder) =
      spec.stackNames.flatMap spec.tenantOutputs := by
    refine (List.map_congr_left fun tenant member => ?_).trans (List.map_id _)
    obtain ⟨_, _, within⟩ := List.mem_flatMap.mp member
    exact inOrder_of_mem_tenantOutputs within
  have others : (spec.outputs.map (·.inOrder)).filter (·.expandable?.isNone) =
      (spec.outputs.filter (·.expandable?.isNone)).map (·.inOrder) := by
    rw [List.filter_map]
    simp only [Function.comp_def, Output.expandable?_inOrder, Option.isNone_map]
  unfold expandStacks
  rw [spec.stackNames_inOrder, funext spec.tenantOutputs_inOrder]
  unfold inOrder
  simp only
  rw [others, List.map_append, tenants]
  rfl

/-- Normal forms are in rising order where the spec is. -/
theorem normalize_inOrder (spec : Spec) : spec.inOrder.normalize = spec.normalize.inOrder :=
  spec.tidied.expandStacks_inOrder

end Spec

/-! ### Problems -/

/-- What is wrong with an output has nothing to do with label keys. -/
theorem Output.causes_inOrder (output : Output) (secrets : SecretStore) (options : Options)
    (isRepeated : Bool) :
    output.inOrder.causes secrets options isRepeated =
      output.causes secrets options isRepeated := by
  have typeCauses : output.inOrder.typeCauses secrets = output.typeCauses secrets := by
    unfold Output.typeCauses
    simp only [Output.inOrder, Option.map_map]
    rfl
  unfold Output.causes
  rw [typeCauses]
  rfl

namespace Spec

theorem problemsInTurn_map {α : Type} {name : α → String} {judge : α → Bool → List Problem}
    (change : α → α) (sameName : ∀ item, name (change item) = name item)
    (sameJudgment : ∀ item isRepeated, judge (change item) isRepeated = judge item isRepeated)
    (earlier : List String) (items : List α) :
    problemsInTurn name judge earlier (items.map change) =
      problemsInTurn name judge earlier items := by
  induction items generalizing earlier with
  | nil => rfl
  | cons item rest ih =>
    simp only [List.map_cons, problemsInTurn]
    rw [sameName item, sameJudgment item, ih]

theorem output?_inOrder (spec : Spec) (name : String) :
    spec.inOrder.output? name = (spec.output? name).map (·.inOrder) :=
  List.find?_map

theorem pipelineProblems_inOrder (spec : Spec) :
    spec.inOrder.pipelineProblems = spec.pipelineProblems := by
  funext pipeline isRepeated
  unfold pipelineProblems
  simp only [spec.output?_inOrder, Option.isNone_map]
  rfl

theorem names_inOrder (spec : Spec) :
    spec.inOrder.outputs.map (·.name) = spec.outputs.map (·.name) :=
  List.map_map

theorem commonProblems_inOrder (spec : Spec) (secrets : SecretStore) (options : Options) :
    spec.inOrder.commonProblems secrets options = spec.commonProblems secrets options := by
  have outputs : problemsInTurn (·.name) (outputProblems secrets options) [] spec.inOrder.outputs =
      problemsInTurn (·.name) (outputProblems secrets options) [] spec.outputs := by
    refine problemsInTurn_map Output.inOrder (fun _ => rfl) (fun output isRepeated => ?_) []
      spec.outputs
    unfold outputProblems
    rw [output.causes_inOrder]
    rfl
  unfold commonProblems
  rw [outputs, spec.pipelineProblems_inOrder]
  rfl

theorem dialectProblems_inOrder (spec : Spec) (dialect : Dialect) :
    spec.inOrder.dialectProblems dialect = spec.dialectProblems dialect := by
  have unsupported : spec.inOrder.unsupportedProblems dialect =
      spec.unsupportedProblems dialect := by
    unfold unsupportedProblems
    show ((spec.outputs.map (·.inOrder)).filter _).map _ = _
    rw [List.filter_map, List.map_map]
    rfl
  have owners : spec.inOrder.idOwners dialect = spec.idOwners dialect := by
    have ofOutputs : spec.inOrder.outputs.map (Subject.output ·.name) =
        spec.outputs.map (Subject.output ·.name) := List.map_map
    unfold idOwners
    rw [ofOutputs]
    rfl
  unfold dialectProblems idProblems
  rw [unsupported, owners]

theorem problems_inOrder (spec : Spec) (secrets : SecretStore) (options : Options)
    (dialect : Dialect) :
    spec.inOrder.problems secrets options dialect = spec.problems secrets options dialect := by
  unfold problems normalProblems
  rw [spec.normalize_inOrder, commonProblems_inOrder, dialectProblems_inOrder]

/-! ### Routes -/

theorem routes_inOrder (spec : Spec) : spec.inOrder.routes = spec.routes := by
  unfold routes
  rw [spec.names_inOrder]
  rfl

theorem routedOutputs_inOrder (spec : Spec) :
    spec.inOrder.routedOutputs = spec.routedOutputs.map (·.inOrder) := by
  unfold routedOutputs
  rw [spec.routes_inOrder, List.map_filterMap, funext spec.output?_inOrder]

end Spec

/-! ### Texts -/

/-- What the label of an output is made from if its keys are in rising order. -/
def Fluentd.Store.inOrder (store : Store) : Store := { store with output := store.output.inOrder }

/-- What the chain of an output is made from if its keys are in rising order. -/
def Vector.Sink.inOrder (sink : Sink) : Sink := { sink with output := sink.output.inOrder }

theorem Fluentd.Store.lokiLabel_inOrder (store : Store) :
    store.inOrder.lokiLabel = store.lokiLabel := by
  have tenant : tenantPath? (store.output.loki.map (·.inOrder)) =
      tenantPath? store.output.loki := by
    cases store.output.loki <;> rfl
  unfold lokiLabel
  simp only [inOrder, Output.inOrder, tenant, LabelKey.ofLoki_inOrder]
  rfl

theorem Fluentd.Store.outputLabel_inOrder (store : Store) :
    store.inOrder.outputLabel = store.outputLabel := by
  unfold outputLabel
  rw [store.lokiLabel_inOrder]
  rfl

theorem Vector.Sink.lokiChain_inOrder (sink : Sink) : sink.inOrder.lokiChain = sink.lokiChain := by
  have tenant : (sink.output.loki.map (·.inOrder)).bind (·.tenantKey) =
      sink.output.loki.bind (·.tenantKey) := by
    cases sink.output.loki <;> rfl
  unfold lokiChain streamLabels
  simp only [inOrder, Output.inOrder, tenant, LabelKey.ofLoki_inOrder]
  rfl

theorem Vector.Sink.chain_inOrder (sink : Sink) : sink.inOrder.chain = sink.chain := by
  unfold chain tail
  rw [sink.lokiChain_inOrder]
  rfl

namespace Spec

theorem build_inOrder (spec : Spec) (secrets : SecretStore) (options : Options)
    (dialect : Dialect) :
    dialect.build spec.inOrder secrets options = dialect.build spec secrets options := by
  cases dialect with
  | fluentd =>
    have label (arena : Arena) (output : Output) :
        Fluentd.addOutput spec.inOrder secrets options arena output.inOrder =
          Fluentd.addOutput spec secrets options arena output := by
      unfold Fluentd.addOutput
      rw [← (Fluentd.Store.ofOutput spec secrets options output).outputLabel_inOrder]
      unfold Fluentd.Store.ofOutput
      rw [spec.routes_inOrder]
      rfl
    have outputs : (if options.debug then [] else spec.inOrder.routedOutputs) =
        (if options.debug then [] else spec.routedOutputs).map Output.inOrder := by
      rw [spec.routedOutputs_inOrder]
      split <;> rfl
    show Fluentd.build spec.inOrder secrets options = Fluentd.build spec secrets options
    unfold Fluentd.build
    simp only [outputs, List.foldlM_map, label]
    rfl
  | vector =>
    have chain (arena : Arena) (output : Output) :
        Vector.addChain spec.inOrder secrets options arena output.inOrder =
          Vector.addChain spec secrets options arena output := by
      unfold Vector.addChain
      rw [← (Vector.Sink.ofOutput spec secrets options output).chain_inOrder]
      unfold Vector.Sink.ofOutput
      rw [spec.routes_inOrder]
      rfl
    show Vector.build spec.inOrder secrets options = Vector.build spec secrets options
    unfold Vector.build
    simp only [spec.routedOutputs_inOrder, List.foldlM_map, chain]
    rfl

/-- A spec compiles as if its label keys were in rising order. -/
theorem compile_inOrder (spec : Spec) (secrets : SecretStore) (options : Options)
    (dialect : Dialect) :
    spec.inOrder.compile secrets options dialect = spec.compile secrets options dialect := by
  unfold compile
  rw [spec.problems_inOrder, spec.normalize_inOrder,
    Dialect.generate_congr (spec.normalize.build_inOrder secrets options dialect)]

end Spec

/-! ### Lists of the same keys -/

/-- Whether two loki sections have the same keys, and are the same apart from those. -/
structure LokiSection.SameKeys (first second : LokiSection) : Prop where
  tenantKey : first.tenantKey = second.tenantKey
  labelKeys : SameMembers first.labelKeys second.labelKeys

/-- Whether two tenants have the same keys, and add them to those of all tenants or both do not. -/
structure TenantLabelKeys.SameKeys (first second : TenantLabelKeys) : Prop where
  ignoreGlobal : first.ignoreGlobal = second.ignoreGlobal
  labelKeys : SameMembers first.labelKeys second.labelKeys

/-- Whether two stacks have the same keys, for all tenants and for each alone. -/
structure LokiStackLabelKeys.SameKeys (first second : LokiStackLabelKeys) : Prop where
  global : SameMembers first.global second.global
  application : Option.Rel TenantLabelKeys.SameKeys first.application second.application
  infrastructure : Option.Rel TenantLabelKeys.SameKeys first.infrastructure second.infrastructure
  audit : Option.Rel TenantLabelKeys.SameKeys first.audit second.audit

/-- Whether two stacks have the same keys, and are the same apart from those. -/
structure LokiStackSection.SameKeys (first second : LokiStackSection) : Prop where
  target : first.target = second.target
  dataModel : first.dataModel = second.dataModel
  labelKeys : Option.Rel LokiStackLabelKeys.SameKeys first.labelKeys second.labelKeys

/-- Whether two outputs have the same keys, and are the same apart from those. -/
structure Output.SameKeys (first second : Output) : Prop where
  loki : Option.Rel LokiSection.SameKeys first.loki second.loki
  lokistack : Option.Rel LokiStackSection.SameKeys first.lokistack second.lokistack
  others :
    { first with loki := none, lokistack := none } = { second with loki := none, lokistack := none }

/-- Whether two specs have the same keys in all outputs, and are the same apart from those. -/
structure Spec.SameKeys (first second : Spec) : Prop where
  outputs : List.Forall₂ Output.SameKeys first.outputs second.outputs
  inputs : first.inputs = second.inputs
  pipelines : first.pipelines = second.pipelines
  tuning : first.tuning = second.tuning

theorem map_eq_map_of_rel {α β : Type} {related : α → α → Prop} (change : α → β)
    (same : ∀ first second, related first second → change first = change second)
    {first second : Option α} (alike : Option.Rel related first second) :
    first.map change = second.map change := by
  cases alike with
  | some alike => exact congrArg some (same _ _ alike)
  | none => rfl

theorem LokiSection.SameKeys.inOrder_eq {first second : LokiSection}
    (same : first.SameKeys second) : first.inOrder = second.inOrder := by
  unfold inOrder
  rw [same.tenantKey, sortedTexts_congr same.labelKeys]

theorem TenantLabelKeys.SameKeys.inOrder_eq {first second : TenantLabelKeys}
    (same : first.SameKeys second) : first.inOrder = second.inOrder := by
  unfold inOrder
  rw [same.ignoreGlobal, sortedTexts_congr same.labelKeys]

theorem LokiStackLabelKeys.SameKeys.inOrder_eq {first second : LokiStackLabelKeys}
    (same : first.SameKeys second) : first.inOrder = second.inOrder := by
  have tenants {first second : Option TenantLabelKeys}
      (same : Option.Rel TenantLabelKeys.SameKeys first second) :
      first.map (·.inOrder) = second.map (·.inOrder) :=
    map_eq_map_of_rel (·.inOrder) (fun _ _ same => same.inOrder_eq) same
  unfold inOrder
  rw [sortedTexts_congr same.global, tenants same.application, tenants same.infrastructure,
    tenants same.audit]

theorem LokiStackSection.SameKeys.inOrder_eq {first second : LokiStackSection}
    (same : first.SameKeys second) : first.inOrder = second.inOrder := by
  have labelKeys :=
    map_eq_map_of_rel (·.inOrder) (fun _ _ => LokiStackLabelKeys.SameKeys.inOrder_eq) same.labelKeys
  unfold inOrder
  rw [same.target, same.dataModel, labelKeys]

theorem Output.SameKeys.inOrder_eq {first second : Output} (same : first.SameKeys second) :
    first.inOrder = second.inOrder := by
  have loki := map_eq_map_of_rel (·.inOrder) (fun _ _ => LokiSection.SameKeys.inOrder_eq) same.loki
  have lokistack :=
    map_eq_map_of_rel (·.inOrder) (fun _ _ => LokiStackSection.SameKeys.inOrder_eq) same.lokistack
  calc first.inOrder
      = { { first with loki := none, lokistack := none } with
          loki := first.loki.map (·.inOrder), lokistack := first.lokistack.map (·.inOrder) } := rfl
    _ = { { second with loki := none, lokistack := none } with
          loki := second.loki.map (·.inOrder), lokistack := second.lokistack.map (·.inOrder) } := by
        rw [same.others, loki, lokistack]
    _ = second.inOrder := rfl

namespace Spec

/-- Specs with the same keys are the same once their keys are in rising order. -/
theorem SameKeys.inOrder_eq {first second : Spec} (same : first.SameKeys second) :
    first.inOrder = second.inOrder := by
  have outputs : first.outputs.map (·.inOrder) = second.outputs.map (·.inOrder) :=
    List.forall₂_eq_eq_eq ▸ List.forall₂_map_left_iff.mpr (List.forall₂_map_right_iff.mpr
      (same.outputs.imp fun _ _ => Output.SameKeys.inOrder_eq))
  unfold inOrder
  rw [outputs, same.inputs, same.pipelines, same.tuning]

/--
How label keys are listed is of no importance: two specs with the same keys in all of their outputs
compile alike, however often and in whatever order their lists name them.
-/
theorem compile_eq_of_sameKeys {first second : Spec} (same : first.SameKeys second)
    (secrets : SecretStore) (options : Options) (dialect : Dialect) :
    first.compile secrets options dialect = second.compile secrets options dialect := by
  calc first.compile secrets options dialect
      = first.inOrder.compile secrets options dialect :=
        (first.compile_inOrder secrets options dialect).symm
    _ = second.inOrder.compile secrets options dialect := by rw [same.inOrder_eq]
    _ = second.compile secrets options dialect := second.compile_inOrder secrets options dialect

/-- Records on their way to a loki output and to a stack, with some keys. -/
def toLokis (keys : List String) (stackKeys : LokiStackLabelKeys) : Spec where
  inputs := []
  outputs :=
    [{ Output.bare "streams" .loki with url? := some "https://[::1]", loki := some ⟨none, keys⟩ },
      { Output.bare "stack" .lokistack with
        lokistack := some ⟨⟨"[::1]/", "logs"⟩, .viaq, some stackKeys⟩ }]
  pipelines := [⟨some "all", ["application", "audit"], ["streams", "stack"], ∅, none⟩]
  tuning := none

/-- Records on their way with some keys. -/
def withKeys : Spec :=
  toLokis ["level", "kubernetes.host"]
    ⟨["cluster", "level"], some ⟨false, ["team", "shop"]⟩, none, some ⟨true, []⟩⟩

/-- The same records on their way with the same keys, in another order and some of them twice. -/
def withKeysRepeated : Spec :=
  toLokis ["kubernetes.host", "level", "level"]
    ⟨["level", "cluster"], some ⟨false, ["shop", "team", "shop"]⟩, none, some ⟨true, []⟩⟩

theorem sameKeys_withKeys : withKeys.SameKeys withKeysRepeated where
  outputs := by
    have keys : SameMembers ["level", "kubernetes.host"] ["kubernetes.host", "level", "level"] := by
      intro key
      simp [or_comm]
    have global : SameMembers ["cluster", "level"] ["level", "cluster"] := by
      intro key
      simp [or_comm]
    have tenant : SameMembers ["team", "shop"] ["shop", "team", "shop"] := by
      intro key
      simp
      tauto
    have stack : LokiStackLabelKeys.SameKeys
        ⟨["cluster", "level"], some ⟨false, ["team", "shop"]⟩, none, some ⟨true, []⟩⟩
        ⟨["level", "cluster"], some ⟨false, ["shop", "team", "shop"]⟩, none, some ⟨true, []⟩⟩ :=
      ⟨global, .some ⟨rfl, tenant⟩, .none, .some ⟨rfl, fun _ => Iff.rfl⟩⟩
    exact .cons ⟨.some ⟨rfl, keys⟩, .none, rfl⟩
      (.cons ⟨.none, .some ⟨rfl, rfl, .some stack⟩, rfl⟩ .nil)
  inputs := rfl
  pipelines := rfl
  tuning := rfl

/-- The keys of a loki output, of a stack and of one of its tenants may all be listed otherwise. -/
theorem compile_eq_of_sameKeys_withKeys :
    withKeys.outputs ≠ withKeysRepeated.outputs ∧ ∀ dialect : Dialect,
      withKeys.problems ∅ .standard dialect = [] ∧
      withKeys.compile ∅ .standard dialect = withKeysRepeated.compile ∅ .standard dialect := by
  refine ⟨by decide, fun dialect =>
    ⟨?_, compile_eq_of_sameKeys sameKeys_withKeys ∅ .standard dialect⟩⟩
  cases dialect <;> decide

end Spec

end LogForwarder
