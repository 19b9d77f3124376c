/-
This file proves that the stream of an input holds the records that the input selects. There are
three kinds of streams: branches of one router for application inputs, filters for inputs of some
sources, and the streams of whole kinds for inputs that leave nothing out. Which one an input has is
decided where references are brought into normal form, where the streams are made, and once more
where pipelines read them; the conditions of the first two ask for exactly what the input asks for.
-/

import LogForwarder.Proofs.Isolation
import LogForwarder.Proofs.Vector.Condition
import LogForwarder.Proofs.Vector.Order

namespace LogForwarder

open Vector.Condition (namespace? label? source?)

/-! ### What inputs select -/

/-- Whether a record can be one of a kind, by the source that it comes from. -/
def LogKind.Has (record : Value) : LogKind → Prop
  | .application => True
  | .infrastructure => ∃ source ∈ InfrastructureSource.all, source? record = some source.name
  | .audit => ∃ source ∈ AuditSource.all, source? record = some source.name

namespace Input

/-- Whether a record comes from a namespace of an input, and from a pod with all of its labels. -/
def SelectsByPod (input : Input) (record : Value) : Prop :=
  (input.namespaces = [] ∨ ∃ name ∈ input.namespaces, namespace? record = some name) ∧
    ∀ key value, input.matchLabels.get? key = some value → label? record key = some value

/-- Whether a record comes from a source of an input. -/
def SelectsBySource (input : Input) (record : Value) : Prop :=
  ∃ name ∈ Vector.sourceNames input, source? record = some name

/-- Whether an input selects a record. An input that lists no sources takes in all of them. -/
def Selects (input : Input) (record : Value) : Prop :=
  match input.kind? with
  | some .application => input.SelectsByPod record
  | some _ => Vector.sourceNames input = [] ∨ input.SelectsBySource record
  | none => False

variable {input : Input}

/-- Where all of some sources are chosen, every record of one of them is of a chosen one. -/
theorem exists_chosen {α : Type} [DecidableEq α] {name : α → String} {all chosen : List α}
    (selected : selectsAll all chosen) {record : Value}
    (ofOne : ∃ source ∈ all, source? record = some (name source)) :
    chosen.map name = [] ∨ ∃ text ∈ chosen.map name, source? record = some text := by
  rcases (Bool.or_eq_true _ _).mp selected with none | every
  · rw [List.isEmpty_iff.mp none]
    exact .inl rfl
  · obtain ⟨source, member, found⟩ := ofOne
    have isChosen : source ∈ chosen := of_decide_eq_true (List.all_eq_true.mp every source member)
    exact .inr ⟨_, List.mem_map_of_mem isChosen, found⟩

/-- An input that stands for a kind selects every record of it. -/
theorem selects_of_wholeKind? {kind : LogKind} (whole : input.wholeKind? = some kind)
    {record : Value} (ofKind : kind.Has record) : input.Selects record := by
  have narrows := input.kind?_of_wholeKind? whole
  unfold wholeKind? at whole
  unfold Selects SelectsBySource Vector.sourceNames
  rw [narrows] at whole ⊢
  cases kind with
  | application =>
    have noSelector : input.hasSelector = false := by
      cases selector : input.hasSelector with
      | false => rfl
      | true => simp [selector] at whole
    unfold hasSelector Dictionary.isEmpty at noSelector
    rw [Bool.or_eq_false_iff, Bool.not_eq_false', Bool.not_eq_false', List.isEmpty_iff,
      List.isEmpty_iff] at noSelector
    refine ⟨.inl noSelector.1, fun key value found => ?_⟩
    rw [Dictionary.get?_eq_some_iff_mem, noSelector.2] at found
    cases found
  | infrastructure =>
    obtain ⟨section', declared⟩ := input.exists_infrastructure narrows
    have selected : selectsAll InfrastructureSource.all section'.sources := by
      by_contra partly
      simp [declared, partly] at whole
    rw [declared]
    exact exists_chosen selected ofKind
  | audit =>
    obtain ⟨section', declared⟩ := input.exists_audit narrows
    have selected : selectsAll AuditSource.all section'.sources := by
      by_contra partly
      simp [declared, partly] at whole
    rw [declared]
    exact exists_chosen selected ofKind

end Input

namespace Vector

/-! ### Conditions of elements -/

/-- The branches of a router, as far as it has any. -/
def routesOf (element : Element) : List Branch :=
  ((Value.object element.params).field "routes").items.filterMap fun branch => do
    return ⟨← (branch.field "name").text?, ← (branch.field "condition").text?⟩

/-- The condition of a filter. -/
def condition? (element : Element) : Option String :=
  ((Value.object element.params).field "condition").text?

theorem routesOf_route (id : String) (inputs : List String) (branches : List Branch) :
    routesOf (route id inputs branches) = branches := by
  unfold routesOf route Branch.value
  simp [Element.field_create, List.lookup_cons, List.filterMap_map]

theorem condition?_filter (id : String) (inputs : List String) (condition : String) :
    condition? (filter id inputs condition) = some condition := by
  unfold condition? filter
  simp [Element.field_create]

/-! ### Streams of configurations -/

variable {spec : Spec} {secrets : SecretStore} {options : Options} {arena : Arena}

theorem streamOf_of_hasSelector {reference : String} {input : Input}
    (found : spec.input? reference = some input) (selector : input.hasSelector) :
    streamOf spec reference = branchOf Id.routeApplicationLogs (Name.componentId input.name) := by
  unfold streamOf
  rw [found]
  exact if_pos selector

/--
What the branch of an application input is, and the stream that pipelines read for it. A branch of
the same name with another condition can only be that of another input.
-/
structure HasBranch (spec : Spec) (arena : Arena) (reference : String) (input : Input) : Prop where
  exists_router : ∃ router text condition,
    arena.get? Id.routeApplicationLogs = some router ∧
      router.inputs = [LogKind.application.name] ∧
      ⟨Name.componentId input.name, text⟩ ∈ routesOf router ∧
      (∀ branch ∈ routesOf router, branch.name = Name.componentId input.name →
        branch.condition = text ∨ ∃ other ∈ spec.inputs, other ≠ input ∧
          Name.componentId other.name = Name.componentId input.name) ∧
      Condition.read? text = some condition ∧
      ∀ record, condition.Holds record ↔ input.SelectsByPod record
  stream : streamOf spec reference =
    branchOf Id.routeApplicationLogs (Name.componentId input.name)

/-- What the filter of an input of some sources is, and the stream that pipelines read for it. -/
structure HasFilter (spec : Spec) (arena : Arena) (reference : String) (input : Input)
    (kind : LogKind) : Prop where
  exists_filter : ∃ filter text condition,
    arena.get? (Name.componentId input.name) = some filter ∧ filter.inputs = [kind.name] ∧
      condition? filter = some text ∧ Condition.read? text = some condition ∧
      ∀ record, condition.Holds record ↔ input.SelectsBySource record
  stream : streamOf spec reference = Name.componentId input.name

section Streams

variable (present : ∀ element ∈ upToPipelines spec, element ∈ arena.elements)
  {pipeline : Pipeline} (declared : pipeline ∈ spec.pipelines) {reference : String}
  (reads : reference ∈ pipeline.inputRefs) {input : Input}
  (found : spec.input? reference = some input)

include present declared reads found

/-- An input with a selector is a branch of the router of applications. -/
theorem hasBranch_of_hasSelector (selector : input.hasSelector) :
    HasBranch spec arena reference input where
  exists_router := by
    have selects := mem_selectorInputs declared reads found selector
    have router := present _ (mem_upToPipelines_of_mem_streams
      (List.mem_append_left _ (List.mem_append_right _ (mem_selectorRouter selects))))
    obtain ⟨condition, read, holds⟩ := Condition.exists_read?_selectorCondition input selector
    refine ⟨_, selectorCondition input, condition, arena.get?_of_mem router, rfl, ?_, ?_, read, ?_⟩
    · rw [routesOf_route]
      exact List.mem_map_of_mem selects
    · rw [routesOf_route, List.forall_mem_map]
      intro other otherSelects sameName
      by_cases same : other = input
      · rw [same]
        exact .inl rfl
      · obtain ⟨_, _, otherFound⟩ := List.mem_filterMap.mp (List.mem_filter.mp otherSelects).1
        exact .inr ⟨other, List.mem_of_find?_eq_some otherFound, same, sameName⟩
    · intro record
      rw [holds, Input.SelectsByPod]
      simp only [Dictionary.get?_eq_some_iff_mem, Prod.forall]
  stream := streamOf_of_hasSelector found selector

/-- An input of some sources, but not of all, filters the stream of its kind. -/
theorem hasFilter_of_partly (unreserved : LogKind.ofName? reference = none)
    (noSelector : ¬input.hasSelector) {kind : LogKind} (narrows : input.kind? = some kind)
    (partly : input.wholeKind? = none) : HasFilter spec arena reference input kind where
  exists_filter := by
    have filters := mem_sourceInputs declared reads found narrows noSelector partly
    have filter := present _ (mem_upToPipelines_of_mem_streams
      (List.mem_append_right _ (List.mem_map_of_mem filters)))
    obtain ⟨condition, read, holds⟩ := Condition.exists_read?_sourceCondition
      (input.sourceNames_ne_nil kind narrows noSelector partly)
    refine ⟨sourceFilter input, _, condition, arena.get?_of_mem filter, ?_,
      condition?_filter _ _ _, read, holds⟩
    show (input.kind?.map (·.name)).toList = _
    rw [narrows]
    rfl
  stream := by
    unfold streamOf
    simp only [found, if_neg noSelector, unreserved, partly, Option.isSome_none,
      Bool.false_eq_true, if_false]

end Streams

end Vector

namespace Spec

/--
In a configuration the stream that a pipeline reads for an input holds what the input selects: it is
a branch or a filter whose condition asks for just that, or the stream of a whole kind if the input
selects every record of the kind.
-/
theorem streams_select (spec : Spec) (secrets : SecretStore) (options : Options) {arena : Arena}
    (clean : spec.problems secrets options .vector = [])
    (built : Vector.build spec.normalize secrets options = .ok arena) :
    (∀ pipeline ∈ spec.normalize.pipelines, ∀ reference ∈ pipeline.inputRefs, ∀ input,
      spec.normalize.input? reference = some input →
        (input.hasSelector → Vector.HasBranch spec.normalize arena reference input) ∧
          (¬input.hasSelector → ∃ kind, kind ≠ .application ∧ input.kind? = some kind ∧
            Vector.HasFilter spec.normalize arena reference input kind)) ∧
      ∀ pipeline ∈ spec.pipelines, ∀ reference ∈ pipeline.inputRefs, ∀ input,
        spec.input? reference = some input → spec.normalRef reference ≠ reference →
          ∃ kind, spec.normalRef reference = kind.name ∧ input.kind? = some kind ∧
            Vector.streamOf spec.normalize kind.name = kind.name ∧
            arena.get? kind.name = some (Vector.kindStream kind) ∧
            ∀ record, kind.Has record → input.Selects record := by
  have ready := spec.isReady_normalize clean
  have present := Vector.present_of_build built
  refine ⟨?_, ?_⟩
  · intro pipeline declared reference reads input found
    refine ⟨Vector.hasBranch_of_hasSelector present declared reads found, fun noSelector => ?_⟩
    obtain ⟨kind, narrows⟩ := Option.isSome_iff_exists.mp
      (ready.clean.inputNarrows input (List.mem_of_find?_eq_some found))
    have unreserved := ready.clean.ofName?_of_input? found
    have partly : input.wholeKind? = none := by
      have normal :=
        (spec.isNearlyNormal_of_mem_normalize pipeline declared).inputRefs reference reads
      rw [← spec.normalRef_normalize,
        spec.normalize.normalRef_of_ofName?_none unreserved, found, Option.bind_some] at normal
      cases whole : input.wholeKind? with
      | none => rfl
      | some kind =>
        -- The name of a kind would be reserved.
        rw [whole, Option.map_some, Option.getD_some] at normal
        rw [← normal, LogKind.ofName?_name] at unreserved
        cases unreserved
    refine ⟨kind, ?_, narrows,
      Vector.hasFilter_of_partly present declared reads found unreserved noSelector narrows partly⟩
    rintro rfl
    rw [input.wholeKind?_of_not_hasSelector narrows noSelector] at partly
    cases partly
  · intro pipeline declared reference reads input found renamed
    have unreserved : LogKind.ofName? reference = none := ready.clean.ofName?_of_input? found
    have normalForm := spec.normalRef_of_ofName?_none unreserved
    rw [found, Option.bind_some] at normalForm
    cases whole : input.wholeKind? with
    | none =>
      rw [whole] at normalForm
      exact absurd normalForm renamed
    | some kind =>
      rw [whole, Option.map_some, Option.getD_some] at normalForm
      have routed : kind ∈ spec.normalize.routedKinds := by
        obtain ⟨part, member, inPart⟩ := spec.exists_reader declared reads
        rw [normalForm] at inPart
        exact (spec.normalize.mem_routedKinds kind).mpr
          ⟨part, member, kind.name, inPart, spec.normalize.refKind?_name kind⟩
      have notDeclared : spec.normalize.input? kind.name = none := by
        cases declaredInput : spec.normalize.input? kind.name with
        | none => rfl
        | some other =>
          have reserved := ready.clean.ofName?_of_input? declaredInput
          rw [LogKind.ofName?_name] at reserved
          cases reserved
      refine ⟨kind, normalForm, input.kind?_of_wholeKind? whole, ?_,
        arena.get?_of_mem (present _ (Vector.kindStream_mem_upToPipelines routed)),
        fun record => Input.selects_of_wholeKind? whole⟩
      unfold Vector.streamOf
      rw [notDeclared]

/-- Inputs of every kind: some with conditions of their own, and some that stand for their kind. -/
def selectingSpec : Spec where
  inputs :=
    [⟨"shop", some ⟨["web", "say \"hi\""], some ⟨.ofList [("app.io/tier", "front")]⟩⟩, none, none⟩,
      ⟨"node", none, some ⟨[.node]⟩, none⟩, ⟨"kube.api", none, none, some ⟨[.ovn, .kubeApi]⟩⟩,
      ⟨"both", none, some ⟨[.node, .container]⟩, none⟩, ⟨"any", none, none, some ⟨[]⟩⟩]
  outputs := [{ Output.bare "web" .http with url? := some "https://[::1]" }]
  pipelines := [⟨some "all", ["shop", "node", "kube.api", "both", "any"], ["web"], ∅, none⟩]
  tuning := none

/-- The first of these inputs is a branch, two are filters, and two stand for their kinds. -/
theorem streams_select_selectingSpec :
    selectingSpec.problems ∅ .standard .vector = [] ∧
      ∃ arena, Vector.build selectingSpec.normalize ∅ .standard = .ok arena ∧
        (∃ input, selectingSpec.normalize.input? "shop" = some input ∧
          Vector.HasBranch selectingSpec.normalize arena "shop" input) ∧
        (∃ input, selectingSpec.normalize.input? "kube.api" = some input ∧
          Vector.HasFilter selectingSpec.normalize arena "kube.api" input .audit) ∧
        ∃ input, selectingSpec.input? "both" = some input ∧
          arena.get? "infrastructure" = some (Vector.kindStream .infrastructure) ∧
          ∀ record, LogKind.infrastructure.Has record → input.Selects record := by
  have clean : selectingSpec.problems ∅ .standard .vector = [] := by decide
  have succeeds : (Vector.build selectingSpec.normalize ∅ .standard).isOk := by decide
  obtain ⟨arena, built⟩ := exists_of_isOk succeeds
  obtain ⟨streams, wholeKinds⟩ := streams_select selectingSpec ∅ .standard clean built
  have normal : ∃ pipeline ∈ selectingSpec.normalize.pipelines,
      "shop" ∈ pipeline.inputRefs ∧ "kube.api" ∈ pipeline.inputRefs := by decide
  obtain ⟨pipeline, declared, readsShop, readsApi⟩ := normal
  have shop : (selectingSpec.normalize.input? "shop").any (·.hasSelector) := by decide
  have api : (selectingSpec.normalize.input? "kube.api").any fun input =>
      !input.hasSelector && input.kind? = some .audit := by decide
  have both : (selectingSpec.input? "both").any fun input =>
      input.kind? = some .infrastructure := by decide
  refine ⟨clean, arena, built, ?_, ?_, ?_⟩
  · obtain ⟨input, found, selector⟩ := (Option.any_eq_true _ _).mp shop
    exact ⟨input, found, (streams pipeline declared "shop" readsShop input found).1 selector⟩
  · obtain ⟨input, found, ofAudit⟩ := (Option.any_eq_true _ _).mp api
    obtain ⟨noSelector, narrows⟩ := (Bool.and_eq_true _ _).mp ofAudit
    have notSelecting : ¬input.hasSelector := by
      rw [Bool.not_eq_true]
      exact (Bool.not_eq_true' _).mp noSelector
    obtain ⟨kind, _, ofKind, filter⟩ :=
      (streams pipeline declared "kube.api" readsApi input found).2 notSelecting
    rw [of_decide_eq_true narrows, Option.some.injEq] at ofKind
    exact ⟨input, found, ofKind ▸ filter⟩
  · obtain ⟨input, found, narrows⟩ := (Option.any_eq_true _ _).mp both
    obtain ⟨kind, _, ofKind, _, stream, selects⟩ := wholeKinds _ List.mem_cons_self "both"
      (by decide) input found (by decide)
    rw [of_decide_eq_true narrows, Option.some.injEq] at ofKind
    subst ofKind
    exact ⟨input, found, stream, fun record ofKind => selects record ofKind⟩

end Spec

end LogForwarder
