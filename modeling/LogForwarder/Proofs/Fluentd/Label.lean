/-
This file proves where the labels of the fluentd dialect hand records on to. Where records go is
said by parameters, which templates turn into the label of a match block or of its routes; here it
is read back from the parameters alone. The label of a kind leads where its route says, that of a
pipeline to its outputs, and that of an output nowhere.
-/

import LogForwarder.Fluentd.Build
import LogForwarder.Proofs.Arena
import LogForwarder.Proofs.Lookup

namespace LogForwarder

namespace Fluentd

/-! ### Where records are handed on to -/

/-- The labels that a fan hands records on to. -/
def fanTargets (fan : Value) : List String :=
  (fan.field "single").text?.toList ++
    ((fan.field "copy").field "targets").items.filterMap Value.text?

/-- The labels of some routes. -/
def routeTargets (routes : Value) : List String :=
  routes.items.filterMap fun route => (route.field "label").text?

/-- The labels that a router hands records on to. -/
def routerTargets (router : Value) : List String :=
  routeTargets (router.field "routes") ++ (router.field "fallback").text?.toList

end Fluentd

/-- The labels that an element hands records on to. A router takes the place of a fan. -/
def Element.labelTargets (element : Element) : List String :=
  let param := (Value.object element.params).field
  (param "label").text?.toList ++ (param "next").text?.toList ++
    Fluentd.routeTargets (param "routes") ++
    (if (param "router").isPresent then Fluentd.routerTargets (param "router")
      else Fluentd.fanTargets (param "fan"))

/-- The labels that parameters of an element name, whether or not its template uses them. -/
def Element.namedLabels (element : Element) : List String :=
  let param := (Value.object element.params).field
  (param "label").text?.toList ++ (param "next").text?.toList ++
    Fluentd.routeTargets (param "routes") ++ Fluentd.routerTargets (param "router") ++
    Fluentd.fanTargets (param "fan")

theorem Element.labelTargets_subset_namedLabels (element : Element) :
    element.labelTargets ⊆ element.namedLabels := by
  intro label target
  unfold labelTargets at target
  unfold namedLabels
  rcases List.mem_append.mp target with plain | routed
  · exact List.mem_append_left _ (List.mem_append_left _ plain)
  · split at routed
    · exact List.mem_append_left _ (List.mem_append_right _ routed)
    · exact List.mem_append_right _ routed

namespace Arena

/-- Whether the element of an id hands records on to a label. -/
def Hands (arena : Arena) (source target : String) : Prop :=
  ∃ element ∈ arena.elements, element.id = source ∧ target ∈ element.labelTargets

/-- From an element one comes to itself, and to where one comes from what it hands records on to. -/
theorem handed_iff (arena : Arena) {element : Element} (member : element ∈ arena.elements)
    (target : String) :
    Relation.ReflTransGen arena.Hands element.id target ↔
      element.id = target ∨
        ∃ next ∈ element.labelTargets, Relation.ReflTransGen arena.Hands next target := by
  refine ⟨?_, ?_⟩
  · intro handed
    rcases Relation.ReflTransGen.cases_head handed with same | ⟨next, first, rest⟩
    · exact .inl same
    · obtain ⟨other, otherMember, sameId, hands⟩ := first
      rw [arena.eq_of_id_eq otherMember member sameId] at hands
      exact .inr ⟨next, hands, rest⟩
  · rintro (same | ⟨next, hands, rest⟩)
    · rw [same]
    · exact Relation.ReflTransGen.head ⟨element, member, rfl, hands⟩ rest

theorem handed_iff_of_nil (arena : Arena) {element : Element} (member : element ∈ arena.elements)
    (final : element.labelTargets = []) (target : String) :
    Relation.ReflTransGen arena.Hands element.id target ↔ element.id = target := by
  rw [arena.handed_iff member, final]
  simp only [List.not_mem_nil, false_and, exists_false, or_false]

end Arena

namespace Fluentd

/-! ### Fans and routers -/

@[simp]
theorem fanTargets_fanParam (isDeep : Bool) (targets : List String) :
    fanTargets (fanParam isDeep targets) = targets := by
  unfold fanTargets fanParam
  match targets with
  | [] => simp [List.lookup_cons]
  | [target] => simp [List.lookup_cons]
  | first :: second :: rest => simp [List.lookup_cons]

/--
The router of a kind leads to the pipelines that select from it, and to the rest if there is one.
-/
theorem routerTargets_routerParam {route : KindRoute} (splits : route.selected ≠ []) :
    routerTargets route.routerParam =
      route.selected.map (·.pipeline) ++
        (if route.hasFallback then [Label.applicationAll] else []) := by
  have notEmpty : route.selected.isEmpty = false := List.isEmpty_eq_false_iff.mpr splits
  unfold routerTargets KindRoute.routerParam
  rw [notEmpty, if_neg Bool.false_ne_true]
  have routes : ∀ selections : List Selection,
      routeTargets (.list (selections.map Selection.param)) = selections.map (·.pipeline) := by
    intro selections
    unfold routeTargets Selection.param
    simp [List.filterMap_map, List.lookup_cons, Function.comp_def]
  simp [List.lookup_cons, routes]
  split <;> rfl

theorem isPresent_routerParam {route : KindRoute} (splits : route.selected ≠ []) :
    route.routerParam.isPresent = true := by
  have notEmpty : route.selected.isEmpty = false := List.isEmpty_eq_false_iff.mpr splits
  refine Value.isPresent_of_field_ne_null "routes" ?_
  unfold KindRoute.routerParam
  rw [notEmpty, if_neg Bool.false_ne_true, Value.field_ofEntries]
  simp [List.lookup_cons]

/-! ### Elements -/

/-- The label of a kind that no records are selected from leads to all of its targets. -/
theorem labelTargets_label_of_nil {route : KindRoute} (whole : route.selected = []) :
    route.label.labelTargets = route.targets := by
  have noRouter : route.routerParam = .null := by
    unfold KindRoute.routerParam
    rw [whole]
    rfl
  unfold KindRoute.label Element.labelTargets
  simp [Element.field_create, List.lookup_cons, noRouter, routeTargets, Value.isPresent]

/--
The label of a kind that records are selected from leads to the pipelines that select them, and to
the rest if there is one.
-/
theorem labelTargets_label_of_ne_nil {route : KindRoute} (splits : route.selected ≠ []) :
    route.label.labelTargets =
      route.selected.map (·.pipeline) ++
        (if route.hasFallback then [Label.applicationAll] else []) := by
  unfold KindRoute.label Element.labelTargets
  simp [Element.field_create, List.lookup_cons, isPresent_routerParam splits,
    routerTargets_routerParam splits, routeTargets]

theorem labelTargets_fallbackLabel (route : KindRoute) :
    route.fallbackLabel.labelTargets = route.targets := by
  unfold KindRoute.fallbackLabel Element.labelTargets
  simp [Element.field_create, List.lookup_cons, routeTargets, Value.isPresent]

theorem labelTargets_pipelineLabel {options : Options} (noDebug : options.debug = false)
    (spec : Spec) (routing : Routing) (pipeline : Pipeline) :
    (pipelineLabel spec routing options pipeline).labelTargets =
      pipeline.outputRefs.map Name.label := by
  unfold pipelineLabel Element.labelTargets
  simp [Element.field_create, List.lookup_cons, routeTargets, Value.isPresent, noDebug]

theorem labelTargets_legacyLabel (routing : Routing) (id description path : String) :
    (legacyLabel routing id description path).labelTargets = [] := by
  unfold legacyLabel Element.labelTargets
  simp [Element.field_create, List.lookup_cons, routeTargets, fanTargets, Value.isPresent]

/-! ### Labels of outputs -/

namespace Store

/-- The parameters that say where records are handed on to. -/
def handingParams : List String := ["label", "next", "routes", "router", "fan"]

/--
What the label of an output is, whatever its type: one that hands records on to no other label.
-/
structure IsFinal (store : Store) (element : Element) : Prop where
  id : element.id = store.id
  stage : element.stage = .sink
  targets : element.labelTargets = []

/-- Whether an element is the label of a store, with parameters that hand records on to nothing. -/
def IsSilentLabel (store : Store) (element : Element) : Prop :=
  ∃ template params, (∀ name ∈ params.map (·.1), name ∉ handingParams) ∧
    element = store.label template params

/-- The parameters of a silent label that would say where records are handed on to are missing. -/
theorem IsSilentLabel.field_eq_null {store : Store} {element : Element}
    (silent : store.IsSilentLabel element) {key : String} (handing : key ∈ handingParams) :
    (Value.object element.params).field key = .null := by
  obtain ⟨template, params, silent, rfl⟩ := silent
  have notId : key ≠ "id" := fun same => absurd (same ▸ handing) (by decide)
  have notInputs : key ≠ "inputs" := fun same => absurd (same ▸ handing) (by decide)
  have notStoreId : key ≠ "store_id" := fun same => absurd (same ▸ handing) (by decide)
  unfold label
  rw [Element.field_create _ _ _ _ _ _ notId notInputs]
  have notFound : ((params ++ [("store_id", Value.text store.storeId)]).reverse).lookup key =
      none := by
    rw [List.lookup_eq_none_iff]
    intro entry member
    rw [List.mem_reverse, List.mem_append, List.mem_singleton] at member
    rcases member with present | rfl
    · refine bne_iff_ne.mpr fun same => silent entry.1 (List.mem_map_of_mem present) ?_
      exact same ▸ handing
    · exact bne_iff_ne.mpr notStoreId
  rw [notFound]
  rfl

/-- A silent label names no label, and so it is final. -/
theorem IsSilentLabel.namedLabels_eq_nil {store : Store} {element : Element}
    (silent : store.IsSilentLabel element) : element.namedLabels = [] := by
  have absent : ∀ key ∈ handingParams, (Value.object element.params).field key = .null :=
    fun key handing => silent.field_eq_null handing
  simp only [handingParams, List.mem_cons, List.not_mem_nil, or_false, forall_eq_or_imp,
    forall_eq] at absent
  obtain ⟨noLabel, noNext, noRoutes, noRouter, noFan⟩ := absent
  simp only [Element.namedLabels, noLabel, noNext, noRoutes, noRouter, noFan]
  rfl

theorem IsSilentLabel.isFinal {store : Store} {element : Element}
    (silent : store.IsSilentLabel element) : store.IsFinal element where
  id := by
    obtain ⟨template, params, _, rfl⟩ := silent
    rfl
  stage := by
    obtain ⟨template, params, _, rfl⟩ := silent
    rfl
  targets := List.eq_nil_of_subset_nil
    (silent.namedLabels_eq_nil ▸ element.labelTargets_subset_namedLabels)

theorem IsSilentLabel.inputs {store : Store} {element : Element}
    (silent : store.IsSilentLabel element) : element.inputs = store.inputs := by
  obtain ⟨template, params, _, rfl⟩ := silent
  rfl

/-- A label that is made once something has been read is made from what was read. -/
theorem exists_of_label_made {α : Type} {element : Element} {first : Except CompileError α}
    {label : α → Element} (made : (first >>= fun value => .ok (label value)) = .ok element) :
    ∃ value, element = label value := by
  obtain ⟨value, _, isLabel⟩ := exists_of_bind_eq_ok made
  exact ⟨value, (Except.ok.inj isLabel).symm⟩

/-- The label of an output of any type is silent. -/
theorem isSilentLabel_outputLabel {store : Store} {element : Element}
    (made : store.outputLabel = .ok element) : store.IsSilentLabel element := by
  unfold outputLabel at made
  split at made
  · obtain ⟨url, rfl⟩ := exists_of_label_made made
    exact ⟨_, _, by simp [handingParams], rfl⟩
  · obtain ⟨address, rfl⟩ := exists_of_label_made made
    exact ⟨_, _, by simp [handingParams], rfl⟩
  · obtain ⟨address, rfl⟩ := exists_of_label_made made
    exact ⟨_, _, by simp [handingParams], rfl⟩
  · obtain ⟨brokers, rfl⟩ := exists_of_label_made made
    exact ⟨_, _, by simp [handingParams], rfl⟩
  · obtain ⟨url, rfl⟩ := exists_of_label_made made
    exact ⟨_, _, by simp [handingParams], rfl⟩
  · simp only [cloudwatchLabel] at made
    split at made
    · cases made
    · cases made
      exact ⟨_, _, by simp [handingParams], rfl⟩
  · cases made
    exact ⟨_, _, by simp [handingParams], rfl⟩
  · cases made

/-- The label of an output of any type is final. -/
theorem isFinal_outputLabel {store : Store} {element : Element}
    (made : store.outputLabel = .ok element) : store.IsFinal element :=
  (isSilentLabel_outputLabel made).isFinal

end Store

end Fluentd

end LogForwarder
