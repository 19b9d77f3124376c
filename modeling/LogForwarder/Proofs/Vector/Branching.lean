/-
This file finds out when every application input keeps a branch of its own. Branches are called by
the names of inputs, in which every character that cannot stand in an id has become an underscore,
and the checks do not look for application inputs that one branch would be left for. All other
routers have the kinds of records for branches, which differ.
-/

import LogForwarder.Proofs.Vector.Embedding
import LogForwarder.Proofs.Vector.Quotation

namespace LogForwarder

namespace Vector

/-! ### Routers -/

/--
The routers that there are: that of containers, that of application inputs, and one for each output
of OpenTelemetry records.
-/
inductive IsRouter (spec : Spec) (secrets : SecretStore) (options : Options) : Element → Prop
  | ofContainers : IsRouter spec secrets options (containerRouter spec.routedKinds)
  | ofInputs (router : Element) (member : router ∈ selectorRouter spec) :
      IsRouter spec secrets options router
  | ofOutput (output : Output) (routed : output ∈ spec.routedOutputs) :
      IsRouter spec secrets options (Sink.ofOutput spec secrets options output).rerouter

variable {spec : Spec} {secrets : SecretStore} {options : Options} {arena : Arena}
  {element : Element}

theorem isRouter_of_mem_upToPipelines (member : element ∈ upToPipelines spec)
    (isRoute : element.template = Templates.route.name) :
    IsRouter spec secrets options element := by
  have notRemap : Templates.remap.name ≠ Templates.route.name := by decide
  have notFilter : Templates.filter.name ≠ Templates.route.name := by decide
  have notFile : Templates.file.name ≠ Templates.route.name := by decide
  cases isUpToPipelines_of_mem member with
  | containerSource | journalSource => exact absurd isRoute (by decide)
  | auditSource => exact absurd isRoute notFile
  | containerForm | auditForm | kindStream | pipeline => exact absurd isRoute notRemap
  | journalForm isForm =>
    rcases List.mem_pair.mp isForm with rfl | rfl
    · exact absurd isRoute notFilter
    · exact absurd isRoute notRemap
  | containerRouter => exact .ofContainers
  | inputRouter isRouter => exact .ofInputs _ isRouter
  | sourceFilter => exact absurd isRoute notFilter

namespace Sink

variable {sink : Sink}

/-- A tail has no other router than the one that tells the kinds of records apart. -/
theorem TailShape.eq_rerouter {suffixes : List String} {elements : List Element}
    (shape : sink.TailShape suffixes elements)
    (noSink : ∀ element ∈ elements, element.stage = .sink →
      element.template ≠ Templates.route.name)
    (member : element ∈ elements) (isRoute : element.template = Templates.route.name) :
    element = sink.rerouter := by
  have notRemap : Templates.remap.name ≠ Templates.route.name := by decide
  have notSink (extras : Extras) (last : Element) (stage : last.stage = .sink)
      (isLast : element = sink.finish extras last) : element = sink.rerouter := by
    refine absurd isRoute (noSink element member ?_)
    rw [isLast, (sink.finish_keeps extras last).2.1, stage]
  cases shape with
  | alone extras last id stage =>
    exact notSink extras last stage (List.mem_singleton.mp member)
  | behindRemap suffix program _ extras last id stage =>
    rcases List.mem_pair.mp member with rfl | isLast
    · exact absurd isRoute notRemap
    · exact notSink extras last stage isLast
  | behindRouter program extras last id stage =>
    rcases List.mem_cons.mp member with isRouter | later
    · exact isRouter
    · rcases List.mem_pair.mp later with rfl | isLast
      · exact absurd isRoute notRemap
      · exact notSink extras last stage isLast

theorem eq_rerouter_of_mem_chain {elements : List Element} (made : sink.chain = .ok elements)
    (member : element ∈ elements) (isRoute : element.template = Templates.route.name) :
    element = sink.rerouter := by
  unfold chain at made
  obtain ⟨tail, tailMade, made⟩ := exists_of_bind_eq_ok made
  cases made
  rcases List.mem_append.mp member with inHead | inTail
  · rcases List.mem_pair.mp inHead with rfl | rfl <;>
      exact absurd isRoute (show Templates.remap.name ≠ Templates.route.name by decide)
  · refine (shape_tail tailMade).eq_rerouter (fun other inTail isSink isRoute => ?_) inTail isRoute
    refine noTransform_of_tail tailMade other inTail isSink ?_
    rw [isRoute]
    decide

end Sink

/-- Nothing else in a configuration is a router. -/
theorem isRouter_of_build (built : build spec secrets options = .ok arena)
    (member : element ∈ arena.elements) (isRoute : element.template = Templates.route.name) :
    IsRouter spec secrets options element := by
  rcases mem_cases_of_build built member with
    early | ⟨_, isConsole⟩ | ⟨_, ⟨output, routed, chain, made, inChain⟩ | isMetric⟩
  · exact isRouter_of_mem_upToPipelines early isRoute
  · obtain ⟨pipeline, _, rfl⟩ := List.mem_map.mp isConsole
    exact absurd isRoute (show Templates.console.name ≠ Templates.route.name by decide)
  · rw [Sink.eq_rerouter_of_mem_chain made inChain isRoute]
    exact .ofOutput output routed
  · have noRoute : ∀ metric ∈ metrics options, metric.template ≠ Templates.route.name := by
      unfold metrics
      simp only [List.forall_mem_cons]
      exact ⟨show Templates.internalMetrics.name ≠ _ by decide,
        show Templates.remap.name ≠ _ by decide, show Templates.prometheus.name ≠ _ by decide,
        nofun⟩
    exact absurd isRoute (noRoute element isMetric)

/-! ### Branches -/

theorem nodup_branches_containerRouter (kinds : List LogKind) :
    (containerRouter kinds).branches.Nodup := by
  have among : ((if .application ∈ kinds then [applicationBranch] else []) ++
      (if .infrastructure ∈ kinds then [infrastructureBranch] else [])).Sublist
        [applicationBranch, infrastructureBranch] :=
    (sublist_ite _ [applicationBranch]).append (sublist_ite _ [infrastructureBranch])
  have distinct : ([applicationBranch, infrastructureBranch].map (·.name)).Nodup := by decide
  unfold containerRouter
  rw [Element.branches_route]
  exact distinct.sublist (among.map (·.name))

theorem Sink.nodup_branches_rerouter {sink : Sink} (distinct : sink.kinds.Nodup) :
    sink.rerouter.branches.Nodup := by
  unfold rerouter
  rw [Element.branches_route, List.map_map]
  refine distinct.map fun first second same => LogKind.name_injective ?_
  simpa [name_otlpBranch] using same

/-! ### Application inputs -/

/-- Whether a pipeline reads an application input by a reference. -/
structure ReadsSelector (spec : Spec) (reference : String) (input : Input) : Prop where
  read : ∃ pipeline ∈ spec.pipelines, reference ∈ pipeline.inputRefs
  found : spec.input? reference = some input
  selector : input.hasSelector

theorem exists_readsSelector_iff {input : Input} :
    (∃ reference, ReadsSelector spec reference input) ↔ input ∈ selectorInputs spec := by
  refine ⟨?_, fun member => ?_⟩
  · rintro ⟨reference, ⟨pipeline, declared, reads⟩, found, selector⟩
    exact mem_selectorInputs declared reads found selector
  · obtain ⟨referenced, selector⟩ := List.mem_filter.mp member
    obtain ⟨reference, isReference, found⟩ := List.mem_filterMap.mp referenced
    rw [mem_sortedTexts, referenceNames, List.mem_eraseDups] at isReference
    exact ⟨reference, List.mem_flatMap.mp isReference, found, selector⟩

/-- Pipelines read the same application inputs before and after a spec is normalized. -/
theorem readsSelector_normalize_iff (clean : spec.normalize.IsClean) {reference : String}
    {input : Input} :
    ReadsSelector spec.normalize reference input ↔ ReadsSelector spec reference input := by
  refine ⟨fun ⟨⟨part, member, reads⟩, found, selector⟩ => ⟨?_, found, selector⟩,
    fun ⟨⟨original, declared, reads⟩, found, selector⟩ => ⟨?_, found, selector⟩⟩
  · obtain ⟨original, declared, other, given, normal⟩ := spec.exists_written member reads
    refine ⟨original, declared, ?_⟩
    rcases spec.normalRef_cases other with same | ⟨kind, _, renamed⟩
    · rwa [← normal, same]
    · -- Then the input would be called like a kind, which is reserved.
      have reserved := clean.ofName?_of_input? found
      rw [← normal, renamed, LogKind.ofName?_name] at reserved
      cases reserved
  · obtain ⟨part, member, inPart⟩ := spec.exists_reader declared reads
    have narrows := clean.inputNarrows input (List.mem_of_find?_eq_some found)
    have whole := input.wholeKind?_of_hasSelector narrows selector
    have same : spec.normalRef reference = reference := by
      rw [spec.normalRef_of_ofName?_none (clean.ofName?_of_input? found), found, Option.bind_some,
        whole]
      rfl
    exact ⟨part, member, same ▸ inPart⟩

/-- Whether no two application inputs that pipelines read have names that turn into one id. -/
def HasOwnBranches (spec : Spec) : Prop :=
  ∀ first ∈ selectorInputs spec, ∀ second ∈ selectorInputs spec,
    Name.componentId first.name = Name.componentId second.name → first = second

instance (spec : Spec) : Decidable (HasOwnBranches spec) :=
  inferInstanceAs (Decidable (∀ first ∈ selectorInputs spec, ∀ second ∈ selectorInputs spec,
    Name.componentId first.name = Name.componentId second.name → first = second))

theorem hasOwnBranches_normalize_iff (clean : spec.normalize.IsClean) :
    HasOwnBranches spec.normalize ↔ HasOwnBranches spec := by
  have same (input : Input) :
      input ∈ selectorInputs spec.normalize ↔ input ∈ selectorInputs spec := by
    simp only [← exists_readsSelector_iff, readsSelector_normalize_iff clean]
  simp only [HasOwnBranches, same]

theorem componentId_of_forall_isBareKey {name : String}
    (bare : ∀ c ∈ name.toList, Toml.isBareKey c) : Name.componentId name = name := by
  have same : name.toList.map Name.componentChar = name.toList :=
    List.map_congr_left (g := id) (fun c member => if_pos (bare c member)) |>.trans (List.map_id _)
  rw [Name.componentId, same, String.ofList_toList]

/-- Inputs whose names can be ids as they are have branches of their own. -/
theorem hasOwnBranches_of_forall_isBareKey (distinct : (spec.inputs.map (·.name)).Nodup)
    (bare : ∀ input ∈ spec.inputs, ∀ c ∈ input.name.toList, Toml.isBareKey c) :
    HasOwnBranches spec := by
  intro first firstSelects second secondSelects same
  have declared (input : Input) (selects : input ∈ selectorInputs spec) : input ∈ spec.inputs := by
    obtain ⟨reference, reads⟩ := exists_readsSelector_iff.mpr selects
    exact List.mem_of_find?_eq_some reads.found
  have firstDeclared := declared first firstSelects
  have secondDeclared := declared second secondSelects
  rw [componentId_of_forall_isBareKey (bare first firstDeclared),
    componentId_of_forall_isBareKey (bare second secondDeclared)] at same
  exact List.inj_on_of_nodup_map distinct firstDeclared secondDeclared same

/-! ### Inputs that are kept apart -/

/--
Whether a configuration keeps application inputs apart: no router has two branches of one name, no
two inputs are read through one stream, and the one branch that the stream of an input comes from is
that with the condition of the input.
-/
structure KeepsApart (spec : Spec) (arena : Arena) : Prop where
  branches : ∀ element ∈ arena.elements, element.branches.Nodup
  streams : ∀ first second reference other, ReadsSelector spec reference first →
    ReadsSelector spec other second → streamOf spec reference = streamOf spec other →
      first = second
  selectors : ∀ reference input, ReadsSelector spec reference input →
    ∃ router, arena.get? Id.routeApplicationLogs = some router ∧
      ∀ branch, (branch ∈ routesOf router ∧
          branchOf router.id branch.name = streamOf spec reference) ↔
        branch = selectorBranch input

theorem keepsApart_normalize_iff (clean : spec.normalize.IsClean) :
    KeepsApart spec.normalize arena ↔ KeepsApart spec arena := by
  have reads : ReadsSelector spec.normalize = ReadsSelector spec :=
    funext₂ fun _ _ => propext (readsSelector_normalize_iff clean)
  refine ⟨fun apart => ⟨apart.branches, ?_, ?_⟩, fun apart => ⟨apart.branches, ?_, ?_⟩⟩
  · exact reads ▸ apart.streams
  · exact reads ▸ apart.selectors
  · rw [reads]
    exact apart.streams
  · rw [reads]
    exact apart.selectors

theorem nodup_selectorInputs (spec : Spec) : (selectorInputs spec).Nodup := by
  have names : ((selectorInputs spec).map (·.name)).Nodup :=
    (Dictionary.nodup_keys _).sublist
      ((List.filter_sublist.map _).trans (sublist_names spec _))
  exact names.of_map _

theorem nodup_branches_selectorRouter_iff (member : element ∈ selectorRouter spec) :
    element.branches.Nodup ↔ HasOwnBranches spec := by
  unfold selectorRouter at member
  simp only [List.mem_ite_nil_left, List.mem_singleton] at member
  obtain ⟨_, rfl⟩ := member
  rw [Element.branches_route, List.map_map]
  exact ⟨fun distinct _ first _ second => List.inj_on_of_nodup_map distinct first second,
    fun own => (nodup_selectorInputs spec).map_on own⟩

/-- All routers but that of application inputs have branches of different names anyway. -/
theorem nodup_branches_of_build (built : build spec secrets options = .ok arena)
    (own : HasOwnBranches spec) : ∀ element ∈ arena.elements, element.branches.Nodup := by
  intro element member
  by_cases isRoute : element.template = Templates.route.name
  · cases isRouter_of_build built member isRoute with
    | ofContainers => exact nodup_branches_containerRouter _
    | ofInputs _ isRouter => exact (nodup_branches_selectorRouter_iff isRouter).mpr own
    | ofOutput output =>
      refine Sink.nodup_branches_rerouter ?_
      show (spec.routes.kindsFor spec output.name).Nodup
      exact List.Nodup.filter _ LogKind.nodup_all
  · unfold Element.branches
    rw [if_neg isRoute]
    exact List.nodup_nil

/-- Application inputs are kept apart if no two of their names turn into one id, and only then. -/
theorem keepsApart_iff (built : build spec secrets options = .ok arena) :
    KeepsApart spec arena ↔ HasOwnBranches spec := by
  refine ⟨fun apart first firstSelects second secondSelects same => ?_, fun own => ⟨?_, ?_, ?_⟩⟩
  · obtain ⟨reference, firstReads⟩ := exists_readsSelector_iff.mpr firstSelects
    obtain ⟨other, secondReads⟩ := exists_readsSelector_iff.mpr secondSelects
    refine apart.streams first second reference other firstReads secondReads ?_
    rw [streamOf_of_hasSelector firstReads.found firstReads.selector,
      streamOf_of_hasSelector secondReads.found secondReads.selector, same]
  · exact nodup_branches_of_build built own
  · intro first second reference other firstReads secondReads same
    rw [streamOf_of_hasSelector firstReads.found firstReads.selector,
      streamOf_of_hasSelector secondReads.found secondReads.selector] at same
    exact own first (exists_readsSelector_iff.mp ⟨_, firstReads⟩) second
      (exists_readsSelector_iff.mp ⟨_, secondReads⟩) (Element.branchOf_inj same)
  · intro reference input reads
    have selects := exists_readsSelector_iff.mp ⟨_, reads⟩
    have present := present_of_build built _ (mem_upToPipelines_of_mem_streams
      (List.mem_append_left _ (List.mem_append_right _ (mem_selectorRouter selects))))
    refine ⟨_, arena.get?_of_mem present, fun branch => ?_⟩
    rw [routesOf_route, streamOf_of_hasSelector reads.found reads.selector]
    refine ⟨?_, ?_⟩
    · rintro ⟨isBranch, same⟩
      obtain ⟨other, otherSelects, rfl⟩ := List.mem_map.mp isBranch
      rw [own other otherSelects input selects (Element.branchOf_inj same)]
    · rintro rfl
      exact ⟨List.mem_map_of_mem selects, rfl⟩

end Vector

namespace Spec

/--
A configuration keeps the application inputs of a spec apart exactly if no two of those that
pipelines read have names that turn into one id, which the checks do not look at.
-/
theorem keepsApart_iff_hasOwnBranches (spec : Spec) (secrets : SecretStore) (options : Options)
    (clean : spec.problems secrets options .vector = []) {arena : Arena}
    (built : Vector.build spec.normalize secrets options = .ok arena) :
    Vector.KeepsApart spec arena ↔ Vector.HasOwnBranches spec := by
  have normalClean := (spec.isReady_normalize clean).clean
  rw [← Vector.keepsApart_normalize_iff normalClean, Vector.keepsApart_iff built,
    Vector.hasOwnBranches_normalize_iff normalClean]

/-- Records of one application for each of some names, on their way to an output. -/
def fromApplications (names : List String) : Spec where
  inputs := names.map fun name => ⟨name, some ⟨[name], none⟩, none, none⟩
  outputs := [{ Output.bare "web" .http with url? := some "https://[::1]" }]
  pipelines := [⟨some "all", names, ["web"], ∅, none⟩]
  tuning := none

/-- A dot and a dash do not turn into the same character. -/
theorem keepsApart_fromApplications :
    ∃ arena, Vector.build (fromApplications ["shop.web", "shop-web", "pay"]).normalize ∅
        .standard = .ok arena ∧
      Vector.KeepsApart (fromApplications ["shop.web", "shop-web", "pay"]) arena := by
  have succeeds : (Vector.build (fromApplications ["shop.web", "shop-web", "pay"]).normalize ∅
      .standard).isOk := by
    decide
  obtain ⟨arena, built⟩ := exists_of_isOk succeeds
  refine ⟨arena, built, ?_⟩
  exact (keepsApart_iff_hasOwnBranches _ ∅ .standard (by decide) built).mpr
    (by decide)

/-- A dot turns into an underscore, so that two applications get one branch and one stream. -/
theorem exists_not_keepsApart :
    (fromApplications ["shop.web", "shop_web"]).problems ∅ .standard .vector = [] ∧
      ∃ arena, Vector.build (fromApplications ["shop.web", "shop_web"]).normalize ∅ .standard =
          .ok arena ∧
        (∃ router ∈ arena.elements, ¬router.branches.Nodup) ∧
        Vector.streamOf (fromApplications ["shop.web", "shop_web"]) "shop.web" =
          Vector.streamOf (fromApplications ["shop.web", "shop_web"]) "shop_web" := by
  have succeeds : (Vector.build (fromApplications ["shop.web", "shop_web"]).normalize ∅
      .standard).isOk := by
    decide
  obtain ⟨arena, built⟩ := exists_of_isOk succeeds
  obtain ⟨router, member, isRouter, _⟩ := Vector.exists_selectorRouter built (by decide)
  refine ⟨by decide, arena, built, ⟨router, member, ?_⟩, by decide⟩
  rw [Vector.nodup_branches_selectorRouter_iff isRouter]
  decide

end Spec

end LogForwarder
