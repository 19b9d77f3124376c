/-
This file proves which kinds of records are in the stream that a pipeline reads for one of its
references: the kind that the reference resolves to, and no other. The streams of the kinds are fed
by sources and their common forms alone, which read from nothing but each other, so that no kind
comes to the stream of another one. Application inputs with a selector are branches of one router,
which reads the stream of applications; inputs of some sources only filter the stream of their kind.
What there can be up to the pipelines, and what a reference can lead to, is listed here once, so that
whatever is asked of these elements is answered case by case.
-/

import LogForwarder.Proofs.Clean
import LogForwarder.Proofs.Vector.Chain
import LogForwarder.Vector.Build

namespace LogForwarder

/-! ### Inputs -/

namespace Input

theorem exists_infrastructure (input : Input) (narrows : input.kind? = some .infrastructure) :
    ∃ section', input.infrastructure = some section' := by
  unfold kind? at narrows
  split at narrows
  · cases narrows
  · rename_i section' _ declared _
    exact ⟨section', declared⟩
  · cases narrows
  · cases narrows

theorem exists_audit (input : Input) (narrows : input.kind? = some .audit) :
    ∃ section', input.audit = some section' := by
  unfold kind? at narrows
  split at narrows
  · cases narrows
  · cases narrows
  · rename_i section' _ _ declared
    exact ⟨section', declared⟩
  · cases narrows

/-- An input that leaves out records of its kind, and has no selector, names some sources. -/
theorem sourceNames_ne_nil (input : Input) (kind : LogKind) (narrows : input.kind? = some kind)
    (noSelector : ¬input.hasSelector) (notWhole : input.wholeKind? = none) :
    Vector.sourceNames input ≠ [] := by
  unfold wholeKind? at notWhole
  unfold Vector.sourceNames
  rw [narrows] at notWhole ⊢
  cases kind with
  | application => simp only [if_neg noSelector, reduceCtorEq] at notWhole
  | infrastructure =>
    obtain ⟨section', declared⟩ := input.exists_infrastructure narrows
    rw [declared] at notWhole ⊢
    intro noNames
    have noSources : section'.sources = [] := List.map_eq_nil_iff.mp noNames
    simp only [Option.any_some, noSources, selectsAll, List.isEmpty_nil, Bool.true_or, if_true,
      reduceCtorEq] at notWhole
  | audit =>
    obtain ⟨section', declared⟩ := input.exists_audit narrows
    rw [declared] at notWhole ⊢
    intro noNames
    have noSources : section'.sources = [] := List.map_eq_nil_iff.mp noNames
    simp only [Option.any_some, noSources, selectsAll, List.isEmpty_nil, Bool.true_or, if_true,
      reduceCtorEq] at notWhole

end Input

namespace Vector

/-! ### The elements below the streams -/

/-- The elements that find container records and tell them apart. -/
def containerElements (kinds : List LogKind) : List Element :=
  [containerSource, containerForm, containerRouter kinds]

/-- The elements that find journal records. -/
def journalElements : List Element := journalSource :: journalForms

/-- The elements that find audit records. -/
def auditElements : List Element := AuditSource.all.map auditSource ++ AuditSource.all.map auditForm

/-- The elements that streams of kinds are fed by, directly or through each other. -/
def ground (kinds : List LogKind) : List Element :=
  (if needsContainers kinds then containerElements kinds else []) ++
    (if .infrastructure ∈ kinds then journalElements else []) ++
    (if .audit ∈ kinds then auditElements else [])

/-- Whether elements read from nothing but each other. -/
def IsClosed (elements : List Element) : Prop :=
  ∀ element ∈ elements, ∀ feeder ∈ element.feeders, feeder ∈ elements.map (·.id)

theorem isClosed_containerElements (kinds : List LogKind) : IsClosed (containerElements kinds) := by
  refine List.forall_mem_cons.mpr ⟨?_, List.forall_mem_cons.mpr ⟨?_, List.forall_mem_cons.mpr
    ⟨?_, fun _ member => absurd member List.not_mem_nil⟩⟩⟩
  · exact fun _ member => absurd member List.not_mem_nil
  · show ∀ feeder ∈ [Element.component Id.rawContainerLogs],
      feeder ∈ [Id.rawContainerLogs, Id.containerLogs, Id.routeContainerLogs]
    decide
  · show ∀ feeder ∈ [Element.component Id.containerLogs],
      feeder ∈ [Id.rawContainerLogs, Id.containerLogs, Id.routeContainerLogs]
    decide

theorem isClosed_journalElements : IsClosed journalElements := by
  unfold IsClosed
  decide

theorem isClosed_auditElements : IsClosed auditElements := by
  unfold IsClosed
  decide

theorem IsClosed.append {first second : List Element} (firstClosed : IsClosed first)
    (secondClosed : IsClosed second) : IsClosed (first ++ second) := by
  intro element member feeder feeds
  rw [List.map_append]
  rcases List.mem_append.mp member with inFirst | inSecond
  · exact List.mem_append_left _ (firstClosed element inFirst feeder feeds)
  · exact List.mem_append_right _ (secondClosed element inSecond feeder feeds)

theorem IsClosed.ite {elements : List Element} (closed : IsClosed elements) (condition : Prop)
    [Decidable condition] : IsClosed (if condition then elements else []) := by
  split
  · exact closed
  · exact fun _ member => absurd member List.not_mem_nil

theorem isClosed_ground (kinds : List LogKind) : IsClosed (ground kinds) :=
  (((isClosed_containerElements kinds).ite _).append (isClosed_journalElements.ite _)).append
    (isClosed_auditElements.ite _)

theorem name_mem_reserved (kind : LogKind) : kind.name ∈ Id.reserved := by
  cases kind <;> decide

/-- No stream of a kind is among the elements below the streams. -/
theorem name_notMem_ground (kinds : List LogKind) (kind : LogKind) :
    kind.name ∉ (ground kinds).map (·.id) := by
  unfold ground
  rw [List.map_append, List.map_append, List.mem_append, List.mem_append, not_or, not_or]
  refine ⟨⟨?_, ?_⟩, ?_⟩
  · split
    · show kind.name ∉ [Id.rawContainerLogs, Id.containerLogs, Id.routeContainerLogs]
      cases kind <;> decide
    · exact List.not_mem_nil
  · split
    · cases kind <;> decide
    · exact List.not_mem_nil
  · split
    · cases kind <;> decide
    · exact List.not_mem_nil

/-- The stream of a kind reads from the elements below the streams. -/
theorem feeders_kindStream (kinds : List LogKind) (kind : LogKind) (routed : kind ∈ kinds) :
    ∀ feeder ∈ (kindStream kind).feeders, feeder ∈ (ground kinds).map (·.id) := by
  intro feeder feeds
  unfold ground
  rw [List.map_append, List.map_append, List.mem_append, List.mem_append]
  have containers (needed : needsContainers kinds) (member : feeder = Id.routeContainerLogs) :
      feeder ∈ (if needsContainers kinds then containerElements kinds else []).map (·.id) := by
    rw [if_pos needed, member]
    show Id.routeContainerLogs ∈ [Id.rawContainerLogs, Id.containerLogs, Id.routeContainerLogs]
    decide
  cases kind with
  | application =>
    have ofRouter : feeder ∈
        [Element.component (branchOf Id.routeContainerLogs applicationBranch.name)] := feeds
    refine .inl (.inl (containers ?_ ?_))
    · unfold needsContainers
      rw [decide_eq_true routed, Bool.true_or]
    · exact (List.mem_singleton.mp ofRouter).trans (Element.component_branchOf _ (by decide))
  | infrastructure =>
    have ofRouterOrJournal : feeder ∈
        [Element.component (branchOf Id.routeContainerLogs infrastructureBranch.name),
          Element.component Id.journalLogs] := feeds
    rcases List.mem_cons.mp ofRouterOrJournal with router | journal
    · refine .inl (.inl (containers ?_ ?_))
      · unfold needsContainers
        rw [decide_eq_true routed, Bool.or_true]
      · exact router.trans (Element.component_branchOf _ (by decide))
    · refine .inl (.inr ?_)
      rw [if_pos routed, List.mem_singleton.mp journal]
      decide
  | audit =>
    have inAudits : ∀ feeder ∈ (kindStream .audit).feeders, feeder ∈ auditElements.map (·.id) := by
      decide
    refine .inr ?_
    rw [if_pos routed]
    exact inAudits feeder feeds

/-! ### Streams of kinds -/

section Streams

variable {spec : Spec} {arena : Arena}

theorem mem_upToPipelines_of_mem_ground {element : Element}
    (member : element ∈ ground spec.routedKinds) : element ∈ upToPipelines spec := by
  unfold upToPipelines rawSources commonForms streams
  unfold ground containerElements journalElements auditElements at member
  simp only [List.mem_append] at member ⊢
  rcases member with (containers | journal) | audits
  · by_cases needed : needsContainers spec.routedKinds
    · simp only [if_pos needed, List.mem_cons, List.not_mem_nil, or_false] at containers ⊢
      tauto
    · rw [if_neg needed] at containers
      exact absurd containers List.not_mem_nil
  · by_cases routed : LogKind.infrastructure ∈ spec.routedKinds
    · simp only [if_pos routed, List.mem_cons, List.not_mem_nil, or_false] at journal ⊢
      tauto
    · rw [if_neg routed] at journal
      exact absurd journal List.not_mem_nil
  · by_cases routed : LogKind.audit ∈ spec.routedKinds
    · simp only [if_pos routed, List.mem_append] at audits ⊢
      tauto
    · rw [if_neg routed] at audits
      exact absurd audits List.not_mem_nil

theorem mem_upToPipelines_of_mem_streams {element : Element}
    (member : element ∈ streams spec spec.routedKinds) : element ∈ upToPipelines spec :=
  List.mem_append_left _ (List.mem_append_right _ member)

theorem kindStream_mem_streams {kinds : List LogKind} {kind : LogKind} (routed : kind ∈ kinds) :
    kindStream kind ∈ streams spec kinds := by
  unfold streams
  refine List.mem_append_left _ (List.mem_append_left _ (List.mem_append_right _
    (List.mem_map_of_mem (List.mem_filter.mpr ⟨LogKind.mem_all kind, ?_⟩))))
  exact decide_eq_true routed

theorem kindStream_mem_upToPipelines {kind : LogKind} (routed : kind ∈ spec.routedKinds) :
    kindStream kind ∈ upToPipelines spec :=
  mem_upToPipelines_of_mem_streams (kindStream_mem_streams routed)

/-- A kind comes to the stream of a kind exactly if it is the same. -/
theorem reaches_name_iff (present : ∀ element ∈ upToPipelines spec, element ∈ arena.elements)
    (kind other : LogKind) (routed : other ∈ spec.routedKinds) :
    arena.Reaches kind.name other.name ↔ kind = other := by
  have stream : kindStream other ∈ arena.elements :=
    present _ (kindStream_mem_upToPipelines routed)
  have fromGround : ∀ feeder ∈ (kindStream other).feeders, ¬arena.Reaches kind.name feeder := by
    intro feeder feeds reaches
    exact name_notMem_ground spec.routedKinds kind
      (arena.mem_of_reaches_closed (ground spec.routedKinds)
        (fun element member => present element (mem_upToPipelines_of_mem_ground member))
        (isClosed_ground spec.routedKinds)
        (feeders_kindStream spec.routedKinds other routed feeder feeds) reaches)
  have reaches : arena.Reaches kind.name other.name ↔ _ := arena.reaches_iff stream kind.name
  rw [reaches]
  refine ⟨?_, ?_⟩
  · rintro (same | ⟨feeder, feeds, before⟩)
    · exact LogKind.name_injective same
    · exact absurd before (fromGround feeder feeds)
  · rintro rfl
    exact .inl rfl

/-! ### Streams of inputs -/

/-- The inputs that pipelines read are those that their references name. -/
theorem mem_referencedInputs {pipeline : Pipeline} (declared : pipeline ∈ spec.pipelines)
    {reference : String} (reads : reference ∈ pipeline.inputRefs) {input : Input}
    (found : spec.input? reference = some input) : input ∈ referencedInputs spec := by
  refine List.mem_filterMap.mpr ⟨reference, ?_, found⟩
  exact List.mem_eraseDups.mpr (List.mem_flatMap.mpr ⟨pipeline, declared, reads⟩)

/-- An input with a selector that a pipeline reads has a branch of the router. -/
theorem mem_selectorInputs {pipeline : Pipeline} (declared : pipeline ∈ spec.pipelines)
    {reference : String} (reads : reference ∈ pipeline.inputRefs) {input : Input}
    (found : spec.input? reference = some input) (selector : input.hasSelector) :
    input ∈ selectorInputs spec := by
  refine List.mem_filter.mpr ⟨List.mem_filterMap.mpr ⟨reference, ?_, found⟩, selector⟩
  rw [mem_sortedTexts]
  exact List.mem_eraseDups.mpr (List.mem_flatMap.mpr ⟨pipeline, declared, reads⟩)

/-- An input that leaves out records of its kind, and has no selector, has a filter. -/
theorem mem_sourceInputs {pipeline : Pipeline} (declared : pipeline ∈ spec.pipelines)
    {reference : String} (reads : reference ∈ pipeline.inputRefs) {input : Input}
    (found : spec.input? reference = some input) {kind : LogKind}
    (narrows : input.kind? = some kind) (noSelector : ¬input.hasSelector)
    (partly : input.wholeKind? = none) : input ∈ sourceInputs spec := by
  refine List.mem_filter.mpr ⟨mem_referencedInputs declared reads found, ?_⟩
  rw [partly, Option.isNone_none, Bool.and_true, Bool.not_eq_true', ← Bool.not_eq_true,
    List.isEmpty_iff]
  exact input.sourceNames_ne_nil kind narrows noSelector partly

/-- An input with a filter is one that the checks take to have an id. -/
theorem own_of_mem_sourceInputs {input : Input} (filtered : input ∈ sourceInputs spec) :
    input ∈ spec.inputs ∧ Spec.hasOwnComponent input := by
  obtain ⟨referenced, partly⟩ := List.mem_filter.mp filtered
  obtain ⟨reference, _, found⟩ := List.mem_filterMap.mp referenced
  refine ⟨List.mem_of_find?_eq_some found, ?_⟩
  rw [Bool.and_eq_true, Bool.not_eq_true'] at partly
  unfold Spec.hasOwnComponent
  rw [partly.2, Bool.and_true]
  have names := partly.1
  unfold sourceNames at names
  split at names
  · rename_i infrastructure
    rw [infrastructure]
    rfl
  · rename_i audit
    rw [audit]
    rfl
  · cases names

theorem mem_selectorRouter {input : Input} (selects : input ∈ selectorInputs spec) :
    route Id.routeApplicationLogs [LogKind.application.name]
      ((selectorInputs spec).map selectorBranch) ∈ selectorRouter spec := by
  unfold selectorRouter
  rw [if_neg (by
    rw [List.isEmpty_iff]
    exact List.ne_nil_of_mem (List.mem_map_of_mem selects))]
  exact List.mem_singleton_self _

theorem eq_of_mem_selectorRouter {element : Element} (isRouter : element ∈ selectorRouter spec) :
    element = route Id.routeApplicationLogs [LogKind.application.name]
      ((selectorInputs spec).map selectorBranch) := by
  unfold selectorRouter at isRouter
  rw [List.mem_ite_nil_left, List.mem_singleton] at isRouter
  exact isRouter.2

/-- Applications and no other kind come to the router of application inputs. -/
theorem reaches_router_iff (present : ∀ element ∈ upToPipelines spec, element ∈ arena.elements)
    (kind : LogKind) (routed : .application ∈ spec.routedKinds) {input : Input}
    (selects : input ∈ selectorInputs spec) :
    arena.Reaches kind.name Id.routeApplicationLogs ↔ kind = .application := by
  have router : route Id.routeApplicationLogs [LogKind.application.name]
      ((selectorInputs spec).map selectorBranch) ∈ arena.elements :=
    present _ (mem_upToPipelines_of_mem_streams
      (List.mem_append_left _ (List.mem_append_right _ (mem_selectorRouter selects))))
  have reaches : arena.Reaches kind.name Id.routeApplicationLogs ↔ _ :=
    arena.reaches_iff router kind.name
  have feeders : (route Id.routeApplicationLogs [LogKind.application.name]
      ((selectorInputs spec).map selectorBranch)).feeders = [LogKind.application.name] := by
    show [Element.component LogKind.application.name] = _
    rw [Element.component_eq_self (by decide)]
  have different : kind.name ≠ Id.routeApplicationLogs := by cases kind <;> decide
  rw [reaches, feeders]
  simp only [List.mem_singleton, exists_eq_left]
  rw [reaches_name_iff present kind .application routed]
  exact or_iff_right different

/-- The kind of an input of some sources comes to its filter, and no other kind. -/
theorem reaches_sourceFilter_iff
    (present : ∀ element ∈ upToPipelines spec, element ∈ arena.elements) (kind other : LogKind)
    (routed : other ∈ spec.routedKinds) {input : Input} (filters : input ∈ sourceInputs spec)
    (narrows : input.kind? = some other) (different : kind.name ≠ Name.componentId input.name) :
    arena.Reaches kind.name (Name.componentId input.name) ↔ kind = other := by
  have isPresent : sourceFilter input ∈ arena.elements :=
    present _ (mem_upToPipelines_of_mem_streams
      (List.mem_append_right _ (List.mem_map_of_mem filters)))
  have reaches : arena.Reaches kind.name (Name.componentId input.name) ↔ _ :=
    arena.reaches_iff isPresent kind.name
  have feeders : (sourceFilter input).feeders = [other.name] := by
    show (((input.kind?.map (·.name)).toList).map Element.component) = _
    rw [narrows]
    show [Element.component other.name] = _
    rw [Element.component_eq_self (by cases other <;> decide)]
  rw [reaches, feeders]
  simp only [List.mem_singleton, exists_eq_left]
  rw [reaches_name_iff present kind other routed]
  exact or_iff_right different

/-- The elements that there can be up to the pipelines, and the pipelines. -/
inductive IsUpToPipelines (spec : Spec) : Element → Prop
  | containerSource : IsUpToPipelines spec containerSource
  | journalSource : IsUpToPipelines spec journalSource
  | auditSource (source : AuditSource) : IsUpToPipelines spec (auditSource source)
  | containerForm : IsUpToPipelines spec containerForm
  | journalForm {element : Element} (isForm : element ∈ journalForms) :
      IsUpToPipelines spec element
  | auditForm (source : AuditSource) : IsUpToPipelines spec (auditForm source)
  | containerRouter : IsUpToPipelines spec (containerRouter spec.routedKinds)
  | kindStream (kind : LogKind) : IsUpToPipelines spec (kindStream kind)
  | inputRouter
      (isRouter : route Id.routeApplicationLogs [LogKind.application.name]
        ((selectorInputs spec).map selectorBranch) ∈ selectorRouter spec) :
      IsUpToPipelines spec (route Id.routeApplicationLogs [LogKind.application.name]
        ((selectorInputs spec).map selectorBranch))
  | sourceFilter {input : Input} (filters : input ∈ sourceInputs spec) :
      IsUpToPipelines spec (sourceFilter input)
  | pipeline {pipeline : Pipeline} (declared : pipeline ∈ spec.pipelines) :
      IsUpToPipelines spec (pipelineRemap spec pipeline)

theorem isUpToPipelines_of_mem {element : Element} (member : element ∈ upToPipelines spec) :
    IsUpToPipelines spec element := by
  unfold upToPipelines rawSources commonForms streams pipelines at member
  simp only [List.mem_append, List.mem_ite_nil_right, List.mem_singleton, List.mem_map] at member
  rcases member with ((raw | common) | stream) | ⟨_, declared, rfl⟩
  · rcases raw with (⟨_, rfl⟩ | ⟨_, rfl⟩) | ⟨_, source, _, rfl⟩
    · exact .containerSource
    · exact .journalSource
    · exact .auditSource source
  · rcases common with (⟨_, rfl⟩ | ⟨_, isForm⟩) | ⟨_, source, _, rfl⟩
    · exact .containerForm
    · exact .journalForm isForm
    · exact .auditForm source
  · rcases stream with ((⟨_, rfl⟩ | ⟨kind, _, rfl⟩) | isRouter) | ⟨_, filters, rfl⟩
    · exact .containerRouter
    · exact .kindStream kind
    · obtain rfl := eq_of_mem_selectorRouter isRouter
      exact .inputRouter isRouter
    · exact .sourceFilter filters
  · exact .pipeline declared

/-- What pipelines can read for a reference that resolves to some kind. -/
inductive IsStreamOf (spec : Spec) (kind : LogKind) : String → Prop
  /-- Everything of the kind. -/
  | ofKind : IsStreamOf spec kind kind.name
  /-- A branch of the router of application inputs. -/
  | ofSelector {input : Input} (selects : input ∈ selectorInputs spec)
      (isApplication : kind = .application) :
      IsStreamOf spec kind (branchOf Id.routeApplicationLogs (Name.componentId input.name))
  /-- The filter of an input of some sources. -/
  | ofSources {input : Input} (filters : input ∈ sourceInputs spec)
      (narrows : input.kind? = some kind) : IsStreamOf spec kind (Name.componentId input.name)

/-- A pipeline reads a stream of the kind that its reference resolves to. -/
theorem isStreamOf_streamOf (clean : spec.IsClean) {pipeline : Pipeline}
    (declared : pipeline ∈ spec.pipelines) {reference : String}
    (reads : reference ∈ pipeline.inputRefs) {kind : LogKind}
    (resolved : spec.refKind? reference = some kind) :
    IsStreamOf spec kind (streamOf spec reference) := by
  unfold streamOf
  cases found : spec.input? reference with
  | none =>
    cases reserved : LogKind.ofName? reference with
    | none =>
      rw [spec.refKind?_of_ofName?_none reserved, found] at resolved
      cases resolved
    | some named =>
      rw [spec.refKind?_of_ofName? reserved, Option.some.injEq] at resolved
      subst resolved
      rw [← LogKind.name_of_ofName? reserved]
      exact .ofKind
  | some input =>
    have unreserved := clean.ofName?_of_input? found
    have narrows : input.kind? = some kind := by
      rw [spec.refKind?_of_ofName?_none unreserved, found] at resolved
      exact resolved
    by_cases selector : input.hasSelector
    · have isApplication := input.kind?_of_hasSelector (narrows ▸ rfl) selector
      rw [narrows, Option.some.injEq] at isApplication
      simp only [if_pos selector]
      exact .ofSelector (mem_selectorInputs declared reads found selector) isApplication
    · simp only [if_neg selector, unreserved, Option.isSome_none, Bool.false_eq_true, if_false]
      cases whole : input.wholeKind? with
      | some wholeKind =>
        have sameAsWhole := input.kind?_of_wholeKind? whole
        rw [narrows, Option.some.injEq] at sameAsWhole
        subst sameAsWhole
        exact .ofKind
      | none =>
        exact .ofSources (mem_sourceInputs declared reads found narrows selector whole) narrows

/--
What comes to the stream that a pipeline reads for one of its references: the kind that the
reference resolves to.
-/
theorem reaches_streamOf_iff (ready : spec.IsReady .vector)
    (present : ∀ element ∈ upToPipelines spec, element ∈ arena.elements) {pipeline : Pipeline}
    (declared : pipeline ∈ spec.pipelines) {reference : String}
    (reads : reference ∈ pipeline.inputRefs) (kind : LogKind) :
    arena.Reaches kind.name (Element.component (streamOf spec reference)) ↔
      spec.refKind? reference = some kind := by
  obtain ⟨other, resolved⟩ := Option.isSome_iff_exists.mp
    (ready.clean.resolves declared reference reads)
  have routed : other ∈ spec.routedKinds :=
    (spec.mem_routedKinds other).mpr ⟨pipeline, declared, reference, reads, resolved⟩
  have sameKind : spec.refKind? reference = some kind ↔ kind = other := by
    rw [resolved, Option.some.injEq]
    exact eq_comm
  rw [sameKind]
  have isStream := isStreamOf_streamOf ready.clean declared reads resolved
  generalize streamOf spec reference = stream at isStream ⊢
  cases isStream with
  | ofKind =>
    rw [Element.component_eq_self (by cases other <;> decide)]
    exact reaches_name_iff present kind other routed
  | ofSelector selects isApplication =>
    subst isApplication
    rw [Element.component_branchOf _ (by decide)]
    exact reaches_router_iff present kind routed selects
  | @ofSources input filters narrows =>
    obtain ⟨isInput, own⟩ := own_of_mem_sourceInputs filters
    have different : kind.name ≠ Name.componentId input.name :=
      ready.ne_input_of_reserved isInput own (name_mem_reserved kind)
    rw [Element.component_eq_self (Name.dot_notMem_componentId _)]
    exact reaches_sourceFilter_iff present kind other routed filters narrows different

end Streams

end Vector

end LogForwarder
