/-
This file proves when the pipelines of a normal form have different names. Normalization makes names
up in two ways: a pipeline without a name is named after its position, and a pipeline that is split
leaves its name to its first part, while every later part is named after it and the kind that the
part is for. Names that are made up end in a digit or in the name of a kind, so that no two
pipelines without a name, and no two parts, get the same one. But nothing looks at the names that
were given: pipelines keep their names apart exactly if none was given a name that is made up for
another.
-/

import LogForwarder.Proofs.AsWritten
import LogForwarder.Proofs.GeneratedId
import LogForwarder.Proofs.Numeral
import LogForwarder.Proofs.Route
import Mathlib.Data.List.Perm.Basic

namespace LogForwarder

/-! ### Names of positions -/

/-- The name of a pipeline at a position that was given none. -/
def positionName (position : Nat) : String := s!"pipeline_{position}"

theorem toList_positionName (position : Nat) :
    (positionName position).toList = "pipeline_".toList ++ Nat.toDigits 10 position := by
  show ("pipeline_" ++ toString position).toList = _
  rw [String.toList_append, Text.toList_toString]

theorem positionName_injective : Function.Injective positionName := by
  intro first second equal
  have digits := congrArg String.toList equal
  rw [toList_positionName, toList_positionName, List.append_right_inj] at digits
  rw [← Text.digitsValue_toDigits first, digits, Text.digitsValue_toDigits]

/-- The name of a position ends in a digit, and that of a tenant in a letter. -/
theorem positionName_ne_tenantName (position : Nat) (name : String) (kind : LogKind) :
    positionName position ≠ tenantName name kind := by
  intro equal
  have characters := congrArg String.toList equal
  rw [toList_positionName, toList_tenantName] at characters
  have lastOfBoth := congrArg List.getLast? characters
  rw [List.getLast?_append_of_ne_nil _ (Text.toDigits_ne_nil position),
    List.getLast?_append_of_ne_nil _ (List.cons_ne_nil _ _)] at lastOfBoth
  have isDigit := Text.isDigit_of_mem_toDigits (List.mem_of_getLast? (lastOfBoth.trans
    (List.getLast?_eq_some_getLast (List.cons_ne_nil '-' kind.name.toList))))
  revert isDigit
  cases kind <;> decide

/-- A pipeline without a name gets that of its position, and any other one keeps its own. -/
theorem Pipeline.name_named (pipeline : Pipeline) (position : Nat) :
    (pipeline.named position).name =
      if pipeline.name = "" then positionName position else pipeline.name := by
  split
  · next unnamed =>
    unfold named
    rw [if_pos (String.isEmpty_iff.mpr unnamed)]
    rfl
  · next named => rw [pipeline.named_eq_self position named]

/-! ### Parts besides the first -/

/-- What comes after the first item of a list is what some item comes before. -/
theorem mem_tail_iff_sublist {α : Type} (items : List α) (item : α) :
    item ∈ items.tail ↔ ∃ first, [first, item].Sublist items := by
  cases items with
  | nil =>
    refine iff_of_false List.not_mem_nil ?_
    rintro ⟨first, sublist⟩
    exact List.cons_ne_nil _ _ (List.sublist_nil.mp sublist)
  | cons head rest =>
    refine ⟨fun later => ⟨head, (List.singleton_sublist.mpr later).cons_cons head⟩, ?_⟩
    rintro ⟨first, sublist⟩
    cases sublist with
    | cons _ inRest => exact inRest.subset (List.mem_cons_of_mem _ List.mem_cons_self)
    | cons_cons _ afterHead => exact List.singleton_sublist.mp afterHead

namespace Spec

variable (spec : Spec)

/-- Whether a pipeline reads records of a kind. -/
def Reads (pipeline : Pipeline) (kind : LogKind) : Prop :=
  ∃ reference ∈ pipeline.inputRefs, spec.refKind? reference = some kind

instance (pipeline : Pipeline) (kind : LogKind) : Decidable (spec.Reads pipeline kind) :=
  inferInstanceAs (Decidable (∃ reference ∈ pipeline.inputRefs, _))

instance (pipeline : Pipeline) : Decidable (spec.LeadsToStack pipeline) :=
  inferInstanceAs (Decidable (∃ reference ∈ pipeline.outputRefs, _))

/--
Whether a kind is split off from a pipeline: the pipeline leads to a stack, and the kind is not the
first one that it reads.
-/
structure SplitsOff (pipeline : Pipeline) (kind : LogKind) : Prop where
  leads : spec.LeadsToStack pipeline
  reads : spec.Reads pipeline kind
  follows : ∃ first, [first, kind].Sublist LogKind.all ∧ spec.Reads pipeline first

/-- The kinds that are split off from a pipeline. -/
def splitKinds (pipeline : Pipeline) : List LogKind :=
  if spec.LeadsToStack pipeline then (LogKind.all.filter (spec.Reads pipeline ·)).tail else []

theorem mem_splitKinds (pipeline : Pipeline) (kind : LogKind) :
    kind ∈ spec.splitKinds pipeline ↔ spec.SplitsOff pipeline kind := by
  unfold splitKinds
  split
  · next leads =>
    rw [mem_tail_iff_sublist]
    constructor
    · rintro ⟨first, sublist⟩
      have read : ∀ other ∈ [first, kind], spec.Reads pipeline other := fun other member =>
        of_decide_eq_true (List.mem_filter.mp (sublist.subset member)).2
      exact ⟨leads, read kind (by simp), first, sublist.trans List.filter_sublist,
        read first (by simp)⟩
    · rintro ⟨_, reads, first, sublist, readsFirst⟩
      refine ⟨first, List.sublist_filter_iff.mpr ⟨_, sublist, ?_⟩⟩
      simp only [List.filter_cons, readsFirst, reads, decide_true, if_true, List.filter_nil]
  · next plain => exact iff_of_false List.not_mem_nil fun splits => plain splits.leads

theorem nodup_splitKinds (pipeline : Pipeline) : (spec.splitKinds pipeline).Nodup := by
  unfold splitKinds
  split
  · exact (LogKind.nodup_all.filter _).tail
  · exact List.nodup_nil

/-- There is a group for every kind that references resolve to. -/
theorem resolvedGroups_eq (pipeline : Pipeline) :
    spec.resolvedGroups pipeline.inputRefs =
      (LogKind.all.filter (spec.Reads pipeline ·)).map fun kind =>
        ⟨some kind, spec.refsOfKind pipeline.inputRefs (some kind)⟩ := by
  unfold resolvedGroups
  rw [List.filter_map]
  refine congrArg _ (List.filter_congr fun kind _ => Bool.eq_iff_iff.mpr ?_)
  rw [Function.comp_apply, Bool.not_eq_true', List.isEmpty_eq_false_iff_exists_mem,
    decide_eq_true_iff]
  exact exists_congr fun reference => spec.mem_refsOfKind _ _ reference

/-- The first part of a pipeline has its name, and the others are named after their kinds. -/
theorem map_name_splitPipeline (pipeline : Pipeline) :
    (spec.splitPipeline spec.stackNames pipeline).map (·.name) =
      pipeline.name :: (spec.splitKinds pipeline).map (tenantName pipeline.name) := by
  unfold splitKinds
  by_cases leads : spec.LeadsToStack pipeline
  · rw [if_pos leads, spec.splitPipeline_of_leadsToStack pipeline leads, refGroups_eq,
      resolvedGroups_eq]
    cases LogKind.all.filter (spec.Reads pipeline ·) with
    | nil => rfl
    | cons first others =>
      rw [List.map_cons, List.map_cons, List.map_map, List.map_map, List.tail_cons]
      rfl
  · rw [if_neg leads, spec.splitPipeline_of_not_leadsToStack pipeline leads]
    rfl

/-- The names after the expansion: those of the pipelines, and those of parts besides the first. -/
theorem map_name_expandStacks_perm :
    (spec.expandStacks.pipelines.map (·.name)).Perm
      (spec.pipelines.map (·.name) ++ spec.pipelines.flatMap fun pipeline =>
        (spec.splitKinds pipeline).map (tenantName pipeline.name)) := by
  have names : spec.expandStacks.pipelines.map (·.name) =
      spec.pipelines.flatMap fun pipeline =>
        pipeline.name :: (spec.splitKinds pipeline).map (tenantName pipeline.name) := by
    show (spec.pipelines.flatMap _).map _ = _
    rw [List.map_flatMap]
    exact List.flatMap_congr fun pipeline _ => spec.map_name_splitPipeline pipeline
  rw [names]
  exact (List.map_append_flatMap_perm _ _ _).symm

/-- Parts besides the first have different names if the pipelines have. -/
theorem nodup_partNames (distinct : (spec.pipelines.map (·.name)).Nodup) :
    (spec.pipelines.flatMap fun pipeline =>
      (spec.splitKinds pipeline).map (tenantName pipeline.name)).Nodup := by
  refine List.nodup_flatMap.mpr ⟨fun pipeline _ => ?_, ?_⟩
  · exact (spec.nodup_splitKinds pipeline).map fun _ _ equal => (tenantName_inj.mp equal).2
  · refine (List.pairwise_map.mp distinct).imp ?_
    intro first second different name ofFirst ofSecond
    obtain ⟨kind, _, rfl⟩ := List.mem_map.mp ofFirst
    obtain ⟨other, _, equal⟩ := List.mem_map.mp ofSecond
    exact different (tenantName_inj.mp equal).1.symm

/-! ### Names of tidied pipelines -/

theorem splitsOff_tidied {original pipeline : Pipeline}
    (tidied : spec.IsTidied original pipeline) (kind : LogKind) :
    spec.tidied.SplitsOff pipeline kind ↔ spec.SplitsOff original kind := by
  have reads (kind : LogKind) : spec.tidied.Reads pipeline kind ↔ spec.Reads original kind := by
    unfold Reads
    simp only [tidied.mem_inputRefs, refKind?_tidied]
    constructor
    · rintro ⟨_, ⟨other, given, rfl⟩, resolved⟩
      exact ⟨other, given, (spec.refKind?_normalRef other).symm.trans resolved⟩
    · rintro ⟨other, given, resolved⟩
      exact ⟨_, ⟨other, given, rfl⟩, (spec.refKind?_normalRef other).trans resolved⟩
  have leads : spec.tidied.LeadsToStack pipeline ↔ spec.LeadsToStack original := by
    unfold LeadsToStack
    simp only [tidied.mem_outputRefs, hasStack_tidied]
  constructor
  · rintro ⟨leadsToStack, readsKind, first, sublist, readsFirst⟩
    exact ⟨leads.mp leadsToStack, (reads kind).mp readsKind, first, sublist,
      (reads first).mp readsFirst⟩
  · rintro ⟨leadsToStack, readsKind, first, sublist, readsFirst⟩
    exact ⟨leads.mpr leadsToStack, (reads kind).mpr readsKind, first, sublist,
      (reads first).mpr readsFirst⟩

theorem length_tidied : spec.tidied.pipelines.length = spec.pipelines.length := List.length_mapIdx

theorem getElem?_tidied (position : Nat) :
    spec.tidied.pipelines[position]? =
      spec.pipelines[position]?.map (spec.normalPipeline position) := List.getElem?_mapIdx

theorem getElem?_names_tidied (position : Nat) :
    (spec.tidied.pipelines.map (·.name))[position]? =
      spec.pipelines[position]?.map fun pipeline => (pipeline.named position).name := by
  rw [List.getElem?_map, getElem?_tidied, Option.map_map]
  rfl

theorem mem_names_tidied (name : String) :
    name ∈ spec.tidied.pipelines.map (·.name) ↔
      ∃ (position : Nat) (pipeline : Pipeline), spec.pipelines[position]? = some pipeline ∧
        (pipeline.named position).name = name := by
  simp only [List.mem_iff_getElem?, getElem?_names_tidied, Option.map_eq_some_iff]

theorem mem_givenNames (name : String) :
    name ∈ spec.givenNames ↔
      name ≠ "" ∧ ∃ (position : Nat) (pipeline : Pipeline),
        spec.pipelines[position]? = some pipeline ∧ pipeline.name = name := by
  unfold givenNames
  rw [List.mem_filter, not_isEmpty_iff, and_comm, List.mem_iff_getElem?]
  simp only [List.getElem?_map, Option.map_eq_some_iff]

/-- If the given names differ, a pipeline is found by the name that it was given. -/
theorem position_eq_of_given (distinct : spec.givenNames.Nodup) {first second : Nat}
    {pipeline other : Pipeline} (atFirst : spec.pipelines[first]? = some pipeline)
    (atSecond : spec.pipelines[second]? = some other) (given : pipeline.name ≠ "")
    (equal : pipeline.name = other.name) : first = second := by
  have pairwise := List.pairwise_map.mp (List.pairwise_filter.mp distinct)
  have ordered := List.pairwise_iff_getElem.mp pairwise
  obtain ⟨firstBound, rfl⟩ := List.getElem?_eq_some_iff.mp atFirst
  obtain ⟨secondBound, rfl⟩ := List.getElem?_eq_some_iff.mp atSecond
  rw [← not_isEmpty_iff] at given
  rcases Nat.lt_trichotomy first second with before | same | after
  · exact absurd equal
      (ordered first second firstBound secondBound before given (equal ▸ given))
  · exact same
  · exact absurd equal.symm
      (ordered second first secondBound firstBound after (equal ▸ given) given)

/-! ### Names that are made up -/

/-- Whether normalization makes a name up: for a pipeline without one, or for a part of one. -/
inductive MakesUp : String → Prop
  | ofPosition {position : Nat} {pipeline : Pipeline}
      (declared : spec.pipelines[position]? = some pipeline) (unnamed : pipeline.name = "") :
      MakesUp (positionName position)
  | ofKind {position : Nat} {pipeline : Pipeline} {kind : LogKind}
      (declared : spec.pipelines[position]? = some pipeline)
      (splits : spec.SplitsOff pipeline kind) :
      MakesUp (tenantName (pipeline.named position).name kind)

/-- Pipelines that are named apart where they have no name keep their names apart. -/
theorem nodup_names_tidied (distinct : spec.givenNames.Nodup)
    (fresh : ∀ (position : Nat) (pipeline : Pipeline), spec.pipelines[position]? = some pipeline →
      pipeline.name = "" → positionName position ∉ spec.givenNames) :
    (spec.tidied.pipelines.map (·.name)).Nodup := by
  -- A pipeline with a name is met by none without one, whichever of the two comes first.
  have apart {first second : Nat} {pipeline other : Pipeline}
      (atFirst : spec.pipelines[first]? = some pipeline)
      (atSecond : spec.pipelines[second]? = some other) (unnamed : pipeline.name = "")
      (given : other.name ≠ "") : positionName first ≠ other.name := fun equal =>
    fresh first pipeline atFirst unnamed
      ((spec.mem_givenNames _).mpr ⟨equal ▸ given, second, other, atSecond, equal.symm⟩)
  refine List.nodup_iff_getElem?_ne_getElem?.mpr fun first second before bound equal => ?_
  rw [getElem?_names_tidied, getElem?_names_tidied] at equal
  rw [List.length_map, length_tidied] at bound
  have atFirst := List.getElem?_eq_getElem (before.trans bound)
  have atSecond := List.getElem?_eq_getElem bound
  rw [atFirst, atSecond, Option.map_some, Option.map_some, Option.some.injEq,
    Pipeline.name_named, Pipeline.name_named] at equal
  split at equal <;> split at equal
  · exact before.ne (positionName_injective equal)
  · next unnamed given => exact apart atFirst atSecond unnamed given equal
  · next given unnamed => exact apart atSecond atFirst unnamed given equal.symm
  · next given _ =>
    exact before.ne (spec.position_eq_of_given distinct atFirst atSecond given equal)

/-- If pipelines keep their names apart, none was given the name that another one's position has. -/
theorem positionName_notMem_givenNames (names : (spec.tidied.pipelines.map (·.name)).Nodup)
    {position : Nat} {pipeline : Pipeline} (declared : spec.pipelines[position]? = some pipeline)
    (unnamed : pipeline.name = "") : positionName position ∉ spec.givenNames := by
  intro given
  obtain ⟨nonempty, other, namesake, declaredToo, isName⟩ := (spec.mem_givenNames _).mp given
  have bound : position < (spec.tidied.pipelines.map (·.name)).length := by
    rw [List.length_map, length_tidied]
    exact (List.getElem?_eq_some_iff.mp declared).1
  have same : position = other := by
    refine (List.getElem?_inj bound names).mp ?_
    rw [getElem?_names_tidied, getElem?_names_tidied, declared, declaredToo, Option.map_some,
      Option.map_some, Pipeline.name_named, Pipeline.name_named, if_pos unnamed,
      if_neg (isName ▸ nonempty), isName]
  rw [same, declaredToo] at declared
  rw [← Option.some.inj declared, isName] at unnamed
  exact nonempty unnamed

/-- A name that is made up for a part besides the first is the name of such a part. -/
theorem mem_partNames {position : Nat} {pipeline : Pipeline} {kind : LogKind}
    (declared : spec.pipelines[position]? = some pipeline) (splits : spec.SplitsOff pipeline kind) :
    tenantName (pipeline.named position).name kind ∈
      spec.tidied.pipelines.flatMap fun pipeline =>
        (spec.tidied.splitKinds pipeline).map (tenantName pipeline.name) := by
  refine List.mem_flatMap.mpr ⟨spec.normalPipeline position pipeline, ?_, ?_⟩
  · refine List.mem_iff_getElem?.mpr ⟨position, ?_⟩
    rw [getElem?_tidied, declared, Option.map_some]
  · exact List.mem_map_of_mem ((spec.tidied.mem_splitKinds _ _).mpr
      ((spec.splitsOff_tidied (spec.isTidied_normalPipeline _ _) kind).mpr splits))

/-- The names of the normal form differ exactly if no given name is also made up. -/
theorem nodup_names_normalize (distinct : spec.givenNames.Nodup) :
    (spec.normalize.pipelines.map (·.name)).Nodup ↔
      ∀ name ∈ spec.givenNames, ¬spec.MakesUp name := by
  rw [normalize_eq, spec.tidied.map_name_expandStacks_perm.nodup_iff, List.nodup_append]
  constructor
  · rintro ⟨names, _, apart⟩ name given madeUp
    cases madeUp with
    | ofPosition declared unnamed =>
      exact spec.positionName_notMem_givenNames names declared unnamed given
    | ofKind declared splits =>
      exact apart _ (spec.givenNames_sublist_tidied.subset given) _
        (spec.mem_partNames declared splits) rfl
  · intro fresh
    have names := spec.nodup_names_tidied distinct fun position pipeline declared unnamed given =>
      fresh _ given (.ofPosition declared unnamed)
    refine ⟨names, spec.tidied.nodup_partNames names, ?_⟩
    rintro _ isName _ isPart rfl
    obtain ⟨position, pipeline, declared, sameName⟩ := (spec.mem_names_tidied _).mp isName
    obtain ⟨_, member, isTenant⟩ := List.mem_flatMap.mp isPart
    obtain ⟨splitPosition, bound, rfl⟩ := List.mem_mapIdx.mp member
    obtain ⟨kind, splits, rfl⟩ := List.mem_map.mp isTenant
    rw [mem_splitKinds, splitsOff_tidied spec (spec.isTidied_normalPipeline _ _)] at splits
    rw [Pipeline.name_named] at sameName
    split at sameName
    · exact positionName_ne_tenantName _ _ _ sameName
    · next given =>
      have isGiven : pipeline.name ∈ spec.givenNames :=
        (spec.mem_givenNames _).mpr ⟨given, position, pipeline, declared, rfl⟩
      rw [sameName] at isGiven
      exact fresh _ isGiven (.ofKind (List.getElem?_eq_getElem bound) splits)

/-! ### What follows from a name that is met again -/

/-- A name is met again where the names of a list are gone through exactly if they repeat one. -/
theorem exists_repetition_iff {α : Type} (name : α → String) (items : List α) :
    (∃ before item after, items = before ++ item :: after ∧ name item ∈ before.map name) ↔
      ¬(items.map name).Nodup := by
  constructor
  · rintro ⟨before, item, after, rfl, repeated⟩ distinct
    rw [List.map_append, List.map_cons] at distinct
    exact List.disjoint_of_nodup_append distinct repeated List.mem_cons_self
  · intro repeats
    by_contra fresh
    refine repeats (List.pairwise_map.mpr (List.pairwise_iff_getElem.mpr ?_))
    intro first second firstBound secondBound before equal
    refine fresh ⟨items.take second, items[second], items.drop (second + 1), ?_, ?_⟩
    · rw [List.getElem_cons_drop, List.take_append_drop]
    · rw [← equal]
      exact List.mem_map_of_mem (List.mem_take_iff_getElem.mpr ⟨first, by omega, rfl⟩)

/-- A pipeline is reported to repeat a name if it is judged to do so, and only then. -/
theorem mem_pipelineProblems_duplicate (pipeline : Pipeline) (isRepeated : Bool) (name : String) :
    ⟨some (.pipeline name), .duplicatePipelineName⟩ ∈ spec.pipelineProblems pipeline isRepeated ↔
      isRepeated = true ∧ pipeline.name = name := by
  unfold pipelineProblems
  simp only [List.mem_map, List.mem_append, Problem.mk.injEq, Option.some.injEq,
    Subject.pipeline.injEq]
  constructor
  · rintro ⟨cause, listed, rfl, rfl⟩
    rcases listed with (((repeated | noInput) | noOutput) | ⟨_, _, unknown⟩) | ⟨_, _, unknown⟩
    · split at repeated
      · next isRepeated => exact ⟨isRepeated, rfl⟩
      · cases repeated
    · split at noInput <;> simp at noInput
    · split at noOutput <;> simp at noOutput
    · cases unknown
    · cases unknown
  · rintro ⟨rfl, rfl⟩
    exact ⟨_, .inl (.inl (.inl (.inl List.mem_cons_self))), rfl, rfl⟩

/-- Only pipelines are reported to repeat the name of a pipeline. -/
theorem mem_problems_duplicate (secrets : SecretStore) (options : Options) (dialect : Dialect)
    (name : String) :
    ⟨some (.pipeline name), .duplicatePipelineName⟩ ∈ spec.problems secrets options dialect ↔
      ⟨some (.pipeline name), .duplicatePipelineName⟩ ∈
        problemsInTurn (·.name) spec.normalize.pipelineProblems [] spec.normalize.pipelines := by
  unfold problems normalProblems commonProblems
  rw [List.mem_append, or_iff_left, List.mem_append, or_iff_right]
  · rw [List.mem_append]
    rintro (ofInput | ofOutput)
    · obtain ⟨_, input, _, _, found⟩ := (mem_problemsInTurn_iff _ _ _).mp ofInput
      have subject := isJudgment_inputProblems.reported input _ _ found
      unfold inputSubject? at subject
      split at subject <;> cases subject
    · obtain ⟨_, output, _, _, found⟩ := (mem_problemsInTurn_iff _ _ _).mp ofOutput
      cases (isJudgment_outputProblems secrets options).reported output _ _ found
  · rintro ofDialect
    rcases List.mem_append.mp ofDialect with unsupported | ofId
    · obtain ⟨output, _, isProblem⟩ := List.mem_map.mp unsupported
      cases isProblem
    · cases isCauseOfId_of_mem_idProblemsFrom ofId

/-- Some name of a pipeline is reported to be repeated exactly if the normal form repeats one. -/
theorem exists_duplicate_iff (secrets : SecretStore) (options : Options) (dialect : Dialect) :
    (∃ name, ⟨some (.pipeline name), .duplicatePipelineName⟩ ∈
        spec.problems secrets options dialect) ↔
      ¬(spec.normalize.pipelines.map (·.name)).Nodup := by
  simp only [mem_problems_duplicate, ← exists_repetition_iff, mem_problemsInTurn_iff,
    mem_pipelineProblems_duplicate, List.not_mem_nil, false_or, decide_eq_true_iff]
  constructor
  · rintro ⟨_, before, pipeline, after, split, repeated, rfl⟩
    exact ⟨before, pipeline, after, split, repeated⟩
  · rintro ⟨before, pipeline, after, split, repeated⟩
    exact ⟨_, before, pipeline, after, split, repeated, rfl⟩

end Spec

/-- Names that differ are taken as they come. -/
theorem RoutePlan.foldl_withName_of_nodup (before names : List String)
    (distinct : (before ++ names).Nodup) : names.foldl withName before = before ++ names := by
  induction names generalizing before with
  | nil => exact (List.append_nil before).symm
  | cons name rest inductionHypothesis =>
    have absent : name ∉ before := fun present =>
      List.disjoint_of_nodup_append distinct present List.mem_cons_self
    rw [List.append_cons] at distinct ⊢
    rw [List.foldl_cons, show withName before name = before ++ [name] from if_neg absent]
    exact inductionHypothesis _ distinct

namespace Spec

/-- A plan lists the pipelines that lead to an output one by one if their names differ. -/
theorem pipelinesFor_routes_of_nodup (spec : Spec) (distinct : (spec.pipelines.map (·.name)).Nodup)
    (output : String) :
    spec.routes.pipelinesFor output =
      (spec.pipelines.filter (output ∈ ·.outputRefs)).map (·.name) :=
  (RoutePlan.pipelinesFor_foldl_addPipeline .empty spec.pipelines output).trans
    (RoutePlan.foldl_withName_of_nodup [] _ (distinct.sublist (List.filter_sublist.map _)))

/-! ### Names of the normal form -/

/--
Where pipelines are given different names, if any, all pipelines of the normal form have names. The
names differ exactly if no pipeline was given a name that is made up for another one; else a name is
reported as a duplicate. If they differ, a route plan keeps the pipelines apart.
-/
theorem names_normalize_differ_iff (spec : Spec) (distinct : spec.givenNames.Nodup) :
    (∀ name ∈ spec.normalize.pipelines.map (·.name), name ≠ "") ∧
      ((spec.normalize.pipelines.map (·.name)).Nodup ↔
        ∀ name ∈ spec.givenNames, ¬spec.MakesUp name) ∧
      (∀ secrets options dialect,
        (∃ name, ⟨some (.pipeline name), .duplicatePipelineName⟩ ∈
            spec.problems secrets options dialect) ↔
          ∃ name ∈ spec.givenNames, spec.MakesUp name) ∧
      ((∀ name ∈ spec.givenNames, ¬spec.MakesUp name) → ∀ output,
        spec.normalize.routes.pipelinesFor output =
          (spec.normalize.pipelines.filter (output ∈ ·.outputRefs)).map (·.name)) := by
  have differ := spec.nodup_names_normalize distinct
  refine ⟨?_, differ, ?_, ?_⟩
  · intro name isName
    obtain ⟨part, member, rfl⟩ := List.mem_map.mp isName
    exact (spec.isNearlyNormal_of_mem_normalize part member).named
  · intro secrets options dialect
    rw [exists_duplicate_iff, differ]
    simp only [not_forall, not_not, exists_prop]
  · exact fun fresh => spec.normalize.pipelinesFor_routes_of_nodup (differ.mpr fresh)

/-- Pipelines of some names, or of none, from which two kinds of records flow to one stack. -/
def pipelinesToStack (names : List (Option String)) : Spec where
  inputs := []
  outputs :=
    [{ Output.bare "ls" .lokistack with
      lokistack := some { (default : LokiStackSection) with target := ⟨"[::1]/", "logging"⟩ } }]
  pipelines := names.map fun name? => ⟨name?, ["application", "audit"], ["ls"], ∅, none⟩
  tuning := none

/-- Pipelines with and without names, all of which are split, with a name for each part. -/
theorem names_normalize_differ_pipelinesToStack :
    (pipelinesToStack [none, some "web", some "pipeline_2"]).givenNames.Nodup ∧
      (pipelinesToStack [none, some "web", some "pipeline_2"]).problems ∅ .standard .vector = [] ∧
      (pipelinesToStack [none, some "web", some "pipeline_2"]).normalize.routes.pipelinesFor
        "ls-audit" = ["pipeline_0-audit", "web-audit", "pipeline_2-audit"] := by
  have distinct : (pipelinesToStack [none, some "web", some "pipeline_2"]).givenNames.Nodup := by
    decide
  obtain ⟨_, differ, _, plan⟩ := names_normalize_differ_iff _ distinct
  refine ⟨distinct, by decide, ?_⟩
  rw [plan (differ.mp (by decide))]
  decide

/--
A pipeline may be given the name that is made up for another one, because of its position or of its
kind: the names are then no longer different, a duplicate is reported, and in the first case a route
plan has one pipeline where two lead to an output.
-/
theorem exists_not_names_normalize_differ :
    ((pipelinesToStack [none, some "pipeline_0"]).givenNames.Nodup ∧
      ¬((pipelinesToStack [none, some "pipeline_0"]).normalize.pipelines.map (·.name)).Nodup ∧
      ⟨some (.pipeline "pipeline_0"), .duplicatePipelineName⟩ ∈
        (pipelinesToStack [none, some "pipeline_0"]).problems ∅ .standard .vector ∧
      (pipelinesToStack [none, some "pipeline_0"]).normalize.routes.pipelinesFor "ls-audit" =
        ["pipeline_0-audit"]) ∧
    (pipelinesToStack [some "web", some "web-audit"]).givenNames.Nodup ∧
      ¬((pipelinesToStack [some "web", some "web-audit"]).normalize.pipelines.map
        (·.name)).Nodup ∧
      ⟨some (.pipeline "web-audit"), .duplicatePipelineName⟩ ∈
        (pipelinesToStack [some "web", some "web-audit"]).problems ∅ .standard .vector := by
  decide

end Spec

end LogForwarder
