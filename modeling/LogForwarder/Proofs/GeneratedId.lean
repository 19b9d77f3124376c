/-
This file proves that the check of generated ids reports what it should and nothing else. Names turn
into ids in ways that lose letter case and punctuation, so two names may get one id, and a name may
get an id that every configuration has. The check gives each id to the first owner that it meets and
compares later owners with that one only. What carries the proof is that as long as nothing has been
reported the given ids tell the first owner of every id met so far, and that all owners of an id are
equal, so that comparing with the first one compares with all of them.
-/

import LogForwarder.Check.Spec

namespace LogForwarder.Spec

/-! ### Owners of ids -/

/-- What has a generated id in a dialect: pipelines, outputs and some inputs, if they have names. -/
inductive HasId (spec : Spec) (dialect : Dialect) : Subject → Prop
  | pipeline (pipeline : Pipeline) (declared : pipeline ∈ spec.pipelines)
      (named : pipeline.name ≠ "") : HasId spec dialect (.pipeline pipeline.name)
  | output (output : Output) (declared : output ∈ spec.outputs) (named : output.name ≠ "") :
      HasId spec dialect (.output output.name)
  /-- An input of infrastructure or audit logs that does not stand for all logs of its kind. -/
  | input (input : Input) (declared : input ∈ spec.inputs) (named : input.name ≠ "")
      (vector : dialect = .vector)
      (ownKind : input.kind? = some .infrastructure ∨ input.kind? = some .audit)
      (narrow : input.wholeKind? = none) : HasId spec dialect (.input input.name)

theorem hasOwnComponent_iff (input : Input) :
    hasOwnComponent input ↔
      (input.kind? = some .infrastructure ∨ input.kind? = some .audit) ∧
        input.wholeKind? = none := by
  unfold hasOwnComponent
  rw [Bool.and_eq_true, Bool.or_eq_true, decide_eq_true_iff, decide_eq_true_iff,
    Option.isNone_iff_eq_none]

/-- The ids of a dialect are given to what has one. -/
theorem mem_idOwners_iff (spec : Spec) (dialect : Dialect) (owner : Subject) :
    owner ∈ spec.idOwners dialect ↔ spec.HasId dialect owner := by
  unfold idOwners
  rw [List.mem_filter, Bool.not_eq_true', ← Bool.not_eq_true, String.isEmpty_iff, List.mem_append,
    List.mem_append]
  constructor
  · rintro ⟨(fromInput | fromPipeline) | fromOutput, named⟩
    · cases dialect with
      | fluentd => cases fromInput
      | vector =>
        obtain ⟨input, own, rfl⟩ := List.mem_map.mp fromInput
        obtain ⟨declared, own⟩ := List.mem_filter.mp own
        obtain ⟨ownKind, narrow⟩ := (hasOwnComponent_iff input).mp own
        exact .input input declared named rfl ownKind narrow
    · obtain ⟨pipeline, declared, rfl⟩ := List.mem_map.mp fromPipeline
      exact .pipeline pipeline declared named
    · obtain ⟨output, declared, rfl⟩ := List.mem_map.mp fromOutput
      exact .output output declared named
  · rintro (⟨pipeline, declared, named⟩ | ⟨output, declared, named⟩ |
      ⟨input, declared, named, rfl, ownKind, narrow⟩)
    · exact ⟨.inl (.inr (List.mem_map_of_mem declared)), named⟩
    · exact ⟨.inr (List.mem_map_of_mem declared), named⟩
    · have own := (hasOwnComponent_iff input).mpr ⟨ownKind, narrow⟩
      exact ⟨.inl (.inl (List.mem_map_of_mem (List.mem_filter.mpr ⟨declared, own⟩))), named⟩

/-! ### Ids that nothing else has -/

/-- Whether the owners of equal ids are equal. -/
def DistinctIds (dialect : Dialect) (owners : List Subject) : Prop :=
  ∀ first ∈ owners, ∀ second ∈ owners,
    dialect.idOf first.name = dialect.idOf second.name → first = second

/-- What holds of owners whose ids are neither reserved nor shared. -/
structure HaveOwnIds (dialect : Dialect) (owners : List Subject) : Prop where
  unreserved : ∀ owner ∈ owners, dialect.idOf owner.name ∉ dialect.reservedIds
  distinct : DistinctIds dialect owners

theorem HaveOwnIds.mono {dialect : Dialect} {some all : List Subject}
    (own : HaveOwnIds dialect all) (among : some ⊆ all) : HaveOwnIds dialect some where
  unreserved := fun owner member => own.unreserved owner (among member)
  distinct := fun first firstMember second secondMember =>
    own.distinct first (among firstMember) second (among secondMember)

theorem haveOwnIds_nil (dialect : Dialect) : HaveOwnIds dialect [] where
  unreserved := fun _ member => absurd member List.not_mem_nil
  distinct := fun _ member => absurd member List.not_mem_nil

/-- One more owner has its own id if that is not reserved, and if earlier owners of it are equal. -/
theorem haveOwnIds_concat_iff {dialect : Dialect} {earlier : List Subject}
    (own : HaveOwnIds dialect earlier) (owner : Subject) :
    HaveOwnIds dialect (earlier ++ [owner]) ↔
      dialect.idOf owner.name ∉ dialect.reservedIds ∧
        ∀ other ∈ earlier, dialect.idOf other.name = dialect.idOf owner.name → other = owner := by
  constructor
  · intro ownAll
    refine ⟨ownAll.unreserved owner List.mem_concat_self, ?_⟩
    intro other member same
    exact ownAll.distinct other (List.mem_append_left _ member) owner List.mem_concat_self same
  · rintro ⟨unreserved, sameOwner⟩
    refine ⟨?_, ?_⟩
    · intro other member
      rcases List.mem_append.mp member with inEarlier | isOwner
      · exact own.unreserved other inEarlier
      · rw [List.mem_singleton.mp isOwner]
        exact unreserved
    · intro first firstMember second secondMember same
      rcases List.mem_append.mp firstMember with firstEarlier | firstOwner
      · rcases List.mem_append.mp secondMember with secondEarlier | secondOwner
        · exact own.distinct first firstEarlier second secondEarlier same
        · rw [List.mem_singleton.mp secondOwner] at same ⊢
          exact sameOwner first firstEarlier same
      · rcases List.mem_append.mp secondMember with secondEarlier | secondOwner
        · rw [List.mem_singleton.mp firstOwner] at same ⊢
          exact (sameOwner second secondEarlier same.symm).symm
        · rw [List.mem_singleton.mp firstOwner, List.mem_singleton.mp secondOwner]

/-! ### The ids that are given -/

/-- Whether the given ids are those of some owners, each with its first owner. -/
def GivenToFirst (dialect : Dialect) (given : Dictionary Subject) (owners : List Subject) : Prop :=
  ∀ id, given.get? id = owners.find? (dialect.idOf ·.name = id)

/-- An owner is judged to have no problem exactly if it has its own id, as those before it have. -/
theorem judgeId_fst_eq_none_iff {dialect : Dialect} {earlier : List Subject}
    {given : Dictionary Subject} (own : HaveOwnIds dialect earlier)
    (toFirst : GivenToFirst dialect given earlier) (owner : Subject) :
    (judgeId dialect given owner).1 = none ↔ HaveOwnIds dialect (earlier ++ [owner]) := by
  rw [haveOwnIds_concat_iff own]
  unfold judgeId
  by_cases reserved : dialect.idOf owner.name ∈ dialect.reservedIds
  · rw [if_pos reserved]
    exact iff_of_false (Option.some_ne_none _) fun ⟨unreserved, _⟩ => unreserved reserved
  · rw [if_neg reserved, toFirst, and_iff_right reserved]
    cases found : earlier.find? (dialect.idOf ·.name = dialect.idOf owner.name) with
    | none =>
      refine iff_of_true rfl fun other member same => ?_
      exact absurd (decide_eq_true same) (List.find?_eq_none.mp found other member)
    | some first =>
      have firstMember := List.mem_of_find?_eq_some found
      have sameAsFirst : dialect.idOf first.name = dialect.idOf owner.name :=
        of_decide_eq_true (List.find?_some (p := fun subject : Subject =>
          decide (dialect.idOf subject.name = dialect.idOf owner.name)) found)
      by_cases equal : first = owner
      · simp only [if_pos equal, true_iff]
        intro other member same
        rw [← equal] at same ⊢
        exact own.distinct other member first firstMember same
      · simp only [if_neg equal, reduceCtorEq, false_iff]
        intro sameOwner
        exact equal (sameOwner first firstMember sameAsFirst)

/-- An id that is not reserved is given to its first owner. -/
theorem givenToFirst_judgeId {dialect : Dialect} {earlier : List Subject}
    {given : Dictionary Subject} (toFirst : GivenToFirst dialect given earlier) {owner : Subject}
    (unreserved : dialect.idOf owner.name ∉ dialect.reservedIds) :
    GivenToFirst dialect (judgeId dialect given owner).2 (earlier ++ [owner]) := by
  intro id
  have step : (earlier ++ [owner]).find? (dialect.idOf ·.name = id) =
      (given.get? id).or (if dialect.idOf owner.name = id then some owner else none) := by
    rw [List.find?_append, ← toFirst id, List.find?_singleton]
    simp only [decide_eq_true_eq]
  unfold judgeId
  rw [if_neg unreserved, step]
  cases taken : given.get? (dialect.idOf owner.name) with
  | none =>
    rw [given.get?_insert]
    by_cases same : dialect.idOf owner.name = id
    · subst same
      rw [if_pos rfl, if_pos rfl, taken, Option.none_or]
    · rw [if_neg (Ne.symm same), if_neg same, Option.or_none]
  | some first =>
    have kept : (given.get? id).or (if dialect.idOf owner.name = id then some owner else none) =
        given.get? id := by
      by_cases same : dialect.idOf owner.name = id
      · subst same
        rw [taken, Option.some_or]
      · rw [if_neg same, Option.or_none]
    rw [kept]
    by_cases equal : first = owner
    · simp only [if_pos equal]
    · simp only [if_neg equal]

/-- No problems are found exactly if all owners have their own ids. -/
theorem idProblemsFrom_eq_nil_iff {dialect : Dialect} {earlier : List Subject}
    {given : Dictionary Subject} (own : HaveOwnIds dialect earlier)
    (toFirst : GivenToFirst dialect given earlier) (owners : List Subject) :
    idProblemsFrom dialect given owners = [] ↔ HaveOwnIds dialect (earlier ++ owners) := by
  induction owners generalizing earlier given with
  | nil =>
    rw [List.append_nil]
    exact iff_of_true rfl own
  | cons owner rest inductionHypothesis =>
    have split : earlier ++ owner :: rest = earlier ++ [owner] ++ rest := by
      rw [List.append_assoc, List.singleton_append]
    unfold idProblemsFrom
    rw [List.append_eq_nil_iff, Option.toList_eq_nil_iff, judgeId_fst_eq_none_iff own toFirst,
      split]
    constructor
    · rintro ⟨ownSoFar, restClean⟩
      have toFirstSoFar :=
        givenToFirst_judgeId toFirst (ownSoFar.unreserved owner List.mem_concat_self)
      exact (inductionHypothesis ownSoFar toFirstSoFar).mp restClean
    · intro ownAll
      have ownSoFar := ownAll.mono (List.subset_append_left _ _)
      have toFirstSoFar :=
        givenToFirst_judgeId toFirst (ownSoFar.unreserved owner List.mem_concat_self)
      exact ⟨ownSoFar, (inductionHypothesis ownSoFar toFirstSoFar).mpr ownAll⟩

theorem idProblems_eq_nil_iff (spec : Spec) (dialect : Dialect) :
    spec.idProblems dialect = [] ↔ HaveOwnIds dialect (spec.idOwners dialect) :=
  idProblemsFrom_eq_nil_iff (haveOwnIds_nil dialect) (fun _ => rfl) _

/-! ### Uniqueness in a dialect -/

/-- Whether a cause is that of a problem with a generated id. -/
inductive IsCauseOfId (dialect : Dialect) : Cause → Prop
  | reserved (id : String) : IsCauseOfId dialect (.reservedId dialect id)
  | shared (id other : String) : IsCauseOfId dialect (.sharedId dialect id other)

theorem isCauseOfId_of_judgeId {dialect : Dialect} {given : Dictionary Subject} {owner : Subject}
    {problem : Problem} (found : (judgeId dialect given owner).1 = some problem) :
    IsCauseOfId dialect problem.cause := by
  unfold judgeId at found
  dsimp only at found
  split at found
  · obtain rfl := Option.some.inj found
    exact .reserved _
  · split at found
    · cases found
    · split at found
      · cases found
      · obtain rfl := Option.some.inj found
        exact .shared _ _

theorem isCauseOfId_of_mem_idProblemsFrom {dialect : Dialect} {given : Dictionary Subject}
    {owners : List Subject} {problem : Problem}
    (member : problem ∈ idProblemsFrom dialect given owners) :
    IsCauseOfId dialect problem.cause := by
  induction owners generalizing given with
  | nil => exact absurd member List.not_mem_nil
  | cons owner rest inductionHypothesis =>
    rcases List.mem_append.mp member with ofOwner | ofRest
    · exact isCauseOfId_of_judgeId (Option.mem_toList.mp ofOwner)
    · exact inductionHypothesis ofRest

/-- Whatever is found out about an id is a matter of uniqueness. -/
theorem IsCauseOfId.kind {dialect : Dialect} {cause : Cause} (ofId : IsCauseOfId dialect cause) :
    cause.kind = .uniqueness := by
  cases ofId <;> rfl

theorem kind_of_mem_unsupportedProblems {spec : Spec} {dialect : Dialect} {problem : Problem}
    (member : problem ∈ spec.unsupportedProblems dialect) :
    problem.kind = .unknownOutputType := by
  obtain ⟨output, _, rfl⟩ := List.mem_map.mp member
  rfl

/-- The problems of generated ids are the problems of uniqueness that one dialect has. -/
theorem no_uniqueness_iff_idProblems_eq_nil (spec : Spec) (dialect : Dialect) :
    (∀ problem ∈ spec.dialectProblems dialect, problem.kind ≠ .uniqueness) ↔
      spec.idProblems dialect = [] := by
  constructor
  · intro noUniqueness
    refine List.eq_nil_iff_forall_not_mem.mpr fun problem member => ?_
    exact noUniqueness problem (List.mem_append_right _ member)
      (isCauseOfId_of_mem_idProblemsFrom member).kind
  · intro noIdProblems problem member
    unfold dialectProblems at member
    rw [noIdProblems, List.append_nil] at member
    rw [kind_of_mem_unsupportedProblems member]
    exact ProblemKind.noConfusion

/--
A dialect has no problem of uniqueness with a spec exactly if no name turns into a reserved id and
if whatever has the same id is the same thing: of one kind, and of one name.
-/
theorem no_uniqueness_iff_ids_tell_owners (spec : Spec) (dialect : Dialect) :
    (∀ problem ∈ spec.dialectProblems dialect, problem.kind ≠ .uniqueness) ↔
      (∀ owner, spec.HasId dialect owner → dialect.idOf owner.name ∉ dialect.reservedIds) ∧
        ∀ first second, spec.HasId dialect first → spec.HasId dialect second →
          dialect.idOf first.name = dialect.idOf second.name → first = second := by
  rw [no_uniqueness_iff_idProblems_eq_nil, idProblems_eq_nil_iff]
  constructor
  · intro own
    refine ⟨fun owner hasId => ?_, fun first second firstHasId secondHasId => ?_⟩
    · exact own.unreserved owner ((spec.mem_idOwners_iff dialect owner).mpr hasId)
    · exact own.distinct first ((spec.mem_idOwners_iff dialect first).mpr firstHasId) second
        ((spec.mem_idOwners_iff dialect second).mpr secondHasId)
  · rintro ⟨unreserved, distinct⟩
    refine ⟨fun owner member => ?_, fun first firstMember second secondMember => ?_⟩
    · exact unreserved owner ((spec.mem_idOwners_iff dialect owner).mp member)
    · exact distinct first second ((spec.mem_idOwners_iff dialect first).mp firstMember)
        ((spec.mem_idOwners_iff dialect second).mp secondMember)

end LogForwarder.Spec
