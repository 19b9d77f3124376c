/-
This file proves that the checks of a spec find what is wrong with it, all of it and nothing else.
What a good spec is like is said without regard to the checks: what holds of each input, output and
pipeline by itself, and that their names differ. Checks go through each list in turn and remember the
names that they have met, so whether a thing is judged to repeat a name depends on what stands before
it; but nothing else does, and a thing that is wrong by itself is reported wherever it stands. So a
thing is reported under its name exactly if it, or another one of its name, is at fault.
-/

import LogForwarder.Check.Spec
import LogForwarder.Proofs.Kind
import LogForwarder.Proofs.Outcome
import Mathlib.Data.List.Nodup

namespace LogForwarder

/-! ### Good inputs, outputs and pipelines -/

/-- What holds of an input that nothing is wrong with. -/
structure Input.IsWellFormed (input : Input) : Prop where
  named : input.name ≠ ""
  unreserved : ∀ kind : LogKind, input.name ≠ kind.name
  oneSection : input.sectionCount = 1

/-- Whether a text is given that is not empty. -/
def IsGiven (text? : Option String) : Prop := ∃ text, text? = some text ∧ text ≠ ""

/-- Whether outputs of a type can be reached at an address. -/
def OutputType.IsReachedAt (type : OutputType) (address : String) : Prop :=
  if type = .syslog then ∃ place, Endpoint.hostPort address = .ok place
  else ∃ url, Endpoint.readUrl address = .ok url

namespace Output

/-- Whether an output has a secret with some bytes at a key. -/
def HasKey (output : Output) (secrets : SecretStore) (key : String) : Prop :=
  ∃ name bytes, output.secretName = some name ∧ secrets.bytes? name key = some bytes ∧
    bytes.size ≠ 0

/-- Whether a secret has both halves of an access key, or neither of them but a role. -/
def HasAwsCredentials (output : Output) (secrets : SecretStore) : Prop :=
  output.HasKey secrets Secret.awsAccessKeyId ∧
      output.HasKey secrets Secret.awsSecretAccessKey ∨
    ¬output.HasKey secrets Secret.awsAccessKeyId ∧
      ¬output.HasKey secrets Secret.awsSecretAccessKey ∧ output.HasKey secrets Secret.awsRole

/-- Whether an output has the fields and the secret keys that its type needs. -/
def HasFields (output : Output) (secrets : SecretStore) : Prop :=
  match output.type with
  | .cloudwatch =>
    IsGiven (output.cloudwatch.bind (·.region)) ∧ output.HasAwsCredentials secrets
  | .kafka =>
    output.brokerAddresses ≠ [] ∧
      ∀ address ∈ output.brokerAddresses, ∃ place, Endpoint.hostPort address = .ok place
  | .azureMonitor =>
    IsGiven (output.azureMonitor.bind (·.customerId)) ∧
      IsGiven (output.azureMonitor.bind (·.logType)) ∧ output.HasKey secrets Secret.sharedKey
  | .googleCloudLogging =>
    (∃ options destination, output.googleCloudLogging = some options ∧
        options.destinations = [destination]) ∧
      IsGiven (output.googleCloudLogging.bind (·.logId)) ∧
      output.HasKey secrets Secret.googleCredentials
  | .splunk => output.HasKey secrets Secret.splunkToken
  | .lokistack =>
    ∃ options, output.lokistack = some options ∧ options.target.name ≠ "" ∧
      options.target.namespaceName ≠ ""
  | _ => True

/-- What holds of an output that nothing is wrong with. -/
structure IsWellFormed (output : Output) (secrets : SecretStore) (options : Options) : Prop where
  named : output.name ≠ ""
  known : output.type.isKnown
  secretPresent : ∀ name, output.secretName = some name → name ∈ secrets.keys
  addressed : output.type.needsUrl → IsGiven output.url?
  reached : ∀ address, output.url? = some address → address ≠ "" →
    output.type.IsReachedAt address
  fields : output.HasFields secrets
  authenticated : ∃ credentials, output.credentials secrets options = .ok credentials

end Output

namespace Spec

/-- What holds of a pipeline that nothing is wrong with: it leads from somewhere to somewhere. -/
structure IsConnected (spec : Spec) (pipeline : Pipeline) : Prop where
  reads : pipeline.inputRefs ≠ []
  leads : pipeline.outputRefs ≠ []
  known : ∀ reference ∈ pipeline.inputRefs,
    (∃ kind : LogKind, reference = kind.name) ∨ ∃ input ∈ spec.inputs, input.name = reference
  declared : ∀ reference ∈ pipeline.outputRefs, ∃ output ∈ spec.outputs, output.name = reference

/-- What holds of a spec that nothing is wrong with. -/
structure IsValid (spec : Spec) (secrets : SecretStore) (options : Options) : Prop where
  inputsDistinct : (spec.inputs.map (·.name)).Nodup
  inputs : ∀ input ∈ spec.inputs, input.IsWellFormed
  outputsDistinct : (spec.outputs.map (·.name)).Nodup
  outputs : ∀ output ∈ spec.outputs, output.IsWellFormed secrets options
  pipelinesDistinct : (spec.pipelines.map (·.name)).Nodup
  pipelines : ∀ pipeline ∈ spec.pipelines, spec.IsConnected pipeline

end Spec

/-! ### Inputs -/

/-- Nothing is wrong with an input by itself exactly if it is well formed. -/
theorem Spec.inputProblems_eq_nil_iff (input : Input) :
    inputProblems input false = [] ↔ input.IsWellFormed := by
  unfold inputProblems
  by_cases unnamed : input.name.isEmpty
  · rw [if_pos unnamed]
    refine iff_of_false (List.cons_ne_nil _ _) fun wellFormed => ?_
    exact wellFormed.named (String.isEmpty_iff.mp unnamed)
  · rw [if_neg unnamed, List.map_eq_nil_iff, List.append_eq_nil_iff, List.append_eq_nil_iff,
      ite_eq_right_iff, ite_eq_left_iff, Option.isSome_iff_ne_none]
    simp only [List.cons_ne_nil, imp_false, not_not, Bool.false_eq_true, if_false, and_true]
    rw [LogKind.ofName?_eq_none_iff]
    refine ⟨fun ⟨unreserved, oneSection⟩ => ⟨?_, unreserved, oneSection⟩, fun wellFormed => ?_⟩
    · exact fun empty => unnamed (String.isEmpty_iff.mpr empty)
    · exact ⟨wellFormed.unreserved, wellFormed.oneSection⟩

/-! ### Outputs -/

theorem Cause.ofResult_eq_nil_iff {ε α : Type} (cause : ε → Cause) (result : Except ε α) :
    Cause.ofResult cause result = [] ↔ ∃ value, result = .ok value := by
  cases result with
  | ok value => exact iff_of_true rfl ⟨value, rfl⟩
  | error error => exact iff_of_false (List.cons_ne_nil _ _) fun ⟨_, made⟩ => nomatch made

theorem any_not_isEmpty_iff (text? : Option String) : text?.any (!·.isEmpty) ↔ IsGiven text? := by
  unfold IsGiven
  rw [Option.any_eq_true]
  refine exists_congr fun text => and_congr_right' ?_
  rw [Bool.not_eq_true', ← Bool.not_eq_true, String.isEmpty_iff]

namespace Output

variable (output : Output) (secrets : SecretStore) (options : Options)

theorem missingText_eq_nil_iff (field : String) (text? : Option String) :
    output.missingText field text? = [] ↔ IsGiven text? := by
  unfold missingText
  rw [ite_eq_left_iff, ← any_not_isEmpty_iff]
  simp only [List.cons_ne_nil, imp_false, not_not]

theorem hasSecretKey_iff (key : String) :
    output.hasSecretKey secrets key ↔ output.HasKey secrets key := by
  unfold hasSecretKey HasKey SecretStore.hasKey
  simp only [Option.any_eq_true, ByteArray.isEmpty, Bool.not_eq_true', beq_eq_false_iff_ne,
    exists_and_left]

theorem missingKey_eq_nil_iff (key : String) :
    output.missingKey secrets key = [] ↔ output.HasKey secrets key := by
  unfold missingKey
  rw [ite_eq_left_iff, ← hasSecretKey_iff]
  simp only [List.cons_ne_nil, imp_false, not_not]

theorem awsCauses_eq_nil_iff :
    output.awsCauses secrets = [] ↔ output.HasAwsCredentials secrets := by
  unfold awsCauses HasAwsCredentials
  simp only [← hasSecretKey_iff]
  split
  · next noSecret =>
    have noKey (key : String) : output.hasSecretKey secrets key = false := by
      unfold hasSecretKey
      rw [Option.isNone_iff_eq_none.mp noSecret]
      rfl
    simp [noKey]
  · cases output.hasSecretKey secrets Secret.awsAccessKeyId <;>
      cases output.hasSecretKey secrets Secret.awsSecretAccessKey <;>
      cases output.hasSecretKey secrets Secret.awsRole <;> simp

/-- There are brokers exactly if there are addresses of brokers, and each has a host. -/
theorem exists_kafkaBrokers_iff :
    (∃ brokers, output.kafkaBrokers = .ok brokers) ↔
      output.brokerAddresses ≠ [] ∧
        ∀ address ∈ output.brokerAddresses, ∃ place, Endpoint.hostPort address = .ok place := by
  unfold kafkaBrokers
  by_cases noAddress : output.brokerAddresses.isEmpty
  · rw [if_pos noAddress]
    refine iff_of_false (fun ⟨_, made⟩ => nomatch made) fun ⟨someAddress, _⟩ => ?_
    exact someAddress (List.isEmpty_iff.mp noAddress)
  · rw [if_neg noAddress]
    constructor
    · rintro ⟨brokers, made⟩
      refine ⟨fun empty => noAddress (List.isEmpty_iff.mpr empty), fun address isAddress => ?_⟩
      obtain ⟨broker, _, isBroker⟩ := exists_of_mem_forall₂ (mapM_eq_ok_iff.mp made) isAddress
      cases read : Endpoint.hostPort address with
      | ok place => exact ⟨place, rfl⟩
      | error error =>
        rw [read] at isBroker
        cases isBroker
    · rintro ⟨_, read⟩
      refine exists_mapM fun address isAddress => ?_
      obtain ⟨place, found⟩ := read address isAddress
      exact ⟨place.text, by rw [found]; rfl⟩

theorem typeCauses_eq_nil_iff : output.typeCauses secrets = [] ↔ output.HasFields secrets := by
  unfold typeCauses HasFields
  cases output.type with
  | cloudwatch =>
    rw [List.append_eq_nil_iff, missingText_eq_nil_iff, awsCauses_eq_nil_iff]
  | kafka =>
    rw [← exists_kafkaBrokers_iff]
    exact Cause.ofResult_eq_nil_iff _ _
  | azureMonitor =>
    rw [List.append_eq_nil_iff, List.append_eq_nil_iff, missingText_eq_nil_iff,
      missingText_eq_nil_iff, missingKey_eq_nil_iff, and_assoc]
  | googleCloudLogging =>
    have oneDestination : ((output.googleCloudLogging.map (·.destinations)).getD []).length = 1 ↔
        ∃ options destination, output.googleCloudLogging = some options ∧
          options.destinations = [destination] := by
      cases output.googleCloudLogging with
      | none => simp
      | some options => simp [List.length_eq_one_iff]
    rw [List.append_eq_nil_iff, List.append_eq_nil_iff, missingText_eq_nil_iff,
      missingKey_eq_nil_iff, and_assoc, ite_eq_left_iff, ← oneDestination]
    simp only [List.cons_ne_nil, imp_false, not_not]
  | splunk => exact output.missingKey_eq_nil_iff secrets _
  | lokistack =>
    rw [List.append_eq_nil_iff, missingText_eq_nil_iff, missingText_eq_nil_iff]
    unfold IsGiven
    cases output.lokistack with
    | none => simp
    | some options => simp
  | _ => exact iff_of_true rfl trivial

theorem secretCauses_eq_nil_iff :
    output.secretCauses secrets = [] ↔
      ∀ name, output.secretName = some name → name ∈ secrets.keys := by
  unfold secretCauses
  cases output.secretName with
  | none => exact iff_of_true rfl nofun
  | some name =>
    simp only [ite_eq_left_iff, List.cons_ne_nil, imp_false, not_not, Option.some.injEq,
      forall_eq', Dictionary.mem_keys_iff]
    rfl

/-- An address is given where one is needed, and one that is not empty fits the type. -/
theorem urlCauses_eq_nil_iff :
    output.urlCauses = [] ↔
      (output.type.needsUrl → IsGiven output.url?) ∧
        ∀ address, output.url? = some address → address ≠ "" →
          output.type.IsReachedAt address := by
  unfold urlCauses
  cases given : output.url?.filter (!·.isEmpty) with
  | none =>
    have notGiven : ∀ address, output.url? = some address → address = "" := by
      intro address isAddress
      rw [isAddress, Option.filter_some_eq_none, Bool.not_eq_true', Bool.not_eq_false] at given
      exact String.isEmpty_iff.mp given
    have notIsGiven : ¬IsGiven output.url? := fun ⟨address, isAddress, notEmpty⟩ =>
      notEmpty (notGiven address isAddress)
    simp only [ite_eq_right_iff, List.cons_ne_nil, imp_false, notIsGiven]
    exact (and_iff_left fun address isAddress notEmpty =>
      absurd (notGiven address isAddress) notEmpty).symm
  | some address =>
    obtain ⟨isAddress, notEmpty⟩ := Option.filter_eq_some_iff.mp given
    rw [Bool.not_eq_true', ← Bool.not_eq_true, String.isEmpty_iff] at notEmpty
    have isGiven : IsGiven output.url? := ⟨address, isAddress, notEmpty⟩
    rw [and_iff_right fun _ => isGiven, isAddress]
    simp only [Option.some.injEq, forall_eq', notEmpty, ne_eq, not_false_eq_true, true_imp_iff]
    unfold OutputType.IsReachedAt
    split
    · exact Cause.ofResult_eq_nil_iff _ _
    · exact Cause.ofResult_eq_nil_iff _ _

theorem credentialsCauses_eq_nil_iff :
    output.credentialsCauses secrets options = [] ↔
      ∃ credentials, output.credentials secrets options = .ok credentials :=
  Cause.ofResult_eq_nil_iff _ _

/-- Nothing is wrong with an output by itself exactly if it is well formed. -/
theorem causes_eq_nil_iff :
    output.causes secrets options false = [] ↔ output.IsWellFormed secrets options := by
  unfold causes
  by_cases unnamed : output.name.isEmpty
  · rw [if_pos unnamed]
    refine iff_of_false (List.cons_ne_nil _ _) fun wellFormed => ?_
    exact wellFormed.named (String.isEmpty_iff.mp unnamed)
  · rw [if_neg unnamed, if_neg Bool.false_ne_true, List.nil_append]
    by_cases known : output.type.isKnown
    · rw [if_pos known, List.append_eq_nil_iff, List.append_eq_nil_iff, List.append_eq_nil_iff,
        secretCauses_eq_nil_iff, urlCauses_eq_nil_iff, typeCauses_eq_nil_iff,
        credentialsCauses_eq_nil_iff]
      constructor
      · rintro ⟨⟨⟨secretPresent, addressed, reached⟩, fields⟩, authenticated⟩
        have named : output.name ≠ "" := fun empty => unnamed (String.isEmpty_iff.mpr empty)
        exact ⟨named, known, secretPresent, addressed, reached, fields, authenticated⟩
      · intro wellFormed
        exact ⟨⟨⟨wellFormed.secretPresent, wellFormed.addressed, wellFormed.reached⟩,
          wellFormed.fields⟩, wellFormed.authenticated⟩
    · rw [if_neg known]
      exact iff_of_false (List.cons_ne_nil _ _) fun wellFormed => known wellFormed.known

end Output

/-! ### Pipelines -/

namespace Spec

variable (spec : Spec)

theorem isSome_input?_iff (name : String) :
    (spec.input? name).isSome ↔ ∃ input ∈ spec.inputs, input.name = name := by
  unfold input?
  simp only [List.find?_isSome, decide_eq_true_eq]

theorem isSome_output?_iff (name : String) :
    (spec.output? name).isSome ↔ ∃ output ∈ spec.outputs, output.name = name := by
  unfold output?
  simp only [List.find?_isSome, decide_eq_true_eq]

theorem knowsInput_iff (reference : String) :
    spec.knowsInput reference ↔
      (∃ kind : LogKind, reference = kind.name) ∨
        ∃ input ∈ spec.inputs, input.name = reference := by
  unfold knowsInput
  rw [Bool.or_eq_true, isSome_input?_iff, Option.isSome_iff_ne_none, ne_eq,
    LogKind.ofName?_eq_none_iff]
  simp only [not_forall, not_not]

/-- Nothing is wrong with a pipeline by itself exactly if it is connected. -/
theorem pipelineProblems_eq_nil_iff (pipeline : Pipeline) :
    spec.pipelineProblems pipeline false = [] ↔ spec.IsConnected pipeline := by
  unfold pipelineProblems
  rw [List.map_eq_nil_iff, List.append_eq_nil_iff, List.append_eq_nil_iff,
    List.append_eq_nil_iff, List.append_eq_nil_iff, if_neg Bool.false_ne_true,
    List.map_eq_nil_iff, List.map_eq_nil_iff, List.filter_eq_nil_iff, List.filter_eq_nil_iff]
  simp only [ite_eq_right_iff, List.cons_ne_nil, imp_false, List.isEmpty_iff, true_and,
    Bool.not_eq_true', Bool.not_eq_false, knowsInput_iff, Option.isNone_iff_eq_none,
    ← Option.isSome_iff_ne_none, ← ne_eq, isSome_output?_iff]
  constructor
  · rintro ⟨⟨⟨reads, leads⟩, known⟩, declared⟩
    exact ⟨reads, leads, known, declared⟩
  · rintro ⟨reads, leads, known, declared⟩
    exact ⟨⟨⟨reads, leads⟩, known⟩, declared⟩

/-! ### Things judged in turn -/

section InTurn

variable {α : Type} {name : α → String} {judge : α → Bool → List Problem}

/-- A thing repeats a name if that was met earlier, or belongs to something before it. -/
theorem mem_problemsInTurn_iff (earlier : List String) (items : List α) (problem : Problem) :
    problem ∈ problemsInTurn name judge earlier items ↔
      ∃ before item after, items = before ++ item :: after ∧
        problem ∈ judge item (name item ∈ earlier ∨ name item ∈ before.map name) := by
  induction items generalizing earlier with
  | nil =>
    refine iff_of_false List.not_mem_nil ?_
    rintro ⟨before, item, after, parts, _⟩
    exact List.append_ne_nil_of_right_ne_nil _ (List.cons_ne_nil _ _) parts.symm
  | cons head rest inductionHypothesis =>
    unfold problemsInTurn
    rw [List.mem_append, inductionHypothesis]
    constructor
    · rintro (ofHead | ⟨before, item, after, rfl, found⟩)
      · exact ⟨[], head, rest, rfl, by simpa using ofHead⟩
      · refine ⟨head :: before, item, after, rfl, ?_⟩
        simpa only [List.mem_cons, List.map_cons, or_assoc, or_left_comm] using found
    · rintro ⟨before, item, after, parts, found⟩
      rcases List.cons_eq_append_iff.mp parts with ⟨rfl, same⟩ | ⟨others, rfl, rfl⟩
      · obtain ⟨rfl, rfl⟩ := List.cons_eq_cons.mp same
        exact .inl (by simpa using found)
      · refine .inr ⟨others, item, after, rfl, ?_⟩
        simpa only [List.mem_cons, List.map_cons, or_assoc, or_left_comm] using found

/-- A thing in a list is at fault if it is not good, or if its name is that of several things. -/
def IsAtFault (name : α → String) (IsGood : α → Prop) (items : List α) (item : α) : Prop :=
  ¬IsGood item ∨ 1 < (items.map name).count (name item)

/-- Whether things are judged by what is good, and reported under their names. -/
structure IsJudgment (name : α → String) (judge : α → Bool → List Problem)
    (IsGood : α → Prop) (subject? : String → Option Subject) : Prop where
  good : ∀ item, judge item false = [] ↔ IsGood item
  repeated : ∀ item, judge item true ≠ []
  reported : ∀ item isRepeated, ∀ problem ∈ judge item isRepeated,
    problem.subject? = subject? (name item)
  told : Function.Injective subject?

namespace IsJudgment

variable {IsGood : α → Prop} {subject? : String → Option Subject}
  (judgment : IsJudgment name judge IsGood subject?)

include judgment

/-- What is judged to be wrong is reported, whatever else is wrong. -/
theorem exists_problem {before after : List α} {item : α}
    (wrong : judge item (name item ∈ before.map name) ≠ []) :
    ∃ problem ∈ problemsInTurn name judge [] (before ++ item :: after),
      problem.subject? = subject? (name item) := by
  obtain ⟨problem, found⟩ := List.exists_mem_of_ne_nil _ wrong
  refine ⟨problem, ?_, judgment.reported item _ problem found⟩
  refine (mem_problemsInTurn_iff [] _ problem).mpr ⟨before, item, after, rfl, ?_⟩
  simpa only [List.not_mem_nil, false_or] using found

/-- A second thing of a name is reported, whatever else is wrong. -/
theorem exists_problem_of_count {items : List α} {sought : String}
    (several : 1 < (items.map name).count sought) :
    ∃ problem ∈ problemsInTurn name judge [] items, problem.subject? = subject? sought := by
  obtain ⟨item, member, rfl⟩ :=
    List.mem_map.mp (List.count_pos_iff.mp (Nat.lt_of_succ_lt several))
  obtain ⟨before, after, rfl⟩ := List.append_of_mem member
  by_cases earlier : name item ∈ before.map name
  · refine judgment.exists_problem ?_
    rw [decide_eq_true earlier]
    exact judgment.repeated item
  · -- None is before this one, so there is another one after it, which repeats its name.
    rw [List.map_append, List.count_append, List.count_eq_zero.mpr earlier, List.map_cons,
      List.count_cons_self] at several
    obtain ⟨other, otherMember, sameName⟩ :=
      List.mem_map.mp (List.count_pos_iff.mp (by omega : 0 < (after.map name).count (name item)))
    obtain ⟨between, rest, rfl⟩ := List.append_of_mem otherMember
    have parts : before ++ item :: (between ++ other :: rest) =
        before ++ item :: between ++ other :: rest := by
      rw [List.append_assoc, List.cons_append]
    have repeats : name other ∈ (before ++ item :: between).map name := by
      rw [sameName]
      exact List.mem_map_of_mem (List.mem_append_right _ List.mem_cons_self)
    rw [parts, ← sameName]
    refine judgment.exists_problem ?_
    rw [decide_eq_true repeats]
    exact judgment.repeated other

/-- A name is reported exactly if a thing of that name is at fault. -/
theorem exists_problem_iff (items : List α) (sought : String) :
    (∃ problem ∈ problemsInTurn name judge [] items, problem.subject? = subject? sought) ↔
      ∃ item ∈ items, name item = sought ∧ IsAtFault name IsGood items item := by
  constructor
  · rintro ⟨problem, member, about⟩
    obtain ⟨before, item, after, rfl, found⟩ := (mem_problemsInTurn_iff [] _ problem).mp member
    rw [judgment.reported item _ problem found] at about
    refine ⟨item, List.mem_append_right _ List.mem_cons_self, judgment.told about, ?_⟩
    by_cases repeats : name item ∈ before.map name
    · have earlier := List.count_pos_iff.mpr repeats
      refine .inr ?_
      rw [List.map_append, List.count_append, List.map_cons, List.count_cons_self]
      omega
    · refine .inl fun isGood => ?_
      simp only [List.not_mem_nil, false_or, decide_eq_false repeats] at found
      rw [(judgment.good item).mpr isGood] at found
      exact absurd found List.not_mem_nil
  · rintro ⟨item, member, rfl, notGood | several⟩
    · obtain ⟨before, after, rfl⟩ := List.append_of_mem member
      refine judgment.exists_problem ?_
      cases decide (name item ∈ before.map name) with
      | true => exact judgment.repeated item
      | false => exact fun clean => notGood ((judgment.good item).mp clean)
    · exact judgment.exists_problem_of_count several

/-- Nothing is reported under what is no name of these things. -/
theorem not_exists_problem {items : List α} {other? : Option Subject}
    (other : ∀ name, subject? name ≠ other?) :
    ¬∃ problem ∈ problemsInTurn name judge [] items, problem.subject? = other? := by
  rintro ⟨problem, member, about⟩
  obtain ⟨before, item, after, _, found⟩ := (mem_problemsInTurn_iff [] _ problem).mp member
  rw [judgment.reported item _ problem found] at about
  exact other _ about

/-- Nothing is reported exactly if all things are good, and their names differ. -/
theorem problemsInTurn_eq_nil_iff (items : List α) :
    problemsInTurn name judge [] items = [] ↔
      (items.map name).Nodup ∧ ∀ item ∈ items, IsGood item := by
  constructor
  · intro clean
    have noFault : ∀ item ∈ items, ¬IsAtFault name IsGood items item := by
      intro item member atFault
      obtain ⟨problem, found, _⟩ :=
        (judgment.exists_problem_iff items _).mpr ⟨item, member, rfl, atFault⟩
      rw [clean] at found
      exact absurd found List.not_mem_nil
    refine ⟨List.nodup_iff_count_le_one.mpr fun sought => ?_, fun item member => ?_⟩
    · by_contra several
      obtain ⟨problem, found, _⟩ :=
        judgment.exists_problem_of_count (Nat.lt_of_not_le several)
      rw [clean] at found
      exact absurd found List.not_mem_nil
    · by_contra notGood
      exact noFault item member (.inl notGood)
  · rintro ⟨distinct, good⟩
    refine List.eq_nil_iff_forall_not_mem.mpr fun problem found => ?_
    obtain ⟨before, item, after, rfl, judged⟩ := (mem_problemsInTurn_iff [] _ problem).mp found
    have fresh : name item ∉ before.map name := by
      rw [List.map_append, List.map_cons] at distinct
      exact fun earlier => List.disjoint_of_nodup_append distinct earlier List.mem_cons_self
    simp only [List.not_mem_nil, false_or, decide_eq_false fresh] at judged
    rw [(judgment.good item).mpr (good item (List.mem_append_right _ List.mem_cons_self))] at judged
    exact absurd judged List.not_mem_nil

end IsJudgment

end InTurn

/-! ### Judgments of inputs, outputs and pipelines -/

/-- What problems of inputs of a name are reported under; the empty name is no help to a reader. -/
def inputSubject? (name : String) : Option Subject :=
  if name = "" then none else some (.input name)

theorem isJudgment_inputProblems :
    IsJudgment (·.name) inputProblems Input.IsWellFormed inputSubject? where
  good := inputProblems_eq_nil_iff
  repeated := by
    intro input
    unfold inputProblems
    split
    · exact List.cons_ne_nil _ _
    · rw [ne_eq, List.map_eq_nil_iff, List.append_eq_nil_iff, List.append_eq_nil_iff]
      exact fun clean => List.cons_ne_nil _ _ clean.1.2
  reported := by
    intro input isRepeated problem member
    unfold inputProblems at member
    unfold inputSubject?
    by_cases unnamed : input.name.isEmpty
    · rw [if_pos unnamed, List.mem_singleton] at member
      rw [member, if_pos (String.isEmpty_iff.mp unnamed)]
    · rw [if_neg unnamed] at member
      obtain ⟨cause, _, rfl⟩ := List.mem_map.mp member
      rw [if_neg fun empty => unnamed (String.isEmpty_iff.mpr empty)]
  told := by
    intro first second same
    unfold inputSubject? at same
    split at same <;> split at same
    · next firstEmpty secondEmpty => rw [firstEmpty, secondEmpty]
    · cases same
    · cases same
    · exact Subject.input.inj (Option.some.inj same)

theorem isJudgment_outputProblems (secrets : SecretStore) (options : Options) :
    IsJudgment (·.name) (outputProblems secrets options) (·.IsWellFormed secrets options)
      (some <| .output ·) where
  good := by
    intro output
    unfold outputProblems
    rw [List.map_eq_nil_iff]
    exact output.causes_eq_nil_iff secrets options
  repeated := by
    intro output
    unfold outputProblems Output.causes
    rw [ne_eq, List.map_eq_nil_iff]
    split
    · exact List.cons_ne_nil _ _
    · exact fun clean => List.cons_ne_nil _ _ (List.append_eq_nil_iff.mp clean).1
  reported := by
    intro output isRepeated problem member
    obtain ⟨cause, _, rfl⟩ := List.mem_map.mp member
    rfl
  told := fun _ _ same => Subject.output.inj (Option.some.inj same)

theorem isJudgment_pipelineProblems (spec : Spec) :
    IsJudgment (·.name) spec.pipelineProblems spec.IsConnected (some <| .pipeline ·) where
  good := spec.pipelineProblems_eq_nil_iff
  repeated := by
    intro pipeline
    unfold pipelineProblems
    rw [ne_eq, List.map_eq_nil_iff, List.append_eq_nil_iff, List.append_eq_nil_iff,
      List.append_eq_nil_iff, List.append_eq_nil_iff]
    exact fun clean => List.cons_ne_nil _ _ clean.1.1.1.1
  reported := by
    intro pipeline isRepeated problem member
    obtain ⟨cause, _, rfl⟩ := List.mem_map.mp member
    rfl
  told := fun _ _ same => Subject.pipeline.inj (Option.some.inj same)

/-! ### Specs -/

theorem commonProblems_eq_nil_iff (spec : Spec) (secrets : SecretStore) (options : Options) :
    spec.commonProblems secrets options = [] ↔ spec.IsValid secrets options := by
  unfold commonProblems
  rw [List.append_eq_nil_iff, List.append_eq_nil_iff,
    isJudgment_inputProblems.problemsInTurn_eq_nil_iff,
    (isJudgment_outputProblems secrets options).problemsInTurn_eq_nil_iff,
    spec.isJudgment_pipelineProblems.problemsInTurn_eq_nil_iff]
  constructor
  · rintro ⟨⟨⟨inputsDistinct, inputs⟩, outputsDistinct, outputs⟩, pipelinesDistinct, pipelines⟩
    exact { inputsDistinct, inputs, outputsDistinct, outputs, pipelinesDistinct, pipelines }
  · intro valid
    exact ⟨⟨⟨valid.inputsDistinct, valid.inputs⟩, valid.outputsDistinct, valid.outputs⟩,
      valid.pipelinesDistinct, valid.pipelines⟩

/-- Whatever is reported is a problem of an input, of an output or of a pipeline. -/
theorem exists_mem_commonProblems_iff (spec : Spec) (secrets : SecretStore) (options : Options)
    (subject? : Option Subject) :
    (∃ problem ∈ spec.commonProblems secrets options, problem.subject? = subject?) ↔
      (∃ problem ∈ problemsInTurn (·.name) inputProblems [] spec.inputs,
          problem.subject? = subject?) ∨
        (∃ problem ∈ problemsInTurn (·.name) (outputProblems secrets options) [] spec.outputs,
            problem.subject? = subject?) ∨
          ∃ problem ∈ problemsInTurn (·.name) spec.pipelineProblems [] spec.pipelines,
            problem.subject? = subject? := by
  unfold commonProblems
  simp only [List.mem_append, or_and_right, exists_or, or_assoc]

/--
No problem is reported for a spec exactly if it is valid. Problems are reported under a name exactly
if an input, an output or a pipeline of that name is at fault, whatever is wrong with others.
-/
theorem isValid_iff_and_faults_reported (spec : Spec) (secrets : SecretStore)
    (options : Options) :
    (spec.commonProblems secrets options = [] ↔ spec.IsValid secrets options) ∧
      (∀ name,
        (∃ problem ∈ spec.commonProblems secrets options,
            problem.subject? = inputSubject? name) ↔
          ∃ input ∈ spec.inputs, input.name = name ∧
            IsAtFault (·.name) Input.IsWellFormed spec.inputs input) ∧
      (∀ name,
        (∃ problem ∈ spec.commonProblems secrets options,
            problem.subject? = some (.output name)) ↔
          ∃ output ∈ spec.outputs, output.name = name ∧
            IsAtFault (·.name) (·.IsWellFormed secrets options) spec.outputs output) ∧
      ∀ name,
        (∃ problem ∈ spec.commonProblems secrets options,
            problem.subject? = some (.pipeline name)) ↔
          ∃ pipeline ∈ spec.pipelines, pipeline.name = name ∧
            IsAtFault (·.name) spec.IsConnected spec.pipelines pipeline := by
  have ofInputs := isJudgment_inputProblems
  have ofOutputs := isJudgment_outputProblems secrets options
  have ofPipelines := spec.isJudgment_pipelineProblems
  have inputOrNone (name : String) (subject : Subject) (same : inputSubject? name = some subject) :
      subject = .input name := by
    unfold inputSubject? at same
    split at same
    · cases same
    · exact (Option.some.inj same).symm
  refine ⟨spec.commonProblems_eq_nil_iff secrets options, ?_, ?_, ?_⟩ <;> intro name <;>
    rw [exists_mem_commonProblems_iff]
  · rw [ofInputs.exists_problem_iff, or_iff_left]
    refine not_or.mpr ⟨ofOutputs.not_exists_problem fun other same => ?_,
      ofPipelines.not_exists_problem fun other same => ?_⟩
    · cases inputOrNone name _ same.symm
    · cases inputOrNone name _ same.symm
  · rw [ofOutputs.exists_problem_iff, or_iff_right, or_iff_left]
    · exact ofPipelines.not_exists_problem nofun
    · exact ofInputs.not_exists_problem fun other same => nomatch inputOrNone other _ same
  · rw [ofPipelines.exists_problem_iff, or_iff_right, or_iff_right]
    · exact ofOutputs.not_exists_problem nofun
    · exact ofInputs.not_exists_problem fun other same => nomatch inputOrNone other _ same

end Spec

end LogForwarder
