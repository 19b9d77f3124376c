/-
This file proves that templates are brought in order whenever they can be. Each template that has no
place yet waits for those of its includes that have none; when one takes its place the counts of
those that include it go down by one, so a template is ready exactly if all that it includes has a
place. From there nothing more needs to be known about counts.

As the first ready template always goes next, no other order is smaller. What is left at last are
templates each of which includes another one that is left, so that following includes among them one
comes to a cycle; and from a template that has a place includes lead to earlier places only, and so
never to a cycle.
-/

import LogForwarder.Proofs.Lookup
import LogForwarder.Template.Engine
import Mathlib.Data.Fintype.Pigeonhole
import Mathlib.Data.List.Perm.Basic
import Mathlib.Logic.Relation

namespace LogForwarder.Template

/-! ### Includes -/

/-- Whether a template includes another. -/
def Includes (known : Dictionary Definition) (user target : String) : Prop :=
  ∃ definition, known.get? user = some definition ∧ target ∈ definition.includes.keys

/-- Whether includes lead from a template into a cycle. -/
def LeadsToCycle (known : Dictionary Definition) (name : String) : Prop :=
  ∃ target, Relation.ReflTransGen (Includes known) name target ∧
    Relation.TransGen (Includes known) target target

/-- Whether each of some names comes after all that it includes. -/
def ComeAfterIncludes (known : Dictionary Definition) (names : List String) : Prop :=
  ∀ before name after, names = before ++ name :: after →
    ∀ target, Includes known name target → target ∈ before

/-- Whether names are those of all templates, each once, and each after all that it includes. -/
structure IsOrder (known : Dictionary Definition) (names : List String) : Prop where
  perm : names.Perm known.keys
  comeAfter : ComeAfterIncludes known names

theorem comeAfterIncludes_concat (known : Dictionary Definition) (names : List String)
    (last : String) :
    ComeAfterIncludes known (names ++ [last]) ↔
      ComeAfterIncludes known names ∧ ∀ target, Includes known last target → target ∈ names := by
  refine ⟨fun comeAfter => ⟨?_, comeAfter names last [] rfl⟩, ?_⟩
  · rintro before name after rfl
    exact comeAfter before name (after ++ [last]) (by rw [List.append_assoc, List.cons_append])
  · rintro ⟨comeAfter, lastAfter⟩ before name after split
    rcases List.eq_nil_or_concat after with rfl | ⟨rest, other, rfl⟩
    · obtain ⟨rfl, same⟩ := List.append_inj' split rfl
      cases same
      exact lastAfter
    · rw [List.concat_eq_append, ← List.cons_append, ← List.append_assoc] at split
      exact comeAfter before name rest (List.append_inj' split rfl).1

/-- From names that come after what they include, includes lead further up. -/
theorem idxOf_lt_of_includes {known : Dictionary Definition} {names : List String}
    (distinct : names.Nodup) (comeAfter : ComeAfterIncludes known names) {user target : String}
    (member : user ∈ names) (includes : Includes known user target) :
    target ∈ names ∧ names.idxOf target < names.idxOf user := by
  obtain ⟨before, after, rfl⟩ := List.append_of_mem member
  have isBefore := comeAfter before user after rfl target includes
  have new : user ∉ before := fun absurdity =>
    (List.nodup_append.mp distinct).2.2 user absurdity user List.mem_cons_self rfl
  refine ⟨List.mem_append_left _ isBefore, ?_⟩
  rw [List.idxOf_append_of_mem isBefore, List.idxOf_append_of_notMem new]
  exact (List.idxOf_lt_length_of_mem isBefore).trans_le (Nat.le_add_right _ _)

/-- From names that come after what they include, includes do not lead into a cycle. -/
theorem not_leadsToCycle {known : Dictionary Definition} {names : List String}
    (distinct : names.Nodup) (comeAfter : ComeAfterIncludes known names) {name : String}
    (member : name ∈ names) : ¬LeadsToCycle known name := by
  have stays {target : String} (path : Relation.ReflTransGen (Includes known) name target) :
      target ∈ names := by
    induction path with
    | refl => exact member
    | tail _ step inductionHypothesis =>
      exact (idxOf_lt_of_includes distinct comeAfter inductionHypothesis step).1
  have above {user target : String} (start : user ∈ names)
      (path : Relation.TransGen (Includes known) user target) :
      target ∈ names ∧ names.idxOf target < names.idxOf user := by
    induction path with
    | single step => exact idxOf_lt_of_includes distinct comeAfter start step
    | tail _ step inductionHypothesis =>
      obtain ⟨inside, before⟩ := inductionHypothesis
      obtain ⟨target, further⟩ := idxOf_lt_of_includes distinct comeAfter inside step
      exact ⟨target, further.trans before⟩
  rintro ⟨target, path, around⟩
  exact Nat.lt_irrefl _ (above (stays path) around).2

/-- Where each of some names includes another of them, includes lead into a cycle. -/
theorem leadsToCycle_of_forall_exists {known : Dictionary Definition} {names : List String}
    (leads : ∀ name ∈ names, ∃ target ∈ names, Includes known name target) {start : String}
    (member : start ∈ names) : LeadsToCycle known start := by
  choose next inside step using leads
  let walk : ℕ → { name // name ∈ names } :=
    fun count => (fun name => ⟨next name.1 name.2, inside name.1 name.2⟩)^[count] ⟨start, member⟩
  have step_walk (count : ℕ) : Includes known (walk count).1 (walk (count + 1)).1 := by
    show Includes known _ (Nat.iterate _ (count + 1) _ : { name // name ∈ names }).1
    rw [Function.iterate_succ_apply']
    exact step _ _
  have path (count more : ℕ) :
      Relation.TransGen (Includes known) (walk count).1 (walk (count + more + 1)).1 := by
    induction more with
    | zero => exact .single (step_walk count)
    | succ more inductionHypothesis => exact .tail inductionHypothesis (step_walk _)
  have reached (count : ℕ) : Relation.ReflTransGen (Includes known) start (walk count).1 := by
    induction count with
    | zero => exact .refl
    | succ count inductionHypothesis => exact .tail inductionHypothesis (step_walk count)
  -- There are fewer names than steps, so the walk comes to some name twice.
  obtain ⟨first, second, before, same⟩ : ∃ first second, first < second ∧
      walk first = walk second := by
    obtain ⟨first, second, different, same⟩ := Finite.exists_ne_map_eq_of_infinite walk
    rcases Nat.lt_or_gt_of_ne different with before | after
    · exact ⟨first, second, before, same⟩
    · exact ⟨second, first, after, same.symm⟩
  obtain ⟨more, rfl⟩ := Nat.exists_eq_add_of_lt before
  refine ⟨(walk first).1, reached first, ?_⟩
  have around := path first more
  rwa [← same] at around

/-! ### Counts -/

/-- How many of the templates that a template includes are not among those that have a place. -/
def Definition.waits (definition : Definition) (placed : List String) : Nat :=
  definition.includes.keys.countP (· ∉ placed)

theorem Definition.waits_eq_zero_iff (definition : Definition) (placed : List String) :
    definition.waits placed = 0 ↔ ∀ target ∈ definition.includes.keys, target ∈ placed := by
  unfold waits
  simp only [List.countP_eq_zero, decide_eq_true_eq, Decidable.not_not]

theorem countP_notMem_concat {names placed : List String} {next : String} (distinct : names.Nodup)
    (new : next ∉ placed) :
    names.countP (· ∉ placed) =
      names.countP (· ∉ placed ++ [next]) + if next ∈ names then 1 else 0 := by
  induction names with
  | nil => rfl
  | cons head rest inductionHypothesis =>
    obtain ⟨absent, restDistinct⟩ := List.nodup_cons.mp distinct
    rw [List.countP_cons, List.countP_cons, inductionHypothesis restDistinct]
    by_cases same : next = head
    · subst same
      simp [new, absent]
    · simp [Ne.symm same, same]
      omega

/-- A template waits for one less when one that it includes takes its place. -/
theorem Definition.waits_concat (definition : Definition) {placed : List String} {next : String}
    (new : next ∉ placed) :
    definition.waits placed =
      definition.waits (placed ++ [next]) + if next ∈ definition.includes.keys then 1 else 0 :=
  countP_notMem_concat definition.includes.nodup_keys new

namespace Sorting

/-! ### Releases -/

/-- What becomes of templates in a state when one of them may wait for one less. -/
theorem release_spec (next : String) (sorting : Sorting) (user : String × Definition)
    (name : String) :
    (sorting.release next user).order = sorting.order ∧
    (sorting.release next user).pending.get? name =
      (sorting.pending.get? name).map (fun count =>
        if name = user.1 ∧ next ∈ user.2.includes.keys then count - 1 else count) ∧
    (name ∈ (sorting.release next user).ready.keys ↔ name ∈ sorting.ready.keys ∨
      (name = user.1 ∧ next ∈ user.2.includes.keys) ∧
        ∃ count, sorting.pending.get? name = some count ∧ count - 1 = 0) := by
  have unchanged {condition : Prop} [Decidable condition] (out : ¬condition) :
      sorting.pending.get? name =
        (sorting.pending.get? name).map fun count => if condition then count - 1 else count := by
    simp only [out, if_false, Option.map_id']
  unfold release
  split
  · next contains =>
    have includes := (Dictionary.contains_iff _ _).mp contains
    split
    · next absent =>
      refine ⟨rfl, ?_, (or_iff_left ?_).symm⟩
      · by_cases same : name = user.1
        · rw [same, absent]
          rfl
        · exact unchanged fun both => same both.1
      · rintro ⟨⟨rfl, _⟩, count, present, _⟩
        rw [absent] at present
        cases present
    · next count found =>
      refine ⟨rfl, ?_, ?_⟩
      · simp only [Dictionary.get?_modify, includes, and_true]
      · show name ∈ (if count - 1 = 0 then _ else _ : TextSet).keys ↔ _
        split
        · next none =>
          rw [Dictionary.mem_keys_insert, or_comm]
          refine or_congr_right ⟨fun same => ⟨⟨same, includes⟩, count, same ▸ found, none⟩,
            fun released => released.1.1⟩
        · next some =>
          refine (or_iff_left ?_).symm
          rintro ⟨⟨rfl, _⟩, other, present, none⟩
          rw [found] at present
          cases present
          exact some none
  · next lacks =>
    have excludes := mt (Dictionary.contains_iff _ _).mpr lacks
    exact ⟨rfl, unchanged fun both => excludes both.2,
      (or_iff_left fun released => excludes released.1.2).symm⟩

/-- Whether one of some templates has a name and includes another. -/
def Uses (users : List (String × Definition)) (name target : String) : Prop :=
  ∃ user ∈ users, name = user.1 ∧ target ∈ user.2.includes.keys

open Classical in
/-- What becomes of templates when each of some may wait for one less. -/
theorem foldl_release_spec (next : String) {users : List (String × Definition)}
    (distinct : (users.map (·.1)).Nodup) (sorting : Sorting) (name : String) :
    (users.foldl (release next) sorting).order = sorting.order ∧
    (users.foldl (release next) sorting).pending.get? name =
      (sorting.pending.get? name).map (fun count =>
        if Uses users name next then count - 1 else count) ∧
    (name ∈ (users.foldl (release next) sorting).ready.keys ↔ name ∈ sorting.ready.keys ∨
      Uses users name next ∧ ∃ count, sorting.pending.get? name = some count ∧ count - 1 = 0) := by
  induction users generalizing sorting with
  | nil =>
    have none : ¬Uses [] name next := fun uses => nomatch uses
    simp [none]
  | cons user rest inductionHypothesis =>
    obtain ⟨absent, restDistinct⟩ := List.nodup_cons.mp distinct
    obtain ⟨order, pending, ready⟩ := sorting.release_spec next user name
    obtain ⟨restOrder, restPending, restReady⟩ :=
      inductionHypothesis restDistinct (sorting.release next user)
    have uses : Uses (user :: rest) name next ↔
        (name = user.1 ∧ next ∈ user.2.includes.keys) ∨ Uses rest name next :=
      List.exists_mem_cons_iff _ _ _
    rw [List.foldl_cons, restPending, restReady, pending, ready, uses]
    refine ⟨restOrder.trans order, ?_⟩
    -- Each name is that of one template only, so that a count goes down once at most.
    by_cases same : name = user.1
    · have notLater : ¬Uses rest name next := by
        rintro ⟨other, member, isOther, _⟩
        exact absent (List.mem_map.mpr ⟨other, member, (same.symm.trans isOther).symm⟩)
      simp only [notLater, if_false, Option.map_id', or_false, false_and, and_self]
    · simp only [same, false_and, if_false, Option.map_id', or_false, false_or, and_self]

theorem uses_entries_iff (known : Dictionary Definition) (name target : String) :
    Uses known.entries name target ↔ Includes known name target := by
  unfold Uses Includes
  simp only [Dictionary.get?_eq_some_iff_mem, Prod.exists]
  refine ⟨?_, fun ⟨definition, member, includes⟩ => ⟨name, definition, member, rfl, includes⟩⟩
  rintro ⟨_, definition, member, rfl, includes⟩
  exact ⟨definition, member, includes⟩

/-! ### Steps -/

/-- What holds of templates while they take places. -/
structure IsOf (sorting : Sorting) (known : Dictionary Definition) : Prop where
  distinct : sorting.order.Nodup
  among : ∀ name ∈ sorting.order, name ∈ known.keys
  comeAfter : ComeAfterIncludes known sorting.order
  /-- A template without a place waits for what it includes and what has no place either. -/
  pending : ∀ name, sorting.pending.get? name =
    if name ∈ sorting.order then none
    else (known.get? name).map (·.waits sorting.order)
  ready : ∀ name, name ∈ sorting.ready.keys ↔ sorting.pending.get? name = some 0

variable {known : Dictionary Definition} {sorting : Sorting}

theorem isOf_start (known : Dictionary Definition) : (start known).IsOf known where
  distinct := List.nodup_nil
  among := nofun
  comeAfter before name after split := by
    cases before <;> cases split
  pending name := by
    show (known.mapValues _).get? name = _
    rw [Dictionary.get?_mapValues]
    show _ = if name ∈ [] then none else (known.get? name).map (·.waits [])
    rw [if_neg List.not_mem_nil]
    refine congrArg (Option.map · _) (funext fun definition => ?_)
    have all : definition.waits [] = definition.includes.keys.length :=
      List.countP_eq_length.mpr fun _ _ => rfl
    rw [all]
    exact (List.length_map _).symm
  ready name := by
    show name ∈ (((known.mapValues _).filter _).mapValues _).keys ↔ (known.mapValues _).get? name = _
    rw [Dictionary.keys_mapValues, Dictionary.mem_keys_iff, Option.isSome_iff_exists]
    simp only [Dictionary.get?_filter_eq_some_iff, decide_eq_true_eq, exists_eq_right]

/-- The templates that are ready are those without a place all of whose includes have one. -/
theorem IsOf.mem_ready_iff (isOf : sorting.IsOf known) (name : String) :
    name ∈ sorting.ready.keys ↔
      name ∈ known.keys ∧ name ∉ sorting.order ∧
        ∀ target, Includes known name target → target ∈ sorting.order := by
  rw [isOf.ready, isOf.pending, known.mem_keys_iff, Option.isSome_iff_exists]
  by_cases placed : name ∈ sorting.order
  · rw [if_pos placed]
    exact iff_of_false nofun fun both => both.2.1 placed
  · rw [if_neg placed, Option.map_eq_some_iff]
    unfold Includes
    simp only [Definition.waits_eq_zero_iff, placed, not_false_iff, true_and]
    refine ⟨?_, ?_⟩
    · rintro ⟨definition, found, all⟩
      refine ⟨⟨definition, found⟩, ?_⟩
      rintro target ⟨other, isOther, includes⟩
      cases found.symm.trans isOther
      exact all target includes
    · rintro ⟨⟨definition, found⟩, all⟩
      exact ⟨definition, found, fun target includes => all target ⟨definition, found, includes⟩⟩

theorem IsOf.mem_pending_iff (isOf : sorting.IsOf known) (name : String) :
    name ∈ sorting.pending.keys ↔ name ∈ known.keys ∧ name ∉ sorting.order := by
  rw [Dictionary.mem_keys_iff, isOf.pending, Dictionary.mem_keys_iff]
  by_cases placed : name ∈ sorting.order
  · simp [placed]
  · simp [placed]

theorem includes_iff {name target : String} {definition : Definition}
    (found : known.get? name = some definition) :
    Includes known name target ↔ target ∈ definition.includes.keys := by
  refine ⟨?_, fun included => ⟨definition, found, included⟩⟩
  rintro ⟨other, isOther, included⟩
  cases found.symm.trans isOther
  exact included

open Classical in
/-- What becomes of templates when one takes the next place. -/
theorem step_spec (known : Dictionary Definition) (sorting : Sorting) (next name : String) :
    (sorting.step known next).order = sorting.order ++ [next] ∧
    (sorting.step known next).pending.get? name =
      (if name = next then none else sorting.pending.get? name).map (fun count =>
        if Includes known name next then count - 1 else count) ∧
    (name ∈ (sorting.step known next).ready.keys ↔
      (name ≠ next ∧ name ∈ sorting.ready.keys) ∨
        Includes known name next ∧
          ∃ count, (if name = next then none else sorting.pending.get? name) = some count ∧
            count - 1 = 0) := by
  have released := foldl_release_spec next known.nodup_keys (sorting.place next) name
  rw [uses_entries_iff, show (sorting.place next).pending = sorting.pending.erase next from rfl,
    show (sorting.place next).ready = sorting.ready.erase next from rfl, Dictionary.get?_erase,
    Dictionary.mem_keys_erase] at released
  exact released

theorem IsOf.step (isOf : sorting.IsOf known) {next : String}
    (isReady : next ∈ sorting.ready.keys) : (sorting.step known next).IsOf known := by
  classical
  obtain ⟨isKnown, new, included⟩ := (isOf.mem_ready_iff next).mp isReady
  have order : (sorting.step known next).order = sorting.order ++ [next] :=
    (step_spec known sorting next next).1
  refine ⟨?_, ?_, ?_, fun name => ?_, fun name => ?_⟩
  · rw [order]
    exact List.concat_eq_append ▸ isOf.distinct.concat new
  · rw [order]
    refine List.forall_mem_append.mpr ⟨isOf.among, fun name single => ?_⟩
    exact List.mem_singleton.mp single ▸ isKnown
  · rw [order, comeAfterIncludes_concat]
    exact ⟨isOf.comeAfter, included⟩
  · rw [(step_spec known sorting next name).2.1, order, isOf.pending]
    by_cases same : name = next
    · simp [same]
    by_cases placed : name ∈ sorting.order
    · simp [placed]
    have notPlaced : name ∉ sorting.order ++ [next] := by simp [placed, same]
    rw [if_neg same, if_neg placed, if_neg notPlaced]
    cases found : known.get? name with
    | none => rfl
    | some definition =>
      simp only [Option.map_some, includes_iff found, definition.waits_concat new]
      split
      · rw [Nat.add_sub_cancel]
      · rfl
  · obtain ⟨_, pending, ready⟩ := step_spec known sorting next name
    rw [ready, pending, isOf.ready]
    by_cases same : name = next
    · simp [same]
    rw [if_neg same]
    cases sorting.pending.get? name with
    | none => simp
    | some count =>
      simp only [same, ne_eq, not_false_iff, true_and, Option.some.injEq, Option.map_some,
        exists_eq_left']
      -- One that is ready already waits for none, and so for none less.
      split
      · refine ⟨?_, fun none => .inr ⟨‹_›, none⟩⟩
        rintro (none | ⟨_, none⟩)
        · rw [none]
        · exact none
      · exact or_iff_left fun both => absurd both.1 ‹_›

/-! ### Runs -/

/-- At last no template is ready any more, and all that had a place has kept it. -/
theorem IsOf.finish (isOf : sorting.IsOf known) :
    (sorting.finish known).IsOf known ∧ (sorting.finish known).ready.keys = [] ∧
      sorting.order <+: (sorting.finish known).order := by
  fun_induction Sorting.finish known sorting with
  | case1 sorting none => exact ⟨isOf, none, List.prefix_refl _⟩
  | case2 sorting next rest first inductionHypothesis =>
    have isReady : next ∈ sorting.ready.keys := first ▸ List.mem_cons_self
    obtain ⟨isLast, none, longer⟩ := inductionHypothesis (isOf.step isReady)
    rw [(step_spec known sorting next next).1] at longer
    exact ⟨isLast, none, (List.prefix_append _ _).trans longer⟩

/-- No order that starts like this one is smaller in the end. -/
theorem IsOf.finish_le (isOf : sorting.IsOf known) {other : List String}
    (isOrder : IsOrder known other) (start : sorting.order <+: other) :
    (sorting.finish known).order <+: other ∨ (sorting.finish known).order < other := by
  fun_induction Sorting.finish known sorting with
  | case1 sorting none => exact .inl start
  | case2 sorting next rest first inductionHypothesis =>
    have isReady : next ∈ sorting.ready.keys := first ▸ List.mem_cons_self
    have afterStep := isOf.step isReady
    have order := (step_spec known sorting next next).1
    obtain ⟨isKnown, new, _⟩ := (isOf.mem_ready_iff next).mp isReady
    obtain ⟨more, rfl⟩ := start
    have distinct := isOrder.perm.nodup_iff.mpr known.nodup_keys
    cases more with
    | nil =>
      rw [List.append_nil] at isOrder
      exact absurd (isOrder.perm.mem_iff.mpr isKnown) new
    | cons head tail =>
      have headReady : head ∈ sorting.ready.keys := by
        refine (isOf.mem_ready_iff head).mpr ⟨?_, ?_, isOrder.comeAfter _ head tail rfl⟩
        · exact isOrder.perm.mem_iff.mp (List.mem_append_right _ List.mem_cons_self)
        · exact fun placed =>
            (List.nodup_append.mp distinct).2.2 head placed head List.mem_cons_self rfl
      rw [first] at headReady
      rcases List.mem_cons.mp headReady with rfl | later
      · refine inductionHypothesis afterStep ?_
        rw [order]
        exact ⟨tail, (List.append_cons _ _ _).symm⟩
      · have sorted := sorting.ready.sorted_keys
        rw [first] at sorted
        have smaller : next < head := (List.pairwise_cons.mp sorted).1 head later
        obtain ⟨others, final⟩ := afterStep.finish.2.2
        rw [order, List.append_assoc, List.singleton_append] at final
        rw [← final]
        exact .inr (List.append_left_lt (List.cons_lt_cons_iff.mpr (.inl smaller)))

end Sorting

/-! ### Orders -/

/-- Whether all that templates include is known. -/
def IncludesKnown (known : Dictionary Definition) : Prop :=
  ∀ user target, Includes known user target → target ∈ known.keys

/-- What is to be made of templates: the least order, or those that cannot have a place. -/
structure IsSorted (known : Dictionary Definition)
    (result : Except (List String) (List String)) : Prop where
  /-- There is an order if there is no cycle. -/
  succeeds_iff : (∃ order, result = .ok order) ↔
    ∀ name, ¬Relation.TransGen (Includes known) name name
  least : ∀ order, result = .ok order → IsOrder known order ∧
    ∀ other, IsOrder known other → order = other ∨ order < other
  /-- Left are those from which includes lead into a cycle, in rising order. -/
  left : ∀ names, result = .error names → names.Pairwise (· < ·) ∧
    ∀ name, name ∈ names ↔ LeadsToCycle known name

theorem isOrder_of_isEmpty {known : Dictionary Definition} {sorting : Sorting}
    (isOf : sorting.IsOf known) (isEmpty : sorting.pending.isEmpty) :
    IsOrder known sorting.order where
  perm := by
    refine (List.perm_ext_iff_of_nodup isOf.distinct known.nodup_keys).mpr fun name =>
      ⟨isOf.among name, fun isKnown => ?_⟩
    by_contra new
    have pending := (isOf.mem_pending_iff name).mpr ⟨isKnown, new⟩
    rw [(Dictionary.isEmpty_iff _).mp isEmpty] at pending
    exact List.not_mem_nil pending
  comeAfter := isOf.comeAfter

/-- The templates that are left when none is ready are those that lead into a cycle. -/
theorem mem_pending_iff_leadsToCycle {known : Dictionary Definition}
    (includesKnown : IncludesKnown known) {sorting : Sorting} (isOf : sorting.IsOf known)
    (noneReady : sorting.ready.keys = []) (name : String) :
    name ∈ sorting.pending.keys ↔ LeadsToCycle known name := by
  refine ⟨leadsToCycle_of_forall_exists fun user isPending => ?_, fun leads => ?_⟩
  · obtain ⟨isKnown, new⟩ := (isOf.mem_pending_iff user).mp isPending
    by_contra notOne
    have isReady := (isOf.mem_ready_iff user).mpr ⟨isKnown, new, fun target includes => by
      by_contra unplaced
      exact notOne ⟨target, (isOf.mem_pending_iff target).mpr
        ⟨includesKnown user target includes, unplaced⟩, includes⟩⟩
    rw [noneReady] at isReady
    exact List.not_mem_nil isReady
  · have isKnown : name ∈ known.keys := by
      obtain ⟨_, path, around⟩ := leads
      obtain ⟨_, ⟨definition, found, _⟩, _⟩ :=
        Relation.TransGen.head'_iff.mp (Relation.TransGen.trans_right path around)
      rw [Dictionary.mem_keys_iff, found]
      rfl
    exact (isOf.mem_pending_iff name).mpr
      ⟨isKnown, fun placed => not_leadsToCycle isOf.distinct isOf.comeAfter placed leads⟩

/-- Templates are brought in the least order, unless there is a cycle. -/
theorem isSorted_topoOrder {known : Dictionary Definition} (includesKnown : IncludesKnown known) :
    IsSorted known (topoOrder known) := by
  obtain ⟨isOf, noneReady, _⟩ := (Sorting.isOf_start known).finish
  have leads := mem_pending_iff_leadsToCycle includesKnown isOf noneReady
  show IsSorted known (if ((Sorting.start known).finish known).pending.isEmpty then _ else _)
  split
  · next isEmpty =>
    have isOrder := isOrder_of_isEmpty isOf isEmpty
    refine ⟨iff_of_true ⟨_, rfl⟩ fun name around => ?_, ?_, nofun⟩
    · have isPending := (leads name).mpr ⟨name, .refl, around⟩
      exact ((isOf.mem_pending_iff name).mp isPending).2
        (isOrder.perm.mem_iff.mpr ((isOf.mem_pending_iff name).mp isPending).1)
    · rintro _ ⟨⟩
      refine ⟨isOrder, fun other otherIsOrder => ?_⟩
      have start : (Sorting.start known).order <+: other := List.nil_prefix
      refine ((Sorting.isOf_start known).finish_le otherIsOrder start).imp_left fun shorter => ?_
      exact shorter.eq_of_length (isOrder.perm.trans otherIsOrder.perm.symm).length_eq
  · next nonempty =>
    refine ⟨iff_of_false nofun fun acyclic => nonempty ?_, nofun, ?_⟩
    · refine (Dictionary.isEmpty_iff _).mpr (List.eq_nil_iff_forall_not_mem.mpr fun name isLeft => ?_)
      obtain ⟨target, _, around⟩ := (leads name).mp isLeft
      exact acyclic target around
    · rintro _ ⟨⟩
      exact ⟨Dictionary.sorted_keys _, leads⟩

/-- Templates whose includes go down in rank can be brought in order. -/
theorem exists_topoOrder {known : Dictionary Definition} (includesKnown : IncludesKnown known)
    (rank : String → Nat)
    (descends : ∀ user target, Includes known user target → rank target < rank user) :
    ∃ order, topoOrder known = .ok order := by
  refine (isSorted_topoOrder includesKnown).succeeds_iff.mpr fun name around => ?_
  have below {user target : String} (path : Relation.TransGen (Includes known) user target) :
      rank target < rank user := by
    induction path with
    | single step => exact descends _ _ step
    | tail _ step inductionHypothesis => exact (descends _ _ step).trans inductionHypothesis
  exact Nat.lt_irrefl _ (below around)

/-! ### Definitions in order -/

/-- Whether templates are known by their own names. -/
def KnownByName (known : Dictionary Definition) : Prop :=
  ∀ name definition, known.get? name = some definition → definition.name = name

section Definitions

variable {known : Dictionary Definition} (byName : KnownByName known)

include byName

theorem get?_name {definition : Definition} (member : definition ∈ known.values) :
    known.get? definition.name = some definition := by
  obtain ⟨name, found⟩ := (known.mem_values_iff definition).mp member
  rw [byName name definition found]
  exact found

theorem map_name_filterMap_get? {names : List String} (among : ∀ name ∈ names, name ∈ known.keys) :
    (names.filterMap known.get?).map (·.name) = names := by
  induction names with
  | nil => rfl
  | cons head rest inductionHypothesis =>
    obtain ⟨definition, found⟩ := Option.isSome_iff_exists.mp
      ((known.mem_keys_iff head).mp (among head List.mem_cons_self))
    rw [List.filterMap_cons_some found, List.map_cons, byName head definition found,
      inductionHypothesis fun name member => among name (List.mem_cons_of_mem head member)]

omit byName in
theorem filterMap_get?_keys (known : Dictionary Definition) :
    known.keys.filterMap known.get? = known.values := by
  unfold Dictionary.keys Dictionary.values
  rw [List.filterMap_map, ← List.filterMap_eq_map]
  refine List.filterMap_congr fun entry member => ?_
  exact (known.get?_eq_some_iff_mem entry.1 entry.2).mpr member

variable {order : List String} (isOrder : IsOrder known order)

include isOrder

omit byName in
theorem perm_filterMap_get? : (order.filterMap known.get?).Perm known.values := by
  rw [← filterMap_get?_keys]
  exact isOrder.perm.filterMap _

theorem map_name_of_isOrder : (order.filterMap known.get?).map (·.name) = order :=
  map_name_filterMap_get? byName fun _ member => isOrder.perm.mem_iff.mp member

/-- In an order no template includes itself or one that comes after it. -/
theorem pairwise_filterMap_get? :
    (order.filterMap known.get?).Pairwise fun earlier later =>
      later.name ∉ earlier.includes.keys := by
  have distinct := isOrder.perm.nodup_iff.mpr known.nodup_keys
  have names : order.Pairwise fun earlier later => ¬Includes known earlier later := by
    refine List.pairwise_iff_getElem.mpr fun first second inFirst inSecond before includes => ?_
    have above := (idxOf_lt_of_includes distinct isOrder.comeAfter (List.getElem_mem inFirst)
      includes).2
    rw [distinct.idxOf_getElem, distinct.idxOf_getElem] at above
    omega
  rw [← map_name_of_isOrder byName isOrder, List.pairwise_map] at names
  refine names.imp_of_mem fun {earlier later} member _ notIncludes included => ?_
  have found := get?_name byName ((perm_filterMap_get? isOrder).mem_iff.mp member)
  exact notIncludes ⟨earlier, found, included⟩

end Definitions

end LogForwarder.Template
