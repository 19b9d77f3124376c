/-
This file proves when lists repeat nothing, and what is left of a list whose repetitions are erased:
each item once, so that a list without repetitions is left as it is. Normal forms, routes and
generated text all erase repetitions, and a second pass over them must find nothing to erase.
-/

import Mathlib.Data.List.Nodup

namespace LogForwarder

theorem sublist_ite {α : Type} (condition : Prop) [Decidable condition] (items : List α) :
    (if condition then items else []).Sublist items := by
  split
  · exact List.Sublist.refl items
  · exact List.nil_sublist items

theorem sublist_ite_else {α : Type} (condition : Prop) [Decidable condition] (items : List α) :
    (if condition then [] else items).Sublist items := by
  split
  · exact List.nil_sublist items
  · exact List.Sublist.refl items

/-- What comes between two parts of a list repeats nothing if it shares nothing with them. -/
theorem nodup_append_of_notMem {α : Type} {start middle rest : List α}
    (outer : (start ++ rest).Nodup) (inner : middle.Nodup)
    (apart : ∀ item ∈ middle, item ∉ start ++ rest) : (start ++ middle ++ rest).Nodup := by
  have moved : (start ++ middle ++ rest).Perm (middle ++ (start ++ rest)) := by
    rw [← List.append_assoc]
    exact List.perm_append_comm.append_right rest
  rw [moved.nodup_iff]
  refine List.nodup_append.mpr ⟨inner, outer, ?_⟩
  rintro item inMiddle _ outside rfl
  exact apart item inMiddle outside

variable {α : Type} [BEq α] [LawfulBEq α]

theorem nodup_eraseDups (items : List α) : items.eraseDups.Nodup := by
  -- The induction is on the length, since what is left of the tail is a filtered tail.
  induction length : items.length using Nat.strongRecOn generalizing items with
  | ind bound inductionHypothesis =>
    cases items with
    | nil => exact List.nodup_nil
    | cons head rest =>
      rw [List.eraseDups_cons, List.nodup_cons]
      refine ⟨?_, ?_⟩
      · rw [List.mem_eraseDups, List.mem_filter]
        intro ⟨_, different⟩
        rw [BEq.rfl] at different
        exact Bool.false_ne_true different
      · have shorter : (rest.filter fun item => !item == head).length < bound := by
          rw [← length, List.length_cons]
          exact Nat.lt_succ_of_le (List.length_filter_le _ _)
        exact inductionHypothesis _ shorter _ rfl

theorem eraseDups_eq_self (items : List α) (distinct : items.Nodup) : items.eraseDups = items := by
  induction items with
  | nil => rfl
  | cons head rest inductionHypothesis =>
    obtain ⟨absent, distinctRest⟩ := List.nodup_cons.mp distinct
    have unfiltered : (rest.filter fun item => !item == head) = rest := by
      rw [List.filter_eq_self]
      intro item member
      have different : item ≠ head := fun equal => absent (equal ▸ member)
      rw [beq_false_of_ne different]
      rfl
    rw [List.eraseDups_cons, unfiltered, inductionHypothesis distinctRest]

/-- Erasing repetitions changes nothing exactly when there are none. -/
theorem eraseDups_eq_self_iff (items : List α) : items.eraseDups = items ↔ items.Nodup := by
  refine ⟨?_, eraseDups_eq_self items⟩
  intro unchanged
  rw [← unchanged]
  exact nodup_eraseDups items

/-! ### Items in turn -/

/-- A state that items are taken into in turn has what one of them gives it, or had it before. -/
theorem foldl_iff_exists {σ α : Type} {step : σ → α → σ} (has : σ → Prop) (gives : α → Prop)
    (each : ∀ state item, has (step state item) ↔ gives item ∨ has state) (items : List α)
    (state : σ) : has (items.foldl step state) ↔ (∃ item ∈ items, gives item) ∨ has state := by
  induction items generalizing state with
  | nil => simp
  | cons head rest inductionHypothesis =>
    rw [List.foldl_cons, inductionHypothesis, each, List.exists_mem_cons_iff, or_assoc,
      or_left_comm]

/-! ### Things with names -/

section Named

variable {α : Type} (name : α → String) {items : List α}

/-- Among things with different names, a thing is found by its name. -/
theorem find?_name (distinct : (items.map name).Nodup) {item : α} (member : item ∈ items) :
    items.find? (name · = name item) = some item := by
  induction items with
  | nil => cases member
  | cons head rest inductionHypothesis =>
    obtain ⟨absent, distinctRest⟩ := List.nodup_cons.mp distinct
    rw [List.find?_cons]
    rcases List.mem_cons.mp member with rfl | later
    · rw [decide_eq_true rfl]
    · have different : name head ≠ name item :=
        fun equal => absent (equal ▸ List.mem_map_of_mem later)
      rw [decide_eq_false different]
      exact inductionHypothesis distinctRest later

/-- Things with different names that have one name are the same. -/
theorem eq_of_name_eq (distinct : (items.map name).Nodup) {first second : α}
    (firstMember : first ∈ items) (secondMember : second ∈ items)
    (equal : name first = name second) : first = second := by
  have found := find?_name name distinct firstMember
  rw [equal, find?_name name distinct secondMember] at found
  exact (Option.some.inj found).symm

/-- Finding the things of some of their names keeps the things of these names, in order. -/
theorem filterMap_find?_name (distinct : (items.map name).Nodup) (keep : String → Bool) :
    ((items.map name).filter keep).filterMap (fun sought => items.find? (name · = sought)) =
      items.filter fun item => keep (name item) := by
  have general : ∀ some : List α, (∀ item ∈ some, item ∈ items) →
      ((some.map name).filter keep).filterMap
          (fun sought => items.find? (name · = sought)) =
        some.filter fun item => keep (name item) := by
    intro some present
    induction some with
    | nil => rfl
    | cons head rest inductionHypothesis =>
      have inRest := inductionHypothesis fun item member =>
        present item (List.mem_cons_of_mem head member)
      rw [List.map_cons, List.filter_cons, List.filter_cons]
      cases keep (name head) with
      | false => exact inRest
      | true =>
        rw [if_pos rfl, if_pos rfl, List.filterMap_cons,
          find?_name name distinct (present head List.mem_cons_self), inRest]
  exact general items fun _ member => member

end Named

end LogForwarder
