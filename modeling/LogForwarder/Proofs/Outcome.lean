/-
This file proves how computations that may fail come out. One that gives a result has given one at
each of its steps, and one whose steps all give results gives one itself.
-/

import Mathlib.Data.List.Forall2

namespace LogForwarder

/-! ### One computation -/

theorem exists_of_isOk {ε α : Type} {computed : Except ε α} (succeeds : computed.isOk) :
    ∃ value, computed = .ok value := by
  cases computed with
  | error error => cases succeeds
  | ok value => exact ⟨value, rfl⟩

/-- What has been worked out of a result is worked out of one that there is. -/
theorem exists_of_toOption_map {ε α β : Type} {computed : Except ε α} {image : α → β} {value : β}
    (evaluated : computed.toOption.map image = some value) :
    ∃ result, computed = .ok result ∧ image result = value := by
  cases computed with
  | error error => cases evaluated
  | ok result => exact ⟨result, rfl, Option.some.inj evaluated⟩

/-- A computation that gives a result gives one at its first step, and from there at the rest. -/
theorem exists_of_bind_eq_ok {ε α β : Type} {first : Except ε α} {rest : α → Except ε β}
    {result : β} (run : (first >>= rest) = .ok result) :
    ∃ value, first = .ok value ∧ rest value = .ok result := by
  cases first with
  | error error => cases run
  | ok value => exact ⟨value, rfl, run⟩

theorem mapError_eq_ok_iff {ε ε' α : Type} {computed : Except ε α} {wrap : ε → ε'} {value : α} :
    computed.mapError wrap = .ok value ↔ computed = .ok value := by
  cases computed with
  | error error => exact ⟨nofun, nofun⟩
  | ok other => exact ⟨fun same => by cases same; rfl, fun same => by cases same; rfl⟩

/-! ### One computation for each item -/

/-- Each of some items has a counterpart in a list that is related to theirs item by item. -/
theorem exists_of_mem_forall₂ {α β : Type} {Related : α → β → Prop} {items : List α}
    {others : List β} (related : List.Forall₂ Related items others) {item : α}
    (member : item ∈ items) : ∃ other ∈ others, Related item other := by
  induction related with
  | nil => exact absurd member List.not_mem_nil
  | cons headRelated _ inductionHypothesis =>
    rcases List.mem_cons.mp member with rfl | later
    · exact ⟨_, List.mem_cons_self, headRelated⟩
    · obtain ⟨other, present, isRelated⟩ := inductionHypothesis later
      exact ⟨other, List.mem_cons_of_mem _ present, isRelated⟩

theorem exists_forall₂ {α β : Type} {Related : α → β → Prop} {items : List α}
    (each : ∀ item ∈ items, ∃ other, Related item other) :
    ∃ others, List.Forall₂ Related items others := by
  induction items with
  | nil => exact ⟨[], .nil⟩
  | cons head rest inductionHypothesis =>
    obtain ⟨other, related⟩ := each head List.mem_cons_self
    obtain ⟨others, allRelated⟩ :=
      inductionHypothesis fun item member => each item (List.mem_cons_of_mem _ member)
    exact ⟨other :: others, .cons related allRelated⟩

/-- Results for some items are a result for each of them. -/
theorem mapM_eq_ok_iff {ε α β : Type} {function : α → Except ε β} {items : List α}
    {results : List β} :
    items.mapM function = .ok results ↔
      List.Forall₂ (fun item result => function item = .ok result) items results := by
  induction items generalizing results with
  | nil =>
    rw [List.forall₂_nil_left_iff, List.mapM_nil]
    exact ⟨fun made => (Except.ok.inj made).symm, fun empty => by rw [empty]; rfl⟩
  | cons head rest inductionHypothesis =>
    rw [List.forall₂_cons_left_iff, List.mapM_cons]
    refine ⟨fun run => ?_, ?_⟩
    · obtain ⟨first, firstMade, run⟩ := exists_of_bind_eq_ok run
      obtain ⟨others, othersMade, run⟩ := exists_of_bind_eq_ok run
      cases run
      exact ⟨first, others, firstMade, inductionHypothesis.mp othersMade, rfl⟩
    · rintro ⟨first, others, firstMade, othersMade, rfl⟩
      rw [firstMade, inductionHypothesis.mpr othersMade]
      rfl

theorem exists_of_mem_mapM {ε α β : Type} {function : α → Except ε β} {items : List α}
    {results : List β} (made : items.mapM function = .ok results) {result : β}
    (member : result ∈ results) : ∃ item ∈ items, function item = .ok result :=
  exists_of_mem_forall₂ (List.Forall₂.flip (mapM_eq_ok_iff.mp made)) member

/-- A computation for each of some items gives results if it gives one for each. -/
theorem exists_mapM {ε α β : Type} {function : α → Except ε β} {items : List α}
    (each : ∀ item ∈ items, ∃ result, function item = .ok result) :
    ∃ results, items.mapM function = .ok results := by
  simp only [mapM_eq_ok_iff]
  exact exists_forall₂ each

end LogForwarder
