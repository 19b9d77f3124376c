/-
This file proves how names stand for kinds of records. A reserved name resolves to its kind, and an
input that leaves out none of the records of its kind may be referred to by the name of that kind:
the reference resolves to the same kind before and after. It also proves that the name of a tenant
says both which stack it belongs to and which kind it takes, so that tenants of different stacks or
of different kinds never share a name.
-/

import LogForwarder.Spec.Normal
import Mathlib.Data.List.Basic

namespace LogForwarder

/-! ### Kinds and their names -/

namespace LogKind

theorem mem_all (kind : LogKind) : kind ∈ all := by cases kind <;> decide

theorem nodup_all : all.Nodup := by decide

@[simp]
theorem ofName?_name (kind : LogKind) : ofName? kind.name = some kind := by
  cases kind <;> decide

/-- A name that resolves to a kind is its reserved name. -/
theorem name_of_ofName? {name : String} {kind : LogKind} (resolved : ofName? name = some kind) :
    kind.name = name := by
  have found := List.find?_some resolved
  exact of_decide_eq_true found

/-- A name resolves to no kind if it is the reserved name of none. -/
theorem ofName?_eq_none_iff (name : String) :
    ofName? name = none ↔ ∀ kind : LogKind, name ≠ kind.name := by
  constructor
  · rintro unresolved kind rfl
    rw [ofName?_name] at unresolved
    cases unresolved
  · intro unreserved
    refine Option.eq_none_iff_forall_ne_some.mpr fun kind resolved => ?_
    exact unreserved kind (name_of_ofName? resolved).symm

theorem name_injective : Function.Injective name := by
  intro first second equal
  have resolved : ofName? first.name = ofName? second.name := by rw [equal]
  rw [ofName?_name, ofName?_name] at resolved
  exact Option.some.inj resolved

end LogKind

/-! ### Inputs that stand for a whole kind -/

/-- An input stands as a whole for no other kind than the one that it narrows. -/
theorem Input.kind?_of_wholeKind? {input : Input} {kind : LogKind}
    (whole : input.wholeKind? = some kind) : input.kind? = some kind := by
  unfold Input.wholeKind? at whole
  split at whole
  · rename_i application
    split at whole
    · exact absurd whole.symm (Option.some_ne_none kind)
    · rw [application, whole]
  · rename_i infrastructure
    split at whole
    · rw [infrastructure, whole]
    · exact absurd whole.symm (Option.some_ne_none kind)
  · rename_i audit
    split at whole
    · rw [audit, whole]
    · exact absurd whole.symm (Option.some_ne_none kind)
  · exact absurd whole.symm (Option.some_ne_none kind)

/-- An input with a selector narrows application records. -/
theorem Input.kind?_of_hasSelector (input : Input) (narrows : input.kind?.isSome)
    (selector : input.hasSelector) : input.kind? = some .application := by
  cases application : input.application with
  | none =>
    unfold hasSelector namespaces matchLabels at selector
    rw [application] at selector
    exact absurd selector (by decide)
  | some section' =>
    unfold kind? at narrows ⊢
    rw [application] at narrows ⊢
    cases infrastructure : input.infrastructure <;> cases audit : input.audit <;>
      rw [infrastructure, audit] at narrows <;> first | rfl | cases narrows

/-- An application input without a selector stands for all applications. -/
theorem Input.wholeKind?_of_not_hasSelector (input : Input)
    (narrows : input.kind? = some .application) (noSelector : ¬input.hasSelector) :
    input.wholeKind? = some .application := by
  unfold wholeKind?
  rw [narrows]
  exact if_neg noSelector

/-- An input with a selector leaves out records of its kind. -/
theorem Input.wholeKind?_of_hasSelector (input : Input) (narrows : input.kind?.isSome)
    (selector : input.hasSelector) : input.wholeKind? = none := by
  unfold wholeKind?
  rw [input.kind?_of_hasSelector narrows selector]
  exact if_pos selector

namespace Spec

theorem name_of_input? (spec : Spec) {reference : String} {input : Input}
    (found : spec.input? reference = some input) : input.name = reference :=
  of_decide_eq_true
    (List.find?_some (p := fun input : Input => decide (input.name = reference)) found)

/-- A reserved name resolves to its kind, whatever inputs are declared. -/
theorem refKind?_of_ofName? (spec : Spec) {reference : String} {kind : LogKind}
    (reserved : LogKind.ofName? reference = some kind) : spec.refKind? reference = some kind := by
  unfold refKind?
  rw [reserved]
  rfl

/-- Any other name resolves to the kind that the input of that name narrows. -/
theorem refKind?_of_ofName?_none (spec : Spec) {reference : String}
    (unreserved : LogKind.ofName? reference = none) :
    spec.refKind? reference = (spec.input? reference).bind (·.kind?) := by
  unfold refKind?
  rw [unreserved]
  rfl

@[simp]
theorem refKind?_name (spec : Spec) (kind : LogKind) : spec.refKind? kind.name = some kind :=
  spec.refKind?_of_ofName? (LogKind.ofName?_name kind)

/-- A reserved name is its own normal form. -/
theorem normalRef_of_ofName? (spec : Spec) {reference : String} {kind : LogKind}
    (reserved : LogKind.ofName? reference = some kind) : spec.normalRef reference = reference := by
  unfold normalRef
  rw [reserved]
  rfl

/-- The normal form of a reference to an input: its kind where it stands for all of it. -/
theorem normalRef_of_ofName?_none (spec : Spec) {reference : String}
    (unreserved : LogKind.ofName? reference = none) :
    spec.normalRef reference =
      (((spec.input? reference).bind (·.wholeKind?)).map (·.name)).getD reference := by
  unfold normalRef
  rw [unreserved]
  rfl

/-- A reference is either in normal form, or its normal form is the name of its kind. -/
theorem normalRef_cases (spec : Spec) (reference : String) :
    spec.normalRef reference = reference ∨
      ∃ kind, spec.refKind? reference = some kind ∧ spec.normalRef reference = kind.name := by
  cases reserved : LogKind.ofName? reference with
  | some kind => exact .inl (spec.normalRef_of_ofName? reserved)
  | none =>
    rw [spec.normalRef_of_ofName?_none reserved, spec.refKind?_of_ofName?_none reserved]
    cases declared : spec.input? reference with
    | none => exact .inl rfl
    | some input =>
      cases whole : input.wholeKind? with
      | none =>
        refine .inl ?_
        rw [Option.bind_some, whole]
        rfl
      | some kind =>
        refine .inr ⟨kind, input.kind?_of_wholeKind? whole, ?_⟩
        rw [Option.bind_some, whole]
        rfl

/-- A reference and its normal form resolve to the same kind. -/
@[simp]
theorem refKind?_normalRef (spec : Spec) (reference : String) :
    spec.refKind? (spec.normalRef reference) = spec.refKind? reference := by
  rcases spec.normalRef_cases reference with same | ⟨kind, resolved, renamed⟩
  · rw [same]
  · rw [renamed, refKind?_name, resolved]

@[simp]
theorem normalRef_normalRef (spec : Spec) (reference : String) :
    spec.normalRef (spec.normalRef reference) = spec.normalRef reference := by
  rcases spec.normalRef_cases reference with same | ⟨kind, _, renamed⟩
  · rw [same, same]
  · rw [renamed]
    exact spec.normalRef_of_ofName? (LogKind.ofName?_name kind)

end Spec

/-! ### Names of tenants -/

/-- The name of the tenant of a kind in the stack of a name. -/
def tenantName (stack : String) (kind : LogKind) : String := s!"{stack}-{kind.name}"

theorem toList_tenantName (stack : String) (kind : LogKind) :
    (tenantName stack kind).toList = stack.toList ++ '-' :: kind.name.toList := by
  show (stack ++ "-" ++ kind.name).toList = _
  rw [String.toList_append, String.toList_append, List.append_assoc]
  rfl

/-- The name of a tenant tells its kind. -/
theorem kind_of_tenantName {first second : String} {kind other : LogKind}
    (equal : tenantName first kind = tenantName second other) : kind = other := by
  -- The names of the three kinds end in different letters.
  have lastLetter : ∀ (stack : String) (kind : LogKind),
      (tenantName stack kind).toList.getLast? = kind.name.toList.getLast? := by
    intro stack kind
    rw [toList_tenantName, List.getLast?_append]
    cases kind <;> rfl
  have letters : kind.name.toList.getLast? = other.name.toList.getLast? := by
    rw [← lastLetter first, ← lastLetter second, equal]
  revert letters
  cases kind <;> cases other <;> decide

/-- The name of a tenant tells its stack and its kind. -/
theorem tenantName_inj {first second : String} {kind other : LogKind} :
    tenantName first kind = tenantName second other ↔ first = second ∧ kind = other := by
  refine ⟨?_, ?_⟩
  · intro equal
    obtain rfl := kind_of_tenantName equal
    have lists := congrArg String.toList equal
    rw [toList_tenantName, toList_tenantName, List.append_left_inj] at lists
    exact ⟨String.toList_inj.mp lists, rfl⟩
  · rintro ⟨rfl, rfl⟩
    rfl

end LogForwarder
