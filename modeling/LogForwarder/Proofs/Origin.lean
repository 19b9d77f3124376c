/-
This file finds out when explanations tell the right stack for what expansion added. The stack of an
added output is looked up by its name: it is taken from the first declared output whose name and a
dash the name of the added one begins with. The stack itself passes this test, so that some output
is found for everything that was added, and is found once. But other outputs may pass it as well,
namely those whose names, followed by a dash, begin the name of the stack; whichever of them is
declared first is found. So an explanation is right exactly if no such output stands before a stack.
-/

import LogForwarder.Proofs.AsWritten
import LogForwarder.Route.Explanation
import Mathlib.Data.List.TakeWhile

namespace LogForwarder

/-! ### The first that passes -/

/-- A member that passes a test is the first to do so exactly if none before it passes. -/
theorem find?_eq_some_iff_takeWhile {names : List String} {test : String → Bool} {name : String}
    (member : name ∈ names) (passes : test name = true) :
    names.find? test = some name ↔ ∀ other ∈ names.takeWhile (· ≠ name), test other = false := by
  induction names with
  | nil => exact absurd member List.not_mem_nil
  | cons first others inductionHypothesis =>
    by_cases same : first = name
    · subst same
      rw [List.find?_cons_of_pos passes, List.takeWhile_cons_of_neg (by simp)]
      exact ⟨fun _ _ absurdity => absurd absurdity List.not_mem_nil, fun _ => rfl⟩
    · have later := (List.mem_cons.mp member).resolve_left (Ne.symm same)
      have before : (first :: others).takeWhile (· ≠ name) =
          first :: others.takeWhile (· ≠ name) := List.takeWhile_cons_of_pos (decide_eq_true same)
      rw [before, List.forall_mem_cons]
      cases result : test first with
      | true =>
        rw [List.find?_cons_of_pos result]
        exact ⟨fun found => absurd (Option.some.inj found) same, fun ⟨fails, _⟩ => nomatch fails⟩
      | false =>
        rw [List.find?_cons_of_neg (by rw [result]; exact Bool.false_ne_true),
          inductionHypothesis later]
        exact ⟨fun fail => ⟨rfl, fail⟩, And.right⟩

/--
A name and a dash begin the name of a tenant if the name is that of the stack, or if they begin the
name of the stack; there is no dash behind that of the tenant.
-/
theorem dash_prefix_tenantName_iff (other stack : String) (kind : LogKind) :
    (other ++ "-").toList <+: (tenantName stack kind).toList ↔
      other = stack ∨ (other ++ "-").toList <+: stack.toList := by
  have dashed : (other ++ "-").toList = other.toList ++ ['-'] := String.toList_append
  rw [toList_tenantName, dashed]
  refine ⟨?_, ?_⟩
  · rintro ⟨rest, whole⟩
    rw [List.append_assoc, List.singleton_append] at whole
    rcases List.append_eq_append_iff.mp whole with ⟨between, longer, tail⟩ | ⟨between, longer, tail⟩
    · cases between with
      | nil => exact .inl (String.toList_inj.mp (by rw [longer, List.append_nil]))
      | cons first others =>
        obtain ⟨rfl, _⟩ := List.cons.inj tail
        exact .inr ⟨others, by rw [longer, List.append_assoc, List.singleton_append]⟩
    · cases between with
      | nil => exact .inl (String.toList_inj.mp (by rw [longer, List.append_nil]))
      | cons first others =>
        have dash : '-' ∈ kind.name.toList := by
          rw [(List.cons.inj tail).2]
          exact List.mem_append_right _ List.mem_cons_self
        have noDash : '-' ∉ kind.name.toList := by cases kind <;> decide
        exact absurd dash noDash
  · rintro (rfl | begins)
    · exact ⟨kind.name.toList, by rw [List.append_assoc, List.singleton_append]⟩
    · exact begins.trans (List.prefix_append _ _)

namespace Spec

/-! ### What expansion adds -/

/-- The names of the declared outputs. -/
def declaredNames (spec : Spec) : List String := spec.outputs.map (·.name)

/-- The tenants that are added under a name that is not declared. -/
def addedTenants (spec : Spec) : List (String × LogKind) :=
  spec.tenantsInOrder.filter fun (stack, kind) => tenantName stack kind ∉ spec.declaredNames

theorem mem_addedTenants (spec : Spec) (stack : String) (kind : LogKind) :
    (stack, kind) ∈ spec.addedTenants ↔
      (spec.HasStack stack ∧ spec.Sends kind stack) ∧
        tenantName stack kind ∉ spec.declaredNames := by
  unfold addedTenants
  rw [List.mem_filter, mem_tenantsInOrder, decide_eq_true_eq]

/-- No kind of a stack is listed twice. -/
theorem nodup_tenantsInOrder (spec : Spec) : spec.tenantsInOrder.Nodup := by
  unfold tenantsInOrder
  rw [← stackNames_eq, List.nodup_flatMap]
  refine ⟨fun name _ => ?_, ?_⟩
  · exact (LogKind.nodup_all.filter _).map fun _ _ equal => (Prod.mk.inj equal).2
  · have distinct : spec.stackNames.Nodup := nodup_eraseDups _
    refine distinct.imp fun {first second} different => ?_
    rintro ⟨name, kind⟩ inFirst inSecond
    obtain ⟨_, _, equalFirst⟩ := List.mem_map.mp inFirst
    obtain ⟨_, _, equalSecond⟩ := List.mem_map.mp inSecond
    exact different ((Prod.mk.inj equalFirst).1.trans (Prod.mk.inj equalSecond).1.symm)

/-- The first stack of a name has that name. -/
theorem name_of_firstStack? (spec : Spec) {name : String} {stack : Output}
    (found : spec.firstStack? name = some stack) : stack.name = name := by
  have passes := List.find?_some (p := fun output : Output =>
    decide (output.name = name ∧ output.IsStack)) found
  exact (of_decide_eq_true passes).1

/-- The names that normalization adds are those of the added tenants, in order. -/
theorem addedNames_eq (spec : Spec) :
    (spec.normalize.outputs.map (·.name)).filter (· ∉ spec.declaredNames) =
      spec.addedTenants.map fun (stack, kind) => tenantName stack kind := by
  have tenantNames : (spec.tidied.stackNames.flatMap spec.tidied.tenantOutputs).map (·.name) =
      spec.tenantsInOrder.map fun (stack, kind) => tenantName stack kind := by
    rw [← List.forall₂_eq_eq_eq, List.forall₂_map_left_iff, List.forall₂_map_right_iff]
    refine spec.forall₂_tenants.flip.imp ?_
    rintro tenant ⟨name, kind⟩ ⟨stack, found, isTenant⟩
    rw [isTenant.name, spec.name_of_firstStack? found]
  have plainDeclared : ((spec.plainOutputs.map (·.name)).filter (· ∉ spec.declaredNames)) = [] := by
    refine List.filter_eq_nil_iff.mpr fun name member undeclared => ?_
    obtain ⟨output, plain, rfl⟩ := List.mem_map.mp member
    exact of_decide_eq_true undeclared (List.mem_map_of_mem (List.mem_filter.mp plain).1)
  rw [outputs_normalize_eq, List.map_append, List.filter_append, plainDeclared, List.nil_append,
    tenantNames, List.filter_map]
  rfl

/-! ### What is told of it -/

/-- Whether an output of a name stands for a kind that is sent to a stack. -/
def ComesFrom (spec : Spec) (name stack : String) : Prop :=
  spec.HasStack stack ∧ ∃ kind, spec.Sends kind stack ∧ name = tenantName stack kind

/--
Whether an output is declared before a stack whose name, followed by a dash, begins the name of the
stack.
-/
def IsOvershadowed (spec : Spec) (stack : String) : Prop :=
  ∃ other ∈ spec.declaredNames.takeWhile (· ≠ stack), (other ++ "-").toList <+: stack.toList

/-- The name of a stack is declared, and it begins those of its tenants. -/
theorem mem_declaredNames_of_hasStack (spec : Spec) {stack : String}
    (isStack : spec.HasStack stack) : stack ∈ spec.declaredNames := by
  obtain ⟨output, declared, rfl, _⟩ := isStack
  exact List.mem_map_of_mem declared

theorem exists_expandedFrom? (spec : Spec) {stack : String} (isStack : spec.HasStack stack)
    (kind : LogKind) : ∃ source, spec.expandedFrom? (tenantName stack kind) = some source := by
  rw [← Option.isSome_iff_exists]
  unfold expandedFrom?
  rw [List.find?_isSome]
  exact ⟨stack, spec.mem_declaredNames_of_hasStack isStack,
    List.isPrefixOf_iff_prefix.mpr ((dash_prefix_tenantName_iff stack stack kind).mpr (.inl rfl))⟩

/-- A tenant is said to come from its stack exactly if nothing stands before the stack. -/
theorem expandedFrom?_tenantName_iff (spec : Spec) {stack : String}
    (isStack : spec.HasStack stack) (kind : LogKind) :
    spec.expandedFrom? (tenantName stack kind) = some stack ↔ ¬spec.IsOvershadowed stack := by
  have begins := (dash_prefix_tenantName_iff stack stack kind).mpr (.inl rfl)
  show spec.declaredNames.find? _ = some stack ↔ _
  unfold IsOvershadowed
  rw [find?_eq_some_iff_takeWhile (spec.mem_declaredNames_of_hasStack isStack)
    (List.isPrefixOf_iff_prefix.mpr begins)]
  simp only [not_exists, not_and]
  refine forall₂_congr fun other before => ?_
  have passed := List.mem_takeWhile_imp before
  have different : other ≠ stack := of_decide_eq_true passed
  rw [← Bool.not_eq_true, List.isPrefixOf_iff_prefix, dash_prefix_tenantName_iff]
  exact not_congr (or_iff_right different)

/-- What explanations say of expansion: each added tenant, with what was found for its name. -/
theorem expanded_explain (spec : Spec) :
    spec.explain.expanded = spec.addedTenants.filterMap fun (stack, kind) =>
      (spec.expandedFrom? (tenantName stack kind)).map fun source =>
        (tenantName stack kind, source) := by
  show ((spec.normalize.outputs.map (·.name)).filter (· ∉ spec.declaredNames)).filterMap _ = _
  rw [addedNames_eq, List.filterMap_map]
  rfl

theorem mem_expanded_explain (spec : Spec) (name source : String) :
    (name, source) ∈ spec.explain.expanded ↔
      ∃ stack kind, (stack, kind) ∈ spec.addedTenants ∧ name = tenantName stack kind ∧
        spec.expandedFrom? name = some source := by
  rw [expanded_explain, List.mem_filterMap]
  refine ⟨?_, ?_⟩
  · rintro ⟨⟨stack, kind⟩, added, told⟩
    obtain ⟨found, isSource, equal⟩ := Option.map_eq_some_iff.mp told
    obtain ⟨rfl, rfl⟩ := Prod.mk.inj equal
    exact ⟨stack, kind, added, rfl, isSource⟩
  · rintro ⟨stack, kind, added, rfl, isSource⟩
    exact ⟨(stack, kind), added, Option.map_eq_some_iff.mpr ⟨source, isSource, rfl⟩⟩

/-- Something is told of every added tenant. -/
theorem names_expanded_explain (spec : Spec) :
    spec.explain.expanded.map (·.1) =
      spec.addedTenants.map fun (stack, kind) => tenantName stack kind := by
  rw [expanded_explain, List.map_filterMap, ← List.filterMap_eq_map]
  refine List.filterMap_congr ?_
  rintro ⟨stack, kind⟩ added
  obtain ⟨⟨isStack, _⟩, _⟩ := (spec.mem_addedTenants stack kind).mp added
  obtain ⟨source, found⟩ := spec.exists_expandedFrom? isStack kind
  show ((spec.expandedFrom? (tenantName stack kind)).map _).map _ = _
  rw [found]
  rfl

/-- What is told of a tenant is right exactly if nothing stands before its stack. -/
theorem comesFrom_expandedFrom?_iff (spec : Spec) {stack source : String} {kind : LogKind}
    (isStack : spec.HasStack stack) (sends : spec.Sends kind stack)
    (found : spec.expandedFrom? (tenantName stack kind) = some source) :
    spec.ComesFrom (tenantName stack kind) source ↔ ¬spec.IsOvershadowed stack := by
  rw [← spec.expandedFrom?_tenantName_iff isStack kind, found, Option.some_inj]
  refine ⟨?_, ?_⟩
  · rintro ⟨_, other, _, same⟩
    exact (tenantName_inj.mp same).1.symm
  · rintro rfl
    exact ⟨isStack, kind, sends, rfl⟩

/--
Explanations tell of each output that is added under a name that was not declared, once; and what
they tell is right, in that the output stands for a kind that is sent to the stack that is told,
exactly if no output is declared before the stack of such an output whose name, followed by a dash,
begins that of the stack.
-/
theorem comesFrom_expanded_iff (spec : Spec) :
    (∀ output ∈ spec.normalize.outputs, output.name ∉ spec.declaredNames →
        (spec.explain.expanded.map (·.1)).count output.name = 1) ∧
      ((∀ pair ∈ spec.explain.expanded, spec.ComesFrom pair.1 pair.2) ↔
        ∀ stack kind, spec.HasStack stack → spec.Sends kind stack →
          tenantName stack kind ∉ spec.declaredNames → ¬spec.IsOvershadowed stack) := by
  refine ⟨?_, ?_, ?_⟩
  · intro output member undeclared
    have distinct : (spec.addedTenants.map fun (stack, kind) => tenantName stack kind).Nodup := by
      refine (spec.nodup_tenantsInOrder.filter _).map ?_
      rintro ⟨first, kind⟩ ⟨second, other⟩ equal
      obtain ⟨rfl, rfl⟩ := tenantName_inj.mp equal
      rfl
    have told : output.name ∈
        (spec.normalize.outputs.map (·.name)).filter (· ∉ spec.declaredNames) :=
      List.mem_filter.mpr ⟨List.mem_map_of_mem member, decide_eq_true undeclared⟩
    rw [names_expanded_explain]
    exact List.count_eq_one_of_mem distinct (spec.addedNames_eq ▸ told)
  · intro right stack kind isStack sends undeclared
    obtain ⟨source, found⟩ := spec.exists_expandedFrom? isStack kind
    have told := (spec.mem_expanded_explain _ source).mpr
      ⟨stack, kind, (spec.mem_addedTenants stack kind).mpr ⟨⟨isStack, sends⟩, undeclared⟩, rfl,
        found⟩
    exact (spec.comesFrom_expandedFrom?_iff isStack sends found).mp (right _ told)
  · rintro unshadowed ⟨name, source⟩ told
    obtain ⟨stack, kind, added, rfl, found⟩ := (spec.mem_expanded_explain name source).mp told
    obtain ⟨⟨isStack, sends⟩, undeclared⟩ := (spec.mem_addedTenants stack kind).mp added
    exact (spec.comesFrom_expandedFrom?_iff isStack sends found).mpr
      (unshadowed stack kind isStack sends undeclared)

/-- A spec with an output before a stack, whose name is made of that of the output and a dash. -/
def stackAfter (first stack : String) : Spec where
  inputs := []
  outputs :=
    [{ Output.bare first .http with url? := some "http://[::1]" },
      { Output.bare stack .lokistack with
        lokistack := some { (default : LokiStackSection) with target := ⟨"[::1]/", "ns"⟩ } }]
  pipelines := [⟨some "apps", ["application"], [stack], ∅, none⟩]
  tuning := none

/-- An output for applications is said to come from a server that no records are sent to. -/
theorem not_comesFrom_expanded :
    (stackAfter "a" "a-b").declaredNames.Nodup ∧
      (stackAfter "a" "a-b").problems ∅ .standard .vector = [] ∧
      (stackAfter "a" "a-b").explain.expanded = [("a-b-application", "a")] ∧
      ¬(stackAfter "a" "a-b").ComesFrom "a-b-application" "a" := by
  refine ⟨by decide, by decide, by decide, ?_⟩
  rintro ⟨isStack, _⟩
  revert isStack
  decide

end Spec

end LogForwarder
