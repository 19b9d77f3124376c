/-
This file proves what it means that elements are written in order: each reads from elements before
it and from nothing else. An input names an element by what comes before its first dot, and with a
dot it names a branch, so that the element must be a router that has this branch. Lists of elements
are checked one after the other, each with those before it; then no input of the whole dangles, and
no element reads from itself by a detour, since every step from an element to one that reads from it
leads further down.
-/

import LogForwarder.Proofs.Arena
import LogForwarder.Proofs.Lookup
import LogForwarder.Vector.Transform
import Mathlib.Data.List.TakeWhile

namespace LogForwarder

/-! ### Components of inputs -/

namespace Element

theorem isBeforeDot {id : String} (plain : '.' ∉ id.toList) :
    ∀ character ∈ id.toList, decide (character ≠ '.') = true :=
  fun _ member => decide_eq_true fun equal => plain (equal ▸ member)

/-- An id without dots names the element of that id. -/
theorem component_eq_self {id : String} (plain : '.' ∉ id.toList) : component id = id := by
  unfold component
  rw [List.takeWhile_eq_self_iff.mpr (isBeforeDot plain), String.ofList_toList]

theorem toList_branchOf (id branch : String) :
    (Vector.branchOf id branch).toList = id.toList ++ '.' :: branch.toList := by
  show (id ++ "." ++ branch).toList = _
  rw [String.toList_append, String.toList_append, List.append_assoc]
  rfl

/-- A branch of an element names the element. -/
theorem component_branchOf {id : String} (branch : String) (plain : '.' ∉ id.toList) :
    component (Vector.branchOf id branch) = id := by
  unfold component
  rw [toList_branchOf, List.takeWhile_append_of_pos (isBeforeDot plain),
    List.takeWhile_cons_of_neg (by decide), List.append_nil, String.ofList_toList]

/-- Inputs that name branches of one element are equal only if the branches are. -/
theorem branchOf_inj {id first second : String}
    (same : Vector.branchOf id first = Vector.branchOf id second) : first = second := by
  have characters := congrArg String.toList same
  rw [toList_branchOf, toList_branchOf] at characters
  exact String.toList_inj.mp (List.cons.inj (List.append_cancel_left characters)).2

theorem branchOf_ne_self (id branch : String) : Vector.branchOf id branch ≠ id := by
  intro same
  have lengths := congrArg List.length (congrArg String.toList same)
  rw [toList_branchOf, List.length_append, List.length_cons] at lengths
  omega

/-- The branches that a router sends records to. Any other element has none. -/
def branches (element : Element) : List String :=
  if element.template = Vector.Templates.route.name then
    ((Value.object element.params).field "routes").items.filterMap fun branch =>
      (branch.field "name").text?
  else []

@[simp]
theorem branches_route (id : String) (inputs : List String) (branches : List Vector.Branch) :
    (Vector.route id inputs branches).branches = branches.map (·.name) := by
  refine (if_pos rfl).trans ?_
  unfold Vector.route Vector.Branch.value
  simp [field_create, List.lookup_cons, List.filterMap_map, Function.comp_def]

end Element

/-! ### Elements in order -/

/-- Whether an input leads to one of some elements: to all that comes from it, or to a branch. -/
def LeadsTo (elements : List Element) (input : String) : Prop :=
  ∃ feeder ∈ elements, Element.component input = feeder.id ∧
    (input = feeder.id ∨ ∃ branch ∈ feeder.branches, input = Vector.branchOf feeder.id branch)

/-- Whether each of some elements reads only from those before it, and from `earlier` ones. -/
def InOrder (earlier : List Element) : List Element → Prop
  | [] => True
  | element :: rest =>
    (∀ input ∈ element.inputs, LeadsTo earlier input) ∧ InOrder (earlier ++ [element]) rest

theorem leadsTo_id {elements : List Element} (element : Element) {id : String}
    (isId : element.id = id) (member : element ∈ elements) (plain : '.' ∉ id.toList) :
    LeadsTo elements id := by
  subst isId
  exact ⟨element, member, Element.component_eq_self plain, .inl rfl⟩

theorem leadsTo_branchOf {elements : List Element} (router : Element) {id : String}
    (isId : router.id = id) (member : router ∈ elements) (plain : '.' ∉ id.toList)
    {branch : String} (isBranch : branch ∈ router.branches) :
    LeadsTo elements (Vector.branchOf id branch) := by
  subst isId
  exact ⟨router, member, Element.component_branchOf branch plain, .inr ⟨branch, isBranch, rfl⟩⟩

theorem LeadsTo.mono {elements more : List Element} {input : String}
    (leads : LeadsTo elements input) (among : ∀ element ∈ elements, element ∈ more) :
    LeadsTo more input := by
  obtain ⟨feeder, member, named⟩ := leads
  exact ⟨feeder, among feeder member, named⟩

/-- An input that names a branch of an element leads to a router with this branch. -/
theorem LeadsTo.exists_branch {elements : List Element} {router branch : String}
    (leads : LeadsTo elements (Vector.branchOf router branch)) (plain : '.' ∉ router.toList) :
    ∃ feeder ∈ elements, feeder.id = router ∧ branch ∈ feeder.branches := by
  obtain ⟨feeder, member, named, whole | ⟨other, isBranch, same⟩⟩ := leads
  · rw [Element.component_branchOf branch plain] at named
    exact absurd (whole.trans named.symm) (Element.branchOf_ne_self router branch)
  · rw [Element.component_branchOf branch plain] at named
    rw [← named] at same
    exact ⟨feeder, member, named.symm, Element.branchOf_inj same ▸ isBranch⟩

theorem inOrder_append (earlier first second : List Element) :
    InOrder earlier (first ++ second) ↔
      InOrder earlier first ∧ InOrder (earlier ++ first) second := by
  induction first generalizing earlier with
  | nil => rw [List.nil_append, List.append_nil, InOrder, true_and]
  | cons head rest inductionHypothesis =>
    rw [List.cons_append, InOrder, InOrder, inductionHypothesis, List.append_assoc,
      List.singleton_append, and_assoc]

/-- Elements that read only from earlier ones are in order. -/
theorem inOrder_of_forall {earlier elements : List Element}
    (reads : ∀ element ∈ elements, ∀ input ∈ element.inputs, LeadsTo earlier input) :
    InOrder earlier elements := by
  induction elements generalizing earlier with
  | nil => trivial
  | cons head rest inductionHypothesis =>
    refine ⟨reads head List.mem_cons_self, inductionHypothesis fun element member input inputs => ?_⟩
    exact (reads element (List.mem_cons_of_mem head member) input inputs).mono
      fun _ present => List.mem_append_left _ present

theorem inOrder_ite {earlier elements : List Element} (condition : Prop) [Decidable condition]
    (ordered : condition → InOrder earlier elements) :
    InOrder earlier (if condition then elements else []) := by
  split
  · rename_i holds
    exact ordered holds
  · trivial

/-- Lists of elements that are in order after the same elements are in order one after the other. -/
theorem inOrder_flatten {start : List Element} {parts : List (List Element)}
    (each : ∀ part ∈ parts, ∀ earlier : List Element, (∀ element ∈ start, element ∈ earlier) →
      InOrder earlier part) : InOrder start parts.flatten := by
  have after : ∀ earlier : List Element, (∀ element ∈ start, element ∈ earlier) →
      InOrder earlier parts.flatten := by
    induction parts with
    | nil => exact fun _ _ => trivial
    | cons part rest inductionHypothesis =>
      intro earlier present
      rw [List.flatten_cons, inOrder_append]
      refine ⟨each part List.mem_cons_self earlier present, ?_⟩
      exact inductionHypothesis (fun other member => each other (List.mem_cons_of_mem _ member)) _
        fun element member => List.mem_append_left _ (present element member)
  exact after start fun _ member => member

/-- An element reads from those before it: the earlier ones and those before its position. -/
theorem InOrder.leadsTo_take {earlier elements : List Element} (ordered : InOrder earlier elements)
    {position : Nat} {element : Element} (found : elements[position]? = some element)
    {input : String} (reads : input ∈ element.inputs) :
    LeadsTo (earlier ++ elements.take position) input := by
  induction elements generalizing earlier position with
  | nil => cases found
  | cons head rest inductionHypothesis =>
    obtain ⟨headReads, restOrdered⟩ := ordered
    cases position with
    | zero =>
      obtain rfl := Option.some.inj found
      rw [List.take_zero, List.append_nil]
      exact headReads input reads
    | succ position =>
      have inRest := inductionHypothesis restOrdered found
      rw [List.append_assoc] at inRest
      exact inRest

/-! ### Arenas -/

namespace Arena

/-- What holds of an arena whose elements are in order. -/
structure IsResolved (arena : Arena) : Prop where
  /-- An input names an element before the one that reads it. -/
  earlier : ∀ position element, arena.elements[position]? = some element →
    ∀ input ∈ element.inputs,
      ∃ feeder ∈ arena.elements.take position, feeder.id = Element.component input
  /-- An input with a dot names a router before the one that reads it, and a branch that it has. -/
  branch : ∀ position element, arena.elements[position]? = some element →
    ∀ router branch, '.' ∉ router.toList → Vector.branchOf router branch ∈ element.inputs →
      ∃ feeder ∈ arena.elements.take position, feeder.id = router ∧
        feeder.template = Vector.Templates.route.name ∧ branch ∈ feeder.branches
  noDangling : arena.danglingInputs [] = []
  acyclic : ∀ id, ¬Relation.TransGen arena.Feeds id id

/-- Where elements are in order no inputs dangle. -/
theorem danglingInputs_of_inOrder (arena : Arena) (ordered : InOrder [] arena.elements) :
    arena.danglingInputs [] = [] := by
  refine (arena.danglingInputs_eq_nil_iff []).mpr fun position element found input reads => .inr ?_
  obtain ⟨feeder, before, named, _⟩ := ordered.leadsTo_take found reads
  rw [List.nil_append] at before
  obtain ⟨earlier, bound, atEarlier⟩ := List.mem_take_iff_getElem.mp before
  refine ⟨earlier, by omega, (arena.position?_eq_some_iff _ _).mpr ?_⟩
  unfold ids
  have inside : earlier < arena.elements.length := by omega
  rw [List.getElem?_map, List.getElem?_eq_getElem inside, atEarlier, Option.map_some, named]

/-- An arena whose elements are in order is resolved. -/
theorem isResolved_of_inOrder (arena : Arena) (ordered : InOrder [] arena.elements) :
    arena.IsResolved where
  earlier := by
    intro position element found input reads
    obtain ⟨feeder, before, named, _⟩ := ordered.leadsTo_take found reads
    exact ⟨feeder, before, named.symm⟩
  branch := by
    intro position element found router branch plain reads
    obtain ⟨feeder, before, named, isBranch⟩ :=
      (ordered.leadsTo_take found reads).exists_branch plain
    refine ⟨feeder, before, named, ?_, isBranch⟩
    by_contra other
    unfold Element.branches at isBranch
    rw [if_neg other] at isBranch
    exact List.not_mem_nil isBranch
  noDangling := arena.danglingInputs_of_inOrder ordered
  acyclic := acyclic_of_danglingInputs (arena.danglingInputs_of_inOrder ordered)

end Arena

end LogForwarder
