/-
This file proves how one walks through an arena, what holds of an arena at any time, and what an
arena has once it is built.

The inputs of elements are edges between ids, and an element is reached from whatever reaches one of
the elements it reads from. Since the ids of an arena are distinct, the last step of a walk to an
element is a step of that very element; so walks can be followed backwards one element at a time.
Two shapes are followed once and for all: elements that read from nothing but each other, and a line
of elements each of which reads from the one before it.

An arena is changed by calls that add elements at its end, and a call may stop half way; but
whatever the calls were and whatever they reported, the ids of the elements differ, and the index
says where each of them is. So all questions to an arena are answered alike, an element whose id is
there is refused and nothing changes, and of several elements just those before the first refused
one are added. An arena that is built part by part has the elements of all parts in order, and it
can be built exactly if all parts can be made and no id comes twice.

An input dangles if it names neither something external nor an element further up. Where no input
dangles every step from an element to one that reads from it leads further down, and so no way along
such steps comes back to where it began.
-/
import LogForwarder.Compile.Spec
import LogForwarder.Element.Arena
import LogForwarder.Proofs.Lookup
import LogForwarder.Proofs.Outcome
import LogForwarder.Proofs.Repetition
import Mathlib.Logic.Relation

namespace LogForwarder

namespace Arena

/-! ### Walks along inputs -/

/-- Whether the element of an id reads from another. -/
def Feeds (arena : Arena) (source target : String) : Prop :=
  ∃ element ∈ arena.elements, element.id = target ∧ source ∈ element.feeders

/-- Whether one comes from an id to another by going from elements to those that read from them. -/
def Reaches (arena : Arena) : String → String → Prop := Relation.ReflTransGen arena.Feeds

/-- Whether there are elements of two ids, and a walk along some edges from the one to the other. -/
def Joins (arena : Arena) (edge : String → String → Prop) (source target : String) : Prop :=
  source ∈ arena.ids ∧ target ∈ arena.ids ∧ Relation.ReflTransGen edge source target

theorem id_mem_ids (arena : Arena) {element : Element} (member : element ∈ arena.elements) :
    element.id ∈ arena.ids := List.mem_map_of_mem member

/-- Elements of one arena with one id are the same. -/
theorem eq_of_id_eq (arena : Arena) {first second : Element} (firstMember : first ∈ arena.elements)
    (secondMember : second ∈ arena.elements) (equal : first.id = second.id) : first = second :=
  eq_of_name_eq Element.id arena.distinct firstMember secondMember equal

/-- An arena finds each of its elements by the element's id. -/
theorem get?_of_mem (arena : Arena) {element : Element} (member : element ∈ arena.elements) :
    arena.get? element.id = some element :=
  (arena.get?_eq_some_iff element.id element).mpr ⟨member, rfl⟩

/-- An element is reached from itself, and from what reaches an element that it reads from. -/
theorem reaches_iff (arena : Arena) {element : Element} (member : element ∈ arena.elements)
    (source : String) :
    arena.Reaches source element.id ↔
      source = element.id ∨ ∃ feeder ∈ element.feeders, arena.Reaches source feeder := by
  refine ⟨?_, ?_⟩
  · intro reaches
    rcases Relation.ReflTransGen.cases_tail reaches with same | ⟨feeder, before, last⟩
    · exact .inl same.symm
    · obtain ⟨other, otherMember, sameId, feeds⟩ := last
      rw [arena.eq_of_id_eq otherMember member sameId] at feeds
      exact .inr ⟨feeder, feeds, before⟩
  · rintro (rfl | ⟨feeder, feeds, before⟩)
    · exact Relation.ReflTransGen.refl
    · exact Relation.ReflTransGen.tail before ⟨element, member, rfl, feeds⟩

/-- Elements that read from nothing but each other are reached from nowhere else. -/
theorem mem_of_reaches_closed (arena : Arena) (closed : List Element)
    (present : ∀ element ∈ closed, element ∈ arena.elements)
    (feedersInside : ∀ element ∈ closed, ∀ feeder ∈ element.feeders, feeder ∈ closed.map (·.id))
    {source target : String} (inside : target ∈ closed.map (·.id))
    (reaches : arena.Reaches source target) : source ∈ closed.map (·.id) := by
  -- The walk is followed backwards from its end, which stays inside at every step.
  induction reaches using Relation.ReflTransGen.head_induction_on with
  | refl => exact inside
  | head step _ inductionHypothesis =>
    obtain ⟨element, member, rfl, feeds⟩ := step
    obtain ⟨other, otherInside, sameId⟩ := List.mem_map.mp inductionHypothesis
    rw [← arena.eq_of_id_eq (present other otherInside) member sameId] at feeds
    exact feedersInside other otherInside _ feeds

/-! ### Lines of elements -/

/--
Whether the first of some elements reads from some ids, and each other one from the one before it.
-/
def Linked (feeders : List String) : List Element → Prop
  | [] => True
  | element :: rest => (∀ feeder, feeder ∈ element.feeders ↔ feeder ∈ feeders) ∧
      Linked [element.id] rest

/-- The end of a line is reached from the elements of the line, and from what reaches its start. -/
theorem reaches_linked_iff (arena : Arena) (line : List Element) (last : Element)
    (feeders : List String) (linked : Linked feeders (line ++ [last]))
    (present : ∀ element ∈ line ++ [last], element ∈ arena.elements) (source : String) :
    arena.Reaches source last.id ↔
      (∃ element ∈ line ++ [last], source = element.id) ∨
        ∃ feeder ∈ feeders, arena.Reaches source feeder := by
  induction line generalizing feeders with
  | nil =>
    obtain ⟨reads, _⟩ := linked
    rw [arena.reaches_iff (present last (List.mem_singleton_self last))]
    simp only [reads, List.nil_append, List.mem_singleton, exists_eq_left]
  | cons head rest inductionHypothesis =>
    obtain ⟨reads, linkedRest⟩ := linked
    have throughHead : (∃ feeder ∈ [head.id], arena.Reaches source feeder) ↔
        source = head.id ∨ ∃ feeder ∈ feeders, arena.Reaches source feeder := by
      simp only [List.mem_singleton, exists_eq_left,
        arena.reaches_iff (present head List.mem_cons_self), reads]
    rw [inductionHypothesis [head.id] linkedRest fun element member =>
      present element (List.mem_cons_of_mem head member), throughHead, List.cons_append]
    simp only [List.mem_cons, exists_eq_or_imp]
    rw [or_left_comm, or_assoc]

/-! ### Additions -/

/-- An element is added at the end, or its id is there already. -/
theorem push_cases (arena : Arena) (element : Element) :
    (element.id ∉ arena.ids ∧ ∃ longer, arena.push element = .ok longer ∧
      longer.elements = arena.elements ++ [element]) ∨
    (element.id ∈ arena.ids ∧ arena.push element = .error (.duplicateId element.id)) := by
  unfold push
  split
  · next present => exact .inr ⟨(arena.contains_iff_mem element.id).mp present, rfl⟩
  · next new => exact .inl ⟨mt (arena.contains_iff_mem element.id).mpr new, _, rfl, rfl⟩

/-- Several elements are added at the end, up to the first one whose id is there already. -/
theorem fill_cases (arena : Arena) (elements : List Element) :
    (∃ longer, arena.fill elements = (longer, none) ∧
      longer.elements = arena.elements ++ elements) ∨
    ∃ before element after longer, elements = before ++ element :: after ∧
      arena.fill elements = (longer, some (.duplicateId element.id)) ∧
      longer.elements = arena.elements ++ before ∧ element.id ∈ longer.ids := by
  induction elements generalizing arena with
  | nil => exact .inl ⟨arena, rfl, (List.append_nil _).symm⟩
  | cons head rest inductionHypothesis =>
    unfold fill
    rcases arena.push_cases head with ⟨_, next, pushed, nextElements⟩ | ⟨present, refused⟩
    · rw [pushed]
      have moved (more : List Element) :
          next.elements ++ more = arena.elements ++ head :: more := by
        rw [nextElements, List.append_assoc, List.singleton_append]
      rcases inductionHypothesis next with
        ⟨longer, filled, longerElements⟩ |
        ⟨before, element, after, longer, split, filled, longerElements, present⟩
      · exact .inl ⟨longer, filled, longerElements.trans (moved rest)⟩
      · exact .inr ⟨head :: before, element, after, longer, congrArg (head :: ·) split, filled,
          longerElements.trans (moved before), present⟩
    · rw [refused]
      exact .inr ⟨[], head, rest, arena, rfl, rfl, (List.append_nil _).symm, present⟩

theorem ids_of_elements_eq {arena longer : Arena} {added : List Element}
    (elements : longer.elements = arena.elements ++ added) :
    longer.ids = arena.ids ++ added.map (·.id) := by
  unfold ids
  rw [elements, List.map_append]

theorem elements_of_fill {arena longer : Arena} {elements : List Element}
    (filled : arena.fill elements = (longer, none)) :
    longer.elements = arena.elements ++ elements := by
  rcases arena.fill_cases elements with ⟨_, same, added⟩ | ⟨_, _, _, _, _, refused, _⟩
  · rw [filled] at same
    cases same
    exact added
  · rw [filled] at refused
    cases refused

/-- Elements whose ids are new and differ can be added at the end. -/
theorem exists_fill {arena : Arena} {elements : List Element}
    (fresh : (arena.ids ++ elements.map (·.id)).Nodup) :
    ∃ longer, arena.fill elements = (longer, none) := by
  rcases arena.fill_cases elements with
    ⟨longer, filled, _⟩ | ⟨before, element, after, longer, rfl, _, added, present⟩
  · exact ⟨longer, filled⟩
  · rw [ids_of_elements_eq added] at present
    rw [List.map_append, List.map_cons, ← List.append_assoc] at fresh
    exact absurd rfl ((List.nodup_append.mp fresh).2.2 _ present _ List.mem_cons_self)

/-! ### Calls -/

/-- A call that adds to an arena. -/
inductive Call
  | push (element : Element)
  | extend (elements : List Element)

/-- The arena after a call, and what the call reports. -/
def perform (arena : Arena) : Call → Arena × Option ElementError
  | .push element =>
    match arena.push element with
    | .ok longer => (longer, none)
    | .error error => (arena, some error)
  | .extend elements => arena.fill elements

/-- The arena after several calls, whatever they report. -/
def run (arena : Arena) (calls : List Call) : Arena :=
  calls.foldl (fun arena call => (arena.perform call).1) arena

theorem perform_push (arena : Arena) (element : Element) :
    arena.perform (.push element) = arena.fill [element] := by
  show (match arena.push element with
    | .ok longer => (longer, none)
    | .error error => (arena, some error)) = arena.fill [element]
  unfold fill
  cases arena.push element with
  | ok longer => rfl
  | error error => rfl

theorem elements_fill (arena : Arena) (elements : List Element) :
    arena.elements <+: (arena.fill elements).1.elements := by
  rcases arena.fill_cases elements with
    ⟨longer, filled, added⟩ | ⟨before, _, _, longer, _, filled, added, _⟩
  · rw [filled]
    exact added ▸ List.prefix_append _ _
  · rw [filled]
    exact added ▸ List.prefix_append _ _

/-- A call leaves the elements that are there where they are. -/
theorem elements_perform (arena : Arena) (call : Call) :
    arena.elements <+: (arena.perform call).1.elements := by
  cases call with
  | push element =>
    rw [perform_push]
    exact arena.elements_fill [element]
  | extend elements => exact arena.elements_fill elements

theorem elements_run (arena : Arena) (calls : List Call) :
    arena.elements <+: (arena.run calls).elements := by
  induction calls generalizing arena with
  | nil => exact List.prefix_refl _
  | cons call rest inductionHypothesis =>
    exact (arena.elements_perform call).trans (inductionHypothesis _)

/-- What has a position keeps it. -/
theorem position?_run (arena : Arena) (calls : List Call) {id : String} {position : Nat}
    (found : arena.position? id = some position) :
    (arena.run calls).position? id = some position := by
  rw [position?_eq_some_iff] at found ⊢
  obtain ⟨more, longer⟩ := (arena.elements_run calls).map (·.id)
  obtain ⟨inside, _⟩ := List.getElem?_eq_some_iff.mp found
  unfold ids at inside found ⊢
  rw [← longer, List.getElem?_append_left inside]
  exact found

/-! ### Dangling inputs -/

theorem hasBefore_iff (arena : Arena) (position : Nat) (id : String) :
    arena.hasBefore position id ↔ ∃ earlier < position, arena.position? id = some earlier := by
  unfold hasBefore
  simp only [Option.any_eq_true, decide_eq_true_eq, and_comm]

theorem danglingAt_eq_nil_iff (arena : Arena) (external : List String) (position : Nat)
    (element : Element) :
    arena.danglingAt external position element = [] ↔
      ∀ input ∈ element.inputs, input ∈ external ∨
        ∃ earlier < position, arena.position? (Element.component input) = some earlier := by
  unfold danglingAt
  rw [List.map_eq_nil_iff, List.filter_eq_nil_iff]
  refine forall₂_congr fun input _ => ?_
  rw [← hasBefore_iff, Bool.and_eq_true, Bool.not_eq_true', decide_eq_true_eq, not_and',
    Bool.not_eq_false, ← Decidable.or_iff_not_imp_left]

/-- No inputs dangle if each is external or names an element further up. -/
theorem danglingInputs_eq_nil_iff (arena : Arena) (external : List String) :
    arena.danglingInputs external = [] ↔
      ∀ position element, arena.elements[position]? = some element → ∀ input ∈ element.inputs,
        input ∈ external ∨
          ∃ earlier < position, arena.position? (Element.component input) = some earlier := by
  unfold danglingInputs
  rw [List.flatMap_eq_nil_iff, Prod.forall, forall_comm]
  refine forall₂_congr fun position element => ?_
  rw [List.mk_mem_zipIdx_iff_getElem?]
  exact imp_congr_right fun _ => arena.danglingAt_eq_nil_iff external position element

/-- Where no inputs dangle an element comes after those that it reads from. -/
theorem exists_positions_of_feeds {arena : Arena} (resolved : arena.danglingInputs [] = [])
    {source target : String} (feeds : arena.Feeds source target) :
    ∃ first second, arena.position? source = some first ∧ arena.position? target = some second ∧
      first < second := by
  obtain ⟨element, member, rfl, isFeeder⟩ := feeds
  obtain ⟨input, reads, rfl⟩ := List.mem_map.mp isFeeder
  obtain ⟨position, found⟩ := List.mem_iff_getElem?.mp member
  obtain external | ⟨earlier, before, named⟩ :=
    (arena.danglingInputs_eq_nil_iff []).mp resolved position element found input reads
  · exact absurd external List.not_mem_nil
  · refine ⟨earlier, position, named, (arena.position?_eq_some_iff _ _).mpr ?_, before⟩
    unfold ids
    rw [List.getElem?_map, found, Option.map_some]

theorem acyclic_of_danglingInputs {arena : Arena} (resolved : arena.danglingInputs [] = [])
    (id : String) : ¬Relation.TransGen arena.Feeds id id := by
  have further {source target : String} (path : Relation.TransGen arena.Feeds source target) :
      ∃ first second, arena.position? source = some first ∧
        arena.position? target = some second ∧ first < second := by
    induction path with
    | single step => exact exists_positions_of_feeds resolved step
    | tail _ step inductionHypothesis =>
      obtain ⟨first, middle, atSource, atMiddle, before⟩ := inductionHypothesis
      obtain ⟨same, last, atSame, atLast, after⟩ := exists_positions_of_feeds resolved step
      rw [atMiddle] at atSame
      obtain rfl := Option.some.inj atSame
      exact ⟨first, last, atSource, atLast, Nat.lt_trans before after⟩
  intro around
  obtain ⟨first, second, atFirst, atSecond, before⟩ := further around
  rw [atFirst] at atSecond
  exact Nat.ne_of_lt before (Option.some.inj atSecond)

/-! ### Arenas at any time -/

/-- What holds of an arena at any time. -/
structure IsSound (arena : Arena) : Prop where
  distinct : arena.ids.Nodup
  /-- The index has the ids that are there, and no others. -/
  known : ∀ id, id ∈ arena.index.keys ↔ id ∈ arena.ids
  position : ∀ id position, arena.position? id = some position ↔ arena.ids[position]? = some id
  get : ∀ id element, arena.get? id = some element ↔ element ∈ arena.elements ∧ element.id = id
  contains : ∀ id, arena.contains id ↔ id ∈ arena.ids
  /-- An element whose id is new is added at the end. -/
  adds : ∀ element, element.id ∉ arena.ids →
    ∃ longer, arena.perform (.push element) = (longer, none) ∧
      longer.elements = arena.elements ++ [element]
  /-- An element whose id is there is refused, and nothing changes. -/
  refuses : ∀ element, element.id ∈ arena.ids →
    arena.perform (.push element) = (arena, some (.duplicateId element.id))
  /-- What is there stays where it is, whatever is called. -/
  stays : ∀ calls, arena.elements <+: (arena.run calls).elements
  /-- All elements are added, or those before the first one whose id is there by then. -/
  keeps : ∀ elements,
    (∃ longer, arena.perform (.extend elements) = (longer, none) ∧
      longer.elements = arena.elements ++ elements) ∨
    ∃ before element after longer, elements = before ++ element :: after ∧
      arena.perform (.extend elements) = (longer, some (.duplicateId element.id)) ∧
      longer.elements = arena.elements ++ before ∧ element.id ∈ longer.ids
  /-- No inputs dangle just if each is external or names an element further up. -/
  resolved : ∀ external, arena.danglingInputs external = [] ↔
    ∀ position element, arena.elements[position]? = some element → ∀ input ∈ element.inputs,
      input ∈ external ∨
        ∃ earlier < position, arena.position? (Element.component input) = some earlier
  acyclic : arena.danglingInputs [] = [] → ∀ id, ¬Relation.TransGen arena.Feeds id id

theorem isSound (arena : Arena) : arena.IsSound where
  distinct := arena.distinct
  known id := (arena.index.mem_keys_iff id).trans (arena.contains_iff_mem id)
  position := arena.position?_eq_some_iff
  get := arena.get?_eq_some_iff
  contains := arena.contains_iff_mem
  adds element new := by
    rcases arena.push_cases element with ⟨_, longer, pushed, added⟩ | ⟨present, _⟩
    · refine ⟨longer, ?_, added⟩
      rw [perform_push, fill, pushed]
      rfl
    · exact absurd present new
  refuses element present := by
    rcases arena.push_cases element with ⟨new, _⟩ | ⟨_, refused⟩
    · exact absurd present new
    · rw [perform_push, fill, refused]
  stays := arena.elements_run
  keeps := arena.fill_cases
  resolved := arena.danglingInputs_eq_nil_iff
  acyclic := acyclic_of_danglingInputs

/-- An arena that starts empty is sound after any calls. -/
theorem isSound_run (calls : List Call) : (empty.run calls).IsSound := (empty.run calls).isSound

/-! ### Elements -/

/-- An arena that is extended has the new elements at its end. -/
theorem elements_of_extended {arena longer : Arena} {elements : List Element}
    (made : arena.extended elements = .ok longer) :
    longer.elements = arena.elements ++ elements := by
  unfold extended extend at made
  cases filled : arena.fill elements with
  | mk next error? =>
    rw [filled] at made
    cases error? with
    | some error => cases made
    | none =>
      cases made
      exact elements_of_fill filled

/-- An arena that is extended in steps has what each step adds, in order. -/
theorem elements_of_foldlM {α : Type} (step : Arena → α → Except CompileError Arena)
    (Adds : α → List Element → Prop)
    (oneStep : ∀ arena item longer, step arena item = .ok longer →
      ∃ added, Adds item added ∧ longer.elements = arena.elements ++ added)
    (items : List α) {arena final : Arena} (run : items.foldlM step arena = .ok final) :
    ∃ parts, List.Forall₂ Adds items parts ∧
      final.elements = arena.elements ++ parts.flatten := by
  induction items generalizing arena with
  | nil =>
    cases run
    exact ⟨[], List.Forall₂.nil, (List.append_nil _).symm⟩
  | cons head rest inductionHypothesis =>
    rw [List.foldlM_cons] at run
    obtain ⟨next, first, later⟩ := exists_of_bind_eq_ok run
    obtain ⟨added, adds, elements⟩ := oneStep arena head next first
    obtain ⟨parts, addsRest, finalElements⟩ := inductionHypothesis later
    refine ⟨added :: parts, List.Forall₂.cons adds addsRest, ?_⟩
    rw [finalElements, elements, List.flatten_cons, List.append_assoc]

/-- An arena that is made from the first elements, in steps, and from the last ones has them all. -/
theorem elements_of_run {α : Type} (step : Arena → α → Except CompileError Arena)
    (Adds : α → List Element → Prop)
    (oneStep : ∀ arena item longer, step arena item = .ok longer →
      ∃ added, Adds item added ∧ longer.elements = arena.elements ++ added)
    (items : List α) {start rest : List Element} {final : Arena}
    (run : (empty.extended start >>= fun arena => items.foldlM step arena >>= fun arena =>
      arena.extended rest) = .ok final) :
    ∃ parts, List.Forall₂ Adds items parts ∧
      final.elements = start ++ parts.flatten ++ rest := by
  obtain ⟨first, firstMade, run⟩ := exists_of_bind_eq_ok run
  obtain ⟨second, secondMade, run⟩ := exists_of_bind_eq_ok run
  obtain ⟨parts, adds, elements⟩ := elements_of_foldlM step Adds oneStep items secondMade
  refine ⟨parts, adds, ?_⟩
  rw [elements_of_extended run, elements, elements_of_extended firstMade]
  rfl

/-! ### Ids -/

theorem exists_extended {arena : Arena} {elements : List Element}
    (fresh : (arena.ids ++ elements.map (·.id)).Nodup) :
    ∃ longer, arena.extended elements = .ok longer := by
  obtain ⟨longer, filled⟩ := exists_fill fresh
  refine ⟨longer, ?_⟩
  unfold extended extend
  rw [filled]
  rfl

section Run

variable {α : Type} {step : Arena → α → Except CompileError Arena}
  {make : α → Except CompileError (List Element)}

/-- An arena can be extended in steps by what can be made, if all ids are new and differ. -/
theorem exists_foldlM
    (steps : ∀ arena item, step arena item = make item >>= fun added => arena.extended added)
    {items : List α} {parts : List (List Element)}
    (made : List.Forall₂ (fun item part => make item = .ok part) items parts) {arena : Arena}
    (fresh : (arena.ids ++ parts.flatten.map (·.id)).Nodup) :
    ∃ final, items.foldlM step arena = .ok final ∧
      final.elements = arena.elements ++ parts.flatten := by
  induction made generalizing arena with
  | nil => exact ⟨arena, rfl, (List.append_nil _).symm⟩
  | @cons item part items parts itemMade _ inductionHypothesis =>
    rw [List.flatten_cons, List.map_append, ← List.append_assoc] at fresh
    obtain ⟨next, extended⟩ := exists_extended (List.nodup_append.mp fresh).1
    have nextFresh : (next.ids ++ parts.flatten.map (·.id)).Nodup := by
      unfold ids
      rw [elements_of_extended extended, List.map_append]
      exact fresh
    obtain ⟨final, run, elements⟩ := inductionHypothesis nextFresh
    refine ⟨final, ?_, ?_⟩
    · rw [List.foldlM_cons, steps, itemMade]
      show (arena.extended part >>= _) = _
      rw [extended]
      exact run
    · rw [elements, elements_of_extended extended, List.flatten_cons, List.append_assoc]

/-- An arena can be made from the first elements, in steps, and from the last ones. -/
theorem exists_run
    (steps : ∀ arena item, step arena item = make item >>= fun added => arena.extended added)
    {items : List α} {parts : List (List Element)}
    (made : List.Forall₂ (fun item part => make item = .ok part) items parts)
    {start rest : List Element} (distinct : ((start ++ parts.flatten ++ rest).map (·.id)).Nodup) :
    ∃ final, (empty.extended start >>= fun arena => items.foldlM step arena >>= fun arena =>
      arena.extended rest) = .ok final := by
  rw [List.map_append, List.map_append] at distinct
  have beforeRest := (List.nodup_append.mp distinct).1
  obtain ⟨first, firstMade⟩ : ∃ first, empty.extended start = .ok first :=
    exists_extended (List.nodup_append.mp beforeRest).1
  have firstElements : first.elements = start := elements_of_extended firstMade
  have partsFresh : (first.ids ++ parts.flatten.map (·.id)).Nodup := by
    unfold ids
    rw [firstElements]
    exact beforeRest
  obtain ⟨second, secondMade, secondElements⟩ := exists_foldlM steps made partsFresh
  have restFresh : (second.ids ++ rest.map (·.id)).Nodup := by
    unfold ids
    rw [secondElements, firstElements, List.map_append]
    exact distinct
  obtain ⟨final, finalMade⟩ := exists_extended restFresh
  refine ⟨final, ?_⟩
  rw [firstMade]
  show (items.foldlM step first >>= _) = _
  rw [secondMade]
  exact finalMade

end Run

end Arena

/-- Specs of which the same elements are built give the same text. -/
theorem Dialect.generate_congr {dialect : Dialect} {first second : Spec}
    {firstSecrets secondSecrets : SecretStore} {firstOptions secondOptions : Options}
    (sameBuild : dialect.build first firstSecrets firstOptions =
      dialect.build second secondSecrets secondOptions) :
    dialect.generate first firstSecrets firstOptions =
      dialect.generate second secondSecrets secondOptions := by
  cases dialect with
  | fluentd =>
    show Fluentd.generate _ _ _ = Fluentd.generate _ _ _
    unfold Fluentd.generate
    rw [show Fluentd.build first firstSecrets firstOptions = _ from sameBuild]
    rfl
  | vector =>
    show Vector.generate _ _ _ = Vector.generate _ _ _
    unfold Vector.generate
    rw [show Vector.build first firstSecrets firstOptions = _ from sameBuild]
    rfl

end LogForwarder
