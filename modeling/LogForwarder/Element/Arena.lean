/-
Arenas: elements in the order in which they are written, each with an id of its own, and an index
that says where each id is.
-/

import LogForwarder.Dictionary
import LogForwarder.Element.Basic

namespace LogForwarder

/-- Elements in the order in which they are written, and an index of their positions by id. -/
structure Arena where
  elements : List Element
  index : Dictionary Nat
  /-- The index has the ids that are there, and none else, each at its one position. -/
  indexed : ∀ id position,
    index.get? id = some position ↔ (elements.map (·.id))[position]? = some id

namespace Arena

/-- The arena without elements. -/
def empty : Arena := ⟨[], ∅, fun _ _ => iff_of_false nofun nofun⟩

instance : Inhabited Arena := ⟨empty⟩

/-! ### Questions -/

/-- The ids of the elements, in order. -/
def ids (arena : Arena) : List String := arena.elements.map (·.id)

/-- The position of the element of an id. -/
def position? (arena : Arena) (id : String) : Option Nat := arena.index.get? id

/-- The element of an id. -/
def get? (arena : Arena) (id : String) : Option Element :=
  (arena.position? id).bind (arena.elements[·]?)

/-- Whether there is an element of an id. -/
def contains (arena : Arena) (id : String) : Bool := arena.index.contains id

/-- The elements of a stage. -/
def ofStage (arena : Arena) (stage : Stage) : List Element :=
  arena.elements.filter (·.stage = stage)

theorem position?_eq_some_iff (arena : Arena) (id : String) (position : Nat) :
    arena.position? id = some position ↔ arena.ids[position]? = some id :=
  arena.indexed id position

theorem contains_iff_mem (arena : Arena) (id : String) : arena.contains id ↔ id ∈ arena.ids := by
  show (arena.position? id).isSome ↔ id ∈ arena.ids
  rw [Option.isSome_iff_exists, List.mem_iff_getElem?]
  exact exists_congr (arena.position?_eq_some_iff id)

/-- No id comes twice, since the index has one position for it. -/
theorem distinct (arena : Arena) : (arena.elements.map (·.id)).Nodup := by
  refine List.pairwise_iff_getElem.mpr fun first second firstBound secondBound before same => ?_
  have atFirst := (arena.indexed _ first).mpr (List.getElem?_eq_getElem firstBound)
  have atSecond := (arena.indexed _ second).mpr (List.getElem?_eq_getElem secondBound)
  rw [same, atSecond] at atFirst
  exact Nat.ne_of_lt before (Option.some.inj atFirst).symm

theorem get?_eq_some_iff (arena : Arena) (id : String) (element : Element) :
    arena.get? id = some element ↔ element ∈ arena.elements ∧ element.id = id := by
  unfold get?
  rw [Option.bind_eq_some_iff]
  refine ⟨?_, ?_⟩
  · rintro ⟨position, atPosition, found⟩
    rw [position?_eq_some_iff] at atPosition
    unfold ids at atPosition
    rw [List.getElem?_map, found, Option.map_some] at atPosition
    exact ⟨List.mem_of_getElem? found, Option.some.inj atPosition⟩
  · rintro ⟨member, rfl⟩
    obtain ⟨position, found⟩ := List.mem_iff_getElem?.mp member
    refine ⟨position, (arena.position?_eq_some_iff _ _).mpr ?_, found⟩
    unfold ids
    rw [List.getElem?_map, found, Option.map_some]

/-! ### Additions -/

/-- The index still says where each id is when a new one is added at the end. -/
theorem indexed_push (arena : Arena) (element : Element) (new : ¬arena.contains element.id)
    (id : String) (position : Nat) :
    (arena.index.insert element.id arena.elements.length).get? id = some position ↔
      ((arena.elements ++ [element]).map (·.id))[position]? = some id := by
  have absent : ∀ place : Nat, arena.ids[place]? ≠ some element.id :=
    fun place found => new ((arena.contains_iff_mem _).mpr (List.mem_of_getElem? found))
  have length : arena.ids.length = arena.elements.length := List.length_map _
  rw [Dictionary.get?_insert, List.map_append, List.map_singleton, ← length]
  show _ ↔ (arena.ids ++ [element.id])[position]? = some id
  by_cases same : id = element.id
  · subst same
    rw [if_pos rfl, Option.some.injEq]
    rcases Nat.lt_or_ge position arena.ids.length with inside | outside
    · rw [List.getElem?_append_left inside]
      exact iff_of_false (Nat.ne_of_gt inside) (absent position)
    · rw [List.getElem?_append_right outside, List.getElem?_singleton]
      split
      · exact iff_of_true (by omega) rfl
      · exact iff_of_false (by omega) nofun
  · rw [if_neg same, arena.indexed]
    show arena.ids[position]? = some id ↔ _
    rw [List.getElem?_append]
    split
    · exact Iff.rfl
    · next outside =>
      rw [List.getElem?_eq_none (Nat.le_of_not_lt outside), List.getElem?_singleton]
      refine iff_of_false nofun ?_
      split
      · exact fun found => same (Option.some.inj found).symm
      · exact nofun

/-- One more element at the end. A second element of an id is refused. -/
def push (arena : Arena) (element : Element) : Except ElementError Arena :=
  if present : arena.contains element.id then .error (.duplicateId element.id)
  else
    .ok ⟨arena.elements ++ [element], arena.index.insert element.id arena.elements.length,
      arena.indexed_push element present⟩

/-- The elements before the first one that is refused, and the reason for that. -/
def fill (arena : Arena) : List Element → Arena × Option ElementError
  | [] => (arena, none)
  | element :: rest =>
    match arena.push element with
    | .ok longer => longer.fill rest
    | .error error => (arena, some error)

/-- Several more elements at the end. -/
def extend (arena : Arena) (elements : List Element) : Except ElementError Arena :=
  match arena.fill elements with
  | (longer, none) => .ok longer
  | (_, some error) => .error error

/-! ### Dangling inputs -/

/-- Whether there is an element of an id before a position. -/
def hasBefore (arena : Arena) (position : Nat) (id : String) : Bool :=
  (arena.position? id).any (· < position)

/-- The inputs of an element at a position that name no external one and no element before it. -/
def danglingAt (arena : Arena) (external : List String) (position : Nat) (element : Element) :
    List (String × String) :=
  (element.inputs.filter fun input =>
    !arena.hasBefore position (Element.component input) && input ∉ external).map fun input =>
      (element.id, input)

/-- The inputs that name neither an external one nor an element before the one that reads them. -/
def danglingInputs (arena : Arena) (external : List String) : List (String × String) :=
  arena.elements.zipIdx.flatMap fun (element, position) =>
    arena.danglingAt external position element

end Arena

end LogForwarder
