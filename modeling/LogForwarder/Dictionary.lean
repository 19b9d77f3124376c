/-
Dictionaries: maps from texts, kept as entries in rising order of their keys. The order is part of
the type, so two dictionaries that hold the same entries are equal, and whoever walks through one
meets the keys in the order in which they are written out. A set of texts is a dictionary whose
values say nothing, so two sets with the same members are equal whatever order and repetition their
members were given in.
-/

namespace LogForwarder

/-! ### Entries in order -/

/-- Entries with one added in its place, which it takes from an older entry of the same key. -/
def insertEntry {α : Type} (key : String) (value : α) : List (String × α) → List (String × α)
  | [] => [(key, value)]
  | (other, old) :: rest =>
    if key < other then (key, value) :: (other, old) :: rest
    else if key = other then (key, value) :: rest
    else (other, old) :: insertEntry key value rest

/-- Whatever holds of the new key and of all keys present holds of all keys after the insertion. -/
theorem forall_mem_insertEntry {α : Type} {holds : String → Prop} (key : String) (value : α)
    (entries : List (String × α)) (atKey : holds key)
    (present : ∀ entry ∈ entries, holds entry.1) :
    ∀ entry ∈ insertEntry key value entries, holds entry.1 := by
  induction entries with
  | nil =>
    intro entry member
    rw [insertEntry, List.mem_singleton] at member
    rw [member]
    exact atKey
  | cons head rest inductionHypothesis =>
    obtain ⟨other, old⟩ := head
    have atOther : holds other := present (other, old) List.mem_cons_self
    have inRest : ∀ entry ∈ rest, holds entry.1 :=
      fun entry member => present entry (List.mem_cons_of_mem _ member)
    intro entry member
    unfold insertEntry at member
    split at member
    · rcases List.mem_cons.mp member with rfl | later
      · exact atKey
      · exact present entry later
    · split at member
      · rcases List.mem_cons.mp member with rfl | later
        · exact atKey
        · exact inRest entry later
      · rcases List.mem_cons.mp member with rfl | later
        · exact atOther
        · exact inductionHypothesis inRest entry later

/-- Insertion keeps the keys in rising order. -/
theorem pairwise_insertEntry {α : Type} (key : String) (value : α) (entries : List (String × α))
    (sorted : entries.Pairwise fun first second => first.1 < second.1) :
    (insertEntry key value entries).Pairwise fun first second => first.1 < second.1 := by
  induction entries with
  | nil => exact List.pairwise_singleton _ _
  | cons head rest inductionHypothesis =>
    obtain ⟨other, old⟩ := head
    obtain ⟨above, sortedRest⟩ := List.pairwise_cons.mp sorted
    unfold insertEntry
    split
    · rename_i smaller
      refine List.pairwise_cons.mpr ⟨?_, sorted⟩
      intro entry member
      rcases List.mem_cons.mp member with rfl | later
      · exact smaller
      · exact String.lt_trans smaller (above entry later)
    · split
      · rename_i equal
        subst equal
        exact List.pairwise_cons.mpr ⟨above, sortedRest⟩
      · rename_i notSmaller notEqual
        refine List.pairwise_cons.mpr ⟨?_, inductionHypothesis sortedRest⟩
        have larger : other < key := by
          rcases Std.lt_trichotomy key other with smaller | equal | larger
          · exact absurd smaller notSmaller
          · exact absurd equal notEqual
          · exact larger
        exact forall_mem_insertEntry key value rest larger above

/--
What is found at a key after an insertion: the new value at its own key, the old one elsewhere.
-/
theorem lookup_insertEntry {α : Type} (key sought : String) (value : α)
    (entries : List (String × α)) :
    (insertEntry key value entries).lookup sought =
      if sought = key then some value else entries.lookup sought := by
  induction entries with
  | nil =>
    rw [insertEntry, List.lookup_cons, List.lookup_nil]
    by_cases equal : sought = key
    · rw [if_pos equal, beq_iff_eq.mpr equal]
    · rw [if_neg equal, beq_false_of_ne equal]
  | cons head rest inductionHypothesis =>
    obtain ⟨other, old⟩ := head
    unfold insertEntry
    by_cases equal : sought = key
    · subst equal
      rw [if_pos rfl] at inductionHypothesis ⊢
      split
      · rw [List.lookup_cons, BEq.rfl]
      · split
        · rw [List.lookup_cons, BEq.rfl]
        · rename_i different
          rw [List.lookup_cons, beq_false_of_ne different]
          exact inductionHypothesis
    · rw [if_neg equal] at inductionHypothesis ⊢
      split
      · rw [List.lookup_cons, beq_false_of_ne equal]
      · split
        · rename_i same
          subst same
          rw [List.lookup_cons, List.lookup_cons, beq_false_of_ne equal]
        · rw [List.lookup_cons, List.lookup_cons, inductionHypothesis]

/-! ### Dictionaries -/

/-- A map from texts to values, as entries in rising order of keys. -/
structure Dictionary (α : Type) where
  entries : List (String × α)
  sorted : entries.Pairwise fun first second => first.1 < second.1
  deriving DecidableEq

namespace Dictionary

variable {α β : Type}

/-- The dictionary without entries. -/
def empty : Dictionary α := ⟨[], List.Pairwise.nil⟩

instance : EmptyCollection (Dictionary α) := ⟨empty⟩

instance : Inhabited (Dictionary α) := ⟨empty⟩

/-- The dictionary with one entry added, in place of an older entry of the same key. -/
def insert (dictionary : Dictionary α) (key : String) (value : α) : Dictionary α :=
  ⟨insertEntry key value dictionary.entries, pairwise_insertEntry key value _ dictionary.sorted⟩

/-- The dictionary of a list of entries; of several entries with one key the last one counts. -/
def ofList (entries : List (String × α)) : Dictionary α :=
  entries.foldl (fun dictionary entry => dictionary.insert entry.1 entry.2) empty

/-- The value at a key. -/
def get? (dictionary : Dictionary α) (key : String) : Option α :=
  dictionary.entries.lookup key

theorem get?_insert (dictionary : Dictionary α) (key sought : String) (value : α) :
    (dictionary.insert key value).get? sought =
      if sought = key then some value else dictionary.get? sought :=
  lookup_insertEntry key sought value dictionary.entries

/-- Whether a key has a value. -/
def contains (dictionary : Dictionary α) (key : String) : Bool :=
  (dictionary.get? key).isSome

/-- The keys in rising order. -/
def keys (dictionary : Dictionary α) : List String :=
  dictionary.entries.map (·.1)

theorem mem_keys_iff (dictionary : Dictionary α) (key : String) :
    key ∈ dictionary.keys ↔ (dictionary.get? key).isSome := by
  unfold get? keys
  rw [List.lookup_isSome_iff, List.mem_map]
  refine ⟨?_, ?_⟩
  · rintro ⟨entry, member, rfl⟩
    exact ⟨entry, member, BEq.rfl⟩
  · rintro ⟨entry, member, equal⟩
    exact ⟨entry, member, (beq_iff_eq.mp equal).symm⟩

theorem mem_keys_insert (dictionary : Dictionary α) (key sought : String)
    (value : α) :
    sought ∈ (dictionary.insert key value).keys ↔ sought = key ∨ sought ∈ dictionary.keys := by
  rw [mem_keys_iff, mem_keys_iff, get?_insert]
  by_cases same : sought = key
  · rw [if_pos same]
    exact iff_of_true rfl (.inl same)
  · rw [if_neg same]
    exact (or_iff_right same).symm

/-- The values in the order of their keys. -/
def values (dictionary : Dictionary α) : List α :=
  dictionary.entries.map (·.2)

/-- Whether there are no entries. -/
def isEmpty (dictionary : Dictionary α) : Bool :=
  dictionary.entries.isEmpty

/-- The number of entries. -/
def size (dictionary : Dictionary α) : Nat :=
  dictionary.entries.length

/-- The dictionary with every value replaced by its image. -/
def mapValues (image : α → β) (dictionary : Dictionary α) : Dictionary β :=
  ⟨dictionary.entries.map fun entry => (entry.1, image entry.2),
    List.pairwise_map.mpr dictionary.sorted⟩

/-- The entries that are kept. -/
def filter (keep : String → α → Bool) (dictionary : Dictionary α) : Dictionary α :=
  ⟨dictionary.entries.filter fun entry => keep entry.1 entry.2, dictionary.sorted.filter _⟩

/-- The dictionary without a key. -/
def erase (dictionary : Dictionary α) (key : String) : Dictionary α :=
  dictionary.filter fun other _ => other ≠ key

/-- The dictionary with the value at a key replaced by its image. -/
def modify (dictionary : Dictionary α) (key : String) (image : α → α) : Dictionary α :=
  ⟨dictionary.entries.map fun entry =>
      (entry.1, if entry.1 = key then image entry.2 else entry.2),
    List.pairwise_map.mpr dictionary.sorted⟩

theorem mem_keys_of_mem_filter {keep : String → α → Bool} {dictionary : Dictionary α}
    {key : String} (member : key ∈ (dictionary.filter keep).keys) : key ∈ dictionary.keys :=
  (List.filter_sublist.map _).subset member

theorem keys_mapValues (dictionary : Dictionary α) (image : α → β) :
    (dictionary.mapValues image).keys = dictionary.keys := List.map_map

theorem keys_modify (dictionary : Dictionary α) (key : String) (image : α → α) :
    (dictionary.modify key image).keys = dictionary.keys := List.map_map

/-- A dictionary without a key that it has is smaller. -/
theorem size_erase_lt {dictionary : Dictionary α} {key : String} (member : key ∈ dictionary.keys) :
    (dictionary.erase key).size < dictionary.size := by
  obtain ⟨entry, present, rfl⟩ := List.mem_map.mp member
  refine List.length_filter_lt_length_iff_exists.mpr ⟨entry, present, ?_⟩
  simp

/-- All entries of two dictionaries; where both have a key the second one counts. -/
def union (first second : Dictionary α) : Dictionary α :=
  second.entries.foldl (fun dictionary entry => dictionary.insert entry.1 entry.2) first

end Dictionary

/-! ### Sets of texts -/

/-- A set of texts. -/
abbrev TextSet := Dictionary Unit

namespace TextSet

/-- The set of the members of a list. -/
def ofTexts (texts : List String) : TextSet := Dictionary.ofList (texts.map fun text => (text, ()))

/-- The members in rising order. -/
def toTexts (set : TextSet) : List String := set.keys

end TextSet

/-- The members of a list in rising order, each once. -/
def sortedTexts (texts : List String) : List String := (TextSet.ofTexts texts).toTexts

end LogForwarder
