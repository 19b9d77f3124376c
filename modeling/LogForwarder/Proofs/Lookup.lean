/-
This file proves what is found at a key of a dictionary after insertions. Insertion keeps entries in
rising order of their keys, but a lookup sees nothing of that order: it sees the last value that was
put at its key. Route plans are read through these lemmas, and so are parameters: elements hand
values to their templates by name, and what an element does can be told from what is found there.
-/
import LogForwarder.Element.Basic
import LogForwarder.Route.Plan
import LogForwarder.Template.Function
import Mathlib.Data.List.Nodup

namespace LogForwarder

/-! ### Entries in order -/

/-- After several insertions the last value at a key is found, and the old one if there is none. -/
theorem lookup_foldl_insertEntry {α : Type} (entries sorted : List (String × α)) (sought : String) :
    (entries.foldl (fun sorted entry => insertEntry entry.1 entry.2 sorted) sorted).lookup sought =
      (entries.reverse.lookup sought).or (sorted.lookup sought) := by
  induction entries generalizing sorted with
  | nil => rfl
  | cons head rest inductionHypothesis =>
    rw [List.foldl_cons, inductionHypothesis, lookup_insertEntry, List.reverse_cons,
      List.lookup_append, List.lookup_cons, List.lookup_nil]
    by_cases equal : sought = head.1
    · rw [if_pos equal, beq_iff_eq.mpr equal, Option.or_assoc]
      rfl
    · rw [if_neg equal, beq_false_of_ne equal, Option.or_none]

theorem lookup_cons_eq_ite {α : Type} (key sought : String) (value : α)
    (rest : List (String × α)) :
    ((key, value) :: rest).lookup sought =
      if sought = key then some value else rest.lookup sought := by
  rw [List.lookup_cons]
  by_cases same : sought = key
  · rw [if_pos same, beq_iff_eq.mpr same]
  · rw [if_neg same, beq_false_of_ne same]

/-- What is found in a table of values of some keys: the value of the key, if it is among them. -/
theorem lookup_map_mk {α : Type} (keys : List String) (value : String → α) (sought : String) :
    (keys.map fun key => (key, value key)).lookup sought =
      if sought ∈ keys then some (value sought) else none := by
  induction keys with
  | nil => rfl
  | cons head rest inductionHypothesis =>
    rw [List.map_cons, List.lookup_cons, inductionHypothesis]
    by_cases equal : sought = head
    · subst equal
      rw [BEq.rfl, if_pos List.mem_cons_self]
    · have remains : sought ∈ head :: rest ↔ sought ∈ rest :=
        ⟨fun member => (List.mem_cons.mp member).resolve_left equal, List.mem_cons_of_mem _⟩
      rw [beq_false_of_ne equal]
      simp only [remains]

theorem lookup_map_snd {α β : Type} (entries : List (String × α)) (image : String → α → β)
    (sought : String) :
    (entries.map fun entry => (entry.1, image entry.1 entry.2)).lookup sought =
      (entries.lookup sought).map (image sought) := by
  induction entries with
  | nil => rfl
  | cons head rest inductionHypothesis =>
    rw [List.map_cons, lookup_cons_eq_ite, inductionHypothesis]
    show _ = (((head.1, head.2) :: rest).lookup sought).map (image sought)
    rw [lookup_cons_eq_ite]
    by_cases same : sought = head.1
    · rw [if_pos same, if_pos same, same, Option.map_some]
    · rw [if_neg same, if_neg same]

/-- In a table whose keys differ one finds what is in it. -/
theorem lookup_eq_some_iff_mem {α : Type} {entries : List (String × α)}
    (distinct : (entries.map (·.1)).Nodup) (key : String) (value : α) :
    entries.lookup key = some value ↔ (key, value) ∈ entries := by
  induction entries with
  | nil => exact ⟨fun found => absurd found (by simp), fun member => absurd member List.not_mem_nil⟩
  | cons head rest inductionHypothesis =>
    obtain ⟨other, old⟩ := head
    obtain ⟨fresh, restDistinct⟩ := List.nodup_cons.mp distinct
    rw [List.lookup_cons, List.mem_cons, Prod.mk.injEq]
    by_cases same : key = other
    · subst same
      have notLater : (key, value) ∉ rest :=
        fun member => fresh (List.mem_map.mpr ⟨_, member, rfl⟩)
      simp only [BEq.rfl, Option.some.injEq, true_and, notLater, or_false, eq_comm]
    · simp only [beq_false_of_ne same, same, false_and, false_or]
      exact inductionHypothesis restDistinct

namespace Dictionary

variable {α : Type}

theorem sorted_keys (dictionary : Dictionary α) : dictionary.keys.Pairwise (· < ·) :=
  List.pairwise_map.mpr dictionary.sorted

theorem nodup_keys (dictionary : Dictionary α) : dictionary.keys.Nodup :=
  dictionary.sorted_keys.imp fun smaller same => by
    rw [same] at smaller
    exact String.lt_irrefl _ smaller

theorem get?_eq_some_iff_mem (dictionary : Dictionary α) (key : String) (value : α) :
    dictionary.get? key = some value ↔ (key, value) ∈ dictionary.entries :=
  lookup_eq_some_iff_mem dictionary.nodup_keys key value

/-- The values of a dictionary are those that are found at keys. -/
theorem mem_values_iff (dictionary : Dictionary α) (value : α) :
    value ∈ dictionary.values ↔ ∃ key, dictionary.get? key = some value := by
  unfold values
  simp only [get?_eq_some_iff_mem, List.mem_map]
  refine ⟨?_, ?_⟩
  · rintro ⟨⟨key, _⟩, member, rfl⟩
    exact ⟨key, member⟩
  · rintro ⟨key, member⟩
    exact ⟨(key, value), member, rfl⟩

/-- Insertions into a dictionary one after the other are insertions into its entries. -/
theorem entries_foldl_insert (entries : List (String × α)) (dictionary : Dictionary α) :
    (entries.foldl (fun dictionary entry => dictionary.insert entry.1 entry.2)
        dictionary).entries =
      entries.foldl (fun sorted entry => insertEntry entry.1 entry.2 sorted)
        dictionary.entries := by
  induction entries generalizing dictionary with
  | nil => rfl
  | cons head rest inductionHypothesis => exact inductionHypothesis (dictionary.insert head.1 head.2)

theorem entries_ofList (entries : List (String × α)) :
    (ofList entries).entries =
      entries.foldl (fun sorted entry => insertEntry entry.1 entry.2 sorted) [] :=
  entries_foldl_insert entries empty

/-- The value at a key of a dictionary that is made from a list is the last one there. -/
theorem get?_ofList (entries : List (String × α)) (key : String) :
    (ofList entries).get? key = entries.reverse.lookup key := by
  unfold get?
  rw [entries_ofList, lookup_foldl_insertEntry, List.lookup_nil, Option.or_none]

/-- Dictionaries are equal if the same is found in them. -/
theorem ext_get? {first second : Dictionary α} (same : ∀ key, first.get? key = second.get? key) :
    first = second := by
  have sameEntries : first.entries.Perm second.entries := by
    rw [List.perm_ext_iff_of_nodup (.of_map _ first.nodup_keys) (.of_map _ second.nodup_keys)]
    rintro ⟨key, value⟩
    rw [← get?_eq_some_iff_mem, ← get?_eq_some_iff_mem, same]
  have noneBelow (one other : String × α) (below : one.1 < other.1) (above : other.1 < one.1) :
      one = other := absurd (String.lt_trans below above) (String.lt_irrefl _)
  have equal : first.entries = second.entries :=
    sameEntries.eq_of_pairwise (fun one other _ _ => noneBelow one other) first.sorted second.sorted
  cases first
  cases second
  cases equal
  rfl

/-- A dictionary of entries whose keys differ has these entries. -/
theorem mem_entries_ofList {entries : List (String × α)} (distinct : (entries.map (·.1)).Nodup)
    (entry : String × α) : entry ∈ (ofList entries).entries ↔ entry ∈ entries := by
  have reversed : (entries.reverse.map (·.1)).Nodup := by
    rwa [List.map_reverse, List.nodup_reverse]
  obtain ⟨key, value⟩ := entry
  rw [← get?_eq_some_iff_mem, get?_ofList, lookup_eq_some_iff_mem reversed, List.mem_reverse]

/-- A dictionary is made of its entries, in any order. -/
theorem ofList_of_perm {dictionary : Dictionary α} {entries : List (String × α)}
    (keys : (entries.map (·.1)).Perm dictionary.keys)
    (among : ∀ entry ∈ entries, entry ∈ dictionary.entries) : ofList entries = dictionary := by
  have distinct := keys.nodup_iff.mpr dictionary.nodup_keys
  refine ext_get? fun key => Option.ext fun value => ?_
  rw [get?_eq_some_iff_mem, mem_entries_ofList distinct, get?_eq_some_iff_mem]
  refine ⟨among _, fun member => ?_⟩
  obtain ⟨⟨_, other⟩, present, rfl⟩ :=
    List.mem_map.mp (keys.symm.subset (List.mem_map_of_mem member))
  have found := (get?_eq_some_iff_mem dictionary _ _).mpr (among _ present)
  rw [(get?_eq_some_iff_mem dictionary _ _).mpr member] at found
  rwa [Option.some.inj found]

/-- Of two dictionaries that are united the second one counts, wherever it has the key. -/
theorem get?_union (first second : Dictionary α) (key : String) :
    (first.union second).get? key = (second.get? key).or (first.get? key) := by
  have lastIsOnly : second.entries.reverse.lookup key = second.get? key := by
    have reversed : (second.entries.reverse.map (·.1)).Nodup := by
      rw [List.map_reverse, List.nodup_reverse]
      exact second.nodup_keys
    refine Option.ext fun value => ?_
    rw [lookup_eq_some_iff_mem reversed, List.mem_reverse, get?_eq_some_iff_mem]
  rw [← lastIsOnly]
  unfold union get?
  rw [entries_foldl_insert, lookup_foldl_insertEntry]

theorem contains_iff (dictionary : Dictionary α) (key : String) :
    dictionary.contains key ↔ key ∈ dictionary.keys :=
  (dictionary.mem_keys_iff key).symm

theorem isEmpty_iff (dictionary : Dictionary α) : dictionary.isEmpty ↔ dictionary.keys = [] :=
  List.isEmpty_iff.trans List.map_eq_nil_iff.symm

theorem get?_mapValues {β : Type} (dictionary : Dictionary α) (image : α → β) (key : String) :
    (dictionary.mapValues image).get? key = (dictionary.get? key).map image :=
  lookup_map_snd dictionary.entries (fun _ => image) key

theorem get?_modify (dictionary : Dictionary α) (key sought : String) (image : α → α) :
    (dictionary.modify key image).get? sought =
      (dictionary.get? sought).map fun value => if sought = key then image value else value :=
  lookup_map_snd dictionary.entries (fun other value => if other = key then image value else value)
    sought

theorem get?_filter_eq_some_iff (dictionary : Dictionary α) (keep : String → α → Bool)
    (key : String) (value : α) :
    (dictionary.filter keep).get? key = some value ↔
      dictionary.get? key = some value ∧ keep key value := by
  rw [get?_eq_some_iff_mem, get?_eq_some_iff_mem]
  exact List.mem_filter

theorem get?_erase (dictionary : Dictionary α) (key sought : String) :
    (dictionary.erase key).get? sought =
      if sought = key then none else dictionary.get? sought := by
  refine Option.ext fun value => ?_
  unfold erase
  rw [get?_filter_eq_some_iff, decide_eq_true_eq]
  split
  · next same => exact iff_of_false (fun both => both.2 same) nofun
  · next different => exact and_iff_left different

theorem mem_keys_erase (dictionary : Dictionary α) (key sought : String) :
    sought ∈ (dictionary.erase key).keys ↔ sought ≠ key ∧ sought ∈ dictionary.keys := by
  rw [mem_keys_iff, mem_keys_iff, get?_erase]
  by_cases same : sought = key
  · rw [if_pos same]
    exact iff_of_false nofun fun both => both.1 same
  · rw [if_neg same]
    exact (and_iff_right same).symm

end Dictionary

/-! ### Sets of texts -/

/-- The members of a set among several, of which one has been given a member. -/
theorem mem_toTexts_insert (sets : Dictionary TextSet) (key member sought text : String) :
    text ∈ (((sets.insert key (((sets.get? key).getD ∅).insert member ())).get? sought).getD
        ∅).toTexts ↔
      sought = key ∧ text = member ∨ text ∈ ((sets.get? sought).getD ∅).toTexts := by
  unfold TextSet.toTexts
  rw [Dictionary.get?_insert]
  by_cases same : sought = key
  · subst same
    rw [if_pos rfl, Option.getD_some, Dictionary.mem_keys_insert, and_iff_right rfl]
  · rw [if_neg same]
    exact (or_iff_right fun both => same both.1).symm

theorem mem_sortedTexts (texts : List String) (text : String) :
    text ∈ sortedTexts texts ↔ text ∈ texts := by
  unfold sortedTexts TextSet.toTexts TextSet.ofTexts
  rw [Dictionary.mem_keys_iff, Dictionary.get?_ofList, ← List.map_reverse,
    lookup_map_mk texts.reverse fun _ => ()]
  by_cases member : text ∈ texts
  · rw [if_pos (List.mem_reverse.mpr member)]
    exact ⟨fun _ => member, fun _ => rfl⟩
  · rw [if_neg fun reversed => member (List.mem_reverse.mp reversed)]
    exact ⟨fun absurdity => absurd absurdity Bool.false_ne_true,
      fun present => absurd present member⟩

/-! ### Values -/

namespace Value

/-- The value at a key of an object; whatever is missing is null. -/
def field : Value → String → Value
  | .object entries, key => (entries.lookup key).getD .null
  | _, _ => .null

/-- The text that a value is, if it is one. -/
def text? : Value → Option String
  | .text value => some value
  | _ => none

/-- The items of a list. -/
def items : Value → List Value
  | .list items => items
  | _ => []

@[simp]
theorem field_null (key : String) : null.field key = null := rfl

@[simp]
theorem text?_null : null.text? = none := rfl

@[simp]
theorem text?_text (value : String) : (text value).text? = some value := rfl

/-- A value that is a text is that text and nothing else. -/
theorem eq_text_of_text? {value : Value} {content : String}
    (isText : value.text? = some content) : value = .text content := by
  cases value with
  | text other => exact congrArg text (Option.some.inj isText)
  | _ => cases isText

@[simp]
theorem items_null : null.items = [] := rfl

@[simp]
theorem items_list (values : List Value) : (list values).items = values := rfl

/-- What an object that is made from a list of entries holds at a key: the last value there. -/
@[simp]
theorem field_ofEntries (entries : List (String × Value)) (key : String) :
    (ofEntries entries).field key = (entries.reverse.lookup key).getD .null := by
  show ((entries.foldl (fun sorted entry => insertEntry entry.1 entry.2 sorted) []).lookup
    key).getD .null = _
  rw [lookup_foldl_insertEntry, List.lookup_nil, Option.or_none]

/-- A value that holds something at a key counts as present. -/
theorem isPresent_of_field_ne_null {value : Value} (key : String)
    (held : value.field key ≠ null) : value.isPresent = true := by
  match value with
  | .object [] => exact absurd rfl held
  | .object (_ :: _) => rfl
  | .null | .boolean _ | .integer _ | .float _ | .text _ | .list _ => exact absurd rfl held

@[simp]
theorem filterMap_text?_ofTexts (texts : List String) :
    (ofTexts texts).items.filterMap text? = texts := by
  show (texts.map Value.text).filterMap text? = texts
  rw [List.filterMap_map]
  exact List.filterMap_some

@[simp]
theorem text?_ofText? (text : Option String) : (ofText? text).text? = text := by
  cases text <;> rfl

end Value

/-! ### Parameters -/

theorem field_withParam (name : String) (value : Value) (params : Params) (key : String) :
    (Value.object (withParam name value params)).field key =
      if key = name then value else (Value.object params).field key := by
  show ((insertEntry name value params).lookup key).getD .null = _
  rw [lookup_insertEntry]
  split <;> rfl

/-- What is found at a name is the last value that was given under it. -/
theorem field_sortedParams (params : Params) (key : String) :
    (Value.object (sortedParams params)).field key = (params.reverse.lookup key).getD .null := by
  show ((params.foldl (fun sorted entry => insertEntry entry.1 entry.2 sorted) []).lookup
    key).getD .null = _
  rw [lookup_foldl_insertEntry, List.lookup_nil, Option.or_none]

/--
What a parameter of an element is, other than its id and its inputs: the last value of its name.
-/
theorem Element.field_create (stage : Stage) (id : String) (inputs : List String)
    (template : String) (params : Params) (key : String) (notId : key ≠ "id")
    (notInputs : key ≠ "inputs") :
    (Value.object (Element.create stage id inputs template params).params).field key =
      (params.reverse.lookup key).getD .null := by
  unfold create
  rw [field_withParam, if_neg notInputs, field_withParam, if_neg notId, field_sortedParams]

theorem Element.field_inputs_create (stage : Stage) (id : String) (inputs : List String)
    (template : String) (params : Params) :
    (Value.object (Element.create stage id inputs template params).params).field "inputs" =
      .ofTexts inputs := by
  unfold create
  rw [field_withParam, if_pos rfl]

end LogForwarder
