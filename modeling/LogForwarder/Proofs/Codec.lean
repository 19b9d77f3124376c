/-
This file says when a codec is faithful: whatever it reads, it writes in such a way that it reads
the same again. Objects have no order, so what is written may stand in any order of keys, also in
that in which the fields of a record are declared. Codecs of scalars, choices, lists and
dictionaries are faithful as far as their parts are.

Codecs of records are faithful if their fields are. What a record is written as has one entry for
each field that has something to write; each is taken in by the field of its name, so the order of
entries does not count, and the fields without an entry have what they have when they are left out.
-/
import LogForwarder.Document.Text
import LogForwarder.Proofs.Json.Compact
import LogForwarder.Proofs.Lookup
import LogForwarder.Proofs.Outcome

namespace LogForwarder

/-! ### Orders of keys -/

/-- Whether two values are the same but for the order in which their objects have their keys. -/
inductive Value.Arranges : Value → Value → Prop
  | refl (value : Value) : Arranges value value
  | list {written items : List Value} (each : List.Forall₂ Arranges written items) :
    Arranges (.list written) (.list items)
  | object {written entries : List (String × Value)}
    (keys : (written.map (·.1)).Perm (entries.map (·.1)))
    (values : ∀ entry ∈ written, ∀ other ∈ entries, entry.1 = other.1 →
      Arranges entry.2 other.2) :
    Arranges (.object written) (.object entries)

namespace Value.Arranges

/-- Only lists are arranged like lists. -/
theorem exists_list {written : Value} {items : List Value}
    (arranges : written.Arranges (.list items)) :
    ∃ others, written = .list others ∧ List.Forall₂ Arranges others items := by
  cases arranges with
  | refl => exact ⟨items, rfl, List.forall₂_same.mpr fun item _ => .refl item⟩
  | list each => exact ⟨_, rfl, each⟩

/-- Only objects are arranged like objects, and one finds the same under the same keys. -/
theorem exists_object {written : Value} {entries : List (String × Value)}
    (arranges : written.Arranges (.object entries)) :
    ∃ others, written = .object others ∧ (others.map (·.1)).Perm (entries.map (·.1)) ∧
      ∀ entry ∈ others, ∃ value, (entry.1, value) ∈ entries ∧ entry.2.Arranges value := by
  cases arranges with
  | refl => exact ⟨entries, rfl, .refl _, fun entry member => ⟨entry.2, member, .refl _⟩⟩
  | object keys values =>
    refine ⟨_, rfl, keys, fun entry member => ?_⟩
    obtain ⟨other, isOther, same⟩ :=
      List.mem_map.mp (keys.subset (List.mem_map_of_mem member))
    exact ⟨other.2, same ▸ isOther, values entry member other isOther same.symm⟩

end Value.Arranges

/-! ### Documents of values -/

namespace Document

theorem ofItems_eq_map (items : List Value) :
    ofItems items = items.map ofValue := by
  induction items with
  | nil => rfl
  | cons item rest inductionHypothesis =>
    rw [ofItems, inductionHypothesis, List.map_cons]

theorem ofEntries_eq_map (entries : List (String × Value)) :
    ofEntries entries = entries.map fun entry => (entry.1, ofValue entry.2) := by
  induction entries with
  | nil => rfl
  | cons entry rest inductionHypothesis =>
    obtain ⟨key, value⟩ := entry
    rw [ofEntries, inductionHypothesis, List.map_cons]

end Document

/-! ### Faithful codecs -/

namespace Codec

variable {α : Type}

/-- Whether a value is read back from what it is written as. -/
def Restores (codec : Codec α) (value : α) : Prop :=
  ∀ written : Value, written.Arranges (codec.encode value) →
    written.IsExact ∧ codec.decode .jsonText (.ofValue written) = .ok value

/-- Whether everything that is read is read back from what it is written as; null stays unread. -/
structure IsFaithful (codec : Codec α) : Prop where
  restores {medium : Medium} {document : Document} {value : α}
    (made : codec.decode medium document = .ok value) : codec.Restores value
  refusesNull (value : α) : codec.decode .jsonText .null ≠ .ok value

/-- What is read from a text is read back from the text that it is written as. -/
theorem readJson_compact {codec : Codec α} {value : α} (restores : codec.Restores value)
    {written : Value} (arranges : written.Arranges (codec.encode value)) :
    codec.readJson written.compact = .ok value := by
  obtain ⟨isExact, decoded⟩ := restores written arranges
  unfold readJson
  rw [Json.read_compact isExact]
  show (codec.decode .jsonText (.ofValue written) >>= _) = _
  rw [decoded]
  rfl

/-! ### Scalars and choices -/

/-- A scalar is not rearranged. -/
theorem restores_of_scalar {codec : Codec α} {value : α} {scalar : Value}
    (encoded : codec.encode value = scalar) (isExact : scalar.IsExact)
    (notList : ∀ items, scalar ≠ .list items) (notObject : ∀ entries, scalar ≠ .object entries)
    (decoded : codec.decode .jsonText (.ofValue scalar) = .ok value) : codec.Restores value := by
  intro written arranges
  rw [encoded] at arranges
  cases arranges with
  | refl => exact ⟨isExact, decoded⟩
  | list => exact absurd rfl (notList _)
  | object => exact absurd rfl (notObject _)

/-- What is written as a text and read from it is restored. -/
theorem restores_of_text {codec : Codec α} {value : α} {text : String}
    (encoded : codec.encode value = .text text)
    (decoded : codec.decode .jsonText (.text text) = .ok value) : codec.Restores value :=
  restores_of_scalar encoded (.text text) nofun nofun decoded

theorem isFaithful_text : text.IsFaithful where
  restores _ := restores_of_text rfl rfl
  refusesNull _ := nofun

theorem isFaithful_boolean : boolean.IsFaithful where
  restores {_ _ value} _ := restores_of_scalar rfl (.boolean value) nofun nofun rfl
  refusesNull _ := nofun

/-- The whole numbers that are read are those of so many bits. -/
theorem decodeNat_eq_ok_iff {bits : Nat} {medium : Medium} {document : Document} {value : Nat} :
    decodeNat bits medium document = .ok value ↔
      document = .integer value ∧ value < Nat.pow 2 bits := by
  have power : Int.pow 2 bits = (Nat.pow 2 bits : Int) := (Int.natCast_pow 2 bits).symm
  unfold decodeNat
  split
  · next integer =>
    rw [power]
    split
    · next fits =>
      simp only [Bool.and_eq_true, decide_eq_true_eq] at fits
      simp only [Except.ok.injEq, Document.integer.injEq]
      omega
    · next refused =>
      simp only [Bool.and_eq_true, decide_eq_true_eq] at refused
      refine ⟨fun made => ?_, fun ⟨same, below⟩ => ?_⟩
      · split at made <;> cases made
      · rw [Document.integer.injEq] at same
        omega
  · next notInteger =>
    exact ⟨nofun, fun ⟨same, _⟩ => absurd same (notInteger _)⟩

/-- Whole numbers are faithful as far as texts hold them exactly. -/
theorem isFaithful_nat {bits : Nat} (small : bits ≤ 64) : (nat bits).IsFaithful where
  restores {medium document value} made := by
    obtain ⟨_, below⟩ := decodeNat_eq_ok_iff.mp made
    have counts : value ≤ Text.maxCount :=
      Nat.le_sub_one_of_lt (Nat.lt_of_lt_of_le below (Nat.pow_le_pow_right (by decide) small))
    exact restores_of_scalar rfl (.integer counts) nofun nofun
      (decodeNat_eq_ok_iff.mpr ⟨rfl, below⟩)
  refusesNull _ := nofun

/-- Choices are faithful if each is found under the name that it is written with. -/
theorem isFaithful_choice {written : α → String} {choices : List (String × α)}
    (named : ∀ value, choices.lookup (written value) = some value) :
    (choice written choices).IsFaithful where
  restores {_ _ value} _ := by
    refine restores_of_text rfl ?_
    show lookUpChoice choices (written value) = .ok value
    unfold lookUpChoice
    rw [named]
  refusesNull _ := nofun

/-! ### Lists -/

/-- A list is restored if its items are. -/
theorem restores_list {item : Codec α} {values : List α}
    (each : ∀ value ∈ values, item.Restores value) : (list item).Restores values := by
  intro written arranges
  obtain ⟨others, rfl, arrangesEach⟩ := Value.Arranges.exists_list arranges
  have restored : List.Forall₂ (fun other value => other.IsExact ∧
      item.decode .jsonText (.ofValue other) = .ok value) others values := by
    clear arranges
    rw [List.forall₂_map_right_iff] at arrangesEach
    induction arrangesEach with
    | nil => exact .nil
    | cons arranged _ inductionHypothesis =>
      obtain ⟨restores, restEach⟩ := List.forall_mem_cons.mp each
      exact .cons (restores _ arranged) (inductionHypothesis restEach)
  refine ⟨.list fun other member => ?_, ?_⟩
  · obtain ⟨_, _, isExact, _⟩ := exists_of_mem_forall₂ restored member
    exact isExact
  · show (Document.ofItems others).mapM (item.decode .jsonText) = .ok values
    rw [Document.ofItems_eq_map, mapM_eq_ok_iff, List.forall₂_map_left_iff]
    exact restored.imp fun _ _ both => both.2

theorem isFaithful_list {item : Codec α} (faithful : item.IsFaithful) :
    (list item).IsFaithful where
  restores {medium document values} made := by
    refine restores_list fun value member => ?_
    change decodeList item.decode medium document = .ok values at made
    unfold decodeList at made
    split at made
    · obtain ⟨_, _, decoded⟩ := exists_of_mem_mapM made member
      exact faithful.restores decoded
    · cases made
  refusesNull _ := nofun

/-! ### Dictionaries -/

/-- A dictionary is restored if its values are. -/
theorem restores_dictionary {inner : Codec α} {values : Dictionary α}
    (each : ∀ value ∈ values.values, inner.Restores value) :
    (dictionary inner).Restores values := by
  intro written arranges
  obtain ⟨others, rfl, keys, arrangesEach⟩ := Value.Arranges.exists_object arranges
  have restored : ∀ other ∈ others, ∃ entry ∈ values.entries, entry.1 = other.1 ∧
      other.2.IsExact ∧ inner.decode .jsonText (.ofValue other.2) = .ok entry.2 := by
    intro other member
    obtain ⟨encoded, present, arranged⟩ := arrangesEach other member
    obtain ⟨entry, isEntry, same⟩ := List.mem_map.mp present
    obtain ⟨sameKey, isEncoded⟩ := Prod.mk.inj same
    have restores := each entry.2 (List.mem_map_of_mem isEntry) other.2
    rw [isEncoded] at restores
    exact ⟨entry, isEntry, sameKey, restores arranged⟩
  refine ⟨.object fun other member => ?_, ?_⟩
  · obtain ⟨_, _, _, isExact, _⟩ := restored other member
    exact isExact
  · obtain ⟨entries, related⟩ := exists_forall₂ restored
    have sameKeys : List.Forall₂ (· = ·) (others.map (·.1)) (entries.map (·.1)) := by
      rw [List.forall₂_map_left_iff, List.forall₂_map_right_iff]
      exact related.imp fun _ _ ⟨_, same, _⟩ => same.symm
    have among : ∀ entry ∈ entries, entry ∈ values.entries := by
      intro entry member
      obtain ⟨_, _, isEntry, _⟩ := exists_of_mem_forall₂ (List.Forall₂.flip related) member
      exact isEntry
    have made : (Document.ofEntries others).mapM
        (fun entry => inner.decode .jsonText entry.2 >>= fun value => .ok (entry.1, value)) =
          .ok entries := by
      rw [Document.ofEntries_eq_map, mapM_eq_ok_iff, List.forall₂_map_left_iff]
      refine related.imp fun other entry ⟨_, same, _, decoded⟩ => ?_
      show (inner.decode .jsonText (.ofValue other.2) >>= fun value => .ok (other.1, value)) = _
      rw [decoded, ← same]
      rfl
    have sortedKeys : (entries.map (·.1)).Perm values.keys := by
      rw [List.forall₂_eq_eq_eq] at sameKeys
      rw [← sameKeys]
      simpa [Dictionary.mapValues, Dictionary.keys, Function.comp_def] using keys
    refine (congrArg (· >>= _) made).trans ?_
    rw [← Dictionary.ofList_of_perm sortedKeys among]
    rfl

theorem isFaithful_dictionary {inner : Codec α} (faithful : inner.IsFaithful) :
    (dictionary inner).IsFaithful where
  restores {medium document values} made := by
    refine restores_dictionary fun value member => ?_
    change decodeDictionary inner.decode medium document = .ok values at made
    unfold decodeDictionary at made
    split at made
    · obtain ⟨decoded, entriesMade, made⟩ := exists_of_bind_eq_ok made
      cases made
      obtain ⟨key, found⟩ := (Dictionary.mem_values_iff _ value).mp member
      rw [Dictionary.get?_ofList, List.lookup_eq_some_iff] at found
      obtain ⟨before, after, split, _⟩ := found
      have present : (key, value) ∈ decoded := by
        rw [← List.mem_reverse, split]
        exact List.mem_append_right _ List.mem_cons_self
      obtain ⟨_, _, entryMade⟩ := exists_of_mem_mapM entriesMade present
      obtain ⟨_, valueMade, same⟩ := exists_of_bind_eq_ok entryMade
      cases same
      exact faithful.restores valueMade
    · cases made
  refusesNull _ := nofun

end Codec

/-! ### Fields -/

namespace Field

variable {α : Type}

/-- Whether a value is read back from what is written for a field, or stands for nothing written. -/
def Restores (field : Field α) (value : α) : Prop :=
  match field.encode value with
  | some encoded => ∀ written : Value, written.Arranges encoded →
    written.IsExact ∧ field.decode .jsonText (.ofValue written) = .ok value
  | none => field.absent = some value

/-- Whether everything that a record can have in a field is read back. -/
structure IsFaithful (field : Field α) : Prop where
  restores {medium : Medium} {document : Document} {value : α}
    (made : field.decode medium document = .ok value) : field.Restores value
  restoresAbsent {value : α} (absent : field.absent = some value) : field.Restores value

theorem isFaithful_required (name : String) {codec : Codec α} (faithful : codec.IsFaithful) :
    (required name codec).IsFaithful where
  restores made := faithful.restores made
  restoresAbsent := nofun

theorem isFaithful_optional (name : String) {codec : Codec α} (faithful : codec.IsFaithful) :
    (optional name codec).IsFaithful where
  restores {medium document value} made := by
    cases value with
    | none => exact rfl
    | some inner =>
      have decoded : codec.decode medium document = .ok inner := by
        change decodeOption codec.decode medium document = _ at made
        unfold decodeOption at made
        split at made
        · cases made
        · obtain ⟨_, decoded, same⟩ := exists_of_bind_eq_ok made
          cases same
          exact decoded
      intro written arranges
      obtain ⟨isExact, again⟩ := faithful.restores decoded written arranges
      refine ⟨isExact, ?_⟩
      show decodeOption codec.decode .jsonText (.ofValue written) = _
      unfold decodeOption
      split
      · next isNull =>
        rw [isNull] at again
        exact absurd again (faithful.refusesNull inner)
      · rw [again]
        rfl
  restoresAbsent absent := by
    cases absent
    exact rfl

/-- A default is read back if there is some document that it is read from. -/
theorem isFaithful_defaulted (name : String) {codec : Codec α} (faithful : codec.IsFaithful)
    {default : α} (document : Document) (made : codec.decode .jsonText document = .ok default) :
    (defaulted name codec default).IsFaithful where
  restores made := faithful.restores made
  restoresAbsent absent := by
    cases absent
    exact faithful.restores made

end Field

/-! ### Rows that are read -/

namespace Fields

/-- Whether all fields of a record are faithful. -/
inductive IsFaithful : {types : List Type} → Fields types → Prop
  | nil : IsFaithful .nil
  | cons {α : Type} {others : List Type} {field : Field α} {rest : Fields others}
    (fieldFaithful : field.IsFaithful) (restFaithful : IsFaithful rest) :
    IsFaithful (.cons field rest)

/-- Whether all values of a row are read back. -/
def Restores : {types : List Type} → Fields types → Row types → Prop
  | _, .nil, () => True
  | _, .cons field rest, (value, values) => field.Restores value ∧ rest.Restores values

/-- Whether all values that are known are read back. -/
def RestoresKnown : {types : List Type} → Fields types → Slots types → Prop
  | _, .nil, () => True
  | _, .cons field rest, (known, others) =>
    (∀ value, known = some value → field.Restores value) ∧ rest.RestoresKnown others

variable {types : List Type} {fields : Fields types}

theorem restoresKnown_noneKnown (fields : Fields types) :
    fields.RestoresKnown fields.noneKnown := by
  induction fields with
  | nil => trivial
  | cons field rest inductionHypothesis => exact ⟨nofun, inductionHypothesis⟩

theorem IsFaithful.take (faithful : fields.IsFaithful) {medium : Medium} {name : String}
    {document : Document} {slots next : Slots types} (restores : fields.RestoresKnown slots)
    (taken : fields.take medium name document slots = .ok next) : fields.RestoresKnown next := by
  induction faithful with
  | nil => trivial
  | cons fieldFaithful _ inductionHypothesis =>
    obtain ⟨known, others⟩ := slots
    obtain ⟨restoresFirst, restoresOthers⟩ := restores
    unfold Fields.take at taken
    split at taken
    · split at taken
      · cases taken
      · obtain ⟨value, made, same⟩ := exists_of_bind_eq_ok taken
        cases same
        refine ⟨fun _ isKnown => ?_, restoresOthers⟩
        cases isKnown
        exact fieldFaithful.restores made
    · obtain ⟨othersNext, othersTaken, same⟩ := exists_of_bind_eq_ok taken
      cases same
      exact ⟨restoresFirst, inductionHypothesis restoresOthers othersTaken⟩

theorem IsFaithful.complete (faithful : fields.IsFaithful) {slots : Slots types} {row : Row types}
    (restores : fields.RestoresKnown slots) (completed : fields.complete slots = .ok row) :
    fields.Restores row := by
  induction faithful with
  | nil => trivial
  | cons fieldFaithful _ inductionHypothesis =>
    obtain ⟨known, others⟩ := slots
    obtain ⟨restoresFirst, restoresOthers⟩ := restores
    unfold Fields.complete at completed
    split at completed
    · next value found =>
      obtain ⟨values, othersCompleted, same⟩ := exists_of_bind_eq_ok completed
      cases same
      refine ⟨?_, inductionHypothesis restoresOthers othersCompleted⟩
      cases known with
      | none => exact fieldFaithful.restoresAbsent found
      | some _ => exact restoresFirst value found
    · cases completed

theorem IsFaithful.ofTable (faithful : fields.IsFaithful) {medium : Medium}
    {entries : List (String × Document)} {row : Row types}
    (made : fields.ofTable medium entries = .ok row) : fields.Restores row := by
  obtain ⟨slots, taken, completed⟩ := exists_of_bind_eq_ok made
  refine faithful.complete ?_ completed
  have general (start : Slots types) (restores : fields.RestoresKnown start)
      (run : entries.foldlM
        (fun slots entry => fields.take medium entry.1 entry.2 slots) start = .ok slots) :
      fields.RestoresKnown slots := by
    clear taken made
    induction entries generalizing start with
    | nil =>
      cases run
      exact restores
    | cons entry rest inductionHypothesis =>
      obtain ⟨next, first, others⟩ := exists_of_bind_eq_ok run
      exact inductionHypothesis next (faithful.take restores first) others
  exact general _ (restoresKnown_noneKnown fields) taken

theorem IsFaithful.ofItems (faithful : fields.IsFaithful) {medium : Medium} {wanted : String}
    {read : Nat} {items rest : List Document} {row : Row types}
    (made : fields.ofItems medium wanted read items = .ok (row, rest)) : fields.Restores row := by
  induction faithful generalizing read items rest with
  | nil => trivial
  | cons fieldFaithful _ inductionHypothesis =>
    cases items with
    | nil =>
      unfold Fields.ofItems at made
      split at made
      · next value absent =>
        obtain ⟨⟨values, left⟩, othersMade, same⟩ := exists_of_bind_eq_ok made
        cases same
        exact ⟨fieldFaithful.restoresAbsent absent, inductionHypothesis othersMade⟩
      · cases made
    | cons item items =>
      obtain ⟨value, valueMade, made⟩ := exists_of_bind_eq_ok made
      obtain ⟨⟨values, left⟩, othersMade, same⟩ := exists_of_bind_eq_ok made
      cases same
      exact ⟨fieldFaithful.restores valueMade, inductionHypothesis othersMade⟩

/-- Whatever is read as a row is read back. -/
theorem IsFaithful.decodeRecord (faithful : fields.IsFaithful) {title : String} {medium : Medium}
    {document : Document} {row : Row types}
    (made : LogForwarder.decodeRecord title fields medium document = .ok row) :
    fields.Restores row := by
  unfold LogForwarder.decodeRecord at made
  split at made
  · exact faithful.ofTable made
  · obtain ⟨⟨values, left⟩, itemsMade, made⟩ := exists_of_bind_eq_ok made
    simp only at made
    split at made
    · cases made
      exact faithful.ofItems itemsMade
    · cases made
  · cases made

/-! ### Rows that are written -/

/-- The slots of a row of which the fields of some names are known. -/
def slotsOf (known : String → Bool) :
    {types : List Type} → Fields types → Row types → Slots types
  | _, .nil, () => ()
  | _, .cons field rest, (value, values) =>
    (if known field.name then some value else none, rest.slotsOf known values)

/-- Whether a document holds the value that a row has in the field of a name. -/
def Reads (name : String) (document : Document) :
    {types : List Type} → Fields types → Row types → Prop
  | _, .nil, () => False
  | _, .cons field rest, (value, values) =>
    field.name = name ∧ field.decode .jsonText document = .ok value ∨
      field.name ≠ name ∧ rest.Reads name document values

/-- Whether the fields of all other names have what they have when they are left out. -/
def Completes (known : String → Bool) : {types : List Type} → Fields types → Row types → Prop
  | _, .nil, () => True
  | _, .cons field rest, (value, values) =>
    (known field.name ∨ field.absent = some value) ∧ rest.Completes known values

theorem slotsOf_congr {known other : String → Bool} (row : Row types)
    (same : ∀ name ∈ fields.names, known name = other name) :
    fields.slotsOf known row = fields.slotsOf other row := by
  induction fields with
  | nil => rfl
  | cons field rest inductionHypothesis =>
    obtain ⟨sameName, sameRest⟩ := List.forall_mem_cons.mp same
    rw [slotsOf, slotsOf, sameName, inductionHypothesis row.2 sameRest]

theorem slotsOf_noneKnown (fields : Fields types) (row : Row types) :
    fields.slotsOf (fun _ => false) row = fields.noneKnown := by
  induction fields with
  | nil => rfl
  | cons field rest inductionHypothesis =>
    rw [slotsOf, inductionHypothesis row.2]
    rfl

/-- An entry is taken in by the field of its name. -/
theorem take_slotsOf (distinct : fields.names.Nodup) {known : String → Bool} {name : String}
    {document : Document} {row : Row types} (reads : fields.Reads name document row)
    (fresh : known name = false) :
    fields.take .jsonText name document (fields.slotsOf known row) =
      .ok (fields.slotsOf (fun other => known other || other = name) row) := by
  induction fields with
  | nil => exact reads.elim
  | cons field rest inductionHypothesis =>
    obtain ⟨value, values⟩ := row
    obtain ⟨notLater, restDistinct⟩ := List.nodup_cons.mp distinct
    simp only [slotsOf, take]
    rcases reads with ⟨rfl, decoded⟩ | ⟨different, readsLater⟩
    · have sameRest : rest.slotsOf (fun other => known other || other = field.name) values =
          rest.slotsOf known values := by
        refine slotsOf_congr values fun name member => ?_
        have different : name ≠ field.name := fun same => notLater (same ▸ member)
        simp [different]
      simp only [fresh, decoded, sameRest]
      simp
    · rw [inductionHypothesis restDistinct readsLater]
      simp [different]

/-- Entries of different names are taken in one after the other. -/
theorem foldlM_take (distinct : fields.names.Nodup) {row : Row types}
    {entries : List (String × Document)} (entriesDistinct : (entries.map (·.1)).Nodup)
    (reads : ∀ entry ∈ entries, fields.Reads entry.1 entry.2 row) {known : String → Bool}
    (fresh : ∀ entry ∈ entries, known entry.1 = false) :
    entries.foldlM (fun slots (name, document) => fields.take .jsonText name document slots)
        (fields.slotsOf known row) =
      .ok (fields.slotsOf (fun name => known name || name ∈ entries.map (·.1)) row) := by
  induction entries generalizing known with
  | nil =>
    simp
    rfl
  | cons entry rest inductionHypothesis =>
    obtain ⟨name, document⟩ := entry
    obtain ⟨notLater, restDistinct⟩ := List.nodup_cons.mp entriesDistinct
    obtain ⟨readsEntry, readsRest⟩ := List.forall_mem_cons.mp reads
    obtain ⟨entryFresh, restFresh⟩ := List.forall_mem_cons.mp fresh
    have others : ∀ other ∈ rest, (known other.1 || other.1 = name) = false := by
      intro other member
      have different : other.1 ≠ name := fun same =>
        notLater (List.mem_map.mpr ⟨other, member, same⟩)
      simp [restFresh other member, different]
    rw [List.foldlM_cons]
    show (fields.take .jsonText name document (fields.slotsOf known row) >>= _) = _
    rw [take_slotsOf distinct readsEntry entryFresh]
    show rest.foldlM _ _ = _
    rw [inductionHypothesis restDistinct readsRest others]
    simp only [Bool.or_assoc, List.map_cons, List.mem_cons, Bool.decide_or]

theorem complete_slotsOf {known : String → Bool} {row : Row types}
    (completes : fields.Completes known row) :
    fields.complete (fields.slotsOf known row) = .ok row := by
  induction fields with
  | nil => rfl
  | cons field rest inductionHypothesis =>
    obtain ⟨value, values⟩ := row
    obtain ⟨first, others⟩ := completes
    have found : ((if known field.name then some value else none) <|> field.absent) =
        some value := by
      rcases first with isKnown | absent
      · simp [isKnown]
      · by_cases isKnown : known field.name <;> simp [isKnown, absent]
    simp only [slotsOf, complete, found, inductionHypothesis others]
    rfl

/-- A row is read from entries of different names, in any order. -/
theorem ofTable_eq_ok (distinct : fields.names.Nodup) {row : Row types}
    {entries : List (String × Document)} (entriesDistinct : (entries.map (·.1)).Nodup)
    (reads : ∀ entry ∈ entries, fields.Reads entry.1 entry.2 row)
    (completes : fields.Completes (fun name => name ∈ entries.map (·.1)) row) :
    fields.ofTable .jsonText entries = .ok row := by
  have taken : entries.foldlM
      (fun slots (name, document) => fields.take .jsonText name document slots)
      (fields.slotsOf (fun _ => false) row) = _ :=
    foldlM_take distinct entriesDistinct reads fun _ _ => rfl
  rw [slotsOf_noneKnown] at taken
  unfold ofTable
  rw [taken]
  show fields.complete (fields.slotsOf (fun name => false || name ∈ entries.map (·.1)) row) = _
  simpa only [Bool.false_or] using complete_slotsOf completes

/-! ### What a row is written as -/

theorem mem_names_of_mem_encode {row : Row types} {entry : String × Value}
    (member : entry ∈ fields.encode row) : entry.1 ∈ fields.names := by
  induction fields with
  | nil => exact absurd member List.not_mem_nil
  | cons field rest inductionHypothesis =>
    obtain ⟨value, values⟩ := row
    rcases List.mem_append.mp member with first | later
    · obtain ⟨encoded, _, rfl⟩ := Option.map_eq_some_iff.mp (Option.mem_toList.mp first)
      exact List.mem_cons_self
    · exact List.mem_cons_of_mem _ (inductionHypothesis later)

theorem nodup_encode (distinct : fields.names.Nodup) (row : Row types) :
    ((fields.encode row).map (·.1)).Nodup := by
  induction fields with
  | nil => exact List.nodup_nil
  | cons field rest inductionHypothesis =>
    obtain ⟨value, values⟩ := row
    obtain ⟨notLater, restDistinct⟩ := List.nodup_cons.mp distinct
    have nodupRest := inductionHypothesis restDistinct values
    rw [encode]
    cases field.encode value with
    | none => exact nodupRest
    | some encoded =>
      refine List.nodup_cons.mpr ⟨fun later => ?_, nodupRest⟩
      obtain ⟨⟨_, _⟩, member, rfl⟩ := List.mem_map.mp later
      exact notLater (mem_names_of_mem_encode member)

/-- What is written for a field is read by it again. -/
theorem reads_of_mem_encode (distinct : fields.names.Nodup) {row : Row types}
    (restores : fields.Restores row) {name : String} {encoded written : Value}
    (member : (name, encoded) ∈ fields.encode row) (arranges : written.Arranges encoded) :
    written.IsExact ∧ fields.Reads name (.ofValue written) row := by
  induction fields with
  | nil => exact absurd member List.not_mem_nil
  | cons field rest inductionHypothesis =>
    obtain ⟨value, values⟩ := row
    obtain ⟨restoresFirst, restoresOthers⟩ := restores
    obtain ⟨notLater, restDistinct⟩ := List.nodup_cons.mp distinct
    rcases List.mem_append.mp member with first | later
    · obtain ⟨_, isWritten, same⟩ := Option.map_eq_some_iff.mp (Option.mem_toList.mp first)
      cases same
      unfold Field.Restores at restoresFirst
      rw [isWritten] at restoresFirst
      obtain ⟨isExact, decoded⟩ := restoresFirst written arranges
      exact ⟨isExact, .inl ⟨rfl, decoded⟩⟩
    · obtain ⟨isExact, reads⟩ := inductionHypothesis restDistinct restoresOthers later
      have different : field.name ≠ name :=
        fun same => notLater (same ▸ mem_names_of_mem_encode later)
      exact ⟨isExact, .inr ⟨different, reads⟩⟩

/-- Where nothing is written for a field, it has what it has when it is left out. -/
theorem completes_of_restores {known : String → Bool} {row : Row types}
    (restores : fields.Restores row)
    (all : ∀ entry ∈ fields.encode row, known entry.1) : fields.Completes known row := by
  induction fields with
  | nil => trivial
  | cons field rest inductionHypothesis =>
    obtain ⟨value, values⟩ := row
    obtain ⟨restoresFirst, restoresOthers⟩ := restores
    refine ⟨?_, inductionHypothesis restoresOthers fun entry member =>
      all entry (List.mem_append_right _ member)⟩
    unfold Field.Restores at restoresFirst
    split at restoresFirst
    · next encoded isWritten =>
      refine .inl (all (field.name, encoded) (List.mem_append_left _ ?_))
      rw [isWritten]
      exact List.mem_singleton_self _
    · exact .inr restoresFirst

end Fields

/-! ### Records -/

namespace Codec

variable {α : Type} {types : List Type} {fields : Fields types} {title : String}
  {parts : α → Row types} {build : Row types → α}

/-- A record is restored if its row is. -/
theorem restores_record (distinct : fields.names.Nodup) {value : α}
    (restores : fields.Restores (parts value)) (rebuilt : build (parts value) = value) :
    (record title fields parts build).Restores value := by
  intro written arranges
  have entriesDistinct := Fields.nodup_encode distinct (parts value)
  change written.Arranges (.object _) at arranges
  rw [← Dictionary.entries_ofList] at arranges
  obtain ⟨others, rfl, keys, arrangesEach⟩ := Value.Arranges.exists_object arranges
  have readsEach : ∀ other ∈ others, other.2.IsExact ∧
      fields.Reads other.1 (.ofValue other.2) (parts value) := by
    intro other member
    obtain ⟨encoded, present, arranged⟩ := arrangesEach other member
    rw [Dictionary.mem_entries_ofList entriesDistinct] at present
    exact Fields.reads_of_mem_encode distinct restores present arranged
  refine ⟨.object fun other member => (readsEach other member).1, ?_⟩
  have sameKeys : (Document.ofEntries others).map (·.1) = others.map (·.1) := by
    rw [Document.ofEntries_eq_map, List.map_map]
    rfl
  have made : fields.ofTable .jsonText (Document.ofEntries others) = .ok (parts value) := by
    refine Fields.ofTable_eq_ok distinct ?_ ?_ ?_
    · rw [sameKeys, keys.nodup_iff]
      exact Dictionary.nodup_keys _
    · rw [Document.ofEntries_eq_map]
      intro entry member
      obtain ⟨other, isOther, rfl⟩ := List.mem_map.mp member
      exact (readsEach other isOther).2
    · refine Fields.completes_of_restores restores fun entry member => ?_
      rw [sameKeys, decide_eq_true_eq, keys.mem_iff]
      exact List.mem_map_of_mem ((Dictionary.mem_entries_ofList entriesDistinct entry).mpr member)
  show (fields.ofTable .jsonText (Document.ofEntries others) >>= _) = _
  rw [made]
  exact congrArg Except.ok rebuilt

/-- A record is faithful if its fields are, have different names, and give the row that they had. -/
theorem isFaithful_record (faithful : fields.IsFaithful) (distinct : fields.names.Nodup)
    (rebuilt : ∀ row, parts (build row) = row) : (record title fields parts build).IsFaithful where
  restores made := by
    obtain ⟨row, decoded, same⟩ := exists_of_bind_eq_ok made
    cases same
    have restores := faithful.decodeRecord decoded
    rw [← rebuilt row] at restores
    exact restores_record distinct restores (congrArg build (rebuilt row))
  refusesNull _ := nofun

end Codec

end LogForwarder
