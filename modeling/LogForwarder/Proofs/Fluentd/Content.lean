/-
This file says which values may be written at which spot of a file of sections. A text that stands
behind a key has to stay on its line; in the argument of a section it must not end the tag, and at
the start of a line it must not begin one. What a parameter of a template has to hold follows from
its name, and whatever the functions of templates make of such values is fit to be written too.
-/

import LogForwarder.Proofs.Fluentd.Tag
import LogForwarder.Proofs.Json.Literal
import LogForwarder.Proofs.Lookup
import LogForwarder.Proofs.Numeral

namespace LogForwarder.Fluentd

open Template

/-! ### Spots -/

/-- Where on a line a text is written. -/
inductive Spot
  /-- Behind something that begins no tag. -/
  | behind
  /-- In the argument of a section. -/
  | argument
  /-- At the start of the line. -/
  | start
  deriving DecidableEq

/-- Whether a text that is written at a spot stays on its line, ends no tag and begins none. -/
structure Spot.Admits (spot : Spot) (chars : List Char) : Prop where
  onLine : '\n' ∉ chars
  endsNone : spot = .argument → '>' ∉ chars
  beginsNone : spot = .start → (chars.dropWhile Text.isBlank).head? ≠ some '<'

namespace Spot

/-- What may be written anywhere may be written behind something. -/
theorem Admits.behind {spot : Spot} {chars : List Char} (admits : spot.Admits chars) :
    Spot.behind.Admits chars :=
  ⟨admits.onLine, nofun, nofun⟩

theorem admits_nil (spot : Spot) : spot.Admits [] := ⟨List.not_mem_nil, by simp, by simp⟩

theorem admits_behind_iff (chars : List Char) : Spot.behind.Admits chars ↔ '\n' ∉ chars :=
  ⟨Admits.onLine, fun onLine => ⟨onLine, nofun, nofun⟩⟩

theorem admits_argument_iff (chars : List Char) :
    Spot.argument.Admits chars ↔ '\n' ∉ chars ∧ '>' ∉ chars :=
  ⟨fun admits => ⟨admits.onLine, admits.endsNone rfl⟩,
    fun ⟨onLine, endsNone⟩ => ⟨onLine, fun _ => endsNone, nofun⟩⟩

/-- Behind something and in arguments, texts may be written one after the other. -/
theorem Admits.append {spot : Spot} (inside : spot ≠ .start) {first second : List Char}
    (firstAdmits : spot.Admits first) (secondAdmits : spot.Admits second) :
    spot.Admits (first ++ second) where
  onLine := List.not_mem_append firstAdmits.onLine secondAdmits.onLine
  endsNone isArgument :=
    List.not_mem_append (firstAdmits.endsNone isArgument) (secondAdmits.endsNone isArgument)
  beginsNone isStart := absurd isStart inside

theorem Admits.intercalate {spot : Spot} (inside : spot ≠ .start) {separator : List Char}
    (separatorAdmits : spot.Admits separator) {parts : List (List Char)}
    (each : ∀ part ∈ parts, spot.Admits part) : spot.Admits (separator.intercalate parts) := by
  induction parts with
  | nil => exact spot.admits_nil
  | cons part rest inductionHypothesis =>
    obtain ⟨partAdmits, restAdmits⟩ := List.forall_mem_cons.mp each
    by_cases last : rest = []
    · rw [last, List.intercalate_singleton]
      exact partAdmits
    · rw [Text.intercalate_cons _ _ last]
      exact partAdmits.append inside
        (separatorAdmits.append inside (inductionHypothesis restAdmits))

end Spot

/-! ### Contents -/

/-- What is known of a value, as far as it is written. -/
inductive Content
  /-- Whatever is in it can be written behind something. -/
  | inside
  | argument
  /-- Parts of an argument. -/
  | arguments
  | start
  /-- The name of a label and an expression for it. -/
  | label
  | labels
  /-- A key and a value, which make up a line. -/
  | setting
  | settings
  deriving DecidableEq

namespace Content

/-- Where a value is written. -/
def spot : Content → Spot
  | .argument => .argument
  | .start => .start
  | _ => .behind

/-- What is known of the items of a list. -/
def item : Content → Content
  | .arguments => .argument
  | .labels => .label
  | .settings => .setting
  | _ => .inside

/-- No items are written at the start of a line. -/
theorem item_spot_ne_start (content : Content) : content.item.spot ≠ .start := by
  cases content <;> decide

/-- What is known of a field of a record. -/
def field (content : Content) (name : String) : Content :=
  if name ∈ ["id", "tags"] then .argument
  else if name = "keys" then .arguments
  else if name = "labels" then .labels
  else if name = "settings" then .settings
  else if content = .label ∧ name = "name" then .start
  else .inside

/-- What is known at the end of a path. -/
def follow (content : Content) (path : List String) : Content := path.foldl field content

/-- Whether records may be of a content. -/
def isRecord (content : Content) : Bool := content ∈ [.inside, .label, .setting]

/-- Whether lists may be of a content. -/
def isList (content : Content) : Bool := content ∈ [.inside, .arguments, .labels, .settings]

/-- Whether a line may begin with a text as its key. -/
structure IsKey (key : String) : Prop where
  onLine : '\n' ∉ key.toList
  begins : ∃ c rest, key.toList = c :: rest ∧ Text.isBlank c = false ∧ c ≠ '<'

/-- Whether a value is as known, so that it can be written where it is meant to be. -/
inductive Holds : Content → Value → Prop
  | null (content : Content) : content.Holds .null
  | boolean {content : Content} (value : Bool) (spot : content.spot = .behind) :
    content.Holds (.boolean value)
  | integer {content : Content} (count : Nat) (spot : content.spot = .behind) :
    content.Holds (.integer count)
  | text {content : Content} {value : String} (other : content ≠ .arguments)
    (admits : content.spot.Admits value.toList) : content.Holds (.text value)
  | list {content : Content} {items : List Value} (isList : content.isList)
    (each : ∀ item ∈ items, content.item.Holds item) : content.Holds (.list items)
  | object {content : Content} {entries : List (String × Value)} (isRecord : content.isRecord)
    (each : ∀ entry ∈ entries, (content.field entry.1).Holds entry.2)
    (keyed : content = .setting →
      ∃ key, entries.lookup "key" = some (.text key) ∧ IsKey key) :
    content.Holds (.object entries)

/-- The fields of a record hold what those of any record hold, but for the name of a label. -/
theorem field_inside_or (content : Content) (name : String) :
    content.field name = inside.field name ∨ inside.field name = .inside := by
  unfold field
  split_ifs <;> simp_all

/-- Whatever holds something can be written behind something. -/
theorem Holds.inside {content : Content} {value : Value} (holds : content.Holds value) :
    Content.inside.Holds value := by
  induction holds with
  | null => exact .null _
  | boolean value => exact .boolean value rfl
  | integer count => exact .integer count rfl
  | text _ admits => exact .text nofun admits.behind
  | list _ _ inductionHypothesis => exact .list rfl inductionHypothesis
  | @object content entries _ each _ inductionHypothesis =>
    refine .object rfl (fun entry member => ?_) nofun
    rcases content.field_inside_or entry.1 with same | isInside
    · rw [← same]
      exact each entry member
    · rw [isInside]
      exact inductionHypothesis entry member

/-! ### Texts of values -/

theorem notMem_toString (count : Nat) : '\n' ∉ (toString (count : Int)).toList := by
  have written : toString (count : Int) = String.ofList (Nat.toDigits 10 count) :=
    Nat.toString_eq_ofList_toDigits
  rw [written, String.toList_ofList]
  intro isDigit
  exact absurd (Text.isDigit_of_mem_toDigits isDigit) (by decide)

mutual

/-- A JSON document of a value without fractions stands on one line. -/
theorem notMem_compact : ∀ {content : Content} (value : Value), content.Holds value →
    '\n' ∉ value.compact.toList
  | _, .null, _ => by decide
  | _, .boolean value, _ => by cases value <;> decide
  | _, .integer _, .integer count _ => by
    rw [Value.compact]
    exact notMem_toString count
  | _, .text value, _ => by
    rw [Value.compact]
    exact Json.notMem_textLiteral value
  | _, .list items, .list _ each => by
    have inside := notMem_compactItems items each
    simp [Value.compact, inside]
  | _, .object entries, .object _ each _ => by
    have inside := notMem_compactEntries entries each
    simp [Value.compact, inside]

theorem notMem_compactItems : ∀ {content : Content} (items : List Value),
    (∀ item ∈ items, content.Holds item) → '\n' ∉ (Value.compactItems items).toList
  | _, [], _ => by decide
  | _, [item], each => notMem_compact item (each item List.mem_cons_self)
  | _, item :: next :: rest, each => by
    obtain ⟨itemHolds, restHold⟩ := List.forall_mem_cons.mp each
    have first := notMem_compact item itemHolds
    have others := notMem_compactItems (next :: rest) restHold
    simp [Value.compactItems, first, others]

theorem notMem_compactEntries : ∀ {content : Content} (entries : List (String × Value)),
    (∀ entry ∈ entries, (content.field entry.1).Holds entry.2) →
      '\n' ∉ (Value.compactEntries entries).toList
  | _, [], _ => by decide
  | _, [(key, value)], each => by
    have only := notMem_compact value (each (key, value) List.mem_cons_self)
    simp [Value.compactEntries, Json.notMem_textLiteral key, only]
  | _, (key, value) :: next :: rest, each => by
    obtain ⟨valueHolds, restHold⟩ := List.forall_mem_cons.mp each
    have first := notMem_compact value valueHolds
    have others := notMem_compactEntries (next :: rest) restHold
    simp [Value.compactEntries, Json.notMem_textLiteral key, first, others]

end

/-- A value can be written where it is meant to be. -/
theorem Holds.admits {content : Content} {value : Value} (holds : content.Holds value) :
    content.spot.Admits value.plainText.toList := by
  have spotOfList : content.isList → content.spot = .behind := by cases content <;> decide
  have spotOfRecord : content.isRecord → content.spot = .behind := by cases content <;> decide
  cases holds with
  | null => exact Spot.admits_nil _
  | text _ admits => exact admits
  | boolean value spot =>
    rw [spot, Spot.admits_behind_iff]
    cases value <;> decide
  | integer count spot =>
    rw [spot, Spot.admits_behind_iff]
    exact @notMem_compact content _ (.integer count spot)
  | list isList each =>
    rw [spotOfList isList, Spot.admits_behind_iff]
    exact notMem_compact _ (.list isList each)
  | object isRecord each keyed =>
    rw [spotOfRecord isRecord, Spot.admits_behind_iff]
    exact notMem_compact _ (.object isRecord each keyed)

/-! ### Parts of values -/

/-- What a path leads to holds what is known of it. -/
theorem Holds.followPath {content : Content} {value result : Value} {path : List String}
    (holds : content.Holds value) (found : followPath value path = .ok result) :
    (content.follow path).Holds result := by
  induction path generalizing content value with
  | nil =>
    rw [Template.followPath.eq_1] at found
    exact Except.ok.inj found ▸ holds
  | cons step rest inductionHypothesis =>
    cases holds with
    | null =>
      cases found
      exact .null _
    | object isRecord each keyed =>
      rw [Template.followPath] at found
      split at found
      · next next isNext =>
        obtain ⟨before, after, split, _⟩ := List.lookup_eq_some_iff.mp isNext
        have member : (step, next) ∈ before ++ (step, next) :: after := by simp
        exact inductionHypothesis (each _ (split ▸ member)) found
      · cases found
        exact .null _
    | boolean | integer | text | list => cases found

/-- What a collection is made of holds what is known of its items. -/
theorem Holds.items {content : Content} {value : Value} {items : List Value}
    (holds : content.Holds value) (found : itemsOf value = .ok items) :
    ∀ item ∈ items, content.item.Holds item := by
  cases holds with
  | null =>
    cases found
    exact fun _ absurdity => absurd absurdity List.not_mem_nil
  | list _ each =>
    cases found
    exact each
  | object isRecord each keyed =>
    cases found
    have isInside : content.item = .inside := by cases content <;> first | rfl | cases isRecord
    intro item member
    obtain ⟨entry, isEntry, rfl⟩ := List.mem_map.mp member
    rw [isInside]
    exact (each entry isEntry).inside
  | boolean | integer | text => cases found

/-- The texts of a list can be written where its items are. -/
theorem Holds.texts {content : Content} {value : Value} {texts : List String}
    (holds : content.Holds value) (found : textsOf value = .ok texts) :
    ∀ text ∈ texts, content.item.spot.Admits text.toList := by
  cases holds with
  | null =>
    cases found
    exact fun _ absurdity => absurd absurdity List.not_mem_nil
  | list _ each =>
    cases found
    intro text member
    obtain ⟨item, isItem, rfl⟩ := List.mem_map.mp member
    exact (each item isItem).admits
  | text other admits =>
    cases found
    have isBehind : content.item.spot = .behind := by cases content <;> first | rfl | cases other rfl
    rw [isBehind]
    exact List.forall_mem_singleton.mpr admits.behind
  | boolean | integer | object => cases found

/-! ### Functions of templates -/

theorem notMem_quoteList (texts : List String) : '\n' ∉ (quoteList texts).toList := by
  have inside : Spot.behind.Admits ((", ".intercalate (texts.map Value.textLiteral)).toList) := by
    rw [String.toList_intercalate]
    refine Spot.Admits.intercalate (by decide) ((Spot.admits_behind_iff _).mpr (by decide)) ?_
    simp [Spot.admits_behind_iff, Json.notMem_textLiteral]
  unfold quoteList
  rw [String.toList_append, String.toList_append]
  exact List.not_mem_append (List.not_mem_append (by decide) inside.onLine) (by decide)

/-- The key and a field of a setting can be written at the start of a line. -/
theorem Holds.admits_keyValue {setting key value : Value} (holds : Content.setting.Holds setting)
    {path : List String} (isKey : Template.followPath setting ["key"] = .ok key)
    (isValue : Template.followPath setting path = .ok value) :
    Spot.start.Admits (keyValue key value).toList := by
  have onLine := (holds.followPath isValue).admits.onLine
  unfold keyValue
  split
  · cases holds with
    | null =>
      have isNull : value = .null := by cases path <;> cases isValue <;> rfl
      subst isNull
      contradiction
    | object isRecord each keyed =>
      obtain ⟨text, found, keyOnLine, c, rest, begins, visible, notTag⟩ := keyed rfl
      rw [Template.followPath, found] at isKey
      cases isKey
      have written : (s!"{(Value.text text).plainText} {value.plainText}").toList =
          text.toList ++ (' ' :: value.plainText.toList) := by
        show (text ++ " " ++ value.plainText).toList = _
        rw [String.toList_append, String.toList_append, List.append_assoc]
        rfl
      rw [written]
      refine ⟨?_, nofun, fun _ => ?_⟩
      · simp [keyOnLine, onLine]
      · rw [begins, List.cons_append, List.dropWhile_cons_of_neg (by simp [visible])]
        simp [notTag]
    | boolean | integer | text | list => cases isKey
  · exact Spot.admits_nil _

end Content

end LogForwarder.Fluentd
