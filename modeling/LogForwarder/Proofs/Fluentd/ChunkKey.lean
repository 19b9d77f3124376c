/-
This file finds out when the buffer of a syslog output keeps records apart by all that the heads of
their messages depend on. A head has placeholders, and each of them needs a chunk key. A text that
is the path of a field, or the word for the tag, becomes a placeholder and brings its key; in any
other text only placeholders for one step of the tag are noticed. So a placeholder for the whole tag
or for a field that a text spells out has its key exactly if another text brings it.
-/

import LogForwarder.Check.Spec
import LogForwarder.Fluentd.Build
import LogForwarder.Proofs.Fluentd.Label
import LogForwarder.Proofs.Fluentd.StorePlacing
import LogForwarder.Proofs.Lookup
import LogForwarder.Proofs.Repetition
import Mathlib.Data.List.TakeWhile

namespace LogForwarder.Fluentd

/-! ### Placeholders -/

/-- Whether some characters are a word. -/
def IsWord (chars : List Char) : Prop := chars ≠ [] ∧ ∀ c ∈ chars, Text.isAlphanumeric c || c = '_'

/-- Whether a text is the path of a field: a dollar, and words with a dot in front of each. -/
def IsFieldPath (path : String) : Prop :=
  ∃ words : List (List Char), words ≠ [] ∧ (∀ word ∈ words, IsWord word) ∧
    path.toList = '$' :: words.flatMap ('.' :: ·)

/-- Whether some characters are an integer, which may be negative. -/
def IsInteger (chars : List Char) : Prop :=
  ∃ digits, digits ≠ [] ∧ (∀ digit ∈ digits, digit.isDigit) ∧
    (chars = digits ∨ chars = '-' :: digits)

/-- Whether a text is one step of the tag. -/
def IsTagStep (step : String) : Prop :=
  ∃ number, IsInteger number ∧ step.toList = "tag[".toList ++ (number ++ [']'])

/-- Which chunk key is needed by a placeholder with some content. -/
inductive Needs : String → String → Prop
  | tag : Needs "tag" "tag"
  | tagStep {step : String} (isStep : IsTagStep step) : Needs step "tag"
  | field {path : String} (isPath : IsFieldPath path) : Needs path path

/-- Whether a placeholder with some content stands in a text. -/
def Shows (text content : String) : Prop :=
  (HeadPart.placeholder content).toList <:+: text.toList

instance (text content : String) : Decidable (Shows text content) :=
  inferInstanceAs (Decidable (_ <:+: _))

theorem toList_placeholder (content : String) :
    (HeadPart.placeholder content).toList =
      '$' :: Char.ofNat 0x7B :: (content.toList ++ [Char.ofNat 0x7D]) := by
  unfold HeadPart.placeholder
  rw [String.toList_append, String.toList_append]
  rfl

/-- A text with a placeholder has an opening brace. -/
theorem Shows.brace_mem {text content : String} (shown : Shows text content) :
    Char.ofNat 0x7B ∈ text.toList := by
  refine shown.subset ?_
  rw [toList_placeholder]
  exact List.mem_cons_of_mem _ List.mem_cons_self

/-- A placeholder for a field has a dollar behind its brace. -/
theorem Shows.infix_of_isFieldPath {text path : String} (shown : Shows text path)
    (isPath : IsFieldPath path) : ['$', Char.ofNat 0x7B, '$'] <:+: text.toList := by
  obtain ⟨words, _, _, chars⟩ := isPath
  refine List.IsInfix.trans ?_ shown
  rw [toList_placeholder, chars]
  exact ⟨[], words.flatMap ('.' :: ·) ++ [Char.ofNat 0x7D], rfl⟩

/-- A placeholder whose content has no braces shows nothing but this content. -/
theorem shows_placeholder_iff {inner : String} (noOpening : Char.ofNat 0x7B ∉ inner.toList)
    (noClosing : Char.ofNat 0x7D ∉ inner.toList) (content : String) :
    Shows (HeadPart.placeholder inner) content ↔ content = inner := by
  unfold Shows
  refine ⟨?_, fun same => same ▸ List.infix_rfl⟩
  rw [toList_placeholder, toList_placeholder]
  rintro ⟨before, after, split⟩
  rw [List.append_assoc, List.cons_append, List.cons_append, List.append_assoc,
    List.singleton_append] at split
  have noMoreOpening : Char.ofNat 0x7B ∉ inner.toList ++ [Char.ofNat 0x7D] := by
    rw [List.mem_append, not_or]
    exact ⟨noOpening, by decide⟩
  match before, split with
  | [], split =>
    have same := (List.cons.inj (List.cons.inj split).2).2
    rcases List.append_eq_append_iff.mp same with ⟨more, longer, ends⟩ | ⟨more, longer, ends⟩
    · cases more with
      | nil => exact String.toList_inj.mp (longer.trans (List.append_nil _)).symm
      | cons c others =>
        have isBrace := (List.cons.inj ends).1
        exact absurd (longer ▸ List.mem_append_right _ (isBrace ▸ List.mem_cons_self)) noClosing
    · cases more with
      | nil => exact String.toList_inj.mp (longer.trans (List.append_nil _))
      | cons c others => exact absurd (congrArg List.length ends) (by simp)
  | [c], split => exact absurd (List.cons.inj (List.cons.inj split).2).1 (by decide)
  | c :: d :: more, split =>
    have later := (List.cons.inj (List.cons.inj split).2).2
    exact absurd (later ▸ List.mem_append_right more (List.mem_cons_of_mem _ List.mem_cons_self))
      noMoreOpening

/-! ### Steps of a tag -/

/-- Digits in front of the end of a placeholder. -/
theorem digits_then_end_iff (chars : List Char) :
    (!(chars.takeWhile Char.isDigit).isEmpty &&
        "]\x7d".toList.isPrefixOf (chars.dropWhile Char.isDigit)) = true ↔
      ∃ digits rest, digits ≠ [] ∧ (∀ digit ∈ digits, digit.isDigit) ∧
        chars = digits ++ ']' :: Char.ofNat 0x7D :: rest := by
  rw [Bool.and_eq_true, Bool.not_eq_true', List.isEmpty_eq_false_iff, List.isPrefixOf_iff_prefix]
  constructor
  · rintro ⟨nonempty, rest, ends⟩
    refine ⟨_, rest, nonempty, fun digit member => List.mem_takeWhile_imp member, ?_⟩
    calc chars = chars.takeWhile Char.isDigit ++ chars.dropWhile Char.isDigit :=
          List.takeWhile_append_dropWhile.symm
      _ = _ := by rw [← ends]; rfl
  · rintro ⟨digits, rest, nonempty, areDigits, rfl⟩
    rw [List.takeWhile_append_of_pos areDigits, List.dropWhile_append_of_pos areDigits,
      List.takeWhile_cons_of_neg (by decide), List.dropWhile_cons_of_neg (by decide),
      List.append_nil]
    exact ⟨nonempty, rest, rfl⟩

theorem startsWithStep_iff (chars : List Char) :
    HeadPart.startsWithStep chars ↔
      ∃ number rest, IsInteger number ∧ chars = number ++ ']' :: Char.ofNat 0x7D :: rest := by
  unfold HeadPart.startsWithStep
  rw [digits_then_end_iff]
  split
  · next unsigned =>
    constructor
    · rintro ⟨digits, rest, nonempty, areDigits, rfl⟩
      exact ⟨'-' :: digits, rest, ⟨digits, nonempty, areDigits, .inr rfl⟩, rfl⟩
    · rintro ⟨number, rest, ⟨digits, nonempty, areDigits, rfl | rfl⟩, split⟩
      · cases number with
        | nil => exact absurd rfl nonempty
        | cons digit others =>
          have isSign := (List.cons.inj split).1
          exact absurd (areDigits digit List.mem_cons_self) (isSign ▸ by decide)
      · exact ⟨digits, rest, nonempty, areDigits, (List.cons.inj split).2⟩
  · next noSign =>
    constructor
    · rintro ⟨digits, rest, nonempty, areDigits, rfl⟩
      exact ⟨digits, rest, ⟨digits, nonempty, areDigits, .inl rfl⟩, rfl⟩
    · rintro ⟨number, rest, ⟨digits, nonempty, areDigits, rfl | rfl⟩, split⟩
      · exact ⟨number, rest, nonempty, areDigits, split⟩
      · exact absurd split (noSign _)

theorem hasTagStep_iff_exists (chars : List Char) :
    HeadPart.hasTagStep chars ↔
      ∃ before rest, chars = before ++ (HeadPart.stepStart ++ rest) ∧
        HeadPart.startsWithStep rest := by
  induction chars with
  | nil =>
    refine ⟨nofun, ?_⟩
    rintro ⟨before, rest, split, _⟩
    exact absurd (congrArg List.length split) (by simp [HeadPart.stepStart])
  | cons c others inductionHypothesis =>
    rw [HeadPart.hasTagStep, Bool.or_eq_true, Bool.and_eq_true, inductionHypothesis,
      List.isPrefixOf_iff_prefix]
    constructor
    · rintro (⟨⟨rest, begins⟩, starts⟩ | ⟨before, rest, split, starts⟩)
      · rw [← begins, List.drop_left] at starts
        exact ⟨[], rest, begins.symm, starts⟩
      · exact ⟨c :: before, rest, by rw [split]; rfl, starts⟩
    · rintro ⟨before, rest, split, starts⟩
      cases before with
      | nil =>
        rw [List.nil_append] at split
        rw [split, List.drop_left]
        exact .inl ⟨List.prefix_append _ _, starts⟩
      | cons first before => exact .inr ⟨before, rest, (List.cons.inj split).2, starts⟩

/-- The test for steps of a tag finds every placeholder for one, and nothing else. -/
theorem hasTagStep_iff (text : String) :
    HeadPart.hasTagStep text.toList ↔ ∃ step, IsTagStep step ∧ Shows text step := by
  rw [hasTagStep_iff_exists]
  constructor
  · rintro ⟨before, _, split, starts⟩
    obtain ⟨number, rest, isNumber, rfl⟩ := (startsWithStep_iff _).mp starts
    have chars : (String.ofList ("tag[".toList ++ (number ++ [']']))).toList =
        "tag[".toList ++ (number ++ [']']) := String.toList_ofList
    refine ⟨_, ⟨number, isNumber, chars⟩, before, rest, ?_⟩
    rw [toList_placeholder, chars, split]
    simp [HeadPart.stepStart]
  · rintro ⟨step, ⟨number, isNumber, chars⟩, before, rest, split⟩
    refine ⟨before, number ++ ']' :: Char.ofNat 0x7D :: rest, ?_,
      (startsWithStep_iff _).mpr ⟨number, rest, isNumber, rfl⟩⟩
    rw [← split, toList_placeholder, chars]
    simp [HeadPart.stepStart]

/-! ### Texts of a spec -/

namespace HeadPart

/-- What is the path of a field is taken for one. -/
theorem isPath_of_isFieldPath {path : String} (isFieldPath : IsFieldPath path) :
    isPath path.toList := by
  obtain ⟨words, nonempty, areWords, chars⟩ := isFieldPath
  have inWord : ∀ word ∈ words, ∀ c ∈ word, isPathChar c := by
    intro word isWord c member
    have inWord := (areWords word isWord).2 c member
    unfold isPathChar
    rw [inWord, Bool.true_or]
  cases words with
  | nil => exact absurd rfl nonempty
  | cons word others =>
    obtain ⟨inFirst, inOthers⟩ := List.forall_mem_cons.mp inWord
    rw [chars, List.flatMap_cons, List.cons_append, isPath, List.all_eq_true]
    intro c member
    rcases List.mem_append.mp member with here | later
    · exact inFirst c here
    · obtain ⟨other, isOther, member⟩ := List.mem_flatMap.mp later
      rcases List.mem_cons.mp member with rfl | member
      · decide
      · exact inOthers other isOther c member

end HeadPart

/-- A text that becomes a placeholder has no braces. -/
theorem braces_notMem {text : String} (becomes : HeadPart.isPath text.toList ∨ text = "tag") :
    Char.ofNat 0x7B ∉ text.toList ∧ Char.ofNat 0x7D ∉ text.toList := by
  rcases becomes with path | rfl
  · exact ⟨HeadPart.notMem_of_isPath path _ (by decide) (by decide),
      HeadPart.notMem_of_isPath path _ (by decide) (by decide)⟩
  · decide

/-- A step of the tag becomes no placeholder as a whole. -/
theorem IsTagStep.becomes_none {step : String} (isStep : IsTagStep step) :
    ¬ (HeadPart.isPath step.toList ∨ step = "tag") := by
  obtain ⟨number, _, chars⟩ := isStep
  have bracket : '[' ∈ step.toList := chars ▸ List.mem_append_left _ (by decide)
  rintro (path | rfl)
  · exact HeadPart.notMem_of_isPath path _ (by decide) (by decide) bracket
  · exact absurd bracket (by decide)

/-- The placeholders of a part are those of its text, or the one that its text becomes. -/
theorem shows_ofText_iff (text content : String) :
    Shows (HeadPart.ofText text).text content ↔
      Shows text content ∨ content = text ∧ (HeadPart.isPath text.toList ∨ text = "tag") := by
  by_cases becomes : HeadPart.isPath text.toList ∨ text = "tag"
  · obtain ⟨noOpening, noClosing⟩ := braces_notMem becomes
    have isPlaceholder : (HeadPart.ofText text).text = HeadPart.placeholder text := by
      unfold HeadPart.ofText
      split_ifs with path tag
      · rfl
      · rw [tag]
        rfl
      · exact absurd becomes (by simp [path, tag])
      · exact absurd becomes (by simp [path, tag])
    rw [isPlaceholder, shows_placeholder_iff noOpening noClosing, and_iff_left becomes]
    exact (or_iff_right fun shown => noOpening shown.brace_mem).symm
  · obtain ⟨notPath, notTag⟩ := not_or.mp becomes
    have unchanged : (HeadPart.ofText text).text = text := by
      unfold HeadPart.ofText
      rw [if_neg notPath, if_neg notTag]
      split <;> rfl
    rw [unchanged]
    exact (or_iff_left fun both => becomes both.2).symm

theorem ne_tag_of_isPath {text : String} (path : HeadPart.isPath text.toList) : text ≠ "tag" := by
  rintro rfl
  exact absurd path (by decide)

theorem key?_ofText_eq_tag_iff (text : String) :
    (HeadPart.ofText text).key? = some "tag" ↔
      text = "tag" ∨ ∃ step, IsTagStep step ∧ Shows text step := by
  unfold HeadPart.ofText
  split_ifs with path tag step
  · refine iff_of_false (fun same => ne_tag_of_isPath path (Option.some.inj same)) ?_
    rintro (tag | ⟨_, _, shown⟩)
    · exact ne_tag_of_isPath path tag
    · exact (braces_notMem (.inl path)).1 shown.brace_mem
  · exact iff_of_true rfl (.inl tag)
  · exact iff_of_true rfl (.inr ((hasTagStep_iff text).mp step))
  · exact iff_of_false nofun (by simp [tag, ← hasTagStep_iff, step])

theorem key?_ofText_eq_path_iff {path : String} (isPath : HeadPart.isPath path.toList)
    (text : String) : (HeadPart.ofText text).key? = some path ↔ text = path := by
  have notTag := ne_tag_of_isPath isPath
  unfold HeadPart.ofText
  split_ifs with textPath tag step
  · exact Option.some_inj
  · exact iff_of_false (fun same => notTag (Option.some.inj same).symm) (tag ▸ notTag.symm)
  · exact iff_of_false (fun same => notTag (Option.some.inj same).symm)
      fun same => textPath (same ▸ isPath)
  · exact iff_of_false nofun fun same => textPath (same ▸ isPath)

/-! ### Heads of messages and keys of buffers -/

/-- What a spec says about the heads of messages. -/
def headFields (options : SyslogSection) : List (Option String) :=
  [options.facility, options.severity, options.appName, options.msgId, options.procId, options.tag]

/-- The texts that a spec gives for the heads of messages. -/
def headSources (options : SyslogSection) : List String :=
  (headFields options).filterMap (·.filter (!·.isEmpty))

/-- The parameters that the heads of messages are written with. -/
def headNames : List String := ["facility", "severity", "appname", "msgid", "procid", "program"]

/-- What is written where a spec says nothing. -/
def headDefaults : List (Option String) := [some "user", some "debug", none, none, none, none]

/-- What the heads of the messages of a syslog output are written with. -/
def headTexts (element : Element) : List String :=
  headNames.filterMap fun name => ((Value.object element.params).field name).text?

/-- What the buffer of an output keeps records apart by. -/
def bufferKeys (element : Element) : List String :=
  (((Value.object element.params).field "buffer").field "keys").items.filterMap Value.text?

namespace Store

theorem mem_syslogKeys_iff (options : SyslogSection) (key : String) :
    key ∈ syslogKeys options ↔
      ∃ source ∈ headSources options, (HeadPart.ofText source).key? = some key := by
  have sameTexts (text? : Option String) :
      text? ∈ [options.appName, options.msgId, options.procId, options.tag, options.facility,
        options.severity] ↔ text? ∈ headFields options := by
    simp only [headFields, List.mem_cons, List.not_mem_nil, or_false]
    tauto
  unfold syslogKeys headSources
  simp only [List.mem_eraseDups, List.mem_filterMap, sameTexts, HeadPart.ofText?,
    Option.map_eq_some_iff]
  constructor
  · rintro ⟨_, ⟨text?, member, source, given, rfl⟩, isKey⟩
    exact ⟨source, ⟨text?, member, given⟩, isKey⟩
  · rintro ⟨source, ⟨text?, member, given⟩, isKey⟩
    exact ⟨_, ⟨text?, member, source, given, rfl⟩, isKey⟩

variable {store : Store} {element : Element} (made : store.syslogLabel = .ok element)

include made

theorem bufferKeys_syslogLabel :
    bufferKeys element = syslogKeys (store.output.syslog.getD default) := by
  obtain ⟨address, rfl⟩ := exists_of_label_made made
  rw [bufferKeys, label, Element.field_create _ _ _ _ _ _ (by decide) (by decide)]
  simp [List.lookup_cons, Buffer.param, buffer, Buffer.ofTuning]

/-- What the spec says is written, and the default where it says nothing. -/
theorem map_headNames_syslogLabel :
    (headNames.map fun name => ((Value.object element.params).field name).text?) =
      ((headFields (store.output.syslog.getD default)).zip headDefaults).map fun field =>
        (headText? field.1).or field.2 := by
  have withDefault (text? : Option String) (other : String) :
      text?.or (some other) = some (text?.getD other) := by
    cases text? <;> rfl
  obtain ⟨address, rfl⟩ := exists_of_label_made made
  simp [headNames, headFields, headDefaults, withDefault, label, Element.field_create,
    List.lookup_cons]

theorem mem_headTexts_iff (text : String) :
    text ∈ headTexts element ↔
      ∃ field ∈ (headFields (store.output.syslog.getD default)).zip headDefaults,
        (headText? field.1).or field.2 = some text := by
  rw [headTexts, List.mem_filterMap, ← List.mem_map, map_headNames_syslogLabel made, List.mem_map]

/-- Every text of the spec for a head is written in it. -/
theorem text_mem_headTexts {source : String}
    (given : source ∈ headSources (store.output.syslog.getD default)) :
    (HeadPart.ofText source).text ∈ headTexts element := by
  obtain ⟨text?, member, isGiven⟩ := List.mem_filterMap.mp given
  have isText : headText? text? = some (HeadPart.ofText source).text := by
    rw [headText?, HeadPart.ofText?, isGiven]
    rfl
  have fields := List.map_fst_zip
    (show (headFields (store.output.syslog.getD default)).length ≤ headDefaults.length from
      Nat.le_refl _)
  rw [← fields] at member
  obtain ⟨field, isField, rfl⟩ := List.mem_map.mp member
  exact (mem_headTexts_iff made _).mpr ⟨field, isField, by rw [isText, Option.some_or]⟩

/-- What is written in a head comes from a text of the spec, or is a default. -/
theorem exists_source_of_mem_headTexts {text : String} (member : text ∈ headTexts element) :
    (∃ source ∈ headSources (store.output.syslog.getD default),
      text = (HeadPart.ofText source).text) ∨ some text ∈ headDefaults := by
  obtain ⟨⟨text?, default?⟩, isField, written⟩ := (mem_headTexts_iff made _).mp member
  obtain ⟨isGiven, isDefault⟩ := List.of_mem_zip isField
  rcases Option.or_eq_some_iff.mp written with isText | ⟨_, rfl⟩
  · obtain ⟨_, isPart, rfl⟩ := Option.map_eq_some_iff.mp isText
    obtain ⟨source, given, rfl⟩ := Option.map_eq_some_iff.mp isPart
    exact .inl ⟨source, List.mem_filterMap.mpr ⟨text?, isGiven, given⟩, rfl⟩
  · exact .inr isDefault

end Store

/-! ### Chunk keys -/

/-- Whether the buffer of an output has the chunk keys that the heads of its messages need. -/
def HasChunkKeys (element : Element) : Prop :=
  ∀ text ∈ headTexts element, ∀ content key, Shows text content → Needs content key →
    key ∈ bufferKeys element

/-- Whether texts bring the chunk keys of the placeholders that they spell out. -/
structure BringKeys (sources : List String) : Prop where
  tag : ∀ source ∈ sources, Shows source "tag" →
    ∃ other ∈ sources, other = "tag" ∨ ∃ step, IsTagStep step ∧ Shows other step
  field : ∀ source ∈ sources, ∀ path, IsFieldPath path → Shows source path → path ∈ sources

namespace Store

variable {store : Store} {element : Element} (made : store.syslogLabel = .ok element)

include made

theorem tag_mem_bufferKeys_iff :
    "tag" ∈ bufferKeys element ↔ ∃ source ∈ headSources (store.output.syslog.getD default),
      source = "tag" ∨ ∃ step, IsTagStep step ∧ Shows source step := by
  rw [bufferKeys_syslogLabel made, mem_syslogKeys_iff]
  simp only [key?_ofText_eq_tag_iff]

theorem path_mem_bufferKeys_iff {path : String} (isPath : HeadPart.isPath path.toList) :
    path ∈ bufferKeys element ↔ path ∈ headSources (store.output.syslog.getD default) := by
  rw [bufferKeys_syslogLabel made, mem_syslogKeys_iff]
  simp only [key?_ofText_eq_path_iff isPath, exists_eq_right]

theorem bringKeys_of_hasChunkKeys (has : HasChunkKeys element) :
    BringKeys (headSources (store.output.syslog.getD default)) := by
  have present {source content key : String}
      (given : source ∈ headSources (store.output.syslog.getD default))
      (spelled : Shows source content) (needs : Needs content key) : key ∈ bufferKeys element :=
    have shown := (shows_ofText_iff source content).mpr (.inl spelled)
    has _ (text_mem_headTexts made given) content key shown needs
  refine ⟨fun source given shown => ?_, fun source given path isPath shown => ?_⟩
  · exact (tag_mem_bufferKeys_iff made).mp (present given shown .tag)
  · exact (path_mem_bufferKeys_iff made (HeadPart.isPath_of_isFieldPath isPath)).mp
      (present given shown (.field isPath))

theorem hasChunkKeys_of_bringKeys
    (bring : BringKeys (headSources (store.output.syslog.getD default))) :
    HasChunkKeys element := by
  intro text member content key shown needs
  have tag := tag_mem_bufferKeys_iff made
  have field {path : String} (isPath : IsFieldPath path) :=
    path_mem_bufferKeys_iff made (HeadPart.isPath_of_isFieldPath isPath)
  rcases exists_source_of_mem_headTexts made member with ⟨source, given, rfl⟩ | isDefault
  · rcases (shows_ofText_iff _ _).mp shown with spelled | ⟨rfl, becomes⟩
    · cases needs with
      | tag => exact tag.mpr (bring.tag source given spelled)
      | tagStep isStep => exact tag.mpr ⟨source, given, .inr ⟨content, isStep, spelled⟩⟩
      | field isPath => exact (field isPath).mpr (bring.field source given _ isPath spelled)
    · cases needs with
      | tag => exact tag.mpr ⟨"tag", given, .inl rfl⟩
      | tagStep isStep => exact absurd becomes isStep.becomes_none
      | field isPath => exact (field isPath).mpr given
  · have noBrace : ∀ text, some text ∈ headDefaults → Char.ofNat 0x7B ∉ text.toList := by
      simp [headDefaults]
    exact absurd shown.brace_mem (noBrace text isDefault)

/--
The chunk keys of a syslog output differ from each other, and they are all that the heads of its
messages need exactly if the texts of the spec bring the keys of the placeholders that they spell
out.
-/
theorem hasChunkKeys_iff_bringKeys :
    (bufferKeys element).Nodup ∧
      (HasChunkKeys element ↔ BringKeys (headSources (store.output.syslog.getD default))) := by
  refine ⟨?_, bringKeys_of_hasChunkKeys made, hasChunkKeys_of_bringKeys made⟩
  rw [bufferKeys_syslogLabel made]
  exact nodup_eraseDups _

end Store

end LogForwarder.Fluentd

namespace LogForwarder

/-- A syslog output with some heads of messages. -/
def Output.toServer (options : SyslogSection) : Output :=
  { Output.bare "server" .syslog with url? := some "tcp://[::1]:514", syslog := some options }

/-- Audit records on their way to a syslog server. -/
def Spec.toServer (options : SyslogSection) : Spec where
  inputs := []
  outputs := [.toServer options]
  pipelines := [⟨some "all", ["audit"], ["server"], ∅, none⟩]
  tuning := none

namespace Fluentd.Store

/-- A syslog output with an address has a label. -/
theorem exists_syslogLabel {store : Store}
    (isAddress : ∃ address, Endpoint.hostPort store.output.url = .ok address) :
    ∃ element, store.syslogLabel = .ok element := by
  obtain ⟨address, isRead⟩ := isAddress
  unfold syslogLabel
  rw [isRead]
  exact ⟨_, rfl⟩

/-- A placeholder for the tag may be spelled out where another text is the tag. -/
theorem hasChunkKeys_tagTwice :
    let options : SyslogSection :=
      { (default : SyslogSection) with
        facility := some "$.level", appName := some "app-$\x7btag\x7d", procId := some "tag" }
    let store := Store.ofOutput (.toServer options) ∅ .standard (.toServer options)
    ∃ element, store.syslogLabel = .ok element ∧ (bufferKeys element).Nodup ∧
      HasChunkKeys element := by
  intro options store
  have isAddress : ∃ address, Endpoint.hostPort "tcp://[::1]:514" = .ok address := ⟨_, rfl⟩
  obtain ⟨element, made⟩ := store.exists_syslogLabel isAddress
  have given : headSources (store.output.syslog.getD default) =
      ["$.level", "app-$\x7btag\x7d", "tag"] := by decide
  obtain ⟨distinct, iffBring⟩ := hasChunkKeys_iff_bringKeys made
  have noField : ∀ source ∈ ["$.level", "app-$\x7btag\x7d", "tag"],
      ¬ ['$', Char.ofNat 0x7B, '$'] <:+: source.toList := by decide
  refine ⟨element, made, distinct, iffBring.mpr ?_⟩
  rw [given]
  exact ⟨fun _ _ _ => ⟨"tag", by decide, .inl rfl⟩, fun source member path isPath shown =>
    absurd (shown.infix_of_isFieldPath isPath) (noField source member)⟩

/-- A proper spec may spell out a placeholder for the tag, and then the buffer has no key for it. -/
theorem not_hasChunkKeys_tagSpelledOut :
    let options : SyslogSection :=
      { (default : SyslogSection) with appName := some "app-$\x7btag\x7d" }
    let store := Store.ofOutput (.toServer options) ∅ .standard (.toServer options)
    (Spec.toServer options).problems ∅ .standard .fluentd = [] ∧
      ∃ element, store.syslogLabel = .ok element ∧ ¬ HasChunkKeys element := by
  intro options store
  have isAddress : ∃ address, Endpoint.hostPort "tcp://[::1]:514" = .ok address := ⟨_, rfl⟩
  obtain ⟨element, made⟩ := store.exists_syslogLabel isAddress
  refine ⟨by decide, element, made, fun has => ?_⟩
  have noKey : "tag" ∉ bufferKeys element := by
    rw [bufferKeys_syslogLabel made]
    decide
  have given : "app-$\x7btag\x7d" ∈ headSources (store.output.syslog.getD default) := by decide
  exact noKey (has _ (text_mem_headTexts made given) "tag" "tag" (by decide) .tag)

end Fluentd.Store

end LogForwarder
