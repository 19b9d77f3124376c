/-
This file proves what is read from the values that are written as JSON writes them: strings, lists
of strings, and tables of strings on one line. As JSON, each string is read as the text that it was
written for. As TOML, all of them are read so exactly if no text in them holds U+007F, and a
document with one that does is not read at all.
-/

import LogForwarder.Proofs.Json.Compact
import LogForwarder.Proofs.Toml.Line
import LogForwarder.Proofs.Toml.Table
import LogForwarder.Vector.Part

namespace LogForwarder.Toml

/-! ### Entries -/

/-- An entry of an inline table as it is written. -/
def writtenEntry (entry : String × String) : List Char :=
  jsonString entry.1 ++ ' ' :: '=' :: ' ' :: jsonString entry.2

/-- An entry of an inline table as it is held. -/
def heldEntry (entry : String × String) : String × Node := (entry.1, .value (.text entry.2))

/-- Whether the key and the value of an entry can both be quoted. -/
def IsQuotableEntry (entry : String × String) : Prop := IsQuotable entry.1 ∧ IsQuotable entry.2

instance (entry : String × String) : Decidable (IsQuotableEntry entry) :=
  inferInstanceAs (Decidable (_ ∧ _))

theorem readKey_jsonString (key : String) {limit : Nat} (some : 0 < limit) (rest : List Char) :
    readKey limit (jsonString key ++ ' ' :: '=' :: rest) =
      if IsQuotable key then .some ([key], '=' :: rest) else none := by
  cases limit with
  | zero => cases some
  | succ limit =>
    rw [jsonString_append, readKey, List.dropWhile_cons_of_neg (by decide), readSegment,
      basicText_literalBody]
    split
    · simp [isSpace]
    · rfl

theorem readInline_space (limit : Nat) (entries : Entries) (chars : List Char) :
    readInline limit entries (' ' :: chars) = readInline limit entries chars := by
  cases limit with
  | zero => rfl
  | succ limit => simp [readInline, skipLines, isSpace]

/-- What is read from an entry of an inline table on. -/
theorem readInline_written (entry : String × String) {limit : Nat} (some : 0 < limit)
    {entries : Entries} (vacant : entries.lookup entry.1 = none) {rest : List Char}
    (apart : rest.head? ≠ .some '"') :
    readInline (limit + 1) entries (writtenEntry entry ++ rest) =
      if IsQuotableEntry entry then do
        match ← skipLines false rest with
        | [] => none
        | c :: rest =>
          if c = ',' then readInline limit (entries ++ [heldEntry entry]) rest
          else if c.toNat = 0x7D then
            .some ((Node.table .header (entries ++ [heldEntry entry])).toDocument, rest)
          else none
      else none := by
  have key := readKey_jsonString entry.1 some (' ' :: (jsonString entry.2 ++ rest))
  have value := readValue_jsonString entry.2 some apart
  have put : putValue [entry.1] (.text entry.2) .header entries =
      .some (entries ++ [heldEntry entry]) := by
    rw [putValue_one, vacant, setEntry_new vacant]
    rfl
  have noBlank (others : List Char) : skipLines false ('"' :: others) = .some ('"' :: others) := by
    simp [skipLines, isSpace]
  have noSpace : (' ' :: (jsonString entry.2 ++ rest)).dropWhile isSpace =
      jsonString entry.2 ++ rest := by
    rw [jsonString_append]
    rfl
  have isWritten : writtenEntry entry ++ rest =
      jsonString entry.1 ++ ' ' :: '=' :: ' ' :: (jsonString entry.2 ++ rest) := by
    simp [writtenEntry]
  rw [isWritten, readInline, jsonString_append, noBlank]
  simp only [Option.bind_eq_bind, Option.bind_some]
  rw [if_neg (by decide), ← jsonString_append, key]
  by_cases keyQuotable : IsQuotable entry.1
  · rw [if_pos keyQuotable, Option.bind_some, takeChar?, if_pos rfl, Option.bind_some, noSpace,
      value]
    by_cases valueQuotable : IsQuotable entry.2
    · rw [if_pos valueQuotable, if_pos ⟨keyQuotable, valueQuotable⟩, Option.bind_some, put,
        Option.bind_some]
      rfl
    · rw [if_neg valueQuotable, if_neg (valueQuotable ·.2), Option.bind_none]
  · rw [if_neg keyQuotable, if_neg (keyQuotable ·.1), Option.bind_none]

/-- The brace that closes an inline table. -/
def closingBrace : Char := Char.ofNat 0x7D

/-- One entry of an inline table is read, and a comma or the end of the table must follow. -/
theorem readInline_entry (entry : String × String) {limit : Nat} (some : 0 < limit)
    {entries : Entries} (vacant : entries.lookup entry.1 = none) (rest : List Char) :
    readInline (limit + 1) entries (writtenEntry entry ++ ',' :: rest) =
        (if IsQuotableEntry entry then readInline limit (entries ++ [heldEntry entry]) rest
        else none) ∧
      readInline (limit + 1) entries (writtenEntry entry ++ closingBrace :: rest) =
        if IsQuotableEntry entry then
          .some ((Node.table .header (entries ++ [heldEntry entry])).toDocument, rest)
        else none := by
  constructor
  · rw [readInline_written entry some vacant (show (',' :: rest).head? ≠ .some '"' from nofun)]
    rfl
  · have noQuote : (closingBrace :: rest).head? ≠ .some '"' := fun isQuote =>
      absurd (Option.some.inj isQuote) (by decide)
    rw [readInline_written entry some vacant noQuote]
    rfl

theorem readInline_end (limit : Nat) (entries : Entries) (rest : List Char) :
    readInline (limit + 1) entries (closingBrace :: rest) =
      some ((Node.table .header entries).toDocument, rest) := by
  rfl

/-- Entries between commas are read as those of an inline table up to its end. -/
theorem readInline_writtenEntries {added : List (String × String)} {limit : Nat}
    (enough : added.length < limit) {entries : Entries} (distinct : (added.map (·.1)).Nodup)
    (vacant : ∀ entry ∈ added, entries.lookup entry.1 = none) (rest : List Char) :
    readInline limit entries
        ([',', ' '].intercalate (added.map writtenEntry) ++ closingBrace :: rest) =
      if ∀ entry ∈ added, IsQuotableEntry entry then
        some ((Node.table .header (entries ++ added.map heldEntry)).toDocument, rest)
      else none := by
  induction added generalizing limit entries with
  | nil =>
    cases limit with
    | zero => cases enough
    | succ limit =>
      rw [List.map_nil, List.map_nil, List.append_nil, if_pos nofun]
      exact readInline_end limit entries rest
  | cons entry others inductionHypothesis =>
    obtain ⟨entryVacant, othersVacant⟩ := List.forall_mem_cons.mp vacant
    obtain ⟨fresh, othersDistinct⟩ := List.nodup_cons.mp distinct
    cases limit with
    | zero => cases enough
    | succ limit =>
      have fewer : others.length < limit := Nat.lt_of_succ_lt_succ enough
      have item := readInline_entry entry (Nat.zero_lt_of_lt fewer) entryVacant
      cases others with
      | nil =>
        rw [List.map_singleton, List.intercalate_singleton, (item rest).2]
        simp only [List.forall_mem_singleton]
        rfl
      | cons next later =>
        have stillVacant : ∀ other ∈ next :: later,
            (entries ++ [heldEntry entry]).lookup other.1 = none := by
          intro other member
          have different : other.1 ≠ entry.1 := by
            intro same
            exact fresh (List.mem_map.mpr ⟨other, member, same⟩)
          rw [List.lookup_append, othersVacant other member, Option.none_or, heldEntry,
            lookup_cons_eq_ite, if_neg different, List.lookup_nil]
        have others := inductionHypothesis fewer othersDistinct stillVacant
        rw [List.map_cons, List.map_cons, List.intercalate_cons_cons, ← List.map_cons,
          List.append_assoc, List.append_assoc, List.cons_append, List.cons_append,
          List.nil_append, (item _).1, readInline_space, others, List.append_assoc, ← ite_and]
        simp only [List.forall_mem_cons]
        rfl

/-! ### Tables on one line -/

theorem toList_inlineTable (entries : Dictionary String) :
    (Vector.inlineTable entries).toList =
      Char.ofNat 0x7B :: ([',', ' '].intercalate (entries.entries.map writtenEntry) ++
        [closingBrace]) := by
  have pair : (String.toList ∘ fun entry : String × String =>
      Value.textLiteral entry.1 ++ " = " ++ Value.textLiteral entry.2) = writtenEntry := by
    funext entry
    rw [Function.comp_apply, String.toList_append, String.toList_append, List.append_assoc]
    rfl
  show ("\x7b" ++ ", ".intercalate (entries.entries.map fun entry =>
    Value.textLiteral entry.1 ++ " = " ++ Value.textLiteral entry.2) ++ "\x7d").toList = _
  rw [String.toList_append, String.toList_append, String.toList_intercalate, List.map_map, pair]
  rfl

theorem length_le_inlineTable (entries : Dictionary String) :
    entries.entries.length ≤ (Vector.inlineTable entries).toList.length := by
  have nonempty : ∀ item ∈ entries.entries.map writtenEntry, item ≠ [] := by
    refine List.forall_mem_map.mpr fun entry _ => ?_
    rw [writtenEntry, jsonString_append]
    exact List.cons_ne_nil _ _
  have within := length_le_intercalate nonempty [',', ' ']
  rw [List.length_map] at within
  rw [toList_inlineTable, List.length_cons, List.length_append]
  omega

theorem entriesToDocuments_eq_foldl (entries : Entries) (finished : List (String × Document)) :
    entriesToDocuments entries finished =
      (entries.map fun entry => (entry.1, entry.2.toDocument)).foldl
        (fun sorted entry => insertEntry entry.1 entry.2 sorted) finished := by
  induction entries generalizing finished with
  | nil => rfl
  | cons head rest inductionHypothesis =>
    rw [entriesToDocuments, inductionHypothesis]
    rfl

/-- The entries of a dictionary are in order already. -/
theorem toDocument_heldEntries (entries : Dictionary String) :
    (Node.table .header (entries.entries.map heldEntry)).toDocument =
      .table (entries.mapValues Document.text).entries := by
  have ordered : Dictionary.ofList (entries.mapValues Document.text).entries =
      entries.mapValues Document.text := Dictionary.ofList_of_perm (.refl _) fun _ => id
  have held : (entries.entries.map heldEntry).map (fun entry => (entry.1, entry.2.toDocument)) =
      (entries.mapValues Document.text).entries := by
    rw [List.map_map]
    exact List.map_congr_left fun entry _ => by simp [heldEntry, Node.toDocument]
  rw [Node.toDocument, entriesToDocuments_eq_foldl, held, ← Dictionary.entries_ofList, ordered]

theorem readValue_inlineTable {entries : Dictionary String} {limit : Nat}
    (enough : entries.entries.length + 1 < limit) (rest : List Char) :
    readValue limit ((Vector.inlineTable entries).toList ++ rest) =
      if ∀ entry ∈ entries.entries, IsQuotableEntry entry then
        some (.table (entries.mapValues Document.text).entries, rest)
      else none := by
  cases limit with
  | zero => cases enough
  | succ limit =>
    have isRead := readInline_writtenEntries (Nat.lt_of_succ_lt_succ enough) entries.nodup_keys
      (fun _ _ => List.lookup_nil) rest
    rw [List.nil_append, toDocument_heldEntries] at isRead
    rw [toList_inlineTable, List.cons_append, List.append_assoc, readValue]
    · exact isRead
    · exact fun absurdity => absurd absurdity (by decide)

/-! ### Documents with one value -/

/-- A value is read from a document that holds nothing else. -/
theorem read_value {text : String} {document : Document} {holds : Prop} [Decidable holds]
    (begins : ∀ c ∈ text.toList.head?, isSpace c = false)
    (isRead : readValue (text.toList.length + 8) text.toList =
      if holds then some (document, []) else none) :
    read ("value = " ++ text) =
      if holds then some (.table [("value", document)]) else none := by
  have bare : IsBarePath ["value"] :=
    ⟨List.cons_ne_nil _ _, List.forall_mem_singleton.mpr ⟨by decide, by decide⟩⟩
  have chars : ("value = " ++ text).toList =
      writtenKey ["value"] ++ ' ' :: '=' :: ' ' :: text.toList := by
    rw [String.toList_append]
    rfl
  have noMark : read ("value = " ++ text) =
      (readLines (text.toList.length + 8 + 1) ⟨[], []⟩
        (writtenKey ["value"] ++ ' ' :: '=' :: ' ' :: text.toList)).map fun entries =>
          (Node.table .header entries).toDocument := by
    unfold read
    rw [chars]
    rfl
  have put : putIn [] ["value"] document [] = some [("value", .value document)] := rfl
  rw [noMark, readLines_value bare (Nat.le_add_left 1 _) _ begins, isRead]
  split
  · rw [Option.bind_some]
    simp only [endLine, Option.bind_some, put]
    rfl
  · rfl

theorem read_textLiteral (text : String) :
    read ("value = " ++ Value.textLiteral text) =
      if IsQuotable text then some (.table [("value", .text text)]) else none := by
  refine read_value ?_ ?_
  · rw [Json.toList_textLiteral]
    rintro _ ⟨⟩
    rfl
  · have isRead := readValue_jsonString text
      (Nat.succ_pos ((Value.textLiteral text).toList.length + 7))
      (show ([] : List Char).head? ≠ some '"' from nofun)
    rwa [List.append_nil] at isRead

theorem read_quoteList (texts : List String) :
    read ("value = " ++ Template.quoteList texts) =
      if ∀ text ∈ texts, IsQuotable text then
        some (.table [("value", .list (texts.map .text))])
      else none := by
  refine read_value ?_ ?_
  · rw [toList_quoteList]
    rintro _ ⟨⟩
    rfl
  · have within := length_le_quoteList texts
    have enough : texts.length + 1 < (Template.quoteList texts).toList.length + 8 := by omega
    have isRead := readValue_quoteList enough []
    rwa [List.append_nil] at isRead

theorem read_inlineTable (entries : Dictionary String) :
    read ("value = " ++ Vector.inlineTable entries) =
      if ∀ entry ∈ entries.entries, IsQuotableEntry entry then
        some (.table [("value", .table (entries.mapValues Document.text).entries)])
      else none := by
  refine read_value ?_ ?_
  · rw [toList_inlineTable]
    rintro _ ⟨⟩
    rfl
  · have within := length_le_inlineTable entries
    have enough : entries.entries.length + 1 < (Vector.inlineTable entries).toList.length + 8 := by
      omega
    have isRead := readValue_inlineTable enough []
    rwa [List.append_nil] at isRead

/-! ### All values -/

/--
What is quoted is read as it was meant. As JSON, a string is read as its text. As TOML, it is a
basic string of its text and of nothing else, in both versions, unless it holds U+007F; and strings,
lists of strings and tables of strings are read from a document as what was to be written exactly if
no text in them holds it.
-/
theorem read_quoted_values (version : Version) (text : String) (texts : List String)
    (entries : Dictionary String) :
    Json.read (Value.textLiteral text) = ⟨.text text, none⟩ ∧
    (∀ other, IsBasicString version (Value.textLiteral text).toList other ↔
      other = text ∧ IsQuotable text) ∧
    read ("value = " ++ Value.textLiteral text) =
      (if IsQuotable text then some (.table [("value", .text text)]) else none) ∧
    read ("value = " ++ Template.quoteList texts) =
      (if ∀ text ∈ texts, IsQuotable text then
        some (.table [("value", .list (texts.map .text))])
      else none) ∧
    read ("value = " ++ Vector.inlineTable entries) =
      if ∀ entry ∈ entries.entries, IsQuotableEntry entry then
        some (.table [("value", .table (entries.mapValues Document.text).entries)])
      else none :=
  ⟨Json.read_textLiteral text, isBasicString_textLiteral_iff version text, read_textLiteral text,
    read_quoteList texts, read_inlineTable entries⟩

/-- U+007F is written as it is, and then neither grammar nor reader of TOML knows the string. -/
theorem not_read_quoted_delete :
    Json.read (Value.textLiteral "\x7f") = ⟨.text "\x7f", none⟩ ∧
      (∀ version text, ¬ IsBasicString version (Value.textLiteral "\x7f").toList text) ∧
      read ("value = " ++ Value.textLiteral "\x7f") = none ∧
      read ("value = " ++ Template.quoteList ["\x7f"]) = none ∧
      read ("value = " ++ Vector.inlineTable (.ofList [("\x7f", "")])) = none := by
  have notQuotable : ¬ IsQuotable "\x7f" := by decide
  refine ⟨Json.read_textLiteral _, fun version text isString => ?_, ?_, ?_, ?_⟩
  · exact notQuotable ((isBasicString_textLiteral_iff version _ text).mp isString).2
  · rw [read_textLiteral, if_neg notQuotable]
  · rw [read_quoteList, if_neg (by decide)]
  · rw [read_inlineTable, if_neg (by decide)]

end LogForwarder.Toml
