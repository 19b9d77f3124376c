/-
This file follows the reader of TOML documents through one line: a header with bare keys opens its
table, and a bare key with a value puts the value into the table that is open. Strings of JSON and
lists of them are read as what they are written for, if they can be read at all.
-/

import LogForwarder.Proofs.Toml.BasicString
import LogForwarder.Template.Function
import LogForwarder.Toml.Reader
import Mathlib.Data.List.TakeWhile

namespace LogForwarder.Toml

/-! ### Keys -/

/--
What is said of all characters of a list is decided along the list. It is also a statement on all
characters that there are, and to try these would take too long.
-/
instance decidableForallMemChars (chars : List Char) (holds : Char → Prop) [DecidablePred holds] :
    Decidable (∀ c ∈ chars, holds c) :=
  List.decidableBAll holds chars

/-- Whether a text can be a segment of a key without quotes. -/
def IsBare (text : String) : Prop := text ≠ "" ∧ ∀ c ∈ text.toList, isBareKey c

/-- Whether a path can be written as bare segments with dots between them. -/
structure IsBarePath (path : List String) : Prop where
  nonempty : path ≠ []
  bare : ∀ segment ∈ path, IsBare segment

/-- A path as a key. -/
def writtenKey : List String → List Char
  | [] => []
  | segment :: rest => segment.toList ++ rest.flatMap fun other => '.' :: other.toList

/-- Whether characters that follow a key end it. -/
structure EndsKey (rest : List Char) : Prop where
  notBare : ∀ c ∈ rest.head?, isBareKey c = false
  noDot : (rest.dropWhile isSpace).head? ≠ some '.'

theorem ne_of_isBareKey {c : Char} (bare : isBareKey c) (other : Char)
    (notBare : isBareKey other = false) : c ≠ other := by
  rintro rfl
  exact Bool.false_ne_true (notBare.symm.trans bare)

theorem isSpace_of_isBareKey {c : Char} (bare : isBareKey c) : isSpace c = false := by
  simp [isSpace, ne_of_isBareKey bare ' ' rfl, ne_of_isBareKey bare '\t' rfl]

theorem IsBare.exists_cons {text : String} (bare : IsBare text) :
    ∃ c rest, text.toList = c :: rest ∧ isBareKey c := by
  cases chars : text.toList with
  | nil => exact absurd (String.toList_eq_nil_iff.mp chars) bare.1
  | cons c rest => exact ⟨c, rest, rfl, bare.2 c (chars ▸ List.mem_cons_self)⟩

theorem exists_writtenKey {path : List String} (bare : IsBarePath path) :
    ∃ c rest, writtenKey path = c :: rest ∧ isBareKey c := by
  cases path with
  | nil => exact absurd rfl bare.nonempty
  | cons segment others =>
    obtain ⟨c, rest, chars, isBare⟩ := (bare.bare segment List.mem_cons_self).exists_cons
    exact ⟨c, rest ++ _, by rw [writtenKey, chars]; rfl, isBare⟩

theorem readSegment_bare {segment : String} (bare : IsBare segment) {rest : List Char}
    (ends : ∀ c ∈ rest.head?, isBareKey c = false) :
    readSegment (segment.toList ++ rest) = some (segment, rest) := by
  have taken : (segment.toList ++ rest).takeWhile isBareKey = segment.toList := by
    rw [List.takeWhile_append_of_pos bare.2]
    cases rest with
    | nil => exact List.append_nil _
    | cons c others => rw [List.takeWhile_cons_of_neg (by simp [ends c rfl]), List.append_nil]
  have dropped : (segment.toList ++ rest).dropWhile isBareKey = rest := by
    rw [List.dropWhile_append_of_pos bare.2]
    cases rest with
    | nil => rfl
    | cons c others => exact List.dropWhile_cons_of_neg (by simp [ends c rfl])
  obtain ⟨c, others, chars, isBare⟩ := bare.exists_cons
  have nonempty : segment.toList.isEmpty = false := by rw [chars]; rfl
  unfold readSegment
  split
  · next found =>
    rw [chars] at found
    exact absurd (List.cons.inj found).1 (ne_of_isBareKey isBare _ rfl)
  · next found =>
    rw [chars] at found
    exact absurd (List.cons.inj found).1 (ne_of_isBareKey isBare _ rfl)
  · simp only [taken, dropped, nonempty, Bool.false_eq_true, if_false, String.ofList_toList]

theorem dropWhile_isSpace_writtenKey {path : List String} (bare : IsBarePath path)
    (rest : List Char) :
    (writtenKey path ++ rest).dropWhile isSpace = writtenKey path ++ rest := by
  obtain ⟨c, others, chars, isBare⟩ := exists_writtenKey bare
  rw [chars]
  exact List.dropWhile_cons_of_neg (by simp [isSpace_of_isBareKey isBare])

/-- A key is read up to its end, and spaces behind it are passed over. -/
theorem readKey_written {path : List String} (bare : IsBarePath path) {limit : Nat}
    (enough : path.length ≤ limit) {rest : List Char} (ends : EndsKey rest) :
    readKey limit (writtenKey path ++ rest) = some (path, rest.dropWhile isSpace) := by
  induction path generalizing limit with
  | nil => exact absurd rfl bare.nonempty
  | cons segment others inductionHypothesis =>
    have segmentBare := bare.bare segment List.mem_cons_self
    cases limit with
    | zero => cases enough
    | succ limit =>
      rw [readKey, dropWhile_isSpace_writtenKey bare]
      cases others with
      | nil =>
        rw [writtenKey, List.flatMap_nil, List.append_nil,
          readSegment_bare segmentBare ends.notBare]
        simp only [Option.bind_eq_bind, Option.bind_some]
        split
        · next found => exact absurd (by rw [found]; rfl) ends.noDot
        · rfl
      | cons next later =>
        have restBare : IsBarePath (next :: later) :=
          ⟨List.cons_ne_nil _ _,
            fun other member => bare.bare other (List.mem_cons_of_mem _ member)⟩
        have split : writtenKey (segment :: next :: later) ++ rest =
            segment.toList ++ ('.' :: (writtenKey (next :: later) ++ rest)) := by
          simp [writtenKey]
        have dot : ∀ c ∈ ('.' :: (writtenKey (next :: later) ++ rest)).head?,
            isBareKey c = false := by
          rintro _ ⟨⟩
          rfl
        rw [split, readSegment_bare segmentBare dot]
        simp only [Option.bind_eq_bind, Option.bind_some]
        rw [List.dropWhile_cons_of_neg (by decide)]
        simp only [inductionHypothesis restBare (Nat.le_of_succ_le_succ enough), Option.bind_some]
        rfl

/-! ### Lines -/

/-- A line that begins with a bare key is neither blank nor a comment. -/
theorem skipLines_writtenKey {path : List String} (bare : IsBarePath path) (rest : List Char) :
    skipLines false (writtenKey path ++ rest) = some (writtenKey path ++ rest) := by
  obtain ⟨c, others, chars, isBare⟩ := exists_writtenKey bare
  rw [chars, List.cons_append, skipLines]
  · simp [isSpace_of_isBareKey isBare, ne_of_isBareKey isBare '#' rfl]
  · exact ne_of_isBareKey isBare _ rfl
  · exact fun _ isReturn _ => ne_of_isBareKey isBare _ rfl isReturn

theorem readLines_header {path : List String} (bare : IsBarePath path) {limit : Nat}
    (enough : path.length ≤ limit) (progress : Progress) (rest : List Char) :
    readLines (limit + 1) progress ('[' :: (writtenKey path ++ ']' :: rest)) =
      (endLine false rest).bind fun rest => (openTable path progress.entries).bind fun entries =>
        readLines limit ⟨entries, path⟩ rest := by
  have ends : EndsKey (']' :: rest) := ⟨by rintro _ ⟨⟩; rfl, by simp [isSpace]⟩
  have isRead := readKey_written bare enough ends
  have noBlank : skipLines false ('[' :: (writtenKey path ++ ']' :: rest)) =
      some ('[' :: (writtenKey path ++ ']' :: rest)) := by
    simp [skipLines, isSpace]
  rw [readLines, noBlank]
  simp only [Option.bind_eq_bind, Option.bind_some]
  split
  · next absurdity => cases absurdity
  · next others double =>
    obtain ⟨c, others, chars, isBare⟩ := exists_writtenKey bare
    rw [chars] at double
    exact absurd (List.cons.inj (List.cons.inj double).2).1 (ne_of_isBareKey isBare _ rfl)
  · next others single =>
    cases single
    rw [isRead]
    simp [closeHeader, isSpace]
  · next noHeader => exact absurd rfl (noHeader _)

theorem readLines_value {path : List String} (bare : IsBarePath path) {limit : Nat}
    (enough : path.length ≤ limit) (progress : Progress) {chars : List Char}
    (begins : ∀ c ∈ chars.head?, isSpace c = false) :
    readLines (limit + 1) progress (writtenKey path ++ ' ' :: '=' :: ' ' :: chars) =
      (readValue limit chars).bind fun (value, rest) => (endLine false rest).bind fun rest =>
        (putIn progress.header path value progress.entries).bind fun entries =>
          readLines limit { progress with entries } rest := by
  have ends : EndsKey (' ' :: '=' :: ' ' :: chars) := ⟨by rintro _ ⟨⟩; rfl, by simp [isSpace]⟩
  have isRead := readKey_written bare enough ends
  have noMoreSpace : (' ' :: chars).dropWhile isSpace = chars := by
    rw [List.dropWhile_cons_of_pos (by decide)]
    cases chars with
    | nil => rfl
    | cons c rest => exact List.dropWhile_cons_of_neg (by simp [begins c rfl])
  obtain ⟨first, others, written, isBare⟩ := exists_writtenKey bare
  rw [readLines, skipLines_writtenKey bare]
  simp only [Option.bind_eq_bind, Option.bind_some]
  split
  · next absurdity =>
    rw [written] at absurdity
    cases absurdity
  · next header =>
    rw [written] at header
    exact absurd (List.cons.inj header).1 (ne_of_isBareKey isBare _ rfl)
  · next header =>
    rw [written] at header
    exact absurd (List.cons.inj header).1 (ne_of_isBareKey isBare _ rfl)
  · rw [isRead]
    simp [isSpace, takeChar?, noMoreSpace]

/-! ### Strings -/

/-- A text as a JSON string. -/
def jsonString (text : String) : List Char := (Value.textLiteral text).toList

theorem jsonString_append (text : String) (rest : List Char) :
    jsonString text ++ rest = '"' :: (Json.literalBody text ++ '"' :: rest) := by
  rw [jsonString, Json.toList_textLiteral, List.cons_append, List.append_assoc]
  rfl

theorem readText_jsonString (text : String) {rest : List Char} (apart : rest.head? ≠ some '"') :
    readText (jsonString text ++ rest) = if IsQuotable text then some (text, rest) else none := by
  rw [jsonString_append, readText, basicText_literalBody]
  · split
    · show some (String.ofList text.toList, rest) = _
      rw [String.ofList_toList]
    · rfl
  · intro others triple
    cases body : Json.literalBody text with
    | nil =>
      rw [body] at triple
      exact apart (by rw [(List.cons.inj triple).2]; rfl)
    | cons c later =>
      have first := head?_literalBody_ne text
      rw [body] at first triple
      exact first (congrArg some (List.cons.inj triple).1)

theorem readValue_jsonString (text : String) {limit : Nat} (some : 0 < limit) {rest : List Char}
    (apart : rest.head? ≠ .some '"') :
    readValue limit (jsonString text ++ rest) =
      if IsQuotable text then .some (.text text, rest) else none := by
  cases limit with
  | zero => cases some
  | succ limit =>
    have isRead := readText_jsonString text apart
    rw [jsonString_append] at isRead ⊢
    rw [readValue]
    · rw [if_pos (by decide), isRead]
      split <;> rfl
    · exact nofun

/-! ### Strings without escapes -/

/-- Whether a character stands for itself between double quotes. -/
def isUnescaped (c : Char) : Bool := 32 ≤ c.toNat && c.toNat ≠ 127 && c ≠ '"' && c ≠ '\\'

/-- Whether a text can stand between double quotes as it is. -/
structure IsUnescaped (text : String) : Prop where
  nonempty : text ≠ ""
  unescaped : ∀ c ∈ text.toList, isUnescaped c

/-- A text between double quotes. -/
def quoted (text : String) : List Char := '"' :: (text.toList ++ ['"'])

theorem IsUnescaped.isQuotable {text : String} (unescaped : IsUnescaped text) : IsQuotable text :=
  fun holds => absurd (unescaped.unescaped delete holds) (by decide)

/-- Without escapes, strings of JSON are strings of TOML. -/
theorem jsonString_of_isUnescaped {text : String} (unescaped : IsUnescaped text) :
    jsonString text = quoted text := by
  have unchanged : text.toList.flatMap (fun c => (Value.escapedChar c).toList) = text.toList := by
    refine (List.flatMap_congr fun c member => ?_).trans (List.flatMap_singleton' _)
    have here := unescaped.unescaped c member
    simp only [isUnescaped, Bool.and_eq_true, decide_eq_true_eq] at here
    obtain ⟨⟨⟨visible, _⟩, noQuote⟩, noBackslash⟩ := here
    exact Json.toList_escapedChar visible noQuote noBackslash
  rw [jsonString, Json.toList_textLiteral, Json.literalBody, unchanged]
  rfl

theorem readValue_quoted {text : String} (unescaped : IsUnescaped text) {limit : Nat}
    (some : 0 < limit) {rest : List Char} (apart : rest.head? ≠ .some '"') :
    readValue limit (quoted text ++ rest) = .some (.text text, rest) := by
  rw [← jsonString_of_isUnescaped unescaped, readValue_jsonString text some apart,
    if_pos unescaped.isQuotable]

/-! ### Lists of strings -/

theorem readItems_space (limit : Nat) (items : List Document) (chars : List Char) :
    readItems limit items (' ' :: chars) = readItems limit items chars := by
  cases limit with
  | zero => rfl
  | succ limit => simp [readItems, skipLines, isSpace]

theorem readItems_end (limit : Nat) (items : List Document) (rest : List Char) :
    readItems (limit + 1) items (']' :: rest) = some (.list items.reverse, rest) := by
  simp [readItems, skipLines, isSpace]

/-- One string of a list is read, and a comma or the end of the list must follow. -/
theorem readItems_item (text : String) {limit : Nat} (some : 0 < limit) (items : List Document)
    (rest : List Char) :
    readItems (limit + 1) items (jsonString text ++ ',' :: rest) =
        (if IsQuotable text then readItems limit (.text text :: items) rest else none) ∧
      readItems (limit + 1) items (jsonString text ++ ']' :: rest) =
        if IsQuotable text then .some (.list (.text text :: items).reverse, rest) else none := by
  have comma := readValue_jsonString text some (show (',' :: rest).head? ≠ .some '"' from nofun)
  have bracket := readValue_jsonString text some (show (']' :: rest).head? ≠ .some '"' from nofun)
  simp only [jsonString_append] at comma bracket ⊢
  constructor <;> split <;> simp_all [readItems, skipLines, isSpace]

/-- Strings between commas are read as the items of a list up to its end. -/
theorem readItems_jsonStrings {texts : List String} {limit : Nat} (enough : texts.length < limit)
    (items : List Document) (rest : List Char) :
    readItems limit items ([',', ' '].intercalate (texts.map jsonString) ++ ']' :: rest) =
      if ∀ text ∈ texts, IsQuotable text then
        some (.list (items.reverse ++ texts.map .text), rest)
      else none := by
  induction texts generalizing limit items with
  | nil =>
    cases limit with
    | zero => cases enough
    | succ limit =>
      rw [List.map_nil, List.map_nil, List.append_nil, if_pos nofun]
      exact readItems_end limit items rest
  | cons text others inductionHypothesis =>
    cases limit with
    | zero => cases enough
    | succ limit =>
      have fewer : others.length < limit := Nat.lt_of_succ_lt_succ enough
      have item := readItems_item text (Nat.zero_lt_of_lt fewer) items
      cases others with
      | nil =>
        rw [List.map_singleton, List.intercalate_singleton, (item rest).2, List.reverse_cons]
        simp only [List.forall_mem_singleton]
        rfl
      | cons next later =>
        have others := inductionHypothesis fewer (.text text :: items)
        rw [List.map_cons, List.map_cons, List.intercalate_cons_cons, ← List.map_cons,
          List.append_assoc, List.append_assoc, List.cons_append, List.cons_append,
          List.nil_append, (item _).1, readItems_space, others, List.reverse_cons,
          List.append_assoc, ← ite_and]
        simp only [List.forall_mem_cons]
        rfl

/-- A list of strings, as it is written. -/
theorem toList_quoteList (texts : List String) :
    (Template.quoteList texts).toList =
      '[' :: ([',', ' '].intercalate (texts.map jsonString) ++ [']']) := by
  unfold Template.quoteList
  rw [String.toList_append, String.toList_append, String.toList_intercalate, List.map_map]
  rfl

theorem readValue_quoteList {texts : List String} {limit : Nat} (enough : texts.length + 1 < limit)
    (rest : List Char) :
    readValue limit ((Template.quoteList texts).toList ++ rest) =
      if ∀ text ∈ texts, IsQuotable text then some (.list (texts.map .text), rest) else none := by
  cases limit with
  | zero => cases enough
  | succ limit =>
    rw [toList_quoteList, List.cons_append, List.append_assoc, readValue]
    exact readItems_jsonStrings (Nat.lt_of_succ_lt_succ enough) [] rest

/-- What is put between items does not make them fewer. -/
theorem length_le_intercalate {items : List (List Char)} (nonempty : ∀ item ∈ items, item ≠ [])
    (between : List Char) : items.length ≤ (between.intercalate items).length := by
  induction items with
  | nil => exact Nat.zero_le _
  | cons item others inductionHypothesis =>
    obtain ⟨here, later⟩ := List.forall_mem_cons.mp nonempty
    have long := List.length_pos_of_ne_nil here
    cases others with
    | nil =>
      rw [List.intercalate_singleton]
      exact long
    | cons next more =>
      have shorter := inductionHypothesis later
      rw [List.intercalate_cons_cons, List.length_append, List.length_append, List.length_cons]
      omega

theorem length_le_quoteList (texts : List String) :
    texts.length ≤ (Template.quoteList texts).toList.length := by
  have nonempty : ∀ item ∈ texts.map jsonString, item ≠ [] := by
    refine List.forall_mem_map.mpr fun text _ => ?_
    rw [jsonString, Json.toList_textLiteral]
    exact List.cons_ne_nil _ _
  have within := length_le_intercalate nonempty [',', ' ']
  rw [List.length_map] at within
  rw [toList_quoteList, List.length_cons, List.length_append]
  omega

end LogForwarder.Toml
