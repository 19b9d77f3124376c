/-
This file says what basic strings of TOML are, apart from their reader: between double quotes, each
character of a text stands for itself or is spelled by an escape. Two versions of the language
differ in their escapes, and the reader follows the later one. A text that is written as a JSON
string is a basic string of this text in both, with one exception: JSON takes the character U+007F
as it is, and TOML does not.
-/

import LogForwarder.Proofs.Json.Literal
import LogForwarder.Toml.Text

namespace LogForwarder.Toml

/-! ### Versions -/

/-- The versions of TOML that differ in the escapes of basic strings. -/
inductive Version
  | v1_0
  | v1_1

namespace Version

/-- The letters of escapes in both versions, with the characters that they spell. -/
def commonLetters : List (Char × Char) :=
  [('b', Char.ofNat 8), ('t', '\t'), ('n', '\n'), ('f', Char.ofNat 12), ('r', '\r'), ('"', '"'),
    ('\\', '\\')]

/-- The letters of escapes by number in both versions, with the count of digits that follow. -/
def commonCodes : List (Char × Nat) := [('u', 4), ('U', 8)]

/-- The letters of escapes, with the characters that they spell. -/
def letters : Version → List (Char × Char)
  | v1_0 => commonLetters
  | v1_1 => ('e', Char.ofNat 27) :: commonLetters

/-- The letters of escapes by number, with the count of digits that follow. -/
def codes : Version → List (Char × Nat)
  | v1_0 => commonCodes
  | v1_1 => ('x', 2) :: commonCodes

end Version

/-! ### Grammar -/

/-- Whether a character between double quotes stands for itself. -/
def StandsForItself (c : Char) : Prop := isPlain c ∧ c ≠ '"' ∧ c ≠ '\\'

instance (c : Char) : Decidable (StandsForItself c) :=
  inferInstanceAs (Decidable (isPlain c ∧ c ≠ '"' ∧ c ≠ '\\'))

/-- Whether characters between double quotes stand for one character. -/
inductive Spells (version : Version) : List Char → Char → Prop
  | plain {c : Char} (itself : StandsForItself c) : Spells version [c] c
  | letter (letter : Char) {c : Char} (known : (letter, c) ∈ version.letters) :
      Spells version ['\\', letter] c
  | code {mark : Char} {digits : List Char} {c : Char}
      (known : (mark, digits.length) ∈ version.codes) (isCode : escapedCode? digits = some c) :
      Spells version ('\\' :: mark :: digits) c

/-- Whether characters between double quotes stand for a text. -/
inductive IsInside (version : Version) : List Char → List Char → Prop
  | nil : IsInside version [] []
  | cons {spelling inner : List Char} {c : Char} {text : List Char}
      (spells : Spells version spelling c) (isInside : IsInside version inner text) :
      IsInside version (spelling ++ inner) (c :: text)

/-- Whether characters are a basic string of a text. -/
def IsBasicString (version : Version) (chars : List Char) (text : String) : Prop :=
  ∃ inner, chars = '"' :: (inner ++ ['"']) ∧ IsInside version inner text.toList

/-- A spelling does not begin with a quote, which would close the string. -/
theorem Spells.exists_cons {version : Version} {spelling : List Char} {c : Char}
    (spells : Spells version spelling c) :
    ∃ first rest, spelling = first :: rest ∧ first ≠ '"' := by
  cases spells with
  | plain itself => exact ⟨c, [], rfl, itself.2.1⟩
  | letter => exact ⟨'\\', _, rfl, by decide⟩
  | code => exact ⟨'\\', _, rfl, by decide⟩

theorem Spells.of_v1_0 (version : Version) {spelling : List Char} {c : Char}
    (spells : Spells .v1_0 spelling c) : Spells version spelling c := by
  cases version with
  | v1_0 => exact spells
  | v1_1 =>
    cases spells with
    | plain itself => exact .plain itself
    | letter _ known => exact .letter _ (List.mem_cons_of_mem _ known)
    | code known isCode => exact .code (List.mem_cons_of_mem _ known) isCode

theorem Spells.to_v1_1 {version : Version} {spelling : List Char} {c : Char}
    (spells : Spells version spelling c) : Spells .v1_1 spelling c := by
  cases version with
  | v1_0 => exact spells.of_v1_0 _
  | v1_1 => exact spells

theorem IsInside.of_v1_0 (version : Version) {inner text : List Char}
    (isInside : IsInside .v1_0 inner text) : IsInside version inner text := by
  induction isInside with
  | nil => exact .nil
  | cons spells _ inductionHypothesis => exact .cons (spells.of_v1_0 version) inductionHypothesis

theorem IsInside.to_v1_1 {version : Version} {inner text : List Char}
    (isInside : IsInside version inner text) : IsInside .v1_1 inner text := by
  induction isInside with
  | nil => exact .nil
  | cons spells _ inductionHypothesis => exact .cons spells.to_v1_1 inductionHypothesis

theorem IsInside.append {version : Version} {inner text others more : List Char}
    (isInside : IsInside version inner text) (alsoInside : IsInside version others more) :
    IsInside version (inner ++ others) (text ++ more) := by
  induction isInside with
  | nil => exact alsoInside
  | cons spells _ inductionHypothesis =>
    rw [List.append_assoc]
    exact .cons spells inductionHypothesis

/-- What stands between the quotes of a basic string is known from the string. -/
theorem isBasicString_iff {version : Version} {inner : List Char} {text : String} :
    IsBasicString version ('"' :: (inner ++ ['"'])) text ↔
      IsInside version inner text.toList := by
  refine ⟨?_, fun isInside => ⟨inner, rfl, isInside⟩⟩
  rintro ⟨other, same, isInside⟩
  rwa [List.append_cancel_right (List.cons.inj same).2]

/-! ### The reader -/

theorem mem_letters_iff (letter c : Char) :
    (letter, c) ∈ Version.v1_1.letters ↔ escapedLetter? letter = some c := by
  simp only [Version.letters, Version.commonLetters, List.mem_cons, Prod.mk.injEq, List.not_mem_nil,
    or_false]
  unfold escapedLetter?
  grind

/-- A character that stands for itself is read as it is. -/
theorem basicText_plain {c : Char} (itself : StandsForItself c) (taken rest : List Char) :
    basicText taken (c :: rest) = basicText (c :: taken) rest := by
  obtain ⟨plain, noQuote, noBackslash⟩ := itself
  have allowed : (isPlain c && c ≠ '\\') = true := by simp [plain, noBackslash]
  rw [basicText, if_pos allowed]
  · exact noQuote
  all_goals intros; contradiction

theorem basicText_letter {letter c : Char} (isLetter : escapedLetter? letter = some c)
    (taken rest : List Char) :
    basicText taken ('\\' :: letter :: rest) = basicText (c :: taken) rest := by
  -- Letters of escapes by number spell no character alone.
  have noCode (other : Char) (unknown : escapedLetter? other = none) : letter ≠ other := by
    rintro rfl
    cases isLetter.symm.trans unknown
  rw [basicText, isLetter, Option.bind_some]
  · exact fun _ _ _ isMark _ => noCode 'x' rfl isMark
  · exact fun _ _ _ _ _ isMark _ => noCode 'u' rfl isMark
  · exact fun _ _ _ _ _ _ _ _ _ isMark _ => noCode 'U' rfl isMark

theorem basicText_code {mark : Char} {digits : List Char} {c : Char}
    (known : (mark, digits.length) ∈ Version.v1_1.codes) (isCode : escapedCode? digits = some c)
    (taken rest : List Char) :
    basicText taken ('\\' :: mark :: (digits ++ rest)) = basicText (c :: taken) rest := by
  simp only [Version.codes, Version.commonCodes, List.mem_cons, Prod.mk.injEq, List.not_mem_nil,
    or_false] at known
  rcases known with ⟨rfl, count⟩ | ⟨rfl, count⟩ | ⟨rfl, count⟩
  · match digits, count with
    | [_, _], _ => simp [basicText, isCode]
  · match digits, count with
    | [_, _, _, _], _ => simp [basicText, isCode]
  · match digits, count with
    | [_, _, _, _, _, _, _, _], _ => simp [basicText, isCode]

/-- A character of a text is read from its spelling. -/
theorem basicText_spelling {version : Version} {spelling : List Char} {c : Char}
    (spells : Spells version spelling c) (taken rest : List Char) :
    basicText taken (spelling ++ rest) = basicText (c :: taken) rest := by
  cases spells.to_v1_1 with
  | plain itself => exact basicText_plain itself _ _
  | letter _ known => exact basicText_letter ((mem_letters_iff _ _).mp known) _ _
  | code known isCode => exact basicText_code known isCode _ _

/-- A text is read from what stands for it, up to the quote that closes the string. -/
theorem basicText_of_isInside {version : Version} {inner text : List Char}
    (isInside : IsInside version inner text) (taken rest : List Char) :
    basicText taken (inner ++ '"' :: rest) = some (taken.reverse ++ text, rest) := by
  induction isInside generalizing taken with
  | nil =>
    rw [List.append_nil]
    rfl
  | cons spells _ inductionHypothesis =>
    rw [List.append_assoc, basicText_spelling spells, inductionHypothesis, List.reverse_cons,
      List.append_assoc]
    rfl

/-- What is read is what stands between the quotes by the grammar. -/
theorem exists_of_basicText {taken chars read rest : List Char}
    (isRead : basicText taken chars = some (read, rest)) :
    ∃ inner text, chars = inner ++ '"' :: rest ∧ read = taken.reverse ++ text ∧
      IsInside .v1_1 inner text := by
  have step {spelling others : List Char} {c : Char} {taken : List Char}
      (spells : Spells .v1_1 spelling c)
      (later : ∃ inner text, others = inner ++ '"' :: rest ∧ read = (c :: taken).reverse ++ text ∧
        IsInside .v1_1 inner text) :
      ∃ inner text, spelling ++ others = inner ++ '"' :: rest ∧ read = taken.reverse ++ text ∧
        IsInside .v1_1 inner text := by
    obtain ⟨inner, text, split, isRead, isInside⟩ := later
    refine ⟨spelling ++ inner, c :: text, ?_, ?_, .cons spells isInside⟩
    · rw [split, List.append_assoc]
    · rw [isRead, List.reverse_cons, List.append_assoc]
      rfl
  fun_induction basicText taken chars with
  | case1 => cases isRead
  | case2 taken others =>
    cases isRead
    exact ⟨[], [], rfl, (List.append_nil _).symm, .nil⟩
  | case3 taken a b others inductionHypothesis =>
    obtain ⟨c, isCode, isRead⟩ := Option.bind_eq_some_iff.mp isRead
    exact step (.code (show ('x', 2) ∈ _ by decide) isCode) (inductionHypothesis c isRead)
  | case4 taken a b c d others inductionHypothesis =>
    obtain ⟨c, isCode, isRead⟩ := Option.bind_eq_some_iff.mp isRead
    exact step (.code (show ('u', 4) ∈ _ by decide) isCode) (inductionHypothesis c isRead)
  | case5 taken a b c d e f g h others inductionHypothesis =>
    obtain ⟨c, isCode, isRead⟩ := Option.bind_eq_some_iff.mp isRead
    exact step (.code (show ('U', 8) ∈ _ by decide) isCode) (inductionHypothesis c isRead)
  | case6 taken letter others _ _ _ inductionHypothesis =>
    obtain ⟨c, isLetter, isRead⟩ := Option.bind_eq_some_iff.mp isRead
    exact step (.letter _ ((mem_letters_iff _ _).mpr isLetter)) (inductionHypothesis c isRead)
  | case7 taken c others noQuote _ _ _ _ allowed inductionHypothesis =>
    rw [Bool.and_eq_true, decide_eq_true_eq] at allowed
    exact step (.plain ⟨allowed.1, noQuote, allowed.2⟩) (inductionHypothesis isRead)
  | case8 => cases isRead

/-- The reader knows the strings of the grammar and no others. -/
theorem basicText_eq_some_iff {chars text rest : List Char} :
    basicText [] chars = some (text, rest) ↔
      ∃ inner, chars = inner ++ '"' :: rest ∧ IsInside .v1_1 inner text := by
  constructor
  · intro isRead
    obtain ⟨inner, _, split, rfl, isInside⟩ := exists_of_basicText isRead
    exact ⟨inner, split, isInside⟩
  · rintro ⟨inner, rfl, isInside⟩
    exact basicText_of_isInside isInside [] rest

/-- What stands between quotes stands for one text. -/
theorem IsInside.unique {version : Version} {inner text other : List Char}
    (isInside : IsInside version inner text) (alsoInside : IsInside version inner other) :
    text = other := by
  have same := (basicText_of_isInside isInside [] []).symm.trans
    (basicText_of_isInside alsoInside [] [])
  exact (Prod.ext_iff.mp (Option.some.inj same)).1

/-! ### Strings of JSON -/

/-- The one character that stands for itself in strings of JSON and has to be spelled in TOML. -/
def delete : Char := Char.ofNat 127

/-- Whether a text can be written as the same string in JSON and in TOML. -/
def IsQuotable (text : String) : Prop := delete ∉ text.toList

instance (text : String) : Decidable (IsQuotable text) :=
  inferInstanceAs (Decidable (delete ∉ text.toList))

theorem escapedCode?_controlDigits : ∀ value < 32,
    escapedCode? ['0', '0', Nat.digitChar (value / 16), Nat.digitChar (value % 16)] =
      some (Char.ofNat value) := by
  decide

/-- What JSON writes for a character spells it in TOML. -/
theorem spells_escapedChar {c : Char} (noDelete : c ≠ delete) :
    Spells .v1_0 (Value.escapedChar c).toList c := by
  unfold Value.escapedChar
  split
  · next isQuote => exact isQuote ▸ .letter '"' (by decide)
  split
  · next isBackslash => exact isBackslash ▸ .letter '\\' (by decide)
  split
  · next isBreak => exact isBreak ▸ .letter 'n' (by decide)
  split
  · next isReturn => exact isReturn ▸ .letter 'r' (by decide)
  split
  · next isTab => exact isTab ▸ .letter 't' (by decide)
  split
  · next code =>
    have isBackspace : c = Char.ofNat 8 := by rw [← code, Char.ofNat_toNat]
    exact isBackspace ▸ .letter 'b' (by decide)
  split
  · next code =>
    have isFeed : c = Char.ofNat 12 := by rw [← code, Char.ofNat_toNat]
    exact isFeed ▸ .letter 'f' (by decide)
  split
  · next small =>
    rw [Json.toList_controlEscape _ small]
    have isCode := escapedCode?_controlDigits _ small
    rw [Char.ofNat_toNat] at isCode
    exact .code (show ('u', 4) ∈ _ by decide) isCode
  · next noQuote noBackslash _ _ _ _ _ visible =>
    have notDelete : c.toNat ≠ 127 := by
      rintro code
      exact noDelete (by rw [delete, ← code, Char.ofNat_toNat])
    have plain : isPlain c := by simp [isPlain, Nat.le_of_not_lt visible, notDelete]
    rw [String.toList_singleton]
    exact .plain ⟨plain, noQuote, noBackslash⟩

theorem isInside_flatMap_escapedChar {chars : List Char} (noDelete : delete ∉ chars) :
    IsInside .v1_0 (chars.flatMap fun c => (Value.escapedChar c).toList) chars := by
  induction chars with
  | nil => exact .nil
  | cons c others inductionHypothesis =>
    rw [List.mem_cons, not_or] at noDelete
    exact .cons (spells_escapedChar (Ne.symm noDelete.1)) (inductionHypothesis noDelete.2)

/-- A text that can be quoted stands between the quotes of its JSON string in TOML as well. -/
theorem isInside_literalBody (version : Version) {text : String} (quotable : IsQuotable text) :
    IsInside version (Json.literalBody text) text.toList :=
  (isInside_flatMap_escapedChar quotable).of_v1_0 version

theorem basicText_delete (taken rest : List Char) : basicText taken (delete :: rest) = none := by
  rw [basicText]
  · rfl
  all_goals intros; contradiction

theorem basicText_flatMap_escapedChar {chars : List Char} (holds : delete ∈ chars)
    (taken rest : List Char) :
    basicText taken ((chars.flatMap fun c => (Value.escapedChar c).toList) ++ rest) = none := by
  induction chars generalizing taken with
  | nil => cases holds
  | cons c others inductionHypothesis =>
    rw [List.flatMap_cons, List.append_assoc]
    by_cases isDelete : c = delete
    · subst isDelete
      exact basicText_delete taken _
    · rw [basicText_spelling (spells_escapedChar isDelete)]
      exact inductionHypothesis ((List.mem_cons.mp holds).resolve_left (Ne.symm isDelete)) _

/-- A quote in a text is not written as a quote alone. -/
theorem head?_literalBody_ne (text : String) : (Json.literalBody text).head? ≠ some '"' := by
  unfold Json.literalBody
  cases text.toList with
  | nil => exact nofun
  | cons c others =>
    rw [List.flatMap_cons]
    by_cases isDelete : c = delete
    · subst isDelete
      exact fun absurdity => absurd (Option.some.inj absurdity) (by decide)
    · obtain ⟨first, rest, spelled, noQuote⟩ := (spells_escapedChar isDelete).exists_cons
      rw [spelled]
      exact fun absurdity => noQuote (Option.some.inj absurdity)

/-- What is read between the quotes of a JSON string. -/
theorem basicText_literalBody (text : String) (rest : List Char) :
    basicText [] (Json.literalBody text ++ '"' :: rest) =
      if IsQuotable text then some (text.toList, rest) else none := by
  split
  · next quotable => exact basicText_of_isInside (isInside_literalBody .v1_0 quotable) [] rest
  · next holds => exact basicText_flatMap_escapedChar (not_not.mp holds) [] _

/-- The JSON string of a text is a basic string of this text, if the text can be quoted at all. -/
theorem isBasicString_textLiteral_iff (version : Version) (text other : String) :
    IsBasicString version (Value.textLiteral text).toList other ↔
      other = text ∧ IsQuotable text := by
  rw [Json.toList_textLiteral, isBasicString_iff]
  refine ⟨fun isInside => ?_, ?_⟩
  · by_cases quotable : IsQuotable text
    · have same := isInside.unique (isInside_literalBody version quotable)
      exact ⟨String.toList_inj.mp same, quotable⟩
    · have isRead := basicText_of_isInside isInside [] []
      rw [basicText_literalBody, if_neg quotable] at isRead
      cases isRead
  · rintro ⟨rfl, quotable⟩
    exact isInside_literalBody version quotable

/-! ### Spellings and their lengths -/

theorem Spells.length_eq {version : Version} {spelling : List Char} {c : Char}
    (spells : Spells version spelling c) :
    spelling = [c] ∧ StandsForItself c ∨ 2 ≤ spelling.length := by
  cases spells with
  | plain itself => exact .inl ⟨rfl, itself⟩
  | letter => exact .inr (Nat.le_refl 2)
  | code => exact .inr (by simp)

/-- How many characters have to be escaped. -/
def escapedCount (chars : List Char) : Nat := chars.countP fun c => !decide (StandsForItself c)

theorem escapedCount_append (first second : List Char) :
    escapedCount (first ++ second) = escapedCount first + escapedCount second :=
  List.countP_append

theorem escapedCount_eq_zero_iff (chars : List Char) :
    escapedCount chars = 0 ↔ ∀ c ∈ chars, StandsForItself c := by
  simp [escapedCount, List.countP_eq_zero]

/-- What stands for a text is at least as long, and longer by every character that is escaped. -/
theorem IsInside.length_le {version : Version} {inner text : List Char}
    (isInside : IsInside version inner text) :
    text.length + escapedCount text ≤ inner.length := by
  induction isInside with
  | nil => exact Nat.zero_le _
  | @cons spelling inner c text spells _ inductionHypothesis =>
    rw [escapedCount] at inductionHypothesis ⊢
    rw [List.length_cons, List.countP_cons, List.length_append]
    rcases spells.length_eq with ⟨rfl, itself⟩ | long
    · simp only [itself, decide_true, Bool.not_true, Bool.false_eq_true, if_false,
        List.length_singleton]
      omega
    · have atMostOne : (if !decide (StandsForItself c) then 1 else 0) ≤ 1 := by split <;> omega
      omega

theorem isInside_of_standForThemselves (version : Version) {chars : List Char}
    (themselves : ∀ c ∈ chars, StandsForItself c) : IsInside version chars chars := by
  induction chars with
  | nil => exact .nil
  | cons c others inductionHypothesis =>
    obtain ⟨here, later⟩ := List.forall_mem_cons.mp themselves
    exact .cons (.plain here) (inductionHypothesis later)

end LogForwarder.Toml
