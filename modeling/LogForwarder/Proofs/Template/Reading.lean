/-
This file proves that a template is read from the text that it is written as. The braces that close
an action are looked for past strings, so no lexeme hides them and none is mistaken for them; blanks
stand around the text of an action and not at its ends, so that trimming takes away just these; and
the name that an expression may begin with is no keyword.
-/

import LogForwarder.Proofs.Template.Lexing
import LogForwarder.Proofs.Template.Nesting

namespace LogForwarder.Template

/-! ### Braces behind an action -/

/-- Whether closing braces are found behind some characters where they are found without them. -/
def Passes (inText : Bool) (chars : List Char) (behind : Bool) : Prop :=
  ∀ rest before after : List Char, splitClosing? behind rest = some (before, after) →
    splitClosing? inText (chars ++ rest) = some (chars ++ before, after)

theorem passes_nil (inText : Bool) : Passes inText [] inText := fun _ _ _ found => found

theorem Passes.append {inText middle behind : Bool} {first second : List Char}
    (passes : Passes inText first middle) (others : Passes middle second behind) :
    Passes inText (first ++ second) behind := by
  intro rest before after found
  rw [List.append_assoc, List.append_assoc]
  exact passes _ _ _ (others _ _ _ found)

/-- A quote begins a string or ends one. -/
theorem passes_quote (inText : Bool) : Passes inText ['"'] (!inText) := by
  intro rest before after found
  rw [List.singleton_append, splitClosing?.eq_3, found]
  rfl

theorem passes_plain {c : Char} (notQuote : c ≠ '"') (notBrace : c ≠ '}') :
    Passes false [c] false := by
  intro rest before after found
  rw [List.singleton_append, splitClosing?, found]
  · rfl
  · exact notQuote
  · exact fun _ _ absurdity => nomatch absurdity
  · exact fun _ _ isBrace => absurd isBrace notBrace

theorem passes_plains {chars : List Char} (plain : ∀ c ∈ chars, c ≠ '"' ∧ c ≠ '}') :
    Passes false chars false := by
  induction chars with
  | nil => exact passes_nil false
  | cons c rest inductionHypothesis =>
    obtain ⟨⟨notQuote, notBrace⟩, restPlain⟩ := List.forall_mem_cons.mp plain
    exact (passes_plain notQuote notBrace).append (inductionHypothesis restPlain)

/-- No escaped character ends a string. -/
theorem passes_writtenChar (c : Char) : Passes true (writtenChar c) true := by
  have escape : ∀ other, Passes true ['\\', other] true := by
    intro other rest before after found
    rw [List.cons_append, List.singleton_append, splitClosing?, found]
    rfl
  unfold writtenChar
  split
  · exact escape _
  split
  · exact escape _
  split
  · exact escape _
  split
  · exact escape _
  · next notQuote notBackslash _ _ =>
    intro rest before after found
    rw [List.singleton_append, splitClosing?, found]
    · rfl
    · exact notQuote
    · exact fun _ _ _ isBackslash => absurd isBackslash notBackslash
    · exact fun _ absurdity => nomatch absurdity

theorem passes_text (value : String) : Passes false (Operand.text value).written false := by
  have inside : ∀ chars : List Char, Passes true (chars.flatMap writtenChar) true := by
    intro chars
    induction chars with
    | nil => exact passes_nil true
    | cons c rest inductionHypothesis => exact (passes_writtenChar c).append inductionHypothesis
  exact (passes_quote false).append ((inside value.toList).append (passes_quote true))

/-! ### Characters of lexemes -/

/-- Whether a character can stand in an operand that is a lexeme and no string. -/
def isWordChar (c : Char) : Bool := isNameChar c || c = '.' || c = '$' || c = '-'

/-- Whether some characters are those of a word. -/
structure IsWord (chars : List Char) : Prop where
  nonempty : chars ≠ []
  all : ∀ c ∈ chars, isWordChar c

theorem isWordChar_of_isNameChar {c : Char} (isNameChar : isNameChar c) : isWordChar c := by
  unfold isWordChar
  rw [isNameChar]
  rfl

theorem isWord_name {name : String} (isName : isName name) : IsWord name.toList := by
  obtain ⟨c, rest, chars, begins, areNameChars⟩ := exists_of_isName isName
  rw [chars]
  refine ⟨List.cons_ne_nil c rest, List.forall_mem_cons.mpr ⟨?_, fun other member => ?_⟩⟩
  · exact isWordChar_of_isNameChar (isNameChar_of_beginsName begins)
  · exact isWordChar_of_isNameChar (areNameChars other member)

theorem isWordChar_of_mem_steps {path : List String} (areNames : ∀ step ∈ path, isName step)
    {c : Char} (member : c ∈ writtenSteps path) : isWordChar c := by
  unfold writtenSteps at member
  obtain ⟨step, isStep, inStep⟩ := List.mem_flatMap.mp member
  rcases List.mem_cons.mp inStep with rfl | inName
  · rfl
  · exact (isWord_name (areNames step isStep)).all c inName

theorem isWordChar_of_mem_integer {value : Int} {c : Char} (member : c ∈ writtenInteger value) :
    isWordChar c := by
  have digit (inDigits : c ∈ Nat.toDigits 10 value.natAbs) : isWordChar c := by
    refine isWordChar_of_isNameChar ?_
    unfold isNameChar Char.isAlphanum
    rw [Text.isDigit_of_mem_toDigits inDigits, Bool.or_true, Bool.true_or]
  unfold writtenInteger at member
  split at member
  · rcases List.mem_cons.mp member with rfl | inDigits
    · rfl
    · exact digit inDigits
  · exact digit member

/-- An operand that is a lexeme is a string, or a word. -/
theorem isWord_of_isAtom {operand : Operand} (isAtom : operand.isAtom) :
    (∃ value, operand = .text value) ∨ IsWord operand.written := by
  cases operand with
  | dot path =>
    cases path with
    | nil => exact .inr ⟨List.cons_ne_nil _ _, List.forall_mem_singleton.mpr rfl⟩
    | cons step rest =>
      refine .inr ⟨List.cons_ne_nil _ _, fun c => ?_⟩
      exact isWordChar_of_mem_steps (List.all_eq_true.mp isAtom)
  | root path =>
    refine .inr ⟨List.cons_ne_nil _ _, List.forall_mem_cons.mpr ⟨rfl, fun c => ?_⟩⟩
    exact isWordChar_of_mem_steps (List.all_eq_true.mp isAtom)
  | text value => exact .inl ⟨value, rfl⟩
  | integer value =>
    refine .inr ⟨?_, fun c => isWordChar_of_mem_integer⟩
    show writtenInteger value ≠ []
    unfold writtenInteger
    split
    · exact List.cons_ne_nil _ _
    · exact Text.toDigits_ne_nil _
  | boolean value =>
    cases value with
    | true => exact .inr (isWord_name (by decide : isName "true"))
    | false => exact .inr (isWord_name (by decide : isName "false"))
  | function value => exact .inr (isWord_name ((Bool.and_eq_true _ _).mp isAtom).1)
  | group commands => cases isAtom

theorem toNat_of_isWordChar {c : Char} (isWordChar : isWordChar c) :
    32 < c.toNat ∧ c.toNat < 127 := by
  unfold Template.isWordChar isNameChar Char.isAlphanum Char.isAlpha Char.isUpper Char.isLower
    Char.isDigit at isWordChar
  simp only [Bool.or_eq_true, Bool.and_eq_true, decide_eq_true_eq, ge_iff_le,
    UInt32.le_iff_toNat_le] at isWordChar
  rcases isWordChar with ((((letter | digit) | rfl) | rfl) | rfl) | rfl
  · change (65 ≤ c.toNat ∧ c.toNat ≤ 90) ∨ 97 ≤ c.toNat ∧ c.toNat ≤ 122 at letter
    omega
  · change 48 ≤ c.toNat ∧ c.toNat ≤ 57 at digit
    omega
  all_goals decide

theorem isBlank_of_isWordChar {c : Char} (isWordChar : isWordChar c) : Text.isBlank c = false := by
  obtain ⟨above, below⟩ := toNat_of_isWordChar isWordChar
  simp only [Text.isBlank, Bool.or_eq_false_iff, Bool.and_eq_false_iff, decide_eq_false_iff_not,
    beq_eq_false_iff_ne]
  omega

/-! ### Texts of actions -/

/--
Whether some characters can be enclosed in braces and blanks: the braces are found behind them, they
have no blanks at their ends, and they are no comment.
-/
structure IsEnclosable (chars : List Char) : Prop where
  passes : Passes false chars false
  begins : ∃ c rest, chars = c :: rest ∧ Text.isBlank c = false ∧ c ≠ '/'
  ends : ∃ before c, chars = before ++ [c] ∧ Text.isBlank c = false

theorem isEnclosable_singleton {c : Char} (plain : c ≠ '"' ∧ c ≠ '}')
    (notBlank : Text.isBlank c = false) (notSlash : c ≠ '/') : IsEnclosable [c] :=
  ⟨passes_plain plain.1 plain.2, ⟨c, [], rfl, notBlank, notSlash⟩, ⟨[], c, rfl, notBlank⟩⟩

/-- Only the ends of a text matter, as long as braces are found behind all of it. -/
theorem isEnclosable_of_ends {first middle last : List Char}
    (passes : Passes false (first ++ (middle ++ last)) false)
    (begins : ∃ c rest, first = c :: rest ∧ Text.isBlank c = false ∧ c ≠ '/')
    (ends : ∃ before c, last = before ++ [c] ∧ Text.isBlank c = false) :
    IsEnclosable (first ++ (middle ++ last)) := by
  obtain ⟨c, rest, rfl, notBlank, notSlash⟩ := begins
  obtain ⟨before, other, rfl, otherNotBlank⟩ := ends
  refine ⟨passes, ⟨c, _, rfl, notBlank, notSlash⟩, ⟨c :: rest ++ (middle ++ before), other, ?_,
    otherNotBlank⟩⟩
  simp only [List.append_assoc, List.cons_append]

theorem IsEnclosable.join {first middle last : List Char} (isFirst : IsEnclosable first)
    (passes : Passes false middle false) (isLast : IsEnclosable last) :
    IsEnclosable (first ++ (middle ++ last)) :=
  isEnclosable_of_ends (isFirst.passes.append (passes.append isLast.passes)) isFirst.begins
    isLast.ends

theorem isEnclosable_word {chars : List Char} (isWord : IsWord chars) : IsEnclosable chars := by
  refine ⟨passes_plains fun c member => ⟨?_, ?_⟩, ?_, ?_⟩
  · rintro rfl
    cases isWord.all _ member
  · rintro rfl
    cases isWord.all _ member
  · obtain ⟨c, rest, rfl⟩ := List.exists_cons_of_ne_nil isWord.nonempty
    have isWordChar := isWord.all c List.mem_cons_self
    refine ⟨c, rest, rfl, isBlank_of_isWordChar isWordChar, ?_⟩
    rintro rfl
    cases isWordChar
  · have isLast := isWord.all _ (List.getLast_mem isWord.nonempty)
    exact ⟨chars.dropLast, chars.getLast isWord.nonempty,
      (List.dropLast_concat_getLast isWord.nonempty).symm, isBlank_of_isWordChar isLast⟩

theorem isEnclosable_text (value : String) : IsEnclosable (Operand.text value).written := by
  show IsEnclosable (['"'] ++ (value.toList.flatMap writtenChar ++ ['"']))
  exact isEnclosable_of_ends (passes_text value) ⟨'"', [], rfl, by decide, by decide⟩
    ⟨[], '"', rfl, by decide⟩

theorem isEnclosable_lexeme {lexeme : Lexeme} (writable : lexeme.isWritable) :
    IsEnclosable lexeme.written := by
  cases lexeme with
  | opening | closing | bar =>
    exact isEnclosable_singleton (by decide) (by decide) (by decide)
  | operand value =>
    rcases isWord_of_isAtom writable with ⟨text, rfl⟩ | isWord
    · exact isEnclosable_text text
    · exact isEnclosable_word isWord

theorem passes_separator (lexeme next : Lexeme) : Passes false (separator lexeme next) false := by
  unfold separator
  split
  · exact passes_nil false
  · exact passes_nil false
  · exact passes_plain (by decide) (by decide)

theorem isEnclosable_lexemes {lexemes : List Lexeme} (nonempty : lexemes ≠ [])
    (writable : ∀ lexeme ∈ lexemes, lexeme.isWritable) :
    IsEnclosable (writtenLexemes lexemes) := by
  induction lexemes with
  | nil => exact absurd rfl nonempty
  | cons lexeme rest inductionHypothesis =>
    obtain ⟨isWritable, restAre⟩ := List.forall_mem_cons.mp writable
    cases rest with
    | nil => exact isEnclosable_lexeme isWritable
    | cons next rest =>
      exact (isEnclosable_lexeme isWritable).join (passes_separator lexeme next)
        (inductionHypothesis (List.cons_ne_nil _ _) restAre)

theorem isEnclosable_expression {expression : Expression}
    (writable : isWritableExpression expression) : IsEnclosable (writtenExpression expression) := by
  obtain ⟨nonempty, areWritable⟩ := of_isWritableExpression writable
  exact isEnclosable_lexemes (lexemesOfCommands_ne_nil nonempty)
    (isWritable_of_mem_commands expression areWritable)

theorem isEnclosable_tag {tag : Tag} (writable : tag.isWritable) : IsEnclosable tag.written := by
  have keyword {name : String} (isName : isName name) : IsEnclosable name.toList :=
    isEnclosable_word (isWord_name isName)
  have blank : Passes false [' '] false := passes_plain (by decide) (by decide)
  have clause {name : String} (isName : isName name) {expression : Expression}
      (writable : isWritableExpression expression) :
      IsEnclosable (name.toList ++ ' ' :: writtenExpression expression) :=
    (keyword isName).join blank (isEnclosable_expression writable)
  cases tag with
  | expression value => exact isEnclosable_expression writable
  | ifTag condition => exact clause (by decide : isName "if") writable
  | elseIfTag condition =>
    exact (keyword (by decide : isName "else")).join blank
      (clause (by decide : isName "if") writable)
  | elseTag => exact keyword (by decide : isName "else")
  | endTag => exact keyword (by decide : isName "end")
  | rangeTag collection => exact clause (by decide : isName "range") writable
  | withTag value => exact clause (by decide : isName "with") writable

/-! ### Tags -/

/-- A name is split off where it ends. -/
theorem splitName?_name {name : String} (isName : isName name) {following : List Char}
    (ends : ∀ c ∈ following.head?, isNameChar c = false) :
    splitName? (name.toList ++ following) = some (name, following) := by
  obtain ⟨c, rest, chars, begins, areNameChars⟩ := exists_of_isName isName
  have all : ∀ other ∈ name.toList, isNameChar other := by
    rw [chars]
    exact List.forall_mem_cons.mpr ⟨isNameChar_of_beginsName begins, areNameChars⟩
  have notMore : following.takeWhile isNameChar = [] ∧
      following.dropWhile isNameChar = following := by
    cases following with
    | nil => exact ⟨rfl, rfl⟩
    | cons other others =>
      have isEnd := ends other rfl
      rw [List.takeWhile_cons, List.dropWhile_cons, isEnd]
      exact ⟨rfl, rfl⟩
  have split : splitName? (name.toList ++ following) =
      some (String.ofList ((name.toList ++ following).takeWhile isNameChar),
        (name.toList ++ following).dropWhile isNameChar) := by
    rw [chars]
    exact if_pos begins
  rw [split, List.takeWhile_append_of_pos all, List.dropWhile_append_of_pos all, notMore.1,
    notMore.2, List.append_nil, String.ofList_toList]

theorem splitName?_of_not_beginsName {c : Char} (notName : beginsName c = false)
    (rest : List Char) : splitName? (c :: rest) = none :=
  if_neg (Bool.eq_false_iff.mp notName)

/-- The names that actions begin with if they are no expressions. -/
def tagKeywords : List String := ["if", "else", "end", "range", "with"]

theorem exists_writtenLexemes_operand (operand : Operand) (rest : List Lexeme) :
    ∃ following, writtenLexemes (.operand operand :: rest) = operand.written ++ following ∧
      ∀ c ∈ following.head?, isNameChar c = false := by
  cases rest with
  | nil => exact ⟨[], (List.append_nil _).symm, fun _ absurdity => nomatch absurdity⟩
  | cons next rest =>
    refine ⟨_, rfl, fun c isHead => ?_⟩
    cases next with
    | closing =>
      obtain ⟨following, startsWithClosing⟩ := Lexing.exists_writtenLexemes .closing rest
      rw [startsWithClosing] at isHead
      cases isHead
      rfl
    | opening | bar | operand =>
      cases isHead
      rfl

theorem beginsName_of_isDigit {c : Char} (digit : c.isDigit) : beginsName c = false := by
  refine Bool.eq_false_iff.mpr fun begins => ?_
  rw [isDigit_of_beginsName begins] at digit
  cases digit

/-- The name that an operand begins with is no keyword. -/
theorem not_mem_tagKeywords_atom {operand : Operand} (isAtom : operand.isAtom)
    {following : List Char} (ends : ∀ c ∈ following.head?, isNameChar c = false) {name : String}
    {rest : List Char} (split : splitName? (operand.written ++ following) = some (name, rest)) :
    name ∉ tagKeywords := by
  have noName {c : Char} {others : List Char} (notName : beginsName c = false)
      (chars : operand.written ++ following = c :: others) : name ∉ tagKeywords := by
    rw [chars, splitName?_of_not_beginsName notName] at split
    cases split
  cases operand with
  | dot path =>
    cases path with
    | nil => exact noName (by decide) rfl
    | cons step rest => exact noName (by decide) rfl
  | root path => exact noName (by decide) rfl
  | text value => exact noName (by decide) rfl
  | integer value =>
    obtain ⟨digit, digits, chars⟩ :=
      List.exists_cons_of_ne_nil (Text.toDigits_ne_nil value.natAbs)
    have isDigit : digit.isDigit := Text.isDigit_of_mem_toDigits (chars ▸ List.mem_cons_self)
    have written : (Operand.integer value).written =
        if value < 0 then '-' :: digit :: digits else digit :: digits := by
      show writtenInteger value = _
      unfold writtenInteger
      rw [chars]
    split at written
    · exact noName (by decide) (congrArg (· ++ following) written)
    · exact noName (beginsName_of_isDigit isDigit) (congrArg (· ++ following) written)
  | boolean value =>
    cases value with
    | true =>
      cases (splitName?_name (by decide : isName "true") ends).symm.trans split
      decide
    | false =>
      cases (splitName?_name (by decide : isName "false") ends).symm.trans split
      decide
  | function value =>
    obtain ⟨isName, notKeyword⟩ := (Bool.and_eq_true _ _).mp isAtom
    cases (splitName?_name isName ends).symm.trans split
    have among : tagKeywords ⊆ keywords := by decide
    exact fun isKeyword => of_decide_eq_true notKeyword (among isKeyword)
  | group commands => cases isAtom

theorem lexemes_of_isWritable {operand : Operand} (writable : operand.isWritable) :
    (∃ inside, operand.lexemes = .opening :: inside) ∨
      operand.isAtom ∧ operand.lexemes = [.operand operand] := by
  cases operand with
  | group commands =>
    rw [Operand.lexemes]
    exact .inl ⟨_, rfl⟩
  | dot | root | text | integer | boolean | function =>
    rw [Operand.isWritable] at writable
    · rw [Operand.lexemes]
      · exact .inr ⟨writable, rfl⟩
      · intro _ absurdity
        cases absurdity
    · intro _ absurdity
      cases absurdity

/-- What an expression begins with is no keyword. -/
theorem not_mem_tagKeywords {expression : Expression} (writable : isWritableExpression expression)
    {name : String} {rest : List Char}
    (split : splitName? (writtenExpression expression) = some (name, rest)) :
    name ∉ tagKeywords := by
  match expression, of_isWritableExpression writable with
  | [], ⟨nonempty, _⟩ => exact absurd rfl nonempty
  | .mk head arguments :: commands, ⟨_, areWritable⟩ =>
    rw [areWritableCommands, Command.isWritable] at areWritable
    simp only [Bool.and_eq_true] at areWritable
    unfold writtenExpression at split
    rw [lexemesOfCommands, Command.lexemes] at split
    rcases lexemes_of_isWritable areWritable.1.1.2 with ⟨inside, lexemes⟩ | ⟨isAtom, lexemes⟩
    · rw [lexemes, List.cons_append, List.cons_append] at split
      obtain ⟨following, startsWithOpening⟩ := Lexing.exists_writtenLexemes .opening
        (inside ++ lexemesOfOperands arguments ++ lexemesBehindBars commands)
      rw [startsWithOpening] at split
      cases split
    · rw [lexemes, List.singleton_append, List.cons_append] at split
      obtain ⟨following, startsWithHead, ends⟩ := exists_writtenLexemes_operand head
        (lexemesOfOperands arguments ++ lexemesBehindBars commands)
      rw [startsWithHead] at split
      exact not_mem_tagKeywords_atom isAtom ends split

theorem dropWhile_isSpace {chars : List Char} (isEnclosable : IsEnclosable chars) :
    chars.dropWhile isSpace = chars := by
  obtain ⟨c, rest, rfl, notBlank, _⟩ := isEnclosable.begins
  have notSpace : isSpace c = false := by
    refine Bool.eq_false_iff.mpr fun space => ?_
    unfold isSpace at space
    simp only [Bool.or_eq_true, decide_eq_true_eq] at space
    rcases space with ((rfl | rfl) | rfl) | rfl <;> cases notBlank
  rw [List.dropWhile_cons, notSpace]
  rfl

theorem splitName?_keyword {name : String} (isName : isName name) (chars : List Char) :
    splitName? (name.toList ++ ' ' :: chars) = some (name, ' ' :: chars) :=
  splitName?_name isName fun _ isHead => by
    cases isHead
    rfl

theorem clause?_written {expression : Expression} (writable : isWritableExpression expression) :
    clause? (' ' :: writtenExpression expression) = some expression :=
  readExpression?_written writable

/-- A tag is read from the text that it is written as. -/
theorem readTag?_written {tag : Tag} (writable : tag.isWritable) :
    readTag? tag.written = some tag := by
  have noBlank := dropWhile_isSpace (isEnclosable_tag writable)
  unfold readTag?
  simp only [noBlank]
  cases tag with
  | expression value =>
    have notKeyword : ∀ name rest, splitName? (Tag.expression value).written = some (name, rest) →
        name ∉ tagKeywords := fun _ _ => not_mem_tagKeywords writable
    split
    case h_6 =>
      show (readExpression? (writtenExpression value)).map Tag.expression = _
      rw [readExpression?_written writable]
      rfl
    all_goals
      next split => exact absurd (by decide) (notKeyword _ _ split)
  | ifTag condition =>
    have split : splitName? (Tag.ifTag condition).written =
      some ("if", ' ' :: writtenExpression condition) := splitName?_keyword (by decide) _
    rw [split]
    show (clause? (' ' :: writtenExpression condition)).map Tag.ifTag = _
    rw [clause?_written writable]
    rfl
  | elseIfTag condition =>
    have split : splitName? (Tag.elseIfTag condition).written =
      some ("else", ' ' :: (Tag.ifTag condition).written) := splitName?_keyword (by decide) _
    have further : splitName? (Tag.ifTag condition).written =
      some ("if", ' ' :: writtenExpression condition) := splitName?_keyword (by decide) _
    have ifWritable : (Tag.ifTag condition).isWritable := writable
    have following : (' ' :: (Tag.ifTag condition).written).dropWhile isSpace =
        (Tag.ifTag condition).written := by
      rw [List.dropWhile_cons_of_pos (by decide)]
      exact dropWhile_isSpace (isEnclosable_tag ifWritable)
    have afterIf : afterKeyword? "if" (Tag.ifTag condition).written =
        some (' ' :: writtenExpression condition) := by
      unfold afterKeyword?
      rw [further]
      rfl
    rw [split]
    simp only [following, afterIf]
    rw [clause?_written writable]
    rfl
  | elseTag =>
    have split : splitName? Tag.elseTag.written = some ("else", []) := by decide
    rw [split]
    rfl
  | endTag =>
    have split : splitName? Tag.endTag.written = some ("end", []) := by decide
    rw [split]
    rfl
  | rangeTag collection =>
    have split : splitName? (Tag.rangeTag collection).written =
      some ("range", ' ' :: writtenExpression collection) := splitName?_keyword (by decide) _
    rw [split]
    show (clause? (' ' :: writtenExpression collection)).map Tag.rangeTag = _
    rw [clause?_written writable]
    rfl
  | withTag value =>
    have split : splitName? (Tag.withTag value).written =
      some ("with", ' ' :: writtenExpression value) := splitName?_keyword (by decide) _
    rw [split]
    show (clause? (' ' :: writtenExpression value)).map Tag.withTag = _
    rw [clause?_written writable]
    rfl

/-! ### Segments -/

theorem not_infix_of_cons {c : Char} {others : List Char}
    (noBraces : ¬ ['{', '{'] <:+: c :: others) : ¬ ['{', '{'] <:+: others :=
  fun inside => noBraces (List.infix_cons inside)

/-- The braces that open an action are found behind a text in which there are none. -/
theorem splitOpening?_text {chars : List Char} (noBraces : ¬ ['{', '{'] <:+: chars)
    (noneLast : chars.getLast? ≠ some '{') (rest : List Char) :
    splitOpening? (chars ++ '{' :: '{' :: rest) = some (chars, rest) := by
  induction chars with
  | nil => rfl
  | cons c others inductionHypothesis =>
    cases others with
    | nil =>
      rw [List.cons_append, splitOpening?]
      · rfl
      · rintro _ rfl
        exact absurd rfl noneLast
    | cons other more =>
      rw [List.getLast?_cons_cons] at noneLast
      rw [List.cons_append, splitOpening?,
        inductionHypothesis (not_infix_of_cons noBraces) noneLast]
      · rfl
      · rintro _ rfl same
        cases same
        exact noBraces (List.prefix_append ['{', '{'] more).isInfix

theorem splitOpening?_of_noBraces {chars : List Char} (noBraces : ¬ ['{', '{'] <:+: chars) :
    splitOpening? chars = none := by
  induction chars with
  | nil => rfl
  | cons c others inductionHypothesis =>
    rw [splitOpening?, inductionHypothesis (not_infix_of_cons noBraces)]
    · rfl
    · rintro more rfl rfl
      exact noBraces (List.prefix_append ['{', '{'] more).isInfix

theorem trimChars_enclosable {chars : List Char} (isEnclosable : IsEnclosable chars) :
    Text.trimChars (' ' :: (chars ++ [' '])) = chars := by
  obtain ⟨c, rest, isStart, notBlank, _⟩ := isEnclosable.begins
  obtain ⟨before, last, isEnd, lastNotBlank⟩ := isEnclosable.ends
  have fromStart : (' ' :: (chars ++ [' '])).dropWhile Text.isBlank = chars ++ [' '] := by
    rw [List.dropWhile_cons_of_pos (by decide), isStart, List.cons_append,
      List.dropWhile_cons_of_neg (Bool.eq_false_iff.mp notBlank)]
  have fromEnd : (chars ++ [' ']).reverse.dropWhile Text.isBlank = chars.reverse := by
    rw [List.reverse_append, List.reverse_singleton, List.singleton_append,
      List.dropWhile_cons_of_pos (by decide), isEnd, List.reverse_append, List.reverse_singleton,
      List.singleton_append, List.dropWhile_cons_of_neg (Bool.eq_false_iff.mp lastNotBlank)]
  unfold Text.trimChars Text.dropWhileEnd
  rw [fromStart, fromEnd, List.reverse_reverse]

theorem isComment_enclosable {chars : List Char} (isEnclosable : IsEnclosable chars) :
    isComment chars = false := by
  obtain ⟨c, rest, rfl, _, notSlash⟩ := isEnclosable.begins
  unfold isComment
  rw [List.isPrefixOf_cons_cons, beq_false_of_ne (Ne.symm notSlash)]
  rfl

/-- The braces that close an action are found behind its text. -/
theorem splitClosing?_enclosable {chars : List Char} (isEnclosable : IsEnclosable chars)
    (rest : List Char) :
    splitClosing? false (' ' :: (chars ++ [' ', '}', '}']) ++ rest) =
      some (' ' :: (chars ++ [' ']), rest) := by
  have blank : Passes false [' '] false := passes_plain (by decide) (by decide)
  have passes := (blank.append (isEnclosable.passes.append blank)) ('}' :: '}' :: rest) [] rest rfl
  simp only [List.append_assoc, List.append_nil, List.cons_append, List.nil_append] at passes ⊢
  exact passes

theorem beforeTrailingDash?_blank (chars : List Char) :
    beforeTrailingDash? (' ' :: (chars ++ [' '])) = none := by
  unfold beforeTrailingDash?
  rw [List.reverse_cons, List.reverse_append]
  rfl

theorem actionSegment_written {tag : Tag} (writable : tag.isWritable) :
    actionSegment (Text.trimChars (' ' :: (tag.written ++ [' ']))) = .ok [.tag tag] := by
  have enclosable := isEnclosable_tag writable
  unfold actionSegment
  rw [trimChars_enclosable enclosable, isComment_enclosable enclosable, readTag?_written writable]
  rfl

/-- An action is read behind whatever text there is before it. -/
theorem segmentsFrom_tag {tag : Tag} (writable : tag.isWritable) {text rest : List Char}
    {others : List Segment} (noBraces : ¬ ['{', '{'] <:+: text)
    (noneLast : text.getLast? ≠ some '{')
    (restRead : ∀ offset, segmentsFrom offset false rest = .ok others) (offset : Nat) :
    segmentsFrom offset false (text ++ ((Segment.tag tag).written ++ rest)) =
      .ok (textSegment text ++ .tag tag :: others) := by
  have enclosable := isEnclosable_tag writable
  have opening :=
    splitOpening?_text noBraces noneLast (' ' :: (tag.written ++ [' ', '}', '}']) ++ rest)
  have closing := splitClosing?_enclosable enclosable rest
  rw [segmentsFrom]
  split
  · next notFound =>
    cases opening.symm.trans notFound
  · next before after found =>
    cases opening.symm.trans found
    split
    · next notFound =>
      cases closing.symm.trans notFound
    · next inner following found =>
      cases closing.symm.trans found
      rw [beforeTrailingDash?_blank]
      show (actionSegment (Text.trimChars (' ' :: (tag.written ++ [' ']))) >>= fun found =>
        segmentsFrom _ false rest >>= fun others =>
          Except.ok (textSegment text ++ found ++ others)) = _
      rw [actionSegment_written writable, restRead]
      show Except.ok (textSegment text ++ [.tag tag] ++ others) = _
      rw [List.append_assoc, List.singleton_append]

theorem of_isWritableText {value : String} (writable : isWritableText value) :
    value.toList ≠ [] ∧ ¬ ['{', '{'] <:+: value.toList ∧ value.toList.getLast? ≠ some '{' := by
  unfold isWritableText at writable
  simp only [Bool.and_eq_true, Bool.not_eq_true', decide_eq_true_eq,
    decide_eq_false_iff_not] at writable
  refine ⟨fun isEmpty => ?_, writable.1.2, writable.2⟩
  rw [String.toList_eq_nil_iff.mp isEmpty] at writable
  cases writable.1.1

theorem textSegment_text {value : String} (nonempty : value.toList ≠ []) :
    textSegment value.toList = [.text value] := by
  unfold textSegment
  rw [List.isEmpty_eq_false_iff.mpr nonempty, String.ofList_toList]
  rfl

/-- Segments are read from the text that they are written as, one action after the other. -/
theorem segmentsFrom_written : ∀ segments : List Segment, areWritableSegments segments →
    ∀ offset, segmentsFrom offset false (segments.flatMap Segment.written) = .ok segments
  | [], _, _ => by
    rw [segmentsFrom]
    rfl
  | [.text value], writable, _ => by
    rw [areWritableSegments, Bool.and_eq_true, Bool.and_eq_true] at writable
    obtain ⟨nonempty, noBraces, _⟩ := of_isWritableText writable.1.1
    rw [List.flatMap_singleton]
    show segmentsFrom _ false value.toList = _
    rw [segmentsFrom]
    split
    · show Except.ok (textSegment value.toList) = _
      rw [textSegment_text nonempty]
    · next found =>
      cases (splitOpening?_of_noBraces noBraces).symm.trans found
  | .text value :: .tag tag :: rest, writable, offset => by
    rw [areWritableSegments, areWritableSegments] at writable
    simp only [Bool.and_eq_true] at writable
    obtain ⟨⟨textWritable, _⟩, ⟨tagWritable, _⟩, restWritable⟩ := writable
    obtain ⟨nonempty, noBraces, noneLast⟩ := of_isWritableText textWritable
    have restRead := segmentsFrom_written rest restWritable
    rw [List.flatMap_cons, List.flatMap_cons]
    show segmentsFrom offset false (value.toList ++ _) = _
    rw [segmentsFrom_tag tagWritable noBraces noneLast restRead, textSegment_text nonempty,
      List.singleton_append]
  | .tag tag :: rest, writable, offset => by
    rw [areWritableSegments, Bool.and_eq_true, Bool.and_eq_true] at writable
    have restRead := segmentsFrom_written rest writable.2
    have noBraces : ¬ ['{', '{'] <:+: ([] : List Char) := by decide
    have noneLast : ([] : List Char).getLast? ≠ some '{' := by decide
    exact segmentsFrom_tag writable.1.1 noBraces noneLast restRead offset
  | .text _ :: .text _ :: _, writable, _ => by
    rw [areWritableSegments, Bool.and_eq_true, Bool.and_eq_true] at writable
    cases writable.1.2

theorem segments_written {tokens : List Segment} (writable : areWritableSegments tokens) :
    segments (writtenSegments tokens) = .ok tokens := by
  unfold segments writtenSegments
  rw [String.toList_ofList]
  exact segmentsFrom_written tokens writable 0

/-! ### Nodes -/

/-- Segments stay apart when two rows of them are joined where no two texts meet. -/
theorem areWritableSegments_append {before after : List Segment}
    (beforeWritable : areWritableSegments before) (afterWritable : areWritableSegments after)
    (apart : before.getLast?.any Segment.isText → ¬ after.head?.any Segment.isText) :
    areWritableSegments (before ++ after) := by
  induction before with
  | nil => exact afterWritable
  | cons segment rest inductionHypothesis =>
    rw [areWritableSegments, Bool.and_eq_true, Bool.and_eq_true] at beforeWritable
    obtain ⟨⟨isWritable, restApart⟩, restWritable⟩ := beforeWritable
    cases rest with
    | nil =>
      have firstApart : segment.isText → ¬ after.head?.any Segment.isText := apart
      rw [List.singleton_append, areWritableSegments, isWritable, afterWritable]
      cases isText : segment.isText with
      | true => simpa using firstApart isText
      | false => rfl
    | cons next others =>
      have joined := inductionHypothesis restWritable apart
      rw [List.cons_append, areWritableSegments, isWritable, joined, Bool.and_true, Bool.true_and]
      exact restApart

theorem areWritableSegments_cons_tag {tag : Tag} (writable : tag.isWritable)
    {rest : List Segment} (restWritable : areWritableSegments rest) :
    areWritableSegments (.tag tag :: rest) := by
  rw [areWritableSegments, restWritable, Bool.and_true]
  exact (Bool.and_eq_true _ _).mpr ⟨writable, rfl⟩

theorem areWritableSegments_block {opening : Tag} (writable : opening.isWritable)
    {body otherwise : List Segment} (bodyWritable : areWritableSegments body)
    (otherWritable : areWritableSegments otherwise) :
    areWritableSegments (blockSegments opening body otherwise) := by
  have ending : areWritableSegments [.tag .endTag] := rfl
  have alternative : areWritableSegments
      ((if otherwise.isEmpty then [] else .tag .elseTag :: otherwise) ++ [.tag .endTag]) := by
    split
    · exact ending
    · have closed := areWritableSegments_append otherWritable ending fun _ => Bool.false_ne_true
      exact areWritableSegments_cons_tag rfl closed
  refine areWritableSegments_cons_tag writable
    (areWritableSegments_append bodyWritable alternative fun _ => ?_)
  split <;> exact Bool.false_ne_true

theorem getLast?_blockSegments (opening : Tag) (body otherwise : List Segment) :
    (blockSegments opening body otherwise).getLast? = some (.tag .endTag) := by
  unfold blockSegments
  rw [← List.append_assoc, ← List.cons_append, List.getLast?_append]
  rfl

/-- Only a text has segments that begin with a text. -/
theorem Node.exists_segments (node : Node) :
    ∃ first rest, node.segments = first :: rest ∧ first.isText = node.isText := by
  cases node <;> rw [Node.segments] <;> exact ⟨_, _, rfl, rfl⟩

/-- Only a text has segments that end with a text. -/
theorem Node.isText_getLast?_segments (node : Node) :
    node.segments.getLast?.any Segment.isText = node.isText := by
  cases node with
  | text | action =>
    rw [Node.segments]
    rfl
  | branch | each | within =>
    rw [Node.segments, getLast?_blockSegments]
    rfl

theorem isText_head?_segmentsOf (nodes : List Node) :
    (segmentsOf nodes).head?.any Segment.isText = nodes.head?.any Node.isText := by
  cases nodes with
  | nil =>
    rw [segmentsOf]
    rfl
  | cons node rest =>
    obtain ⟨first, others, split, isText⟩ := node.exists_segments
    rw [segmentsOf, split]
    exact isText

mutual

theorem Node.areWritableSegments : ∀ node : Node, node.isWritable →
    areWritableSegments node.segments
  | .text value, writable => by
    rw [Node.isWritable] at writable
    rw [Node.segments, Template.areWritableSegments, Bool.and_eq_true, Bool.and_eq_true]
    exact ⟨⟨writable, rfl⟩, rfl⟩
  | .action expression, writable => by
    rw [Node.isWritable] at writable
    have action : (Tag.expression expression).isWritable := writable
    rw [Node.segments]
    exact areWritableSegments_cons_tag action rfl
  | .branch condition body otherwise, writable => by
    rw [Node.isWritable, Bool.and_eq_true, Bool.and_eq_true] at writable
    have opening : (Tag.ifTag condition).isWritable := writable.1.1
    rw [Node.segments]
    exact areWritableSegments_block opening (areWritableSegments_segmentsOf body writable.1.2)
      (areWritableSegments_segmentsOf otherwise writable.2)
  | .each collection body otherwise, writable => by
    rw [Node.isWritable, Bool.and_eq_true, Bool.and_eq_true] at writable
    have opening : (Tag.rangeTag collection).isWritable := writable.1.1
    rw [Node.segments]
    exact areWritableSegments_block opening (areWritableSegments_segmentsOf body writable.1.2)
      (areWritableSegments_segmentsOf otherwise writable.2)
  | .within value body otherwise, writable => by
    rw [Node.isWritable, Bool.and_eq_true, Bool.and_eq_true] at writable
    have opening : (Tag.withTag value).isWritable := writable.1.1
    rw [Node.segments]
    exact areWritableSegments_block opening (areWritableSegments_segmentsOf body writable.1.2)
      (areWritableSegments_segmentsOf otherwise writable.2)

theorem areWritableSegments_segmentsOf : ∀ nodes : List Node, areWritable nodes →
    areWritableSegments (segmentsOf nodes)
  | [], _ => by
    rw [segmentsOf]
    rfl
  | node :: rest, writable => by
    rw [areWritable, Bool.and_eq_true, Bool.and_eq_true] at writable
    obtain ⟨⟨isWritable, apart⟩, restWritable⟩ := writable
    rw [segmentsOf]
    refine areWritableSegments_append (node.areWritableSegments isWritable)
      (areWritableSegments_segmentsOf rest restWritable) fun lastIsText nextIsText => ?_
    rw [node.isText_getLast?_segments] at lastIsText
    rw [isText_head?_segmentsOf] at nextIsText
    rw [lastIsText, nextIsText] at apart
    cases apart

end

/-! ### Templates -/

/--
Writing is undone by reading, of nodes and of segments alike; and the segments of a text make up a
template just if their blocks are nested.
-/
theorem read_written :
    (∀ nodes, areWritable nodes → read (written nodes) = .ok nodes) ∧
      (∀ tokens, areWritableSegments tokens → segments (writtenSegments tokens) = .ok tokens) ∧
        ∀ text tokens, segments text = .ok tokens →
          ((∃ nodes, read text = .ok nodes) ↔ IsNested tokens) := by
  refine ⟨fun nodes writable => ?_, fun tokens => segments_written, fun text tokens isText => ?_⟩
  · unfold read written
    rw [segments_written (areWritableSegments_segmentsOf nodes writable)]
    exact nodesOf_segmentsOf nodes
  · unfold read
    rw [isText]
    exact exists_nodesOf_iff tokens

/-- Nodes with nested blocks, parentheses, bars, and a string of braces, quotes and backslashes. -/
def nestedNodes : List Node :=
  [.text "a \x7d b",
    .branch [.mk (.function "not") [.group [.mk (.dot ["x", "y_1"]) [], .mk (.function "len") []]]]
      [.each [.mk (.root []) []] [.action [.mk (.text "\x7d\x7d \"\\\t\n") []]]
        [.within [.mk (.function "eq") [.integer (-7), .boolean true]] [.text "c"] []]]
      [.action [.mk (.dot []) []], .text " - "]]

theorem read_written_nestedNodes :
    (areWritable nestedNodes ∧ read (written nestedNodes) = .ok nestedNodes) ∧
      (areWritableSegments [.tag .endTag] ∧
        segments (writtenSegments [.tag .endTag]) = .ok [.tag .endTag]) ∧
        ((∃ nodes, read (writtenSegments [.tag .endTag]) = .ok nodes) ↔
          IsNested [.tag .endTag]) := by
  have areNodes : areWritable nestedNodes := by decide
  have areSegments : areWritableSegments [.tag .endTag] := by decide
  have isText := read_written.2.1 _ areSegments
  exact ⟨⟨areNodes, read_written.1 _ areNodes⟩, ⟨areSegments, isText⟩, read_written.2.2 _ _ isText⟩

end LogForwarder.Template
