/-
This file proves that an expression is read from the text that it is written as. Lexing stands
between lexemes or inside one; wherever a lexeme has been written out it can end, and a blank or a
closing parenthesis ends it. So the lexemes are cut apart again at the places where they were
joined, and the stack of open parentheses puts them together as they were taken apart.
-/

import LogForwarder.Proofs.Numeral
import LogForwarder.Proofs.Template.Written

namespace LogForwarder.Template

/-! ### Characters -/

theorem isDigit_of_beginsName {c : Char} (begins : beginsName c) : c.isDigit = false := by
  unfold beginsName at begins
  rcases Bool.or_eq_true_iff.mp begins with letter | underscore
  · unfold Char.isAlpha Char.isUpper Char.isLower at letter
    unfold Char.isDigit
    grind
  · rw [of_decide_eq_true underscore]
    rfl

theorem isNameChar_of_beginsName {c : Char} (begins : beginsName c) : isNameChar c := by
  unfold beginsName at begins
  unfold isNameChar Char.isAlphanum
  rcases Bool.or_eq_true_iff.mp begins with letter | underscore
  · rw [letter]
    rfl
  · rw [underscore, Bool.or_true]

/-- A name is a character that can begin one, and others that can stand inside. -/
theorem exists_of_isName {name : String} (isName : isName name) :
    ∃ c rest, name.toList = c :: rest ∧ beginsName c ∧ ∀ other ∈ rest, isNameChar other := by
  unfold Template.isName at isName
  split at isName
  · cases isName
  · next c rest chars =>
    obtain ⟨begins, others⟩ := (Bool.and_eq_true _ _).mp isName
    exact ⟨c, rest, chars, begins, List.all_eq_true.mp others⟩

theorem collected_reverse (text : String) : collected text.toList.reverse = text := by
  unfold collected
  rw [List.reverse_reverse, String.ofList_toList]

namespace Lexing

/-- The characters that are lexemes, begin lexemes or stand between them whatever follows. -/
def marks : List Char := [' ', '\t', '\r', '\n', '(', ')', '|', '"', '.', '$', '-']

theorem start?_of_test {test : Char → Bool} {c : Char} (passes : test c)
    (fails : marks.all fun mark => !test mark) (lexing : Lexing) :
    lexing.start? c =
      if c.isDigit then some { lexing with mode := .number false [c] }
      else if beginsName c then some { lexing with mode := .name [c] }
      else none := by
  have different : ∀ mark ∈ marks, c ≠ mark := by
    rintro mark member rfl
    have notMark := List.all_eq_true.mp fails c member
    rw [passes] at notMark
    cases notMark
  simp only [marks, List.forall_mem_cons] at different
  unfold start? isSpace
  simp only [different, decide_false, Bool.or_false, Bool.false_eq_true, if_false]

theorem start?_of_beginsName {c : Char} (begins : beginsName c) (lexing : Lexing) :
    lexing.start? c = some { lexing with mode := .name [c] } := by
  rw [start?_of_test begins (by decide), isDigit_of_beginsName begins, if_pos begins]
  rfl

theorem start?_of_isDigit {c : Char} (digit : c.isDigit) (lexing : Lexing) :
    lexing.start? c = some { lexing with mode := .number false [c] } := by
  rw [start?_of_test digit (by decide), if_pos digit]

/-! ### Ends of lexemes -/

/-- Whether a lexeme can end here, and does so before a blank and before a parenthesis. -/
structure Ends (lexing done : Lexing) : Prop where
  finishes : lexing.finish? = some done
  between : done.mode = .between
  stops : ∀ c, c = ' ' ∨ c = ')' → lexing.advance? c = done.start? c

theorem ends_between (lexemes : List Lexeme) : Ends ⟨lexemes, .between⟩ ⟨lexemes, .between⟩ :=
  ⟨rfl, rfl, fun _ _ => rfl⟩

/-- A lexeme ends where a blank and a parenthesis do not belong to it. -/
theorem ends_of_restart? {lexing done : Lexing} (finishes : lexing.finish? = some done)
    (between : done.mode = .between)
    (restarts : ∀ c, c = ' ' ∨ c = ')' → lexing.advance? c = lexing.restart? c) :
    lexing.Ends done := by
  refine ⟨finishes, between, fun c ends => ?_⟩
  rw [restarts c ends, restart?, finishes, Option.bind_some]

/-- A blank and a parenthesis do not belong to names. -/
theorem isNameChar_of_ends {c : Char} (ends : c = ' ' ∨ c = ')') : isNameChar c = false := by
  rcases ends with rfl | rfl <;> rfl

/-- Whether some characters are read as one lexeme, wherever it begins. -/
def ReadsAs (chars : List Char) (lexeme : Lexeme) : Prop :=
  ∀ before : List Lexeme, ∃ lexing, chars.foldlM advance? ⟨before, .between⟩ = some lexing ∧
    lexing.Ends ⟨lexeme :: before, .between⟩

/-! ### Characters inside of lexemes -/

/-- Characters that lexing collects in some mode are all collected, the last one first. -/
theorem foldlM_collected {test : Char → Bool} {mode : List Char → LexMode} {before : List Lexeme}
    (collects : ∀ c soFar, test c →
      advance? ⟨before, mode soFar⟩ c = some ⟨before, mode (c :: soFar)⟩)
    {chars : List Char} (passes : ∀ c ∈ chars, test c) (soFar : List Char) :
    chars.foldlM advance? ⟨before, mode soFar⟩ = some ⟨before, mode (chars.reverse ++ soFar)⟩ := by
  induction chars generalizing soFar with
  | nil => rfl
  | cons c rest inductionHypothesis =>
    obtain ⟨firstPasses, restPass⟩ := List.forall_mem_cons.mp passes
    rw [List.foldlM_cons, collects c soFar firstPasses]
    show rest.foldlM advance? _ = _
    rw [inductionHypothesis restPass, List.reverse_cons, List.append_assoc, List.singleton_append]

/-! ### Names -/

theorem readsAs_name {name : String} (isName : isName name) :
    ReadsAs name.toList (.operand (nameOperand name)) := by
  intro before
  obtain ⟨c, rest, chars, begins, areNameChars⟩ := exists_of_isName isName
  refine ⟨⟨before, .name name.toList.reverse⟩, ?_, ends_of_restart? ?_ rfl fun other ends => ?_⟩
  · have started : advance? ⟨before, .between⟩ c = some ⟨before, .name [c]⟩ :=
      start?_of_beginsName begins _
    have collects : ∀ other soFar, isNameChar other →
        advance? ⟨before, .name soFar⟩ other = some ⟨before, .name (other :: soFar)⟩ :=
      fun _ _ isNameChar => if_pos isNameChar
    rw [chars, List.foldlM_cons, started, List.reverse_cons]
    exact foldlM_collected collects areNameChars [c]
  · show some (emit _ (.operand (nameOperand (collected name.toList.reverse)))) = _
    rw [collected_reverse]
    rfl
  · exact if_neg (Bool.eq_false_iff.mp (isNameChar_of_ends ends))

/-! ### Strings -/

/-- An escaped character is read as itself. -/
theorem foldlM_writtenChar (before : List Lexeme) (soFar : List Char) (c : Char) :
    (writtenChar c).foldlM advance? ⟨before, .text soFar⟩ = some ⟨before, .text (c :: soFar)⟩ := by
  unfold writtenChar
  split
  · next isQuote =>
    subst isQuote
    rfl
  split
  · next isBackslash =>
    subst isBackslash
    rfl
  split
  · next isBreak =>
    subst isBreak
    rfl
  split
  · next isTab =>
    subst isTab
    rfl
  · next notQuote notBackslash _ _ =>
    have advanced : advance? ⟨before, .text soFar⟩ c = some ⟨before, .text (c :: soFar)⟩ := by
      show (if c = '"' then _ else if c = '\\' then _ else _) = _
      rw [if_neg notQuote, if_neg notBackslash]
    rw [List.foldlM_cons, advanced]
    rfl

theorem foldlM_writtenChars (before : List Lexeme) (soFar chars : List Char) :
    (chars.flatMap writtenChar).foldlM advance? ⟨before, .text soFar⟩ =
      some ⟨before, .text (chars.reverse ++ soFar)⟩ := by
  induction chars generalizing soFar with
  | nil => rfl
  | cons c rest inductionHypothesis =>
    rw [List.flatMap_cons, List.foldlM_append, foldlM_writtenChar]
    show (rest.flatMap writtenChar).foldlM advance? _ = _
    rw [inductionHypothesis, List.reverse_cons, List.append_assoc, List.singleton_append]

theorem readsAs_text (value : String) :
    ReadsAs (Operand.text value).written (.operand (.text value)) := by
  intro before
  refine ⟨_, ?_, ends_between _⟩
  show (value.toList.flatMap writtenChar ++ ['"']).foldlM advance? ⟨before, .text []⟩ = _
  rw [List.foldlM_append, foldlM_writtenChars, List.append_nil]
  show some (emit _ (.operand (.text (collected value.toList.reverse)))) = _
  rw [collected_reverse]
  rfl

/-! ### Numbers -/

theorem foldlM_digits {digits : List Char} (areDigits : ∀ c ∈ digits, c.isDigit)
    (before : List Lexeme) (negative : Bool) (soFar : List Char) :
    digits.foldlM advance? ⟨before, .number negative soFar⟩ =
      some ⟨before, .number negative (digits.reverse ++ soFar)⟩ := by
  have collects : ∀ c soFar, c.isDigit → advance? ⟨before, .number negative soFar⟩ c =
      some ⟨before, .number negative (c :: soFar)⟩ := fun _ _ isDigit => if_pos isDigit
  exact foldlM_collected collects areDigits soFar

/-- Digits with their sign can end where they do, and stand for a number. -/
theorem ends_number {value : Int} (within : value.natAbs ≤ maxInteger) {negative : Bool}
    (signed : (if negative then -(value.natAbs : Int) else value.natAbs) = value)
    (before : List Lexeme) :
    Ends ⟨before, .number negative (Nat.toDigits 10 value.natAbs).reverse⟩
      ⟨.operand (.integer value) :: before, .between⟩ := by
  refine ends_of_restart? ?_ rfl fun c ends => if_neg ?_
  · unfold finish?
    simp only [List.reverse_reverse, Text.numeral?_toDigits within, Option.map_some, signed]
    rfl
  · rcases ends with rfl | rfl <;> decide

theorem readsAs_integer {value : Int} (within : value.natAbs ≤ maxInteger) :
    ReadsAs (writtenInteger value) (.operand (.integer value)) := by
  intro before
  unfold writtenInteger
  split
  · next isNegative =>
    have signed : (if true then -(value.natAbs : Int) else value.natAbs) = value := by
      rw [if_pos rfl]
      omega
    refine ⟨_, ?_, ends_number within signed before⟩
    show (Nat.toDigits 10 value.natAbs).foldlM advance? ⟨before, .number true []⟩ = _
    rw [foldlM_digits fun _ => Text.isDigit_of_mem_toDigits, List.append_nil]
  · next notNegative =>
    have signed : (if false then -(value.natAbs : Int) else value.natAbs) = value := by
      rw [if_neg Bool.false_ne_true]
      omega
    refine ⟨_, ?_, ends_number within signed before⟩
    obtain ⟨c, rest, digits⟩ := List.exists_cons_of_ne_nil (Text.toDigits_ne_nil value.natAbs)
    have areDigits : ∀ other ∈ c :: rest, other.isDigit := by
      rw [← digits]
      exact fun _ => Text.isDigit_of_mem_toDigits
    obtain ⟨isDigit, restAre⟩ := List.forall_mem_cons.mp areDigits
    have started : advance? ⟨before, .between⟩ c = some ⟨before, .number false [c]⟩ :=
      start?_of_isDigit isDigit _
    rw [digits, List.foldlM_cons, started]
    show rest.foldlM advance? _ = _
    rw [foldlM_digits restAre, List.reverse_cons]

/-! ### Paths -/

/-- A step is read after its dot. -/
theorem foldlM_step {step : String} (isName : isName step) (before : List Lexeme) (fromRoot : Bool)
    (steps : List String) :
    step.toList.foldlM advance? ⟨before, .path fromRoot steps []⟩ =
      some ⟨before, .path fromRoot steps step.toList.reverse⟩ := by
  obtain ⟨c, rest, chars, begins, areNameChars⟩ := exists_of_isName isName
  have started : advance? ⟨before, .path fromRoot steps []⟩ c =
      some ⟨before, .path fromRoot steps [c]⟩ := if_pos begins
  -- Only behind its first character does a step go on with those that stand inside of names.
  have collects : ∀ other soFar, isNameChar other →
      advance? ⟨before, .path fromRoot steps (soFar ++ [c])⟩ other =
        some ⟨before, .path fromRoot steps (other :: soFar ++ [c])⟩ := by
    intro other soFar isNameChar
    cases soFar <;> exact if_pos isNameChar
  rw [chars, List.foldlM_cons, started, List.reverse_cons]
  show rest.foldlM advance? ⟨before, .path fromRoot steps ([] ++ [c])⟩ = _
  rw [foldlM_collected collects areNameChars, List.append_nil]

/-- After a step a path can end, or go on with a dot. -/
theorem advance?_step {step : String} (isName : isName step) (before : List Lexeme)
    (fromRoot : Bool) (steps : List String) :
    Ends ⟨before, .path fromRoot steps step.toList.reverse⟩
        ⟨.operand (pathOperand fromRoot (step :: steps).reverse) :: before, .between⟩ ∧
      advance? ⟨before, .path fromRoot steps step.toList.reverse⟩ '.' =
        some ⟨before, .path fromRoot (step :: steps) []⟩ := by
  obtain ⟨last, others, reversed⟩ : ∃ last others, step.toList.reverse = last :: others := by
    obtain ⟨c, rest, chars, _⟩ := exists_of_isName isName
    rw [chars, List.reverse_cons]
    exact List.exists_cons_of_ne_nil (List.append_ne_nil_of_right_ne_nil _ (List.cons_ne_nil _ _))
  have isStep : collected (last :: others) = step := by
    rw [← reversed, collected_reverse]
  rw [reversed]
  refine ⟨ends_of_restart? ?_ rfl fun c ends => ?_, ?_⟩
  · show some (emit _ (.operand
      (pathOperand fromRoot (collected (last :: others) :: steps).reverse))) = _
    rw [isStep]
    rfl
  · have notDot : c ≠ '.' := by rcases ends with rfl | rfl <;> decide
    show (if isNameChar c then _ else if c = '.' then _ else _) = _
    rw [isNameChar_of_ends ends, if_neg Bool.false_ne_true, if_neg notDot]
  · show some (⟨before, .path fromRoot (collected (last :: others) :: steps) []⟩ : Lexing) = _
    rw [isStep]

/-- The steps of a path are read after some that have been read. -/
theorem exists_foldlM_steps {path : List String} (areNames : ∀ step ∈ path, isName step)
    (nonempty : path ≠ []) (before : List Lexeme) (fromRoot : Bool) {lexing : Lexing}
    {steps : List String} (onward : lexing.advance? '.' = some ⟨before, .path fromRoot steps []⟩) :
    ∃ done, (writtenSteps path).foldlM advance? lexing = some done ∧
      done.Ends ⟨.operand (pathOperand fromRoot (steps.reverse ++ path)) :: before, .between⟩ := by
  induction path generalizing lexing steps with
  | nil => exact absurd rfl nonempty
  | cons step rest inductionHypothesis =>
    obtain ⟨isName, restAre⟩ := List.forall_mem_cons.mp areNames
    have stepRead : (writtenSteps (step :: rest)).foldlM advance? lexing =
        (writtenSteps rest).foldlM advance? ⟨before, .path fromRoot steps step.toList.reverse⟩ := by
      unfold writtenSteps
      rw [List.flatMap_cons, List.cons_append, List.foldlM_cons, onward]
      show (step.toList ++ writtenSteps rest).foldlM advance? _ = _
      rw [List.foldlM_append, foldlM_step isName]
      rfl
    obtain ⟨ends, further⟩ := advance?_step isName before fromRoot steps
    rw [stepRead]
    by_cases isLast : rest = []
    · subst isLast
      rw [List.reverse_cons] at ends
      exact ⟨_, rfl, ends⟩
    · obtain ⟨done, read, ends⟩ := inductionHypothesis restAre isLast further
      rw [List.reverse_cons, List.append_assoc, List.singleton_append] at ends
      exact ⟨done, read, ends⟩

theorem readsAs_dot {path : List String} (areNames : ∀ step ∈ path, isName step) :
    ReadsAs (Operand.dot path).written (.operand (.dot path)) := by
  intro before
  cases path with
  | nil =>
    refine ⟨⟨before, .path false [] []⟩, rfl, ends_of_restart? rfl rfl fun c ends => if_neg ?_⟩
    rcases ends with rfl | rfl <;> decide
  | cons step rest =>
    have onward : advance? ⟨before, .between⟩ '.' = some ⟨before, .path false [] []⟩ := rfl
    exact exists_foldlM_steps areNames (List.cons_ne_nil _ _) before false onward

theorem readsAs_root {path : List String} (areNames : ∀ step ∈ path, isName step) :
    ReadsAs (Operand.root path).written (.operand (.root path)) := by
  intro before
  show ∃ lexing, (writtenSteps path).foldlM advance? ⟨before, .rootSign⟩ = some lexing ∧ _
  cases path with
  | nil =>
    refine ⟨⟨before, .rootSign⟩, rfl, ends_of_restart? rfl rfl fun c ends => if_neg ?_⟩
    rcases ends with rfl | rfl <;> decide
  | cons step rest =>
    have onward : advance? ⟨before, .rootSign⟩ '.' = some ⟨before, .path true [] []⟩ := rfl
    exact exists_foldlM_steps areNames (List.cons_ne_nil _ _) before true onward

/-! ### Rows of lexemes -/

theorem nameOperand_of_not_mem {name : String} (notKeyword : name ∉ keywords) :
    nameOperand name = .function name := by
  unfold nameOperand
  rw [if_neg, if_neg]
  · rintro rfl
    exact notKeyword (by decide)
  · rintro rfl
    exact notKeyword (by decide)

theorem readsAs_atom {operand : Operand} (isAtom : operand.isAtom) :
    ReadsAs operand.written (.operand operand) := by
  cases operand with
  | dot path => exact readsAs_dot (List.all_eq_true.mp isAtom)
  | root path => exact readsAs_root (List.all_eq_true.mp isAtom)
  | text value => exact readsAs_text value
  | integer value => exact readsAs_integer (of_decide_eq_true isAtom)
  | boolean value =>
    cases value with
    | true => exact readsAs_name (by decide : isName "true")
    | false => exact readsAs_name (by decide : isName "false")
  | function name =>
    obtain ⟨isName, notKeyword⟩ := (Bool.and_eq_true _ _).mp isAtom
    have reads := readsAs_name isName
    rw [nameOperand_of_not_mem (of_decide_eq_true notKeyword)] at reads
    exact reads
  | group commands => cases isAtom

theorem readsAs_lexeme {lexeme : Lexeme} (writable : lexeme.isWritable) :
    ReadsAs lexeme.written lexeme := by
  cases lexeme with
  | operand value => exact readsAs_atom writable
  | opening | closing | bar => exact fun before => ⟨_, rfl, ends_between _⟩

theorem Ends.blank {lexing done : Lexing} (ends : lexing.Ends done) :
    lexing.advance? ' ' = some done := by
  rw [ends.stops ' ' (.inl rfl)]
  rfl

theorem Ends.closing {lexing : Lexing} {before : List Lexeme}
    (ends : lexing.Ends ⟨before, .between⟩) :
    lexing.advance? ')' = advance? ⟨before, .between⟩ ')' :=
  ends.stops ')' (.inr rfl)

/-- Behind a lexeme its separator brings lexing between lexemes, or the next lexeme does. -/
theorem foldlM_separator {lexeme next : Lexeme} {before : List Lexeme} {lexing : Lexing}
    (read : lexeme.written.foldlM advance? ⟨before, .between⟩ = some lexing)
    (ends : lexing.Ends ⟨lexeme :: before, .between⟩) (following : List Char) :
    (separator lexeme next ++ (next.written ++ following)).foldlM advance? lexing =
      (next.written ++ following).foldlM advance? ⟨lexeme :: before, .between⟩ := by
  unfold separator
  split
  · cases read
    rfl
  · show (')' :: following).foldlM advance? lexing = (')' :: following).foldlM advance? _
    rw [List.foldlM_cons, List.foldlM_cons, ends.closing]
  · rw [List.singleton_append, List.foldlM_cons, ends.blank]
    rfl

theorem exists_writtenLexemes (lexeme : Lexeme) (rest : List Lexeme) :
    ∃ following, writtenLexemes (lexeme :: rest) = lexeme.written ++ following := by
  cases rest with
  | nil => exact ⟨[], (List.append_nil _).symm⟩
  | cons next rest => exact ⟨_, rfl⟩

/-- Lexemes are read back one after the other. -/
theorem exists_foldlM_lexemes {lexemes : List Lexeme} (nonempty : lexemes ≠ [])
    (writable : ∀ lexeme ∈ lexemes, lexeme.isWritable) (before : List Lexeme) :
    ∃ lexing, (writtenLexemes lexemes).foldlM advance? ⟨before, .between⟩ = some lexing ∧
      lexing.Ends ⟨lexemes.reverse ++ before, .between⟩ := by
  induction lexemes generalizing before with
  | nil => exact absurd rfl nonempty
  | cons lexeme rest inductionHypothesis =>
    obtain ⟨isWritable, restAre⟩ := List.forall_mem_cons.mp writable
    obtain ⟨lexing, read, ends⟩ := readsAs_lexeme isWritable before
    cases rest with
    | nil => exact ⟨lexing, read, ends⟩
    | cons next rest =>
      obtain ⟨done, restRead, restEnds⟩ :=
        inductionHypothesis (List.cons_ne_nil _ _) restAre (lexeme :: before)
      obtain ⟨following, startsWithNext⟩ := exists_writtenLexemes next rest
      refine ⟨done, ?_, ?_⟩
      · rw [writtenLexemes, List.foldlM_append, read]
        show (separator lexeme next ++ writtenLexemes (next :: rest)).foldlM advance? lexing = _
        rw [startsWithNext, foldlM_separator read ends, ← startsWithNext, restRead]
      · rw [List.reverse_cons, List.append_assoc, List.singleton_append]
        exact restEnds

theorem lexemes?_writtenLexemes {lexemes : List Lexeme} (nonempty : lexemes ≠ [])
    (writable : ∀ lexeme ∈ lexemes, lexeme.isWritable) :
    lexemes? (writtenLexemes lexemes) = some lexemes := by
  obtain ⟨lexing, read, ends⟩ := exists_foldlM_lexemes nonempty writable []
  unfold lexemes?
  rw [read]
  show (lexing.finish? >>= _) = _
  rw [ends.finishes, List.append_nil]
  show some lexemes.reverse.reverse = _
  rw [List.reverse_reverse]

end Lexing

/-! ### Expressions -/

theorem of_isWritableExpression {expression : Expression}
    (writable : isWritableExpression expression) :
    expression ≠ [] ∧ areWritableCommands expression := by
  obtain ⟨nonempty, areWritable⟩ := (Bool.and_eq_true _ _).mp writable
  refine ⟨?_, areWritable⟩
  rintro rfl
  cases nonempty

mutual

/-- Every lexeme of an operand that can be read back can be read back itself. -/
theorem Operand.isWritable_of_mem_lexemes : ∀ operand : Operand, operand.isWritable →
    ∀ lexeme ∈ operand.lexemes, lexeme.isWritable
  | .dot _, writable, lexeme, member | .root _, writable, lexeme, member
  | .text _, writable, lexeme, member | .integer _, writable, lexeme, member
  | .boolean _, writable, lexeme, member | .function _, writable, lexeme, member => by
    rw [Operand.lexemes, List.mem_singleton] at member
    · subst member
      rw [Operand.isWritable] at writable
      · exact writable
      · intro _ absurdity
        cases absurdity
    · intro _ absurdity
      cases absurdity
  | .group commands, writable, lexeme, member => by
    rw [Operand.isWritable, Bool.and_eq_true] at writable
    rw [Operand.lexemes, List.mem_cons, List.mem_append, List.mem_singleton] at member
    rcases member with rfl | inside | rfl
    · rfl
    · exact isWritable_of_mem_commands commands writable.2 lexeme inside
    · rfl

theorem Command.isWritable_of_mem_lexemes : ∀ command : Command, command.isWritable →
    ∀ lexeme ∈ command.lexemes, lexeme.isWritable
  | .mk head arguments, writable, lexeme, member => by
    rw [Command.isWritable, Bool.and_eq_true, Bool.and_eq_true] at writable
    rw [Command.lexemes, List.mem_append] at member
    rcases member with inHead | inArguments
    · exact head.isWritable_of_mem_lexemes writable.1.2 lexeme inHead
    · exact isWritable_of_mem_operands arguments writable.2 lexeme inArguments

theorem isWritable_of_mem_operands : ∀ operands : List Operand, areWritableOperands operands →
    ∀ lexeme ∈ lexemesOfOperands operands, lexeme.isWritable
  | [], _, lexeme, member => by
    rw [lexemesOfOperands] at member
    cases member
  | operand :: rest, writable, lexeme, member => by
    rw [areWritableOperands, Bool.and_eq_true] at writable
    rw [lexemesOfOperands, List.mem_append] at member
    rcases member with inFirst | inRest
    · exact operand.isWritable_of_mem_lexemes writable.1 lexeme inFirst
    · exact isWritable_of_mem_operands rest writable.2 lexeme inRest

theorem isWritable_of_mem_commands : ∀ commands : List Command, areWritableCommands commands →
    ∀ lexeme ∈ lexemesOfCommands commands, lexeme.isWritable
  | [], _, lexeme, member => by
    rw [lexemesOfCommands] at member
    cases member
  | command :: rest, writable, lexeme, member => by
    rw [areWritableCommands, Bool.and_eq_true] at writable
    rw [lexemesOfCommands, List.mem_append] at member
    rcases member with inFirst | inRest
    · exact command.isWritable_of_mem_lexemes writable.1 lexeme inFirst
    · exact isWritable_of_mem_behindBars rest writable.2 lexeme inRest

theorem isWritable_of_mem_behindBars : ∀ commands : List Command, areWritableCommands commands →
    ∀ lexeme ∈ lexemesBehindBars commands, lexeme.isWritable
  | [], _, lexeme, member => by
    rw [lexemesBehindBars] at member
    cases member
  | command :: rest, writable, lexeme, member => by
    rw [areWritableCommands, Bool.and_eq_true] at writable
    rw [lexemesBehindBars, List.mem_cons, List.mem_append] at member
    rcases member with rfl | inFirst | inRest
    · rfl
    · exact command.isWritable_of_mem_lexemes writable.1 lexeme inFirst
    · exact isWritable_of_mem_behindBars rest writable.2 lexeme inRest

end

theorem OpenExpression.finishCommand?_of_operands {commands : List Command} {head : Operand}
    {arguments : List Operand} (takes : (arguments.isEmpty || head.isFunction) = true) :
    finishCommand? ⟨commands, arguments.reverse ++ [head]⟩ =
      some (.mk head arguments :: commands) := by
  unfold finishCommand?
  rw [List.reverse_append, List.reverse_reverse]
  exact if_pos takes

theorem OpenExpression.finish?_of_finishCommand? {whole : OpenExpression} {command : Command}
    {rest : List Command} (finished : whole.finishCommand? = some (rest.reverse ++ [command])) :
    whole.finish? = some (command :: rest) := by
  unfold finish?
  rw [finished, Option.map_some, List.reverse_append, List.reverse_reverse]
  rfl

mutual

/-- The lexemes of an operand are read as one more operand. -/
theorem Operand.foldlM_lexemes : ∀ operand : Operand, operand.isWritable →
    ∀ (commands : List Command) (operands : List Operand) (outer : List OpenExpression),
      operand.lexemes.foldlM Parsing.advance? ⟨⟨commands, operands⟩, outer⟩ =
        some ⟨⟨commands, operand :: operands⟩, outer⟩
  | .dot _, _, _, _, _ | .root _, _, _, _, _ | .text _, _, _, _, _ | .integer _, _, _, _, _
  | .boolean _, _, _, _, _ | .function _, _, _, _, _ => by
    rw [Operand.lexemes]
    · rfl
    · intro _ absurdity
      cases absurdity
  | .group [], writable, _, _, _ => by
    rw [Operand.isWritable] at writable
    cases writable
  | .group (command :: rest), writable, commands, operands, outer => by
    rw [Operand.isWritable, areWritableCommands, Bool.and_eq_true, Bool.and_eq_true] at writable
    rw [Operand.lexemes, lexemesOfCommands, List.foldlM_cons]
    show (_ ++ [Lexeme.closing]).foldlM Parsing.advance?
      ⟨⟨[], []⟩, ⟨commands, operands⟩ :: outer⟩ = _
    obtain ⟨inner, read, finished⟩ :=
      command.exists_foldlM_lexemes writable.2.1 [] (⟨commands, operands⟩ :: outer)
    obtain ⟨last, restRead, restFinished⟩ :=
      exists_foldlM_behindBars rest writable.2.2 finished (⟨commands, operands⟩ :: outer)
    rw [List.foldlM_append, List.foldlM_append, read]
    show ((lexemesBehindBars rest).foldlM Parsing.advance? _ >>= _) = _
    rw [restRead]
    show (last.finish?.map _ >>= _) = _
    rw [OpenExpression.finish?_of_finishCommand? restFinished]
    rfl

/-- The lexemes of operands are read as these operands. -/
theorem foldlM_lexemesOfOperands : ∀ arguments : List Operand, areWritableOperands arguments →
    ∀ (commands : List Command) (operands : List Operand) (outer : List OpenExpression),
      (lexemesOfOperands arguments).foldlM Parsing.advance? ⟨⟨commands, operands⟩, outer⟩ =
        some ⟨⟨commands, arguments.reverse ++ operands⟩, outer⟩
  | [], _, _, _, _ => by
    rw [lexemesOfOperands]
    rfl
  | operand :: rest, writable, commands, operands, outer => by
    rw [areWritableOperands, Bool.and_eq_true] at writable
    rw [lexemesOfOperands, List.foldlM_append, operand.foldlM_lexemes writable.1]
    show (lexemesOfOperands rest).foldlM Parsing.advance? _ = _
    rw [foldlM_lexemesOfOperands rest writable.2, List.reverse_cons, List.append_assoc,
      List.singleton_append]

/-- The lexemes of a command are read as a command that can be finished. -/
theorem Command.exists_foldlM_lexemes : ∀ command : Command, command.isWritable →
    ∀ (commands : List Command) (outer : List OpenExpression),
      ∃ inner, command.lexemes.foldlM Parsing.advance? ⟨⟨commands, []⟩, outer⟩ =
          some ⟨inner, outer⟩ ∧
        inner.finishCommand? = some (command :: commands)
  | .mk head arguments, writable, commands, outer => by
    rw [Command.isWritable, Bool.and_eq_true, Bool.and_eq_true] at writable
    refine ⟨_, ?_, OpenExpression.finishCommand?_of_operands writable.1.1⟩
    rw [Command.lexemes, List.foldlM_append, head.foldlM_lexemes writable.1.2]
    exact foldlM_lexemesOfOperands arguments writable.2 commands [head] outer

/-- Commands behind bars are read as further commands. -/
theorem exists_foldlM_behindBars : ∀ rest : List Command, areWritableCommands rest →
    ∀ {inner : OpenExpression} {commands : List Command},
      inner.finishCommand? = some commands → ∀ outer : List OpenExpression,
        ∃ last, (lexemesBehindBars rest).foldlM Parsing.advance? ⟨inner, outer⟩ =
            some ⟨last, outer⟩ ∧
          last.finishCommand? = some (rest.reverse ++ commands)
  | [], _, inner, _, finished, _ => by
    rw [lexemesBehindBars]
    exact ⟨inner, rfl, finished⟩
  | command :: rest, writable, inner, commands, finished, outer => by
    rw [areWritableCommands, Bool.and_eq_true] at writable
    obtain ⟨next, read, nextFinished⟩ := command.exists_foldlM_lexemes writable.1 commands outer
    obtain ⟨last, restRead, restFinished⟩ :=
      exists_foldlM_behindBars rest writable.2 nextFinished outer
    have barRead : Parsing.advance? ⟨inner, outer⟩ .bar = some ⟨⟨commands, []⟩, outer⟩ := by
      show (inner.nextCommand?.map _) = _
      unfold OpenExpression.nextCommand?
      rw [finished]
      rfl
    refine ⟨last, ?_, ?_⟩
    · rw [lexemesBehindBars, List.foldlM_cons, barRead]
      show (command.lexemes ++ lexemesBehindBars rest).foldlM Parsing.advance? _ = _
      rw [List.foldlM_append, read]
      exact restRead
    · rw [restFinished, List.reverse_cons, List.append_assoc, List.singleton_append]

end

/-- The lexemes of an expression are put together as it was. -/
theorem expressionOf?_lexemes {expression : Expression}
    (writable : isWritableExpression expression) :
    expressionOf? (lexemesOfCommands expression) = some expression := by
  obtain ⟨nonempty, areWritable⟩ := of_isWritableExpression writable
  cases expression with
  | nil => exact absurd rfl nonempty
  | cons command rest =>
    rw [areWritableCommands, Bool.and_eq_true] at areWritable
    obtain ⟨inner, read, finished⟩ := command.exists_foldlM_lexemes areWritable.1 [] []
    obtain ⟨last, restRead, restFinished⟩ :=
      exists_foldlM_behindBars rest areWritable.2 finished []
    unfold expressionOf?
    rw [lexemesOfCommands, List.foldlM_append, OpenExpression.empty, read]
    show ((lexemesBehindBars rest).foldlM Parsing.advance? _ >>= _) = _
    rw [restRead]
    exact OpenExpression.finish?_of_finishCommand? restFinished

theorem Operand.lexemes_ne_nil (operand : Operand) : operand.lexemes ≠ [] := by
  cases operand <;> rw [Operand.lexemes] <;> simp

theorem lexemesOfCommands_ne_nil {expression : Expression} (nonempty : expression ≠ []) :
    lexemesOfCommands expression ≠ [] := by
  cases expression with
  | nil => exact absurd rfl nonempty
  | cons command rest =>
    obtain ⟨head, arguments⟩ := command
    rw [lexemesOfCommands, Command.lexemes]
    exact List.append_ne_nil_of_left_ne_nil
      (List.append_ne_nil_of_left_ne_nil head.lexemes_ne_nil _) _

/-- An expression is read from the text that it is written as. -/
theorem readExpression?_written {expression : Expression}
    (writable : isWritableExpression expression) :
    readExpression? (writtenExpression expression) = some expression := by
  obtain ⟨nonempty, areWritable⟩ := of_isWritableExpression writable
  unfold readExpression? writtenExpression
  rw [Lexing.lexemes?_writtenLexemes (lexemesOfCommands_ne_nil nonempty)
    (isWritable_of_mem_commands expression areWritable), Option.bind_some,
    expressionOf?_lexemes writable]

end LogForwarder.Template
