/-
This file finds out which texts literal strings of TOML can hold. Such strings have no escapes: a
text can stand in one only if each of its characters may stand there as it is and none of its quotes
closes the string. What is read from a literal string can always stand in one, so that a text comes
back exactly if it can.
-/

import LogForwarder.Toml.Text

namespace LogForwarder.Toml

/-! ### Strings on one line -/

/-- Whether some characters can stand between single quotes. -/
def isLiteral (chars : List Char) : Bool := chars.all fun c => isPlain c && c ≠ '\''

theorem isLiteral_cons (c : Char) (rest : List Char) :
    isLiteral (c :: rest) ↔ (isPlain c ∧ c ≠ '\'') ∧ isLiteral rest := by
  simp [isLiteral]

theorem literalText_cons (taken : List Char) {c : Char} (noQuote : c ≠ '\'') (rest : List Char) :
    literalText taken (c :: rest) =
      if isPlain c then literalText (c :: taken) rest else none := by
  rw [literalText]
  simpa using noQuote

theorem literalText_of_isLiteral {chars : List Char} (literal : isLiteral chars)
    (taken rest : List Char) :
    literalText taken (chars ++ '\'' :: rest) = some (taken.reverse ++ chars, rest) := by
  induction chars generalizing taken with
  | nil =>
    rw [List.append_nil]
    rfl
  | cons c others inductionHypothesis =>
    obtain ⟨⟨plain, noQuote⟩, othersLiteral⟩ := (isLiteral_cons c others).mp literal
    rw [List.cons_append, literalText_cons taken noQuote, if_pos plain,
      inductionHypothesis othersLiteral, List.reverse_cons, List.append_assoc]
    rfl

theorem isLiteral_of_literalText {taken chars read rest : List Char}
    (isRead : literalText taken chars = some (read, rest)) :
    ∃ body, read = taken.reverse ++ body ∧ isLiteral body := by
  induction chars generalizing taken with
  | nil => cases isRead
  | cons c others inductionHypothesis =>
    by_cases quote : c = '\''
    · subst quote
      cases isRead
      exact ⟨[], (List.append_nil _).symm, rfl⟩
    · rw [literalText_cons taken quote] at isRead
      split at isRead
      · next plain =>
        obtain ⟨body, isBody, literal⟩ := inductionHypothesis isRead
        refine ⟨c :: body, ?_, (isLiteral_cons c body).mpr ⟨⟨plain, quote⟩, literal⟩⟩
        rw [isBody, List.reverse_cons, List.append_assoc]
        rfl
      · cases isRead

/-! ### Strings on several lines -/

/-- Whether some characters can stand between triples of single quotes. -/
def areLiteralLines : List Char → Bool
  | [] => true
  | '\'' :: '\'' :: '\'' :: _ => false
  | '\r' :: '\n' :: rest => areLiteralLines rest
  | c :: rest => (c = '\n' || isPlain c) && areLiteralLines rest

theorem literalLines_cons (taken : List Char) {c : Char} {rest : List Char}
    (noQuotes : ∀ others, c = '\'' → rest = '\'' :: '\'' :: others → False)
    (noBreak : ∀ others, c = '\r' → rest = '\n' :: others → False) :
    literalLines taken (c :: rest) =
      if c = '\n' || isPlain c then literalLines (c :: taken) rest else none := by
  rw [literalLines]
  · exact fun others isQuote two => noQuotes _ isQuote two
  · exact fun others isQuote two => noQuotes _ isQuote two
  · exact noQuotes
  · exact noBreak

theorem getLast?_ne_of_cons {c last : Char} {rest : List Char}
    (notLast : (c :: rest).getLast? ≠ some last) : rest.getLast? ≠ some last := by
  cases rest with
  | nil => exact (nomatch ·)
  | cons next others => rwa [List.getLast?_cons_cons] at notLast

/-- A triple of quotes closes a text that can stand before it, if no quote is next to it. -/
theorem literalLines_of_areLiteralLines {chars : List Char} (literal : areLiteralLines chars)
    (notLast : chars.getLast? ≠ some '\'') (taken : List Char) {rest : List Char}
    (notNext : rest.head? ≠ some '\'') :
    literalLines taken (chars ++ '\'' :: '\'' :: '\'' :: rest) =
      some (taken.reverse ++ chars, rest) := by
  induction chars using areLiteralLines.induct generalizing taken with
  | case1 =>
    rw [List.nil_append, List.append_nil, literalLines]
    · rintro others rfl
      exact notNext rfl
    · rintro others rfl
      exact notNext rfl
  | case2 others => cases literal
  | case3 others inductionHypothesis =>
    rw [areLiteralLines] at literal
    rw [List.cons_append, List.cons_append, literalLines,
      inductionHypothesis literal (getLast?_ne_of_cons (getLast?_ne_of_cons notLast))]
    simp only [List.reverse_cons, List.append_assoc, List.cons_append, List.nil_append]
  | case4 c others noQuotes noBreak inductionHypothesis =>
    rw [areLiteralLines, Bool.and_eq_true] at literal
    · rw [List.cons_append, literalLines_cons, if_pos literal.1,
        inductionHypothesis literal.2 (getLast?_ne_of_cons notLast)]
      · simp only [List.reverse_cons, List.append_assoc, List.cons_append, List.nil_append]
      · -- Two quotes would have to be in the text, or one of them next to the triple.
        rintro _ rfl two
        match others, two with
        | [], _ => exact notLast rfl
        | [_], two => exact notLast (by rw [(List.cons.inj two).1]; rfl)
        | _ :: _ :: _, two =>
          obtain ⟨rfl, more⟩ := List.cons.inj two
          obtain ⟨rfl, _⟩ := List.cons.inj more
          exact noQuotes _ rfl rfl
      · rintro _ rfl broken
        match others, broken with
        | [], broken => exact absurd (List.cons.inj broken).1 (by decide)
        | _ :: _, broken =>
          obtain ⟨rfl, _⟩ := List.cons.inj broken
          exact noBreak _ rfl rfl
    · exact noQuotes
    · exact noBreak

theorem areLiteralLines_of_literalLines {taken chars read rest : List Char}
    (isRead : literalLines taken chars = some (read, rest)) :
    ∃ body, read = taken.reverse ++ body ∧ chars = body ++ '\'' :: '\'' :: '\'' :: rest ∧
      areLiteralLines body := by
  fun_induction literalLines taken chars with
  | case1 => cases isRead
  | case2 =>
    cases isRead
    exact ⟨['\'', '\''], by simp, rfl, rfl⟩
  | case3 =>
    cases isRead
    exact ⟨['\''], by simp, rfl, rfl⟩
  | case4 =>
    cases isRead
    exact ⟨[], (List.append_nil _).symm, rfl, rfl⟩
  | case5 taken others inductionHypothesis =>
    obtain ⟨body, isBody, split, literal⟩ := inductionHypothesis isRead
    refine ⟨'\r' :: '\n' :: body, ?_, by rw [split]; rfl, literal⟩
    rw [isBody]
    simp
  | case6 taken c others _ _ noQuotes noBreak allowed inductionHypothesis =>
    obtain ⟨body, isBody, split, literal⟩ := inductionHypothesis isRead
    refine ⟨c :: body, ?_, by rw [split]; rfl, ?_⟩
    · rw [isBody]
      simp
    · rw [areLiteralLines, allowed, literal]
      · rfl
      · rintro tail isQuote rfl
        exact noQuotes _ isQuote split
      · rintro tail isReturn rfl
        exact noBreak _ isReturn split
  | case7 => cases isRead

/-! ### Literal strings -/

/-- What a literal string is to hold, and in which of the two forms. -/
inductive Literal
  | line (chars : List Char)
  /-- Lines that stand between two lines of quotes. -/
  | lines (chars : List Char)

namespace Literal

/-- A literal string as it is written. -/
def written : Literal → List Char
  | line chars => '\'' :: (chars ++ ['\''])
  | lines chars => '\'' :: '\'' :: '\'' :: '\n' :: (chars ++ ['\n', '\'', '\'', '\''])

/-- What is meant by a literal string. Lines end with a line break. -/
def value : Literal → List Char
  | line chars => chars
  | lines chars => chars ++ ['\n']

/-- Whether a literal string can hold what it is to hold. -/
def isSound : Literal → Bool
  | line chars => isLiteral chars
  | lines chars => areLiteralLines (chars ++ ['\n'])

/-- Whether the quotes in front of what a literal string is to hold are all its own. -/
def IsOpened : Literal → Prop
  | line chars => chars.head? ≠ some '\''
  | lines _ => True

theorem readText_line {chars rest : List Char} (opened : chars.head? ≠ some '\'')
    (apart : rest.head? ≠ some '\'') :
    readText ((line chars).written ++ rest) =
      readText.finish (literalText [] (chars ++ '\'' :: rest)) := by
  show readText ('\'' :: (chars ++ ['\'']) ++ rest) = _
  rw [List.cons_append, List.append_assoc, List.singleton_append, readText]
  intro others triple
  match chars, triple with
  | [], triple => exact apart (by rw [(List.cons.inj triple).2]; rfl)
  | _ :: _, triple => exact opened (congrArg some (List.cons.inj triple).1)

theorem readText_lines (chars rest : List Char) :
    readText ((lines chars).written ++ rest) =
      readText.finish
        (literalLines [] ((chars ++ ['\n']) ++ '\'' :: '\'' :: '\'' :: rest)) := by
  show readText.finish (literalLines [] ((chars ++ ['\n', '\'', '\'', '\'']) ++ rest)) = _
  rw [List.append_assoc, List.append_assoc]
  rfl

theorem getLast?_written (literal : Literal) : literal.written.getLast? = some '\'' := by
  cases literal with
  | line chars =>
    show (('\'' :: chars) ++ ['\'']).getLast? = _
    exact List.getLast?_concat
  | lines chars =>
    show (('\'' :: '\'' :: '\'' :: '\n' :: chars) ++ ['\n', '\'', '\'', '\'']).getLast? = _
    rw [List.getLast?_append]
    rfl

variable {literal : Literal} {rest : List Char}

/-- A literal string that can hold what it is to hold is read as that. -/
theorem readText_of_isSound (opened : literal.IsOpened) (apart : rest.head? ≠ some '\'')
    (sound : literal.isSound) :
    readText (literal.written ++ rest) = some (String.ofList literal.value, rest) := by
  cases literal with
  | line chars =>
    rw [readText_line opened apart, literalText_of_isLiteral sound]
    rfl
  | lines chars =>
    have notLast : (chars ++ ['\n']).getLast? ≠ some '\'' := by
      rw [List.getLast?_concat]
      decide
    rw [readText_lines, literalLines_of_areLiteralLines sound notLast [] apart]
    rfl

/-- A literal string that is read as what it is to hold can hold that. -/
theorem isSound_of_readText (opened : literal.IsOpened) (apart : rest.head? ≠ some '\'')
    {others : List Char}
    (isRead : readText (literal.written ++ rest) = some (String.ofList literal.value, others)) :
    literal.isSound := by
  cases literal with
  | line chars =>
    rw [readText_line opened apart] at isRead
    obtain ⟨⟨read, _⟩, found, same⟩ := Option.map_eq_some_iff.mp isRead
    obtain ⟨body, isBody, sound⟩ := isLiteral_of_literalText found
    have isChars : read = chars := String.ofList_injective (Prod.ext_iff.mp same).1
    rw [← isChars, isBody]
    exact sound
  | lines chars =>
    rw [readText_lines] at isRead
    obtain ⟨⟨read, _⟩, found, same⟩ := Option.map_eq_some_iff.mp isRead
    obtain ⟨body, isBody, _, sound⟩ := areLiteralLines_of_literalLines found
    have isChars : read = chars ++ ['\n'] := String.ofList_injective (Prod.ext_iff.mp same).1
    rw [isSound, ← isChars, isBody]
    exact sound

end Literal

end LogForwarder.Toml
