/-
This file proves that a text is read from the JSON string that it is written as. Every character of
the text stands for itself or is an escape, and neither completes a token before the closing quote;
so whoever cuts strings into tokens as JSON texts are cut finds the text, whatever stands around it.
-/

import LogForwarder.Json.Token
import Mathlib.Data.List.Forall2

namespace LogForwarder.Json

/-! ### Characters that complete no token -/

/-- The mode after a character that completes no token. -/
def Mode.silentStep? (mode : Mode) (c : Char) : Option Mode :=
  match mode.step c with
  | .ok (next, []) => some next
  | _ => none

/-- The characters between the quotes of a JSON string. -/
def literalBody (text : String) : List Char :=
  text.toList.flatMap fun c => (Value.escapedChar c).toList

theorem toList_textLiteral (text : String) :
    (Value.textLiteral text).toList = '"' :: (literalBody text ++ ['"']) := by
  unfold Value.textLiteral literalBody
  rw [String.toList_append, String.toList_append, String.toList_join, List.flatMap_map]
  rfl

/-- What needs no escape is written as it is. -/
theorem toList_escapedChar {c : Char} (visible : 32 ≤ c.toNat) (noQuote : c ≠ '"')
    (noBackslash : c ≠ '\\') : (Value.escapedChar c).toList = [c] := by
  have noControl (other : Char) (control : other.toNat < 32) : c ≠ other := by
    rintro rfl
    omega
  unfold Value.escapedChar
  rw [if_neg noQuote, if_neg noBackslash, if_neg (noControl '\n' (by decide)),
    if_neg (noControl '\r' (by decide)), if_neg (noControl '\t' (by decide)),
    if_neg (by omega), if_neg (by omega), if_neg (by omega), String.toList_singleton]

/-- A JSON string stands on one line, whatever its text. -/
theorem notMem_textLiteral (text : String) : '\n' ∉ (Value.textLiteral text).toList := by
  have escaped (c : Char) : '\n' ∉ (Value.escapedChar c).toList := by
    by_cases control : c.toNat < 32
    · have all : ∀ code < 32, '\n' ∉ (Value.escapedChar (Char.ofNat code)).toList := by decide
      rw [← Char.ofNat_toNat c]
      exact all _ control
    · by_cases isQuote : c = '"'
      · rw [isQuote]
        decide
      by_cases isBackslash : c = '\\'
      · rw [isBackslash]
        decide
      rw [toList_escapedChar (Nat.le_of_not_lt control) isQuote isBackslash,
        List.mem_singleton]
      rintro rfl
      exact control (by decide)
  rw [toList_textLiteral, literalBody]
  simp [escaped]

/-- Whether a part of a string stands for a character. -/
inductive TextPart.Means : TextPart → Char → Prop
  | char (c : Char) : Means (.char c) c
  | unit {value : Nat} (small : value < 32) : Means (.unit value) (Char.ofNat value)

/-- A hexadecimal digit is read as the number that it is written for. -/
theorem hexDigit?_digitChar : ∀ digit < 16, hexDigit? (Nat.digitChar digit) = some digit := by
  decide

/-- A control character is written with four digits, the first two of them zeros. -/
theorem toList_controlEscape : ∀ value < 32,
    ("\\u" ++ Value.fourDigits (Text.hexadecimal value)).toList =
      ['\\', 'u', '0', '0', Nat.digitChar (value / 16), Nat.digitChar (value % 16)] := by
  decide

theorem foldlM_controlEscape (parts : List TextPart) {value : Nat} (small : value < 32) :
    ("\\u" ++ Value.fourDigits (Text.hexadecimal value)).toList.foldlM Mode.silentStep?
      (.text parts) = some (.text (.unit value :: parts)) := by
  have high := hexDigit?_digitChar (value / 16) (by omega)
  have low := hexDigit?_digitChar (value % 16) (by omega)
  have zero : hexDigit? '0' = some 0 := rfl
  have whole : value / 16 * 16 + value % 16 = value := Nat.div_add_mod' value 16
  rw [toList_controlEscape value small]
  simp [Mode.silentStep?, Mode.step, stepText, stepEscape, stepHexEscape, high, low, zero, whole]

/-- An escaped character is one part of a string, and stands for the character. -/
theorem exists_foldlM_escapedChar (parts : List TextPart) (c : Char) :
    ∃ part : TextPart, part.Means c ∧
      (Value.escapedChar c).toList.foldlM Mode.silentStep? (.text parts) =
        some (.text (part :: parts)) := by
  unfold Value.escapedChar
  split
  · next isQuote => exact ⟨.char c, .char c, by rw [isQuote]; rfl⟩
  split
  · next isBackslash => exact ⟨.char c, .char c, by rw [isBackslash]; rfl⟩
  split
  · next isBreak => exact ⟨.char c, .char c, by rw [isBreak]; rfl⟩
  split
  · next isReturn => exact ⟨.char c, .char c, by rw [isReturn]; rfl⟩
  split
  · next isTab => exact ⟨.char c, .char c, by rw [isTab]; rfl⟩
  split
  · next code => 
    have isBackspace : c = Char.ofNat 8 := by rw [← code, Char.ofNat_toNat]
    exact ⟨.char c, .char c, by rw [isBackspace]; rfl⟩
  split
  · next code => 
    have isFeed : c = Char.ofNat 12 := by rw [← code, Char.ofNat_toNat]
    exact ⟨.char c, .char c, by rw [isFeed]; rfl⟩
  split
  · next small =>
    refine ⟨.unit c.toNat, ?_, foldlM_controlEscape parts small⟩
    have means := TextPart.Means.unit small
    rwa [Char.ofNat_toNat] at means
  · next notQuote notBackslash _ _ _ _ _ plain =>
    refine ⟨.char c, .char c, ?_⟩
    have stepped : Mode.silentStep? (.text parts) c = some (.text (.char c :: parts)) := by
      simp [Mode.silentStep?, Mode.step, stepText, notQuote, notBackslash, plain]
    rw [String.toList_singleton, List.foldlM_cons, stepped]
    rfl

/-! ### Strings -/

/-- The parts of a string that stand for some characters are joined to these characters. -/
theorem joinParts_of_means {parts : List TextPart} {chars : List Char}
    (means : List.Forall₂ TextPart.Means parts chars) : joinParts parts = .ok chars := by
  induction means with
  | nil => rfl
  | @cons part c parts chars partMeans _ inductionHypothesis =>
    cases partMeans with
    | char =>
      rw [joinParts, inductionHypothesis]
      rfl
    | @unit value small =>
      have below : (value < 0xD800 || 0xDFFF < value) = true := by
        rw [decide_eq_true (by omega : value < 0xD800), Bool.true_or]
      unfold joinParts
      rw [if_pos below, inductionHypothesis]
      rfl

/-- What stands between the quotes of a string completes no token, and is the parts of the text. -/
theorem exists_foldlM_literalBody (text : String) :
    ∃ parts, textToken parts.reverse = .text text ∧
      (literalBody text).foldlM Mode.silentStep? (.text []) = some (.text parts) := by
  have run (chars : List Char) (before : List TextPart) : ∃ parts,
      List.Forall₂ TextPart.Means parts chars ∧
        (chars.flatMap fun c => (Value.escapedChar c).toList).foldlM Mode.silentStep?
          (.text before) = some (.text (parts.reverse ++ before)) := by
    induction chars generalizing before with
    | nil => exact ⟨[], .nil, rfl⟩
    | cons c rest inductionHypothesis =>
      obtain ⟨part, means, stepped⟩ := exists_foldlM_escapedChar before c
      obtain ⟨parts, restMeans, folded⟩ := inductionHypothesis (part :: before)
      refine ⟨part :: parts, .cons means restMeans, ?_⟩
      rw [List.flatMap_cons, List.foldlM_append, stepped, List.reverse_cons, List.append_assoc]
      exact folded
  obtain ⟨parts, means, folded⟩ := run text.toList []
  refine ⟨parts.reverse, ?_, ?_⟩
  · rw [List.reverse_reverse, textToken, joinParts_of_means means]
    show Token.text (String.ofList text.toList) = _
    rw [String.ofList_toList]
  · rw [List.append_nil] at folded
    exact folded

end LogForwarder.Json
