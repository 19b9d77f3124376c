/-
This file proves what decimal numerals stand for: the digits that a number is written with are read
as the number, they begin with a zero for zero alone, and they end where anything else begins. All
texts that hold numbers are read through these lemmas, whatever else they hold.
-/

import LogForwarder.Text.Numeral
import Mathlib.Algebra.Group.Nat.Defs

namespace LogForwarder.Text

/-! ### Digits of a number -/

theorem digitsValue_toDigits (value : Nat) : digitsValue (Nat.toDigits 10 value) = value := by
  have folded := Nat.ofDigitChars_toDigits (b := 10) (n := value) (by decide) (by decide)
  unfold Nat.ofDigitChars at folded
  unfold digitsValue
  simp only [Nat.mul_comm] at folded ⊢
  exact folded

theorem toList_toString (value : Nat) : (toString value).toList = Nat.toDigits 10 value := by
  rw [Nat.toString_eq_ofList_toDigits, String.toList_ofList]

theorem isDigit_of_mem_toDigits {value : Nat} {c : Char} (member : c ∈ Nat.toDigits 10 value) :
    c.isDigit :=
  Nat.isDigit_of_mem_toDigits (by decide) (by decide) member

theorem toDigits_ne_nil (value : Nat) : Nat.toDigits 10 value ≠ [] :=
  List.ne_nil_of_length_pos Nat.length_toDigits_pos

theorem all_isDigit_toDigits (value : Nat) : (Nat.toDigits 10 value).all Char.isDigit :=
  List.all_eq_true.mpr fun _ member => isDigit_of_mem_toDigits member

/-- Digits that stand for a number: at least one, and nothing else. -/
structure IsNumeral (digits : List Char) : Prop where
  nonempty : digits ≠ []
  areDigits : digits.all Char.isDigit

theorem isNumeral_toDigits (value : Nat) : IsNumeral (Nat.toDigits 10 value) :=
  ⟨toDigits_ne_nil value, all_isDigit_toDigits value⟩

theorem isNumeral_iff (digits : List Char) :
    IsNumeral digits ↔ digits.isEmpty = false ∧ digits.all Char.isDigit :=
  ⟨fun isNumeral => ⟨List.isEmpty_eq_false_iff.mpr isNumeral.nonempty, isNumeral.areDigits⟩,
    fun both => ⟨List.isEmpty_eq_false_iff.mp both.1, both.2⟩⟩

/-- What a numeral is read as, up to a bound. -/
theorem numeral?_eq_some_iff (bound : Nat) (digits : List Char) (value : Nat) :
    numeral? bound digits = some value ↔
      IsNumeral digits ∧ digitsValue digits = value ∧ value ≤ bound := by
  unfold numeral?
  rw [isNumeral_iff]
  grind

theorem numeral?_toDigits {bound value : Nat} (within : value ≤ bound) :
    numeral? bound (Nat.toDigits 10 value) = some value :=
  (numeral?_eq_some_iff bound _ value).mpr
    ⟨isNumeral_toDigits value, digitsValue_toDigits value, within⟩

theorem digitsValue_append_zeros (digits : List Char) (zeros : Nat) :
    digitsValue (digits ++ List.replicate zeros '0') = digitsValue digits * 10 ^ zeros := by
  induction zeros with
  | zero => simp
  | succ zeros inductionHypothesis =>
    rw [List.replicate_succ', ← List.append_assoc, Nat.pow_succ, ← Nat.mul_assoc,
      ← inductionHypothesis]
    unfold digitsValue
    rw [List.foldl_append, List.foldl_cons, List.foldl_nil]
    rfl

theorem digitsValue_zeros_append (zeros : Nat) (digits : List Char) :
    digitsValue (List.replicate zeros '0' ++ digits) = digitsValue digits := by
  induction zeros with
  | zero => rfl
  | succ zeros inductionHypothesis => exact inductionHypothesis

/-- The first digit of a number is zero for zero alone. -/
theorem exists_toDigits_of_pos {value : Nat} (positive : 0 < value) :
    ∃ c rest, Nat.toDigits 10 value = c :: rest ∧ c ≠ '0' := by
  induction value using Nat.strongRecOn with
  | ind value inductionHypothesis =>
    rw [Nat.toDigits_eq_if (by decide)]
    split
    · next small =>
      refine ⟨_, [], rfl, fun zero => ?_⟩
      have same : (Nat.digitChar value).toNat = '0'.toNat := by rw [zero]
      rw [Nat.toNat_digitChar_of_lt_ten small] at same
      have code : '0'.toNat = 48 := rfl
      omega
    · next large =>
      obtain ⟨c, rest, digits, notZero⟩ := inductionHypothesis (value / 10) (by omega) (by omega)
      exact ⟨c, _, by rw [digits, List.cons_append], notZero⟩

/-- Digits end where another character begins. -/
theorem spanDigits_append {digits : List Char} (areDigits : digits.all Char.isDigit) {c : Char}
    (rest : List Char) (ends : c.isDigit = false) :
    spanDigits (digits ++ c :: rest) = (digits, c :: rest) := by
  have each : ∀ digit ∈ digits, digit.isDigit = true := List.all_eq_true.mp areDigits
  unfold spanDigits
  rw [List.takeWhile_append_of_pos each, List.dropWhile_append_of_pos each,
    List.takeWhile_cons_of_neg (by simp [ends]), List.dropWhile_cons_of_neg (by simp [ends]),
    List.append_nil]

end LogForwarder.Text
