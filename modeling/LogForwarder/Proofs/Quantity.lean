/-
This file proves which texts are durations and which are sizes, and how many milliseconds or bytes
each of them stands for. The grammar says so without saying how a text is read: digits and a unit,
for durations a decimal number of seconds with up to three digits after its point, and for sizes
digits alone, or a unit in letters of any case. No text stands for two durations. One way of finding
where the digits end serves both.

A duration is written in the largest unit that keeps it whole, or as a decimal number of seconds,
and a size in the largest unit that keeps it whole. Either is a text of the grammar for its amount,
and so it is read as this amount unless it is too large.
-/
import LogForwarder.Proofs.Numeral
import LogForwarder.Quantity
import Mathlib.Data.List.TakeWhile

namespace LogForwarder

/-! ### Characters at the ends -/

namespace Text

/-- A list without blanks is not trimmed. -/
theorem trimChars_of_noBlank {chars : List Char} (noBlank : ∀ c ∈ chars, isBlank c = false) :
    trimChars chars = chars := by
  have kept {others : List Char} (among : ∀ c ∈ others, c ∈ chars) :
      others.dropWhile isBlank = others := by
    cases others with
    | nil => rfl
    | cons c rest =>
      have visible := noBlank c (among c List.mem_cons_self)
      exact List.dropWhile_cons_of_neg (by simp [visible])
  unfold trimChars dropWhileEnd
  rw [kept fun _ member => member, kept fun _ member => List.mem_reverse.mp member,
    List.reverse_reverse]

theorem isBlank_of_isDigit {c : Char} (isDigit : c.isDigit) : isBlank c = false := by
  obtain ⟨low, high⟩ := (Bool.and_eq_true _ _).mp isDigit
  have atLeast : 48 ≤ c.toNat := by simpa [UInt32.le_iff_toNat_le] using low
  have atMost : c.toNat ≤ 57 := by simpa [UInt32.le_iff_toNat_le] using high
  unfold isBlank
  grind

theorem IsNumeral.isBlank {digits : List Char} (isNumeral : IsNumeral digits) :
    ∀ c ∈ digits, isBlank c = false := fun c member =>
  isBlank_of_isDigit (List.all_eq_true.mp isNumeral.areDigits c member)

end Text

/-! ### Amounts -/

/-- A text is split where its digits end, if there are any and something follows them. -/
theorem splitAmount_eq_ok_iff (text : String) (digits : List Char) (unit : String) :
    splitAmount text = .ok (digits, unit) ↔
      Text.IsNumeral digits ∧ text.toList = digits ++ unit.toList ∧
        ∃ c rest, unit.toList = c :: rest ∧ c.isDigit = false := by
  refine ⟨fun made => ?_, ?_⟩
  · unfold splitAmount Text.spanDigits at made
    split at made
    · cases made
    · cases made
    · next someUnit someDigits spanned =>
      cases made
      obtain ⟨rfl, rfl⟩ := Prod.mk.inj spanned
      rw [String.toList_ofList, List.takeWhile_append_dropWhile]
      refine ⟨⟨someDigits, List.all_takeWhile⟩, rfl, _, _, (List.cons_head_tail someUnit).symm, ?_⟩
      exact List.head_dropWhile_not _ someUnit
  · rintro ⟨isNumeral, whole, c, rest, follows, ends⟩
    obtain ⟨digit, others, rfl⟩ := List.exists_cons_of_ne_nil isNumeral.nonempty
    unfold splitAmount
    rw [whole, follows, Text.spanDigits_append isNumeral.areDigits rest ends]
    simp only [← follows, String.ofList_toList]

/-! ### Units -/

/-- What the units of sizes and of durations have in common. -/
structure IsUnitOfAmount (unit : List Char) (size : Nat) : Prop where
  begins : ∃ c rest, unit = c :: rest ∧ c.isDigit = false
  visible : ∀ c ∈ unit, Text.isBlank c = false
  positive : 0 < size

/-- Digits with a unit behind them are cut there. -/
theorem splitAmount_append {digits unit : List Char} {size : Nat}
    (isNumeral : Text.IsNumeral digits) (isUnit : IsUnitOfAmount unit size) :
    splitAmount (String.ofList (digits ++ unit)) = .ok (digits, String.ofList unit) := by
  rw [splitAmount_eq_ok_iff, String.toList_ofList, String.toList_ofList]
  exact ⟨isNumeral, rfl, isUnit.begins⟩

/-- Digits whose number of units is not too large are not too large themselves. -/
theorem numeral?_of_units {digits unit : List Char} {bound size : Nat}
    (isNumeral : Text.IsNumeral digits) (isUnit : IsUnitOfAmount unit size)
    (within : Text.digitsValue digits * size ≤ bound) :
    Text.numeral? bound digits = some (Text.digitsValue digits) :=
  (Text.numeral?_eq_some_iff _ _ _).mpr
    ⟨isNumeral, rfl, Nat.le_trans (Nat.le_mul_of_pos_right _ isUnit.positive) within⟩

/-- What is found in a table of units are the units, if it has just them. -/
theorem lookup_eq_some_iff_isUnit {units : List (String × Nat)} {IsUnit : List Char → Nat → Prop}
    (areUnits : ∀ entry ∈ units, IsUnit entry.1.toList entry.2)
    (hasAll : ∀ chars size, IsUnit chars size → units.lookup (String.ofList chars) = some size)
    (unit : String) (size : Nat) : units.lookup unit = some size ↔ IsUnit unit.toList size := by
  refine ⟨fun found => ?_, fun isUnit => ?_⟩
  · obtain ⟨before, after, split, _⟩ := List.lookup_eq_some_iff.mp found
    exact areUnits (unit, size) (split ▸ List.mem_append_right _ List.mem_cons_self)
  · rw [← hasAll _ size isUnit, String.ofList_toList]

namespace Text

theorem IsNumeral.notMem_point {digits : List Char} (isNumeral : IsNumeral digits) :
    '.' ∉ digits := fun member =>
  absurd (List.all_eq_true.mp isNumeral.areDigits _ member) (by decide)

/-- What is dropped at the end are zeros. -/
theorem exists_dropWhileEnd_zeros (chars : List Char) :
    ∃ zeros, dropWhileEnd (· == '0') chars ++ List.replicate zeros '0' = chars := by
  have allZero : ∀ c ∈ (chars.reverse.takeWhile (· == '0')).reverse, c = '0' := by
    intro c member
    have passes := List.mem_takeWhile_imp (List.mem_reverse.mp member)
    exact beq_iff_eq.mp passes
  refine ⟨(chars.reverse.takeWhile (· == '0')).reverse.length, ?_⟩
  unfold dropWhileEnd
  rw [← List.eq_replicate_of_mem allZero, ← List.reverse_append, List.takeWhile_append_dropWhile,
    List.reverse_reverse]

/-- A list that has some character is cut at the first one. -/
theorem takeWhile_append_dropWhile_drop {chars : List Char} {sought : Char}
    (contains : chars.contains sought) :
    chars.takeWhile (· != sought) ++ sought :: (chars.dropWhile (· != sought)).drop 1 = chars := by
  induction chars with
  | nil => cases contains
  | cons c rest inductionHypothesis =>
    by_cases same : c = sought
    · simp [same]
    · have later : rest.contains sought := by simpa [Ne.symm same] using contains
      simpa [same] using inductionHypothesis later

end Text

/-! ### Durations -/

namespace Duration

/-- The units of durations, with their length in milliseconds. -/
inductive IsUnit : List Char → Nat → Prop
  | milliseconds : IsUnit ['m', 's'] 1
  | seconds : IsUnit ['s'] 1000
  | minutes : IsUnit ['m'] (60 * 1000)
  | hours : IsUnit ['h'] (60 * 60 * 1000)
  | days : IsUnit ['d'] (24 * 60 * 60 * 1000)

/--
The texts for a number of milliseconds: digits and a unit, or digits for seconds and up to three
more after a point.
-/
inductive Spells : List Char → Nat → Prop
  | units {digits unit : List Char} {size : Nat} (isNumeral : Text.IsNumeral digits)
    (isUnit : IsUnit unit size) : Spells (digits ++ unit) (Text.digitsValue digits * size)
  | decimal {whole fraction : List Char} (wholeIsNumeral : Text.IsNumeral whole)
    (fractionIsNumeral : Text.IsNumeral fraction) (short : fraction.length ≤ 3) :
    Spells (whole ++ '.' :: fraction) (Text.digitsValue whole * 1000 +
      Text.digitsValue fraction * 10 ^ (3 - fraction.length))

theorem lookup_units_eq_some_iff (unit : String) (size : Nat) :
    units.lookup unit = some size ↔ IsUnit unit.toList size := by
  refine lookup_eq_some_iff_isUnit ?_ ?_ unit size
  · simp only [units, List.forall_mem_cons]
    exact ⟨.milliseconds, .seconds, .minutes, .hours, .days, nofun⟩
  · rintro _ _ isUnit
    cases isUnit <;> rfl

theorem IsUnit.isUnitOfAmount {unit : List Char} {size : Nat} (isUnit : IsUnit unit size) :
    IsUnitOfAmount unit size := by
  cases isUnit <;> exact ⟨⟨_, _, rfl, rfl⟩, by simp [Text.isBlank], by decide⟩

theorem IsUnit.notMem_point {unit : List Char} {size : Nat} (isUnit : IsUnit unit size) :
    '.' ∉ unit := by
  cases isUnit <;> decide

theorem IsUnit.unique {unit : List Char} {size other : Nat} (isUnit : IsUnit unit size)
    (isOther : IsUnit unit other) : size = other := by
  cases isUnit <;> cases isOther <;> rfl

/-- A text for a duration has no blanks. -/
theorem Spells.isBlank {chars : List Char} {count : Nat} (spells : Spells chars count) :
    ∀ c ∈ chars, Text.isBlank c = false := by
  cases spells with
  | units isNumeral isUnit =>
    exact List.forall_mem_append.mpr ⟨isNumeral.isBlank, isUnit.isUnitOfAmount.visible⟩
  | decimal wholeIsNumeral fractionIsNumeral =>
    exact List.forall_mem_append.mpr ⟨wholeIsNumeral.isBlank,
      List.forall_mem_cons.mpr ⟨rfl, fractionIsNumeral.isBlank⟩⟩

/-- What follows the digits that a text for a duration begins with. -/
theorem Spells.exists_span {chars : List Char} {count : Nat} (spells : Spells chars count) :
    ∃ digits rest, Text.spanDigits chars = (digits, rest) ∧
      ((∃ size, IsUnit rest size ∧ count = Text.digitsValue digits * size) ∨
        ∃ fraction, rest = '.' :: fraction ∧ count = Text.digitsValue digits * 1000 +
          Text.digitsValue fraction * 10 ^ (3 - fraction.length)) := by
  cases spells with
  | units isNumeral isUnit =>
    obtain ⟨c, rest, rfl, ends⟩ := isUnit.isUnitOfAmount.begins
    exact ⟨_, _, Text.spanDigits_append isNumeral.areDigits rest ends, .inl ⟨_, isUnit, rfl⟩⟩
  | decimal wholeIsNumeral =>
    exact ⟨_, _, Text.spanDigits_append wholeIsNumeral.areDigits _ rfl, .inr ⟨_, rfl, rfl⟩⟩

/-- A text stands for one duration only. -/
theorem Spells.unique {chars : List Char} {count other : Nat} (spells : Spells chars count)
    (spellsOther : Spells chars other) : count = other := by
  obtain ⟨digits, rest, span, follows⟩ := spells.exists_span
  obtain ⟨_, _, same, otherFollows⟩ := spellsOther.exists_span
  obtain ⟨rfl, rfl⟩ := Prod.mk.inj (span.symm.trans same)
  rcases follows with ⟨size, isUnit, rfl⟩ | ⟨fraction, rfl, rfl⟩
  · rcases otherFollows with ⟨otherSize, isOther, rfl⟩ | ⟨fraction, rfl, _⟩
    · rw [isUnit.unique isOther]
    · exact absurd List.mem_cons_self isUnit.notMem_point
  · rcases otherFollows with ⟨otherSize, isOther, _⟩ | ⟨otherFraction, same, rfl⟩
    · exact absurd List.mem_cons_self isOther.notMem_point
    · cases same
      rfl

theorem decimalMilliseconds?_eq_some_iff (whole fraction : List Char) (count : Nat) :
    decimalMilliseconds? whole fraction = some count ↔
      (Text.IsNumeral whole ∧ Text.IsNumeral fraction ∧ fraction.length ≤ 3) ∧
        Text.digitsValue whole * 1000 + Text.digitsValue fraction * 10 ^ (3 - fraction.length) =
          count ∧ count ≤ Text.maxCount := by
  unfold decimalMilliseconds?
  simp only [Text.isNumeral_iff, Text.digitsValue_append_zeros]
  grind

theorem spells_of_readTrimmed {text : String} {duration : Duration}
    (made : readTrimmed text = .ok duration) :
    ∃ count ≤ Text.maxCount, Spells text.toList count ∧ duration = ofMilliseconds count := by
  unfold readTrimmed at made
  simp only at made
  split at made
  · cases made
  split at made
  · next hasPoint =>
    split at made
    · next count counted =>
      cases made
      obtain ⟨⟨isWhole, isFraction, short⟩, rfl, within⟩ :=
        (decimalMilliseconds?_eq_some_iff _ _ _).mp counted
      refine ⟨_, within, ?_, rfl⟩
      have spells := Spells.decimal isWhole isFraction short
      rwa [Text.takeWhile_append_dropWhile_drop hasPoint] at spells
    · cases made
  · split at made
    · cases made
    next digits unit parts =>
    split at made
    · cases made
    next number numeral =>
    split at made
    · cases made
    next size known =>
    split at made
    · next within =>
      cases made
      obtain ⟨isNumeral, whole, _⟩ := (splitAmount_eq_ok_iff _ _ _).mp parts
      obtain ⟨_, rfl, _⟩ := (Text.numeral?_eq_some_iff _ _ _).mp numeral
      rw [whole]
      exact ⟨_, within, .units isNumeral ((lookup_units_eq_some_iff unit size).mp known), rfl⟩
    · cases made

theorem readTrimmed_of_spells {text : String} {count : Nat} (spells : Spells text.toList count)
    (within : count ≤ Text.maxCount) : readTrimmed text = .ok (ofMilliseconds count) := by
  obtain ⟨chars, rfl⟩ : ∃ chars, text = String.ofList chars := ⟨_, String.ofList_toList.symm⟩
  rw [String.toList_ofList] at spells
  unfold readTrimmed
  simp only [String.toList_ofList]
  cases spells with
  | @units digits unit size isNumeral isUnit =>
    have nonempty : (digits ++ unit).isEmpty = false :=
      List.isEmpty_eq_false_iff.mpr (List.append_ne_nil_of_left_ne_nil isNumeral.nonempty _)
    have noPoint : (digits ++ unit).contains '.' = false := by
      rw [List.contains_eq_mem, decide_eq_false_iff_not, List.mem_append]
      exact fun member => member.elim isNumeral.notMem_point isUnit.notMem_point
    have known : units.lookup (String.ofList unit) = some size := by
      rwa [lookup_units_eq_some_iff, String.toList_ofList]
    simp only [nonempty, noPoint, splitAmount_append isNumeral isUnit.isUnitOfAmount,
      numeral?_of_units isNumeral isUnit.isUnitOfAmount within, known, within, Bool.false_eq_true,
      if_false, if_true]
  | @decimal whole fraction wholeIsNumeral fractionIsNumeral short =>
    have beforePoint : ∀ c ∈ whole, (c != '.') = true := fun c member => by
      rw [bne_iff_ne]
      rintro rfl
      exact wholeIsNumeral.notMem_point member
    have counted := (decimalMilliseconds?_eq_some_iff _ _ _).mpr
      ⟨⟨wholeIsNumeral, fractionIsNumeral, short⟩, rfl, within⟩
    simp [List.takeWhile_append_of_pos beforePoint, List.dropWhile_append_of_pos beforePoint,
      counted]

/--
A text without blanks around it is read exactly if it is one for a number of milliseconds that is
not too large.
-/
theorem readTrimmed_eq_ok_iff (text : String) (duration : Duration) :
    readTrimmed text = .ok duration ↔
      ∃ count ≤ Text.maxCount, Spells text.toList count ∧ duration = ofMilliseconds count := by
  refine ⟨spells_of_readTrimmed, ?_⟩
  rintro ⟨count, within, spells, rfl⟩
  exact readTrimmed_of_spells spells within

theorem milliseconds_ofMilliseconds (count : Nat) : (ofMilliseconds count).milliseconds = count :=
  Nat.mul_div_cancel count (by decide)

/-- The digits that thousandths of a second are written with. -/
theorem fractionDigits_spec {thousandths : Nat} (small : thousandths < 1000)
    (notZero : thousandths ≠ 0) :
    ∃ digits, fractionDigits thousandths = String.ofList digits ∧ Text.IsNumeral digits ∧
      digits.length ≤ 3 ∧ Text.digitsValue digits * 10 ^ (3 - digits.length) = thousandths := by
  have short : (Nat.toDigits 10 thousandths).length ≤ 3 :=
    (Nat.length_toDigits_le_iff (by decide) (by decide)).mpr small
  obtain ⟨zeros, again⟩ := Text.exists_dropWhileEnd_zeros
    (List.replicate (3 - (Nat.toDigits 10 thousandths).length) '0' ++ Nat.toDigits 10 thousandths)
  have length := congrArg List.length again
  simp only [List.length_append, List.length_replicate] at length
  have value := congrArg Text.digitsValue again
  rw [Text.digitsValue_append_zeros, Text.digitsValue_zeros_append, Text.digitsValue_toDigits]
    at value
  refine ⟨_, rfl, ⟨?_, ?_⟩, by omega, ?_⟩
  · intro none
    rw [none] at value
    exact notZero (value.symm.trans (Nat.zero_mul _))
  · refine List.all_eq_true.mpr fun c member => ?_
    have padded := again ▸ List.mem_append_left (List.replicate zeros '0') member
    rcases List.mem_append.mp padded with zero | digit
    · rw [List.eq_of_mem_replicate zero]
      rfl
    · exact Text.isDigit_of_mem_toDigits digit
  · have missing : 3 - (Text.dropWhileEnd (· == '0') (List.replicate
        (3 - (Nat.toDigits 10 thousandths).length) '0' ++
          Nat.toDigits 10 thousandths)).length = zeros := by omega
    rwa [missing]

/-- A number of units is a text for its number of milliseconds. -/
theorem spells_units {count number unit : Nat} {letter : Char} (whole : number * unit = count)
    (isUnit : IsUnit [letter] unit) :
    Spells (toString number ++ String.ofList [letter]).toList count := by
  have spells := Spells.units (Text.isNumeral_toDigits number) isUnit
  rw [Text.digitsValue_toDigits, whole] at spells
  rwa [String.toList_append, Text.toList_toString, String.toList_ofList]

/-- A decimal number of seconds is a text for its number of milliseconds. -/
theorem spells_decimal (whole : Nat) {thousandths : Nat} (small : thousandths < 1000)
    (notZero : thousandths ≠ 0) :
    Spells (toString whole ++ "." ++ fractionDigits thousandths).toList
      (whole * 1000 + thousandths) := by
  obtain ⟨digits, written, isNumeral, short, value⟩ := fractionDigits_spec small notZero
  have spells := Spells.decimal (Text.isNumeral_toDigits whole) isNumeral short
  rw [Text.digitsValue_toDigits, value] at spells
  rw [written, String.append_assoc, String.toList_append, String.toList_append,
    Text.toList_toString, String.toList_ofList, String.toList_ofList]
  exact spells

/-- A duration is written as a text for its whole milliseconds. -/
theorem spells_display (duration : Duration) :
    Spells duration.display.toList duration.milliseconds := by
  unfold display
  generalize duration.milliseconds = count
  dsimp only
  split
  · next zero =>
    rw [zero]
    have noSeconds : 0 * 1000 = 0 := Nat.zero_mul _
    exact spells_units noSeconds .seconds
  split
  · next fraction =>
    have decimal := spells_decimal (count / 1000) (Nat.mod_lt count (by decide)) fraction
    rwa [show count / 1000 * 1000 + count % 1000 = count by omega] at decimal
  split
  · next days => exact spells_units (by omega) .days
  split
  · next hours => exact spells_units (by omega) .hours
  split
  · next minutes => exact spells_units (by omega) .minutes
  · exact spells_units (by omega) .seconds

/--
A text is read exactly if it is one for a number of milliseconds that is not too large, with or
without blanks around it.
-/
theorem read_eq_ok_iff (text : String) (duration : Duration) :
    read text = .ok duration ↔
      ∃ count ≤ Text.maxCount, Spells (Text.trimChars text.toList) count ∧
        duration = ofMilliseconds count := by
  unfold read Text.trim
  rw [readTrimmed_eq_ok_iff, String.toList_ofList]

/-- What a duration is written as is read as its whole milliseconds, unless they are too many. -/
theorem read_display_eq_ok_iff (duration result : Duration) :
    read duration.display = .ok result ↔
      duration.milliseconds ≤ Text.maxCount ∧ result = ofMilliseconds duration.milliseconds := by
  have spells := duration.spells_display
  rw [read_eq_ok_iff, Text.trimChars_of_noBlank spells.isBlank]
  refine ⟨?_, fun ⟨within, same⟩ => ⟨_, within, spells, same⟩⟩
  rintro ⟨count, within, spellsCount, rfl⟩
  rw [spells.unique spellsCount]
  exact ⟨within, rfl⟩

/-- A duration that was read is read again from the text that it is written as. -/
theorem read_display_of_read {text : String} {duration : Duration}
    (made : read text = .ok duration) : read duration.display = .ok duration := by
  obtain ⟨count, within, _, rfl⟩ := (read_eq_ok_iff text duration).mp made
  rw [read_display_eq_ok_iff, milliseconds_ofMilliseconds]
  exact ⟨within, rfl⟩

/--
Durations are read from just the texts of their grammar. What any duration is written as is read as
its whole milliseconds, or refused if they are too many; so what was read is read again.
-/
theorem reads_and_restores_milliseconds :
    (∀ text duration, read text = .ok duration ↔
      ∃ count ≤ Text.maxCount, Spells (Text.trimChars text.toList) count ∧
        duration = ofMilliseconds count) ∧
    (∀ duration : Duration, (read duration.display).toOption =
      if duration.milliseconds ≤ Text.maxCount then some (ofMilliseconds duration.milliseconds)
      else none) ∧
    ∀ text, (read text >>= fun duration => read duration.display) = read text := by
  refine ⟨read_eq_ok_iff, fun duration => ?_, fun text => ?_⟩
  · split
    · next within =>
      rw [(read_display_eq_ok_iff duration _).mpr ⟨within, rfl⟩]
      rfl
    · next large =>
      cases made : read duration.display with
      | error error => rfl
      | ok result => exact absurd ((read_display_eq_ok_iff duration result).mp made).1 large
  · cases made : read text with
    | error error => rfl
    | ok duration =>
      simp only [bind, Except.bind]
      exact read_display_of_read made

end Duration

namespace Text

/-! ### Upper case -/

theorem isDigit_toUpper (c : Char) : c.toUpper.isDigit = c.isDigit := by
  unfold Char.toUpper Char.isDigit
  grind

theorem toUpper_of_isDigit {c : Char} (isDigit : c.isDigit) : c.toUpper = c := by
  unfold Char.isDigit at isDigit
  unfold Char.toUpper
  grind

theorem toUpper_of_isBlank {c : Char} (blank : isBlank c) : c.toUpper = c := by
  have notLower : ¬(97 ≤ c.val ∧ c.val ≤ 122) := by
    rintro ⟨low, high⟩
    have atLeast : 97 ≤ c.toNat := by simpa [UInt32.le_iff_toNat_le] using low
    have atMost : c.toNat ≤ 122 := by simpa [UInt32.le_iff_toNat_le] using high
    unfold isBlank at blank
    grind
  exact dif_neg notLower

end Text

/-! ### Sizes -/

namespace ByteSize

/-- The units of sizes in upper case, with their number of bytes. -/
inductive IsUnit : List Char → Nat → Prop
  | bytes : IsUnit ['B'] 1
  | kilo : IsUnit ['K'] (2 ^ 10)
  | kilobytes : IsUnit ['K', 'B'] (2 ^ 10)
  | mega : IsUnit ['M'] (2 ^ 20)
  | megabytes : IsUnit ['M', 'B'] (2 ^ 20)
  | giga : IsUnit ['G'] (2 ^ 30)
  | gigabytes : IsUnit ['G', 'B'] (2 ^ 30)

/-- The texts for a number of bytes: digits, and a unit in any case unless they count bytes. -/
inductive Spells : List Char → Nat → Prop
  | count {digits : List Char} (isNumeral : Text.IsNumeral digits) :
    Spells digits (Text.digitsValue digits)
  | units {digits unit : List Char} {size : Nat} (isNumeral : Text.IsNumeral digits)
    (isUnit : IsUnit (unit.map Char.toUpper) size) :
    Spells (digits ++ unit) (Text.digitsValue digits * size)

theorem lookup_units_eq_some_iff (unit : String) (size : Nat) :
    units.lookup unit = some size ↔ IsUnit unit.toList size := by
  refine lookup_eq_some_iff_isUnit ?_ ?_ unit size
  · simp only [units, List.forall_mem_cons]
    exact ⟨.bytes, .kilo, .kilobytes, .mega, .megabytes, .giga, .gigabytes, nofun⟩
  · rintro _ _ isUnit
    cases isUnit <;> rfl

theorem IsUnit.isUnitOfAmount {unit : List Char} {size : Nat} (isUnit : IsUnit unit size) :
    IsUnitOfAmount unit size := by
  cases isUnit <;> exact ⟨⟨_, _, rfl, rfl⟩, by simp [Text.isBlank], by decide⟩

/-- A text for a number of bytes has no blanks. -/
theorem Spells.isBlank {chars : List Char} {count : Nat} (spells : Spells chars count) :
    ∀ c ∈ chars, Text.isBlank c = false := by
  cases spells with
  | count isNumeral => exact isNumeral.isBlank
  | units isNumeral isUnit =>
    refine List.forall_mem_append.mpr ⟨isNumeral.isBlank, fun c member => ?_⟩
    refine Bool.eq_false_iff.mpr fun blank => ?_
    have visible := isUnit.isUnitOfAmount.visible c.toUpper (List.mem_map_of_mem member)
    rw [Text.toUpper_of_isBlank blank, blank] at visible
    cases visible

theorem ofNat?_eq_some_iff (count : Nat) (size : ByteSize) :
    ofNat? count = some size ↔ count = size.bytes := by
  unfold ofNat?
  obtain ⟨bytes, bounded⟩ := size
  split
  · simp
  · next large => exact iff_of_false nofun fun same => large (same ▸ bounded)

/-- Digits at the start of a text are there in upper case and as they are. -/
theorem map_toUpper_eq_append_iff (chars digits unit : List Char)
    (areDigits : digits.all Char.isDigit) :
    chars.map Char.toUpper = digits ++ unit ↔
      ∃ written, chars = digits ++ written ∧ written.map Char.toUpper = unit := by
  have kept {others : List Char} (each : others.all Char.isDigit) :
      others.map Char.toUpper = others :=
    (List.map_congr_left fun c member =>
      Text.toUpper_of_isDigit (List.all_eq_true.mp each c member)).trans (List.map_id _)
  refine ⟨fun upper => ?_, ?_⟩
  · obtain ⟨start, written, rfl, same, rest⟩ := List.map_eq_append_iff.mp upper
    have startDigits : start.all Char.isDigit := by
      rw [← same, List.all_map] at areDigits
      simpa only [Function.comp_def, Text.isDigit_toUpper] using areDigits
    rw [kept startDigits] at same
    exact ⟨written, congrArg (· ++ written) same, rest⟩
  · rintro ⟨written, rfl, rfl⟩
    rw [List.map_append, kept areDigits]

theorem spells_of_readTrimmed {text : String} {size : ByteSize}
    (made : readTrimmed text = .ok size) : Spells text.toList size.bytes := by
  unfold readTrimmed at made
  split at made
  · cases made
  split at made
  · split at made
    · next found =>
      cases made
      obtain ⟨count, numeral, isSize⟩ := Option.bind_eq_some_iff.mp found
      obtain ⟨isNumeral, rfl, _⟩ := (Text.numeral?_eq_some_iff _ _ _).mp numeral
      rw [← (ofNat?_eq_some_iff _ _).mp isSize]
      exact .count isNumeral
    · cases made
  · split at made
    · cases made
    next digits unit parts =>
    split at made
    · cases made
    next number numeral =>
    split at made
    · cases made
    next unitSize known =>
    split at made
    · next isSize =>
      cases made
      obtain ⟨isNumeral, upper, _⟩ := (splitAmount_eq_ok_iff _ _ _).mp parts
      obtain ⟨_, rfl, _⟩ := (Text.numeral?_eq_some_iff _ _ _).mp numeral
      rw [String.toList_ofList] at upper
      obtain ⟨written, whole, same⟩ :=
        (map_toUpper_eq_append_iff _ _ _ isNumeral.areDigits).mp upper
      rw [← (ofNat?_eq_some_iff _ _).mp isSize, whole]
      exact .units isNumeral (same ▸ (lookup_units_eq_some_iff unit unitSize).mp known)
    · cases made

theorem readTrimmed_of_spells {text : String} {size : ByteSize}
    (spells : Spells text.toList size.bytes) : readTrimmed text = .ok size := by
  obtain ⟨chars, rfl⟩ : ∃ chars, text = String.ofList chars := ⟨_, String.ofList_toList.symm⟩
  rw [String.toList_ofList] at spells
  generalize counted : size.bytes = count at spells
  have within : count ≤ Text.maxCount := counted ▸ size.bounded
  have isSize : ofNat? count = some size := (ofNat?_eq_some_iff _ _).mpr counted.symm
  unfold readTrimmed
  simp only [String.toList_ofList]
  cases spells with
  | count isNumeral =>
    have number := (Text.numeral?_eq_some_iff _ _ _).mpr ⟨isNumeral, rfl, within⟩
    rw [List.isEmpty_eq_false_iff.mpr isNumeral.nonempty, isNumeral.areDigits, number,
      Option.bind_some, isSize]
    rfl
  | @units digits unit unitSize isNumeral isUnit =>
    have isUnitOfAmount := isUnit.isUnitOfAmount
    have nonempty : (digits ++ unit).isEmpty = false :=
      List.isEmpty_eq_false_iff.mpr (List.append_ne_nil_of_left_ne_nil isNumeral.nonempty _)
    have notAll : (digits ++ unit).all Char.isDigit = false := by
      obtain ⟨_, _, follows, ends⟩ := isUnitOfAmount.begins
      obtain ⟨first, others, rfl, rfl, _⟩ := List.map_eq_cons_iff.mp follows
      rw [Text.isDigit_toUpper] at ends
      rw [List.all_append, List.all_cons, ends, Bool.false_and, Bool.and_false]
    have upper : (digits ++ unit).map Char.toUpper = digits ++ unit.map Char.toUpper :=
      (map_toUpper_eq_append_iff _ _ _ isNumeral.areDigits).mpr ⟨unit, rfl, rfl⟩
    have known : units.lookup (String.ofList (unit.map Char.toUpper)) = some unitSize := by
      rwa [lookup_units_eq_some_iff, String.toList_ofList]
    simp only [nonempty, notAll, upper, splitAmount_append isNumeral isUnitOfAmount,
      numeral?_of_units isNumeral isUnitOfAmount within, known, isSize, Bool.false_eq_true, if_false]

/-- A text without blanks around it is read exactly if it is one for a number of bytes. -/
theorem readTrimmed_eq_ok_iff (text : String) (size : ByteSize) :
    readTrimmed text = .ok size ↔ Spells text.toList size.bytes :=
  ⟨spells_of_readTrimmed, readTrimmed_of_spells⟩

/-- A whole number of units is a text for its number of bytes, with a letter in lower case. -/
theorem spells_units {count unit : Nat} {letter : Char} (whole : count % unit = 0)
    (isUnit : IsUnit [letter.toUpper] unit) :
    Spells (toString (count / unit) ++ String.ofList [letter]).toList count := by
  have isUpperUnit : IsUnit ([letter].map Char.toUpper) unit := isUnit
  have spells := Spells.units (Text.isNumeral_toDigits (count / unit)) isUpperUnit
  rw [Text.digitsValue_toDigits, Nat.div_mul_cancel (Nat.dvd_of_mod_eq_zero whole)] at spells
  rwa [String.toList_append, Text.toList_toString, String.toList_ofList]

/-- A size is written as a text for its number of bytes. -/
theorem spells_display (size : ByteSize) : Spells size.display.toList size.bytes := by
  have plain (count : Nat) : Spells (toString count).toList count := by
    have spells := Spells.count (Text.isNumeral_toDigits count)
    rwa [Text.digitsValue_toDigits, ← Text.toList_toString] at spells
  unfold display
  dsimp only
  split
  · next zero => exact zero ▸ plain 0
  split
  · next giga => exact spells_units giga .giga
  split
  · next mega => exact spells_units mega .mega
  split
  · next kilo => exact spells_units kilo .kilo
  · exact plain size.bytes

/-- A text is read exactly if it is one for a number of bytes, with or without blanks around it. -/
theorem read_eq_ok_iff (text : String) (size : ByteSize) :
    read text = .ok size ↔ Spells (Text.trimChars text.toList) size.bytes := by
  unfold read Text.trim
  rw [readTrimmed_eq_ok_iff, String.toList_ofList]

/-- A size is read from the text that it is written as. -/
theorem read_display (size : ByteSize) : read size.display = .ok size := by
  rw [read_eq_ok_iff, Text.trimChars_of_noBlank size.spells_display.isBlank]
  exact size.spells_display

/--
Sizes are read from just the texts of their grammar, unless they are too large, and from what they
are written as.
-/
theorem reads_and_restores_bytes :
    (∀ text size, read text = .ok size ↔
      ∃ count ≤ Text.maxCount, Spells (Text.trimChars text.toList) count ∧ size.bytes = count) ∧
    ∀ size, read size.display = .ok size := by
  refine ⟨fun text size => ?_, read_display⟩
  rw [read_eq_ok_iff]
  refine ⟨fun spells => ⟨_, size.bounded, spells, rfl⟩, ?_⟩
  rintro ⟨_, _, spells, rfl⟩
  exact spells

end ByteSize

end LogForwarder
