/-
This file proves that generated names have no line break and no angle bracket that is not in the name
that they are made from. The case mapping gives such a mark for no other character. For characters
outside ASCII that is a fact about its tables, which are written as words; so they are read by the
characters of their words first, and then every run is looked at.
-/

import LogForwarder.Name
import LogForwarder.Proofs.Lines
import Mathlib.Data.String.Basic

namespace LogForwarder

namespace Text

open String

/-! ### Words -/

/-- A text that is taken apart at blanks, of which some parts are done and one is half done. -/
theorem splitOnAux_eq {text : String} {before current rest : List Char}
    (whole : text = String.ofList (before ++ current ++ rest)) (parts : List String) :
    text.splitOnAux " " ⟨utf8Len before⟩ ⟨utf8Len (before ++ current)⟩ 0 parts =
      parts.reverse ++ ((splitOn (· = ' ') rest).modifyHead (current ++ ·)).map String.ofList := by
  induction rest generalizing before current parts with
  | nil =>
    have atEnd : Pos.Raw.atEnd text ⟨utf8Len (before ++ current)⟩ = true := by
      rw [whole, atEnd_of_valid]
    have taken : Pos.Raw.extract text ⟨utf8Len before⟩ ⟨utf8Len (before ++ current)⟩ =
        String.ofList current := by
      rw [whole, utf8Len_append, extract_of_valid]
    rw [splitOnAux, if_pos atEnd]
    simp [splitOn, ← taken]
  | cons c rest inductionHypothesis =>
    have goesOn : ¬Pos.Raw.atEnd text ⟨utf8Len (before ++ current)⟩ = true := by
      rw [whole, atEnd_of_valid]
      exact List.cons_ne_nil c rest
    have isHead : Pos.Raw.get text ⟨utf8Len (before ++ current)⟩ = c := by
      rw [whole, get_of_valid]
      rfl
    have next : Pos.Raw.next text ⟨utf8Len (before ++ current)⟩ =
        ⟨utf8Len (before ++ current ++ [c])⟩ := by
      rw [whole, next_of_valid, utf8Len_append _ [c]]
      simp
    have taken : Pos.Raw.extract text ⟨utf8Len before⟩ ⟨utf8Len (before ++ current)⟩ =
        String.ofList current := by
      rw [whole, utf8Len_append, extract_of_valid]
    have isBlank : Pos.Raw.get " " 0 = ' ' := by decide
    rw [splitOnAux, if_neg goesOn, isHead, isBlank, next]
    by_cases same : c = ' '
    · subst same
      have back : (⟨utf8Len (before ++ current ++ [' '])⟩ : Pos.Raw).unoffsetBy
          (Pos.Raw.next " " 0) = ⟨utf8Len (before ++ current)⟩ := by
        rw [utf8Len_append _ [' ']]
        rfl
      have shifted : text = String.ofList (before ++ current ++ [' '] ++ [] ++ rest) := by
        rw [whole]
        simp
      have later := inductionHypothesis shifted (String.ofList current :: parts)
      rw [List.append_nil] at later
      have ends : Pos.Raw.atEnd " " (Pos.Raw.next " " 0) = true := by decide
      rw [if_pos BEq.rfl]
      simp only [back, taken]
      rw [if_pos ends, later]
      cases parted : splitOn (· = ' ') rest with
      | nil => exact absurd parted (splitOn_ne_nil _ _)
      | cons first others => simp [splitOn, parted]
    · have longer : text = String.ofList (before ++ (current ++ [c]) ++ rest) := by
        rw [whole]
        simp
      have later := inductionHypothesis longer parts
      rw [← List.append_assoc] at later
      rw [if_neg (by simpa using same)]
      have stay (position : Pos.Raw) : position.unoffsetBy 0 = position := rfl
      rw [stay, next, later]
      cases parted : splitOn (· = ' ') rest with
      | nil => exact absurd parted (splitOn_ne_nil _ _)
      | cons first others => simp [splitOn, parted, same]

theorem splitOn_space (text : String) :
    text.splitOn " " = (splitOn (· = ' ') text.toList).map String.ofList := by
  unfold String.splitOn
  rw [if_neg (by decide)]
  have whole : text = String.ofList ([] ++ [] ++ text.toList) := by simp
  have parted := splitOnAux_eq whole []
  refine parted.trans ?_
  cases splitOn (· = ' ') text.toList <;> rfl

/-! ### Tables -/

/-- The runs that some words as characters stand for, of which the first is counted from a code on. -/
def caseRunsFrom (code : Nat) : List (List Char) → List CaseRun
  | [] => []
  | chars :: rest =>
    let gap := digitsValue (chars.takeWhile Char.isDigit)
    let afterGap := (chars.dropWhile Char.isDigit).drop 1
    let count := digitsValue (afterGap.takeWhile Char.isDigit)
    let afterCount := afterGap.dropWhile Char.isDigit
    let alternate := afterCount.head? == some '/'
    let signed := if alternate then afterCount.drop 2 else afterCount
    let size : Int := digitsValue (signed.drop 1)
    let first := code + gap
    ⟨first, count, if alternate then 2 else 1,
      if signed.head? == some '<' then -size else size⟩ :: caseRunsFrom first rest

/-- The words of some lines, as characters. -/
def wordsOf (lines : List String) : List (List Char) :=
  lines.flatMap fun line => splitOn (· = ' ') line.toList

/-- A table is read from the characters of its words. -/
theorem readCaseRuns_eq (lines : List String) :
    readCaseRuns lines = (caseRunsFrom 0 (wordsOf lines)).toArray := by
  have words : lines.flatMap (·.splitOn " ") = (wordsOf lines).map String.ofList := by
    unfold wordsOf
    rw [List.map_flatMap]
    exact congrArg lines.flatMap (funext splitOn_space)
  unfold readCaseRuns
  rw [words]
  simp only [List.foldl_map, String.toList_ofList]
  refine Eq.trans ?_ Array.empty_append
  generalize wordsOf lines = words, 0 = code, (#[] : Array CaseRun) = runs
  induction words generalizing code runs with
  | nil => exact Array.append_empty.symm
  | cons chars rest inductionHypothesis =>
    rw [List.foldl_cons, caseRunsFrom]
    refine (inductionHypothesis _ _).trans ?_
    simp

theorem wordsOf_cons (chars : List Char) (lines : List String) :
    wordsOf (String.ofList chars :: lines) = splitOn (· = ' ') chars ++ wordsOf lines := by
  unfold wordsOf
  rw [List.flatMap_cons, String.toList_ofList]

/-! ### Case mapping -/

/-- Whether a character is a mark: one before the letters, such as a line break or an angle bracket. -/
def IsMark (c : Char) : Prop := 0 < c.toNat ∧ c.toNat ≤ 62

instance (c : Char) : Decidable (IsMark c) := inferInstanceAs (Decidable (_ ∧ _))

/-- Whether no character outside ASCII has a mark as its image in a run. -/
def CaseRun.staysAbove (run : CaseRun) : Bool := 62 < max run.first 128 + run.offset

theorem staysAbove_upperRuns : upperRuns.all CaseRun.staysAbove = true := by
  rw [upperRuns, readCaseRuns_eq, List.all_toArray]
  repeat rw [wordsOf_cons]
  decide

theorem staysAbove_lowerRuns : lowerRuns.all CaseRun.staysAbove = true := by
  rw [lowerRuns, readCaseRuns_eq, List.all_toArray]
  repeat rw [wordsOf_cons]
  decide

theorem ofNat_ne_of_lt {code : Nat} (above : 62 < code) {mark : Char} (isMark : IsMark mark) :
    mark ≠ Char.ofNat code := by
  rintro rfl
  have bounds : 0 < (Char.ofNat code).toNat ∧ (Char.ofNat code).toNat ≤ 62 := isMark
  unfold Char.ofNat at bounds
  by_cases valid : code.isValidChar
  · rw [dif_pos valid] at bounds
    exact absurd (show code ≤ 62 from bounds.2) (by omega)
  · rw [dif_neg valid] at bounds
    exact absurd bounds.1 (by decide)

theorem lt_of_image? {run : CaseRun} (staysAbove : run.staysAbove) {code image : Nat}
    (outside : 128 ≤ code) (found : run.image? code = some image) : 62 < image := by
  unfold CaseRun.image? at found
  split at found
  · next within =>
    cases found
    simp only [Bool.and_eq_true, decide_eq_true_eq] at within
    have above : (62 : Int) < max run.first 128 + run.offset := of_decide_eq_true staysAbove
    omega
  · cases found

/-- The image of a character outside ASCII in a table of runs is no mark. -/
theorem ne_image {runs : Array CaseRun} (staysAbove : runs.all CaseRun.staysAbove = true)
    {c : Char} (outside : ¬c.toNat < 128) {mark : Char} (isMark : IsMark mark) :
    mark ≠ ((runs.findSome? (·.image? c.toNat)).map Char.ofNat).getD c := by
  cases found : runs.findSome? (·.image? c.toNat) with
  | none =>
    rintro rfl
    exact outside (Nat.lt_of_le_of_lt isMark.2 (by decide))
  | some image =>
    obtain ⟨run, member, isImage⟩ := Array.exists_of_findSome?_eq_some found
    exact ofNat_ne_of_lt (lt_of_image? (Array.all_eq_true'.mp staysAbove run member)
      (Nat.le_of_not_lt outside) isImage) isMark

/-- No other character has a mark in its upper-case form. -/
theorem eq_of_mem_upperChar {c mark : Char} (isMark : IsMark mark) (member : mark ∈ upperChar c) :
    mark = c := by
  have ascii : ∀ code < 128, IsMark (Char.ofNat code).toUpper →
      (Char.ofNat code).toUpper = Char.ofNat code := by decide
  have expansions : ∀ entry ∈ upperExpansions, ∀ code ∈ entry.2, 62 < code := by decide
  unfold upperChar at member
  split at member
  · next isAscii =>
    rw [List.mem_singleton] at member
    have same := ascii c.toNat isAscii
    rw [Char.ofNat_toNat, ← member] at same
    exact member.trans (member.symm.trans (same isMark))
  · next outside =>
    split at member
    · next codes found =>
      obtain ⟨code, isCode, rfl⟩ := List.mem_map.mp member
      obtain ⟨before, after, split, _⟩ := List.lookup_eq_some_iff.mp found
      have isEntry : (c.toNat, codes) ∈ upperExpansions := by simp [split]
      exact absurd rfl (ofNat_ne_of_lt (expansions _ isEntry code isCode) isMark)
    · exact absurd (List.mem_singleton.mp member) (ne_image staysAbove_upperRuns outside isMark)

/-- No other character has a mark in its lower-case form. -/
theorem eq_of_mem_lowerChar {c mark : Char} (isMark : IsMark mark) (member : mark ∈ lowerChar c) :
    mark = c := by
  have ascii : ∀ code < 128, IsMark (Char.ofNat code).toLower →
      (Char.ofNat code).toLower = Char.ofNat code := by decide
  unfold lowerChar at member
  split at member
  · next isAscii =>
    rw [List.mem_singleton] at member
    have same := ascii c.toNat isAscii
    rw [Char.ofNat_toNat, ← member] at same
    exact same isMark
  · next outside =>
    split at member
    · have above : ∀ other ∈ [Char.ofNat 0x69, Char.ofNat 0x307], ¬IsMark other := by simp [IsMark]
      exact absurd isMark (above mark member)
    · exact absurd (List.mem_singleton.mp member) (ne_image staysAbove_lowerRuns outside isMark)

theorem mem_of_mem_upper {text : String} {mark : Char} (isMark : IsMark mark)
    (member : mark ∈ (upper text).toList) : mark ∈ text.toList := by
  unfold upper at member
  rw [String.toList_ofList] at member
  obtain ⟨c, isChar, inForm⟩ := List.mem_flatMap.mp member
  exact eq_of_mem_upperChar isMark inForm ▸ isChar

theorem mem_of_mem_lowerFrom {before chars : List Char} {mark : Char} (isMark : IsMark mark)
    (member : mark ∈ lowerFrom before chars) : mark ∈ chars := by
  induction chars generalizing before with
  | nil => exact member
  | cons c rest inductionHypothesis =>
    rw [lowerFrom] at member
    rcases List.mem_append.mp member with here | later
    · have sigmas : ∀ other ∈ [Char.ofNat 0x3C2, Char.ofNat 0x3C3], ¬IsMark other := by
        simp [IsMark]
      split at here
      · refine absurd isMark (sigmas mark ?_)
        split at here <;> simp_all
      · exact eq_of_mem_lowerChar isMark here ▸ List.mem_cons_self
    · exact List.mem_cons_of_mem c (inductionHypothesis later)

theorem mem_of_mem_lower {text : String} {mark : Char} (isMark : IsMark mark)
    (member : mark ∈ (lower text).toList) : mark ∈ text.toList := by
  unfold lower at member
  rw [String.toList_ofList] at member
  exact mem_of_mem_lowerFrom isMark member

end Text

/-! ### Generated names -/

namespace Name

open Text

/-- A generated name has only those marks that the name has that it is made from. -/
theorem mem_of_mem_label {name : String} {mark : Char} (isMark : IsMark mark)
    (member : mark ∈ (label name).toList) : mark ∈ name.toList := by
  unfold label labelWord at member
  rw [String.toList_append, List.mem_append] at member
  rcases member with isSign | inWord
  · have sign : ∀ c ∈ "@".toList, ¬IsMark c := by simp [IsMark]
    exact absurd isMark (sign mark isSign)
  · rw [String.toList_ofList] at inWord
    obtain ⟨c, inUpper, isChar⟩ := List.mem_map.mp inWord
    unfold labelChar at isChar
    split at isChar
    · rw [← isChar] at isMark
      exact absurd isMark (by decide)
    · subst isChar
      exact mem_of_mem_upper isMark inUpper

theorem mem_of_mem_storeId {name : String} {mark : Char} (isMark : IsMark mark)
    (member : mark ∈ (storeId name).toList) : mark ∈ name.toList := by
  unfold storeId at member
  rw [String.toList_ofList] at member
  obtain ⟨c, inLower, isChar⟩ := List.mem_map.mp member
  unfold storeChar at isChar
  split at isChar
  · rw [← isChar] at isMark
    exact absurd isMark (by decide)
  · subst isChar
    exact mem_of_mem_lower isMark inLower

end Name

end LogForwarder
