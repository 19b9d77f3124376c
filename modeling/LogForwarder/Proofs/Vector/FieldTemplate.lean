/-
This file proves that a text with record fields comes apart in one way, and that its expression has
every part of it. A group reaches from the first brace that opens and is closed later on to the first
one that closes it, and after the group the text goes on in the same way. Braces that open and are
never closed are characters like others, and so are braces that open inside of a group. The test for
groups looks at the first group only, which is enough: it finds one exactly if there is any.
-/

import LogForwarder.Vector.Sink.Message
import Mathlib.Data.List.TakeWhile

namespace LogForwarder.Vector

/-! ### Cuts -/

/-- A text that is cut at its groups. -/
structure FieldCut where
  /-- What is before each group, and what is between its braces. -/
  groups : List (List Char × List Char)
  /-- What is after the last group. -/
  last : List Char

namespace FieldCut

/-- The text that was cut. -/
def chars (cut : FieldCut) : List Char :=
  cut.groups.flatMap (fun (before, inner) => before ++ '\x7b' :: inner ++ ['\x7d']) ++ cut.last

/-- What stands for characters outside of groups in an expression, if there are any. -/
def quoted? (chars : List Char) : List String :=
  if chars = [] then [] else [Value.textLiteral (String.ofList chars)]

/-- What stands for the parts of a text in an expression. -/
def operands (cut : FieldCut) : List String :=
  cut.groups.flatMap (fun (before, inner) =>
    quoted? before ++ ["to_string!(" ++ Text.trim (String.ofList inner) ++ ")"]) ++
    quoted? cut.last

end FieldCut

/-- Whether some characters have no group: no brace that opens is closed later on. -/
def HasNoGroup (chars : List Char) : Prop :=
  ∀ earlier later, chars = earlier ++ '\x7b' :: later → '\x7d' ∉ later

/-- Whether characters come apart into what is before their first group, it, and what is after it. -/
structure IsFirstGroup (chars before inner rest : List Char) : Prop where
  whole : chars = before ++ '\x7b' :: (inner ++ '\x7d' :: rest)
  /-- No brace before it opens and is closed later on. -/
  first : ∀ earlier later, chars = earlier ++ '\x7b' :: later → '\x7d' ∈ later →
    before.length ≤ earlier.length
  /-- It is closed by the first brace that closes. -/
  nearest : '\x7d' ∉ inner

/-- Whether a cut goes from one group of a text to the next one, and misses none. -/
inductive IsCut : List Char → FieldCut → Prop
  | plain {chars} (noGroup : HasNoGroup chars) : IsCut chars ⟨[], chars⟩
  | group {chars before inner rest groups last} (isFirst : IsFirstGroup chars before inner rest)
      (later : IsCut rest ⟨groups, last⟩) : IsCut chars ⟨(before, inner) :: groups, last⟩

/-! ### The first group -/

theorem takeWhile_ne_append {mark : Char} {before : List Char} (unmarked : mark ∉ before)
    (rest : List Char) : (before ++ mark :: rest).takeWhile (· ≠ mark) = before := by
  have each : ∀ c ∈ before, decide (c ≠ mark) = true :=
    fun c member => decide_eq_true fun same => unmarked (same ▸ member)
  rw [List.takeWhile_append_of_pos each, List.takeWhile_cons_of_neg (by simp), List.append_nil]

theorem dropWhile_ne_append {mark : Char} {before : List Char} (unmarked : mark ∉ before)
    (rest : List Char) : (before ++ mark :: rest).dropWhile (· ≠ mark) = mark :: rest := by
  have each : ∀ c ∈ before, decide (c ≠ mark) = true :=
    fun c member => decide_eq_true fun same => unmarked (same ▸ member)
  rw [List.dropWhile_append_of_pos each, List.dropWhile_cons_of_neg (by simp)]

theorem dropWhile_ne_eq_nil {mark : Char} {chars : List Char} (unmarked : mark ∉ chars) :
    chars.dropWhile (· ≠ mark) = [] :=
  List.dropWhile_eq_nil_iff.mpr fun _ member =>
    decide_eq_true fun same => unmarked (same ▸ member)

/-- The first mark comes before all others. -/
theorem length_le_of_append_mark_eq {mark : Char} {before after earlier later : List Char}
    (unmarked : mark ∉ before) (same : before ++ mark :: after = earlier ++ mark :: later) :
    before.length ≤ earlier.length := by
  rcases List.append_eq_append_iff.mp same with ⟨between, rfl, _⟩ | ⟨between, rfl, marks⟩
  · rw [List.length_append]
    exact Nat.le_add_right _ _
  · cases between with
    | nil => rw [List.append_nil]
    | cons c others =>
      obtain ⟨rfl, _⟩ := List.cons.inj marks
      exact absurd (List.mem_append_right _ List.mem_cons_self) unmarked

/-- A group is the first one exactly if no brace opens before it. -/
theorem isFirstGroup_iff {chars before inner rest : List Char} :
    IsFirstGroup chars before inner rest ↔
      chars = before ++ '\x7b' :: (inner ++ '\x7d' :: rest) ∧ '\x7b' ∉ before ∧ '\x7d' ∉ inner := by
  constructor
  · intro isFirst
    refine ⟨isFirst.whole, fun opens => ?_, isFirst.nearest⟩
    obtain ⟨earlier, between, rfl⟩ := List.append_of_mem opens
    have notEarlier := isFirst.first earlier
      (between ++ '\x7b' :: (inner ++ '\x7d' :: rest)) (by simp [isFirst.whole]) (by simp)
    rw [List.length_append, List.length_cons] at notEarlier
    omega
  · rintro ⟨rfl, unopened, nearest⟩
    exact ⟨rfl, fun _ _ same _ => length_le_of_append_mark_eq unopened same, nearest⟩

/-- If no brace closes after the first one that opens, none does after a later one. -/
theorem hasNoGroup_of_unclosed {before after : List Char} (unopened : '\x7b' ∉ before)
    (unclosed : '\x7d' ∉ after) : HasNoGroup (before ++ '\x7b' :: after) := by
  intro earlier later same closes
  have notEarlier := length_le_of_append_mark_eq unopened same
  have sameLength := congrArg List.length same
  rw [List.length_append, List.length_append, List.length_cons, List.length_cons] at sameLength
  have isTail : later <:+ before ++ '\x7b' :: after := by
    rw [same]
    exact (List.suffix_cons _ later).trans (List.suffix_append _ _)
  have afterIsTail : after <:+ before ++ '\x7b' :: after :=
    (List.suffix_cons _ after).trans (List.suffix_append _ _)
  have isSuffix : later <:+ after :=
    List.suffix_of_suffix_length_le isTail afterIsTail (by omega)
  exact unclosed (isSuffix.subset closes)

/-- Characters have a first group, or none. -/
theorem hasNoGroup_or_exists_isFirstGroup (chars : List Char) :
    HasNoGroup chars ∨ ∃ before inner rest, IsFirstGroup chars before inner rest := by
  by_cases opens : '\x7b' ∈ chars
  · obtain ⟨before, after, rfl, unopened⟩ := List.eq_append_cons_of_mem opens
    by_cases closes : '\x7d' ∈ after
    · obtain ⟨inner, rest, rfl, nearest⟩ := List.eq_append_cons_of_mem closes
      exact .inr ⟨before, inner, rest, isFirstGroup_iff.mpr ⟨rfl, unopened, nearest⟩⟩
    · exact .inl (hasNoGroup_of_unclosed unopened closes)
  · exact .inl fun earlier later same _ => opens (by simp [same])

theorem firstGroup?_of_isFirstGroup {chars before inner rest : List Char}
    (isFirst : IsFirstGroup chars before inner rest) :
    FieldPiece.firstGroup? chars = some (before, inner, rest) := by
  obtain ⟨rfl, unopened, nearest⟩ := isFirstGroup_iff.mp isFirst
  unfold FieldPiece.firstGroup?
  rw [dropWhile_ne_append unopened, takeWhile_ne_append unopened]
  dsimp only
  rw [dropWhile_ne_append nearest, takeWhile_ne_append nearest]

theorem firstGroup?_of_hasNoGroup {chars : List Char} (noGroup : HasNoGroup chars) :
    FieldPiece.firstGroup? chars = none := by
  unfold FieldPiece.firstGroup?
  by_cases opens : '\x7b' ∈ chars
  · obtain ⟨before, after, rfl, unopened⟩ := List.eq_append_cons_of_mem opens
    rw [dropWhile_ne_append unopened]
    dsimp only
    rw [dropWhile_ne_eq_nil (noGroup before after rfl)]
  · rw [dropWhile_ne_eq_nil opens]

theorem IsFirstGroup.hasGroup {chars before inner rest : List Char}
    (isFirst : IsFirstGroup chars before inner rest) : ¬HasNoGroup chars := by
  intro noGroup
  have none := firstGroup?_of_hasNoGroup noGroup
  rw [firstGroup?_of_isFirstGroup isFirst] at none
  cases none

/-! ### All groups -/

theorem exists_isCut (chars : List Char) : ∃ cut, IsCut chars cut := by
  -- What is after a group is no tail that is one character shorter, so the induction is on lengths.
  induction size : chars.length using Nat.strongRecOn generalizing chars with
  | ind size inductionHypothesis =>
    rcases hasNoGroup_or_exists_isFirstGroup chars with noGroup | ⟨before, inner, rest, isFirst⟩
    · exact ⟨_, .plain noGroup⟩
    · have shorter := FieldPiece.length_of_firstGroup? (firstGroup?_of_isFirstGroup isFirst)
      obtain ⟨later, isLater⟩ := inductionHypothesis rest.length (size ▸ shorter) rest rfl
      exact ⟨_, .group isFirst isLater⟩

namespace IsCut

variable {chars : List Char} {cut : FieldCut}

/-- There is one way only to cut a text. -/
theorem unique {other : FieldCut} (isCut : IsCut chars cut) (isOther : IsCut chars other) :
    cut = other := by
  induction isCut generalizing other with
  | plain noGroup =>
    cases isOther with
    | plain _ => rfl
    | group isFirst _ => exact absurd noGroup isFirst.hasGroup
  | group isFirst _ inductionHypothesis =>
    cases isOther with
    | plain noGroup => exact absurd noGroup isFirst.hasGroup
    | group isOtherFirst isLater =>
      have same := (firstGroup?_of_isFirstGroup isFirst).symm.trans
        (firstGroup?_of_isFirstGroup isOtherFirst)
      cases same
      cases inductionHypothesis isLater
      rfl

/-- The parts of a cut put together again are the text. -/
theorem chars_eq (isCut : IsCut chars cut) : cut.chars = chars := by
  induction isCut with
  | plain noGroup => rfl
  | group isFirst _ inductionHypothesis =>
    rw [isFirst.whole, ← inductionHypothesis]
    simp [FieldCut.chars]

theorem isSome_firstGroup?_iff (isCut : IsCut chars cut) :
    (FieldPiece.firstGroup? chars).isSome ↔ cut.groups ≠ [] := by
  cases isCut with
  | plain noGroup =>
    rw [firstGroup?_of_hasNoGroup noGroup]
    exact iff_of_false nofun (· rfl)
  | group isFirst _ =>
    rw [firstGroup?_of_isFirstGroup isFirst]
    exact iff_of_true rfl (List.cons_ne_nil _ _)

theorem map_expression_plain? (chars : List Char) :
    (FieldPiece.plain? chars).map FieldPiece.expression = FieldCut.quoted? chars := by
  cases chars <;> rfl

theorem expression_group (inner : List Char) : (FieldPiece.group inner).expression =
    "to_string!(" ++ Text.trim (String.ofList inner) ++ ")" := rfl

/-- The pieces that are read stand for the parts of the cut. -/
theorem map_expression_read (isCut : IsCut chars cut) :
    (FieldPiece.read chars).map FieldPiece.expression = cut.operands := by
  induction isCut with
  | plain noGroup =>
    rw [FieldPiece.read, firstGroup?_of_hasNoGroup noGroup]
    exact map_expression_plain? _
  | group isFirst _ inductionHypothesis =>
    rw [FieldPiece.read, firstGroup?_of_isFirstGroup isFirst]
    dsimp only
    rw [List.map_append, List.map_cons, map_expression_plain?, expression_group,
      inductionHypothesis]
    simp [FieldCut.operands]

/-- Only the empty text has no parts. -/
theorem operands_eq_nil_iff (isCut : IsCut chars cut) : cut.operands = [] ↔ chars = [] := by
  cases isCut with
  | plain noGroup =>
    have alone : FieldCut.operands ⟨[], chars⟩ = FieldCut.quoted? chars := rfl
    rw [alone, FieldCut.quoted?]
    split
    · next empty => exact iff_of_true rfl empty
    · next some => exact iff_of_false (List.cons_ne_nil _ _) some
  | group isFirst _ => simp [FieldCut.operands, isFirst.whole]

theorem fieldExpression_eq {text : String} (isCut : IsCut text.toList cut) :
    fieldExpression text =
      if text = "" then Value.textLiteral "" else " + ".intercalate cut.operands := by
  have pieces := isCut.map_expression_read
  have empty : cut.operands = [] ↔ text = "" :=
    isCut.operands_eq_nil_iff.trans String.toList_eq_nil_iff
  unfold fieldExpression
  split
  · next nothing =>
    rw [nothing] at pieces
    rw [if_pos (empty.mp pieces.symm)]
  · next something =>
    have some : cut.operands ≠ [] := by
      rw [← pieces]
      exact fun nothing => something (List.map_eq_nil_iff.mp nothing)
    rw [if_neg fun isEmpty => some (empty.mpr isEmpty), pieces]

theorem topicRemap_eq {text : String} (isCut : IsCut text.toList cut) (sink : Sink) :
    sink.topicRemap text =
      if cut.groups = [] then []
      else [remap (sink.child "topic") sink.intake
        ("._internal.topic = " ++ " + ".intercalate cut.operands)] := by
  have found : hasFieldGroup text ↔ cut.groups ≠ [] := isCut.isSome_firstGroup?_iff
  unfold Sink.topicRemap
  by_cases noGroup : cut.groups = []
  · rw [if_neg fun isFound => found.mp isFound noGroup, if_pos noGroup]
  · have some : text ≠ "" := by
      rintro rfl
      obtain ⟨group, others, groups⟩ := List.exists_cons_of_ne_nil noGroup
      have nothing := isCut.operands_eq_nil_iff.mpr rfl
      simp [FieldCut.operands, groups] at nothing
    rw [if_pos (found.mpr noGroup), if_neg noGroup, isCut.fieldExpression_eq, if_neg some]
    rfl

end IsCut

/--
A text with record fields comes apart at its groups in exactly one way, and nothing of it is lost:
its expression joins what stands for the parts, in order. It has groups exactly if the test says so,
and then a kafka sink finds out the topic by this expression.
-/
theorem fieldExpression_follows_cut (text : String) :
    ∃ cut, IsCut text.toList cut ∧ (∀ other, IsCut text.toList other → other = cut) ∧
      cut.chars = text.toList ∧
      fieldExpression text =
        (if text = "" then Value.textLiteral "" else " + ".intercalate cut.operands) ∧
      (hasFieldGroup text ↔ cut.groups ≠ []) ∧
      ∀ sink : Sink, sink.topicRemap text =
        if cut.groups = [] then []
        else [remap (sink.child "topic") sink.intake
          ("._internal.topic = " ++ " + ".intercalate cut.operands)] := by
  obtain ⟨cut, isCut⟩ := exists_isCut text.toList
  refine ⟨cut, isCut, fun other isOther => isOther.unique isCut, isCut.chars_eq,
    isCut.fieldExpression_eq, isCut.isSome_firstGroup?_iff, isCut.topicRemap_eq⟩

end LogForwarder.Vector
