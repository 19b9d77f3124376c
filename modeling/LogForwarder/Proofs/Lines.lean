/-
This file proves how texts come apart at separators, and what indentation does to lines. A text comes
apart before and after each separator, and nowhere if there is none; its parts with separators
between them are the text, and parts without separators that are joined by one are found again.

The lines of a text are its parts between line breaks. Indentation moves a line with something to see
on it to the right, makes a line of blanks empty, and joins, drops or reorders no lines. A line that
was moved is still no line of blanks, and so widths add up: what is included in a template that is
itself included stands as far to the right as both inclusions say, however deep that goes.
-/

import LogForwarder.Template.Render
import Mathlib.Algebra.GroupWithZero.Nat
import Mathlib.Data.List.Basic

namespace LogForwarder

namespace Text

/-! ### Parts -/

theorem splitOn_ne_nil (isSeparator : Char → Bool) (chars : List Char) :
    splitOn isSeparator chars ≠ [] := by
  cases chars with
  | nil => exact List.cons_ne_nil _ _
  | cons c rest =>
    unfold splitOn
    split
    · exact List.cons_ne_nil _ _
    · split <;> exact List.cons_ne_nil _ _

/-- The parts of characters are those before and those after any of the separators. -/
theorem splitOn_append_cons {isSeparator : Char → Bool} {separator : Char}
    (separates : isSeparator separator) (before after : List Char) :
    splitOn isSeparator (before ++ separator :: after) =
      splitOn isSeparator before ++ splitOn isSeparator after := by
  induction before with
  | nil =>
    show splitOn isSeparator (separator :: after) = [[]] ++ _
    rw [splitOn, if_pos separates]
    rfl
  | cons c rest inductionHypothesis =>
    rw [List.cons_append, splitOn, splitOn, inductionHypothesis]
    split
    · rfl
    · cases parted : splitOn isSeparator rest with
      | nil => exact absurd parted (splitOn_ne_nil _ _)
      | cons part others => rfl

/-- Characters without separators are their only part. -/
theorem splitOn_of_forall_not {isSeparator : Char → Bool} {chars : List Char}
    (whole : ∀ c ∈ chars, isSeparator c = false) : splitOn isSeparator chars = [chars] := by
  induction chars with
  | nil => rfl
  | cons c rest inductionHypothesis =>
    obtain ⟨here, later⟩ := List.forall_mem_cons.mp whole
    rw [splitOn, here, inductionHypothesis later]
    rfl

/-- Parts without separators that are joined by one are found again. -/
theorem splitOn_intercalate {isSeparator : Char → Bool} {separator : Char}
    (separates : isSeparator separator) {parts : List (List Char)} (some : parts ≠ [])
    (whole : ∀ part ∈ parts, ∀ c ∈ part, isSeparator c = false) :
    splitOn isSeparator ([separator].intercalate parts) = parts := by
  obtain ⟨first, others, rfl⟩ := List.exists_cons_of_ne_nil some
  clear some
  induction others generalizing first with
  | nil =>
    rw [List.intercalate_singleton]
    exact splitOn_of_forall_not (whole first List.mem_cons_self)
  | cons second rest inductionHypothesis =>
    obtain ⟨here, later⟩ := List.forall_mem_cons.mp whole
    rw [List.intercalate_cons_cons, List.append_assoc, List.singleton_append,
      splitOn_append_cons separates, splitOn_of_forall_not here, inductionHypothesis _ later]
    rfl

/-- No part of a text has a separator in it. -/
theorem notMem_of_mem_splitOn {separator : Char} {chars part : List Char}
    (member : part ∈ splitOn (· = separator) chars) : separator ∉ part := by
  induction chars generalizing part with
  | nil =>
    rw [List.mem_singleton.mp member]
    exact List.not_mem_nil
  | cons c rest inductionHypothesis =>
    unfold splitOn at member
    split at member
    · rcases List.mem_cons.mp member with rfl | later
      · exact List.not_mem_nil
      · exact inductionHypothesis later
    · next other =>
      have different : separator ≠ c := fun same => other (decide_eq_true same.symm)
      split at member
      · rw [List.mem_singleton.mp member, List.mem_singleton]
        exact different
      · next first others parts =>
        rcases List.mem_cons.mp member with rfl | later
        · exact List.not_mem_cons_of_ne_of_not_mem different
            (inductionHypothesis (parts ▸ List.mem_cons_self))
        · exact inductionHypothesis (parts ▸ List.mem_cons_of_mem _ later)

/-- The parts of a text with separators between them are the text. -/
theorem intercalate_splitOn (separator : Char) (chars : List Char) :
    [separator].intercalate (splitOn (· = separator) chars) = chars := by
  induction chars with
  | nil => rfl
  | cons c rest inductionHypothesis =>
    obtain ⟨part, others, parts⟩ :=
      List.exists_cons_of_ne_nil (splitOn_ne_nil (· = separator) rest)
    rw [parts] at inductionHypothesis
    unfold splitOn
    rw [parts]
    by_cases same : c = separator
    · rw [if_pos (decide_eq_true same), List.intercalate_cons_cons, inductionHypothesis, same]
      rfl
    · rw [if_neg (by simpa using same)]
      cases others with
      | nil =>
        rw [List.intercalate_singleton] at inductionHypothesis ⊢
        rw [inductionHypothesis]
      | cons second others =>
        rw [List.intercalate_cons_cons] at inductionHypothesis ⊢
        rw [← inductionHypothesis]
        rfl

/-! ### Joined parts -/

theorem intercalate_cons (separator : List Char) (line : List Char) {others : List (List Char)}
    (some : others ≠ []) : separator.intercalate (line :: others) =
      line ++ (separator ++ separator.intercalate others) := by
  cases others with
  | nil => exact absurd rfl some
  | cons next rest => rw [List.intercalate_cons_cons, List.append_assoc]

theorem intercalate_prefix {α : Type} (separator : List α) {first second : List (List α)}
    (isPrefix : first <+: second) :
    separator.intercalate first <+: separator.intercalate second := by
  induction first generalizing second with
  | nil => exact List.nil_prefix
  | cons here others inductionHypothesis =>
    obtain ⟨after, rfl⟩ := isPrefix
    cases others with
    | nil =>
      cases after with
      | nil => exact List.prefix_rfl
      | cons next later =>
        rw [List.intercalate_singleton, List.cons_append, List.nil_append,
          List.intercalate_cons_cons, List.append_assoc]
        exact List.prefix_append here _
    | cons next rest =>
      rw [List.cons_append, List.cons_append, List.intercalate_cons_cons,
        List.intercalate_cons_cons, List.prefix_append_right_inj]
      exact inductionHypothesis (List.prefix_append (next :: rest) after)

end Text

namespace Template

/-! ### Lines -/

/-- The lines of a text are its parts between line breaks. -/
theorem linesOf_eq_splitOn (chars : List Char) : linesOf chars = Text.splitOn (· = '\n') chars := by
  fun_induction linesOf chars with
  | case1 => rfl
  | case2 rest inductionHypothesis =>
    rw [Text.splitOn, if_pos (decide_eq_true rfl), inductionHypothesis]
  | case3 c rest notBreak none inductionHypothesis =>
    exact absurd (inductionHypothesis.symm.trans none) (Text.splitOn_ne_nil _ _)
  | case4 c rest notBreak line others found inductionHypothesis =>
    rw [Text.splitOn, if_neg (by simpa using notBreak), ← inductionHypothesis, found]

theorem linesOf_ne_nil (chars : List Char) : linesOf chars ≠ [] := by
  rw [linesOf_eq_splitOn]
  exact Text.splitOn_ne_nil _ chars

theorem intercalate_linesOf (chars : List Char) : ['\n'].intercalate (linesOf chars) = chars := by
  rw [linesOf_eq_splitOn, Text.intercalate_splitOn]

theorem break_notMem_of_mem_linesOf {chars line : List Char} (member : line ∈ linesOf chars) :
    '\n' ∉ line := by
  rw [linesOf_eq_splitOn] at member
  exact Text.notMem_of_mem_splitOn member

theorem linesOf_append_break (before after : List Char) :
    linesOf (before ++ '\n' :: after) = linesOf before ++ linesOf after := by
  simp only [linesOf_eq_splitOn]
  exact Text.splitOn_append_cons (decide_eq_true rfl) before after

theorem linesOf_intercalate {lines : List (List Char)} (some : lines ≠ [])
    (onLine : ∀ line ∈ lines, '\n' ∉ line) : linesOf (['\n'].intercalate lines) = lines := by
  rw [linesOf_eq_splitOn]
  refine Text.splitOn_intercalate (decide_eq_true rfl) some fun line member c inLine => ?_
  exact decide_eq_false fun isBreak => onLine line member (isBreak ▸ inLine)

/-! ### Indentation -/

/-- What a line is after it was moved to the right: a line of blanks is empty. -/
def movedLine (width : Nat) (line : List Char) : List Char :=
  if line.all Text.isBlank then [] else List.replicate width ' ' ++ line

theorem toList_indentLine (width : Nat) (line : List Char) :
    (indentLine width (String.ofList line)).toList = movedLine width line := by
  unfold indentLine movedLine Text.isAllBlank
  rw [String.toList_ofList]
  split
  · rfl
  · rw [String.toList_append, String.toList_ofList, String.toList_ofList]

/-- A line that was moved and is moved again is moved by both widths. -/
theorem movedLine_movedLine (first second : Nat) (line : List Char) :
    movedLine second (movedLine first line) = movedLine (first + second) line := by
  unfold movedLine
  by_cases blank : line.all Text.isBlank
  · rw [if_pos blank, if_pos blank]
    rfl
  · have stillVisible : ¬(List.replicate first ' ' ++ line).all Text.isBlank := by
      rw [List.all_append, Bool.and_eq_true]
      exact fun all => blank all.2
    rw [if_neg blank, if_neg blank, if_neg stillVisible, ← List.append_assoc,
      List.replicate_append_replicate, Nat.add_comm]

theorem movedLine_comp (first second : Nat) :
    movedLine second ∘ movedLine first = movedLine (first + second) :=
  funext (movedLine_movedLine first second)

theorem break_notMem_movedLine (width : Nat) {line : List Char} (onLine : '\n' ∉ line) :
    '\n' ∉ movedLine width line := by
  unfold movedLine
  split
  · exact List.not_mem_nil
  · rw [List.mem_append, not_or]
    exact ⟨fun member => absurd (List.eq_of_mem_replicate member) (by decide), onLine⟩

theorem toList_indentText (text : String) (width : Nat) :
    (indentText text width).toList =
      ['\n'].intercalate ((linesOf text.toList).map (movedLine width)) := by
  unfold indentText
  rw [String.toList_intercalate, List.map_map]
  exact congrArg _ (List.map_congr_left fun line _ => toList_indentLine width line)

/-- The lines of an indented text are those of the text, each of them moved. -/
theorem linesOf_indentText (text : String) (width : Nat) :
    linesOf (indentText text width).toList = (linesOf text.toList).map (movedLine width) := by
  rw [toList_indentText]
  refine linesOf_intercalate (fun none => linesOf_ne_nil _ (List.map_eq_nil_iff.mp none)) ?_
  intro line member
  obtain ⟨original, isLine, rfl⟩ := List.mem_map.mp member
  exact break_notMem_movedLine width (break_notMem_of_mem_linesOf isLine)

/-- Widths of indentations add up. -/
theorem indentText_indentText (text : String) (first second : Nat) :
    indentText (indentText text first) second = indentText text (first + second) := by
  refine String.toList_injective ?_
  rw [toList_indentText, linesOf_indentText, List.map_map, movedLine_comp, toList_indentText]

/-! ### Inclusions -/

/-- A command that indents what flows into it. -/
def indentation (width : Nat) : Command := .mk (.function "indent") [.integer width]

theorem evaluate_indentation (context : Context) (width : Nat) (value : Value) :
    (indentation width).evaluate context (some value) =
      .ok (.text (indentText value.plainText width)) := by
  have named : Function.ofName? "indent" = some .indent := by decide
  simp [indentation, Command.evaluate, evaluateOperands, Operand.evaluate, call, named,
    Function.apply, twoArguments, widthOf, bind, Except.bind, pure, Except.pure, Except.mapError]

/-- The value of some commands flows into those that come after them. -/
theorem evaluateCommands_append (context : Context) (piped : Option Value) (first : Command)
    (rest later : List Command) :
    evaluateCommands context piped (first :: rest ++ later) =
      evaluateCommands context piped (first :: rest) >>=
        fun value => evaluateCommands context (some value) later := by
  induction rest generalizing first piped with
  | nil =>
    rw [List.cons_append, List.nil_append, evaluateCommands, evaluateCommands]
    cases first.evaluate context piped with
    | error error => rfl
    | ok value =>
      show _ = evaluateCommands context (some value) [] >>= _
      rw [evaluateCommands]
      rfl
  | cons second others inductionHypothesis =>
    rw [List.cons_append, evaluateCommands, evaluateCommands]
    cases first.evaluate context piped with
    | error error => rfl
    | ok value => exact inductionHypothesis (some value) second

/-- An action that ends in an indentation writes what it would write without it, indented. -/
theorem render_indentation (context : Context) (first : Command) (rest : List Command)
    (width : Nat) :
    (Node.action (first :: rest ++ [indentation width])).render context =
      ((Node.action (first :: rest)).render context).map (indentText · width) := by
  rw [Node.render, Node.render, evaluate, evaluate, evaluateCommands_append]
  cases evaluateCommands context none (first :: rest) with
  | error error => rfl
  | ok value =>
    show (evaluateCommands context (some value) [indentation width] >>= _) = _
    rw [evaluateCommands, evaluate_indentation]
    rfl

/-- What stands around an inclusion that has its lines for itself. -/
structure Surroundings where
  above : String
  /-- The width by which what is included is indented. -/
  width : Nat
  below : String
  aboveEnds : above = "" ∨ ∃ chars, above.toList = chars ++ ['\n']
  belowBegins : below = "" ∨ ∃ chars, below.toList = '\n' :: chars

namespace Surroundings

/-- The text of an inclusion with what stands around it. -/
def enclose (around : Surroundings) (text : String) : String :=
  around.above ++ indentText text around.width ++ around.below

/-- The lines of what is included are moved and stay together. -/
theorem exists_linesOf_enclose (around : Surroundings) (text : String) :
    ∃ above below, linesOf (around.enclose text).toList =
      above ++ (linesOf text.toList).map (movedLine around.width) ++ below := by
  unfold enclose
  rw [String.toList_append, String.toList_append, ← linesOf_indentText]
  have fromBelow : ∃ below, linesOf ((indentText text around.width).toList ++ around.below.toList) =
      linesOf (indentText text around.width).toList ++ below := by
    rcases around.belowBegins with none | ⟨chars, begins⟩
    · exact ⟨[], by rw [none, String.toList_empty, List.append_nil, List.append_nil]⟩
    · exact ⟨linesOf chars, by rw [begins, linesOf_append_break]⟩
  obtain ⟨below, isBelow⟩ := fromBelow
  rw [List.append_assoc]
  rcases around.aboveEnds with none | ⟨chars, ends⟩
  · refine ⟨[], below, ?_⟩
    rw [none, String.toList_empty, List.nil_append, List.nil_append, isBelow]
  · refine ⟨linesOf chars, below, ?_⟩
    rw [ends, List.append_assoc, List.singleton_append, linesOf_append_break, isBelow,
      List.append_assoc]

/-- Lines that stay together in a text stay together when it is included as well, moved further. -/
theorem exists_linesOf_enclosed {lines : List (List Char)} {width : Nat} {text : String}
    (placed : ∃ above below, linesOf text.toList = above ++ lines.map (movedLine width) ++ below)
    (surroundings : List Surroundings) :
    ∃ above below,
      linesOf (surroundings.foldl (fun inner around => around.enclose inner) text).toList =
        above ++ lines.map (movedLine (width + (surroundings.map (·.width)).sum)) ++ below := by
  induction surroundings generalizing width text with
  | nil => simpa using placed
  | cons around others inductionHypothesis =>
    obtain ⟨above, below, isPlaced⟩ := placed
    obtain ⟨outerAbove, outerBelow, moved⟩ := around.exists_linesOf_enclose text
    have movedFurther : linesOf (around.enclose text).toList =
        (outerAbove ++ above.map (movedLine around.width)) ++
          lines.map (movedLine (width + around.width)) ++
            (below.map (movedLine around.width) ++ outerBelow) := by
      rw [moved, isPlaced, List.map_append, List.map_append, List.map_map, movedLine_comp]
      simp only [List.append_assoc]
    rw [List.foldl_cons, List.map_cons, List.sum_cons, ← Nat.add_assoc]
    exact inductionHypothesis ⟨_, _, movedFurther⟩

end Surroundings

/--
Indentation keeps the lines of a text: it moves those with something to see on them and empties the
others, and widths add up. Inclusions that are indented, each in the text of the next one, thus leave
the lines of the innermost text together, moved by the sum of the widths.
-/
theorem indentation_keeps_lines (text : String) (first second : Nat) :
    indentText (indentText text first) second = indentText text (first + second) ∧
      (linesOf (indentText text first).toList).length = (linesOf text.toList).length ∧
      (∀ position : Nat, (linesOf (indentText text first).toList)[position]? =
        (linesOf text.toList)[position]?.map fun line =>
          if line.all Text.isBlank then [] else List.replicate first ' ' ++ line) ∧
      (∀ context command rest,
        (Node.action (command :: rest ++ [indentation first])).render context =
          ((Node.action (command :: rest)).render context).map (indentText · first)) ∧
      ∀ (innermost : Surroundings) (outer : List Surroundings), ∃ above below,
        linesOf (outer.foldl (fun inner around => around.enclose inner)
          (innermost.enclose text)).toList =
        above ++ (linesOf text.toList).map
          (movedLine (innermost.width + (outer.map (·.width)).sum)) ++ below := by
  refine ⟨indentText_indentText text first second, ?_, fun position => ?_, ?_, ?_⟩
  · rw [linesOf_indentText, List.length_map]
  · rw [linesOf_indentText, List.getElem?_map]
    rfl
  · exact fun context command rest => render_indentation context command rest first
  · exact fun innermost outer =>
      Surroundings.exists_linesOf_enclosed (innermost.exists_linesOf_enclose text) outer

end Template

end LogForwarder
