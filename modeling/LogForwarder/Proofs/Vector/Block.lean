/-
This file proves how the lines of a block are found again. Templates are rendered line by line, with
a break behind each line, and of the whole text blanks are cut off at both ends. If the text begins
with a header, no line goes on to another one and none ends with a blank, all that is cut off is the
last break, and the lines of the block are those that were rendered.
-/

import LogForwarder.Proofs.Json.Literal
import LogForwarder.Proofs.OneLine
import LogForwarder.Proofs.Vector.Transform

namespace LogForwarder.Vector

open Template

/-! ### Both ends of lines -/

theorem endsVisibly_textLiteral (text : String) : EndsVisibly (Value.textLiteral text) :=
  EndsVisibly.append ⟨[], '"', rfl, by decide⟩ _

theorem endsVisibly_quoteList (texts : List String) : EndsVisibly (quoteList texts) :=
  EndsVisibly.append ⟨[], ']', rfl, by decide⟩ _

theorem endsVisibly_intercalate (separator first : String) {others : List String}
    (each : ∀ line ∈ first :: others, EndsVisibly line) :
    EndsVisibly (separator.intercalate (first :: others)) := by
  induction others generalizing first with
  | nil =>
    rw [String.intercalate_singleton]
    exact each first List.mem_cons_self
  | cons second rest inductionHypothesis =>
    rw [String.intercalate_cons_cons]
    exact (inductionHypothesis second (List.forall_mem_cons.mp each).2).append _

/-- A text of lines opens as the first of them does. -/
theorem opens_intercalate (separator : String) {header : String}
    (opens : ∃ rest, header.toList = '[' :: rest) (others : List String) :
    ∃ rest, (separator.intercalate (header :: others)).toList = '[' :: rest := by
  obtain ⟨rest, opens⟩ := opens
  cases others with
  | nil => exact ⟨rest, by rw [String.intercalate_singleton, opens]⟩
  | cons second others =>
    rw [String.intercalate_cons_cons, String.toList_append, String.toList_append, opens]
    exact ⟨_, rfl⟩

theorem oneLine_quoteList (texts : List String) : OneLine (quoteList texts) := by
  unfold quoteList
  rw [oneLine_append_iff, oneLine_append_iff]
  refine ⟨⟨by decide, oneLine_intercalate (by decide) fun quoted member => ?_⟩, by decide⟩
  obtain ⟨text, _, rfl⟩ := List.mem_map.mp member
  exact Json.notMem_textLiteral text

/-! ### Breaks behind lines -/

/-- Lines with line breaks behind them are a text of lines with one at its end. -/
theorem join_map_append_break (first : String) (others : List String) :
    String.join ((first :: others).map (· ++ "\n")) =
      "\n".intercalate (first :: others) ++ "\n" := by
  induction others generalizing first with
  | nil => simp
  | cons second rest inductionHypothesis =>
    rw [List.map_cons, String.join_cons, inductionHypothesis, String.intercalate_cons_cons,
      String.append_assoc, String.append_assoc, String.append_assoc]

/-- A line with a line break behind it, if there is one. -/
def brokenLine (line? : Option String) : String := line?.elim "" (· ++ "\n")

theorem join_brokenLine (lines : List (Option String)) :
    String.join (lines.map brokenLine) = String.join ((lines.filterMap id).map (· ++ "\n")) := by
  induction lines with
  | nil => rfl
  | cons line? rest inductionHypothesis =>
    rw [List.map_cons, String.join_cons, inductionHypothesis]
    cases line? with
    | none => exact String.empty_append
    | some line =>
      have found : (some line :: rest).filterMap id = line :: rest.filterMap id := rfl
      rw [found, List.map_cons, String.join_cons]
      rfl

/-! ### Lines of a block -/

/-- Whether a text can be a line of a block. -/
structure IsBlockLine (line : String) : Prop where
  oneLine : OneLine line
  endsVisibly : EndsVisibly line

/-- A setting can be a line of a block if its value can. -/
theorem IsBlockLine.append {value : String} (isLine : IsBlockLine value) {key : String}
    (onLine : OneLine key) : IsBlockLine (key ++ value) :=
  ⟨(oneLine_append_iff key value).mpr ⟨onLine, isLine.oneLine⟩, isLine.endsVisibly.append key⟩

theorem isBlockLine_textLiteral (text : String) : IsBlockLine (Value.textLiteral text) :=
  ⟨Json.notMem_textLiteral text, endsVisibly_textLiteral text⟩

theorem isBlockLine_quoteList (texts : List String) : IsBlockLine (quoteList texts) :=
  ⟨oneLine_quoteList texts, endsVisibly_quoteList texts⟩

theorem linesOfText_blockLines {header : String} {others : List String}
    (each : ∀ line ∈ header :: others, OneLine line) :
    linesOfText ("\n".intercalate (header :: others)) = header :: others := by
  rw [linesOfText_intercalate, List.flatMap_congr fun line member => linesOfText_of_oneLine
    (each line member), List.flatMap_singleton']

/-- The block of a template that is rendered line by line has the lines that are rendered. -/
theorem exists_renderBlock_of_lines {engine : Engine} (made : Templates.engine = .ok engine)
    {source : Source} (member : source ∈ Templates.all) {nodes : List Node}
    (isRead : read source.text = .ok nodes) {params : Params} {header : String}
    {others : List String}
    (rendered : renderNodes ⟨engine.render, .object params, .object params⟩ nodes =
      .ok (String.join ((header :: others).map (· ++ "\n"))))
    (opens : ∃ rest, header.toList = '[' :: rest)
    (each : ∀ line ∈ header :: others, IsBlockLine line) (owner : String) :
    ∃ block, renderBlock engine owner source.name params = .ok block ∧
      linesOfText block = header :: others := by
  refine ⟨_, renderBlock_eq made member isRead rendered owner, ?_⟩
  rw [join_map_append_break, trim_block (opens_intercalate "\n" opens others)
    (endsVisibly_intercalate "\n" header fun line isLine => (each line isLine).endsVisibly)]
  exact linesOfText_blockLines fun line isLine => (each line isLine).oneLine

end LogForwarder.Vector
