/-
This file proves that values that are written where they may be change no tags. The outline of a
template writes a placeholder for every value. What may have been read before and after a part of a
template is computed from its text alone, a line at a time: a text is read as it stands, a value may
be written only where its content allows that, and the parts of a branch or of a loop have to leave
the same sections open. Whatever is so computed, a template and its outline have the same tags.
-/

import LogForwarder.Proofs.Fluentd.Content
import LogForwarder.Proofs.Template.Source

namespace LogForwarder

namespace Template

/-! ### Placeholders -/

/-- What stands in the place of a value. -/
def placeholder : String := "_"

/-- Whether an expression includes a template. -/
def Expression.includes (expression : Expression) : Bool :=
  expression.any fun command => (includeTarget? command).isSome

mutual

/-- A node that writes a placeholder for every value and is otherwise the same. -/
def Node.outline : Node → Node
  | .text value => .text value
  | .action expression =>
    if Expression.includes expression then .action expression else .text placeholder
  | .branch condition body otherwise =>
    .branch condition (outlineNodes body) (outlineNodes otherwise)
  | .each collection body otherwise =>
    .each collection (outlineNodes body) (outlineNodes otherwise)
  | .within value body otherwise => .within value (outlineNodes body) (outlineNodes otherwise)

/-- Nodes that write a placeholder for every value and are otherwise the same. -/
def outlineNodes : List Node → List Node
  | [] => []
  | node :: rest => node.outline :: outlineNodes rest

end

/-- The outline of a template. -/
def Definition.outline (definition : Definition) : Definition :=
  { definition with nodes := outlineNodes definition.nodes }

/-- The engine of the outlines of templates. -/
def Engine.outline (engine : Engine) : Engine := ⟨engine.definitions.map Definition.outline⟩

end Template

namespace Fluentd

open Template

/-! ### Places -/

/-- A place in a template. -/
structure Place where
  /-- The sections that have been opened since the start of the template. -/
  opens : List String
  /-- What may have been read of the line. -/
  lines : List Line
  deriving DecidableEq

/-- Whether a text leads from one place to another, with some tags on its way. -/
structure Leads (mayStandAlone : String → Bool) (before after : Place) (tags : List Tag)
    (chars : List Char) : Prop where
  nests : nest mayStandAlone before.opens tags = some after.opens
  reads : ∀ line ∈ before.lines,
    (line.readAll chars).2 = tags ∧ (line.readAll chars).1 ∈ after.lines

/-- Whether two texts lead from one place to another with the same tags. -/
def Parallel (mayStandAlone : String → Bool) (before after : Place) (first second : String) :
    Prop :=
  ∃ tags, Leads mayStandAlone before after tags first.toList ∧
    Leads mayStandAlone before after tags second.toList

section Leads

variable {mayStandAlone : String → Bool} {before middle after : Place}

theorem Leads.append {tags moreTags : List Tag} {chars more : List Char}
    (leads : Leads mayStandAlone before middle tags chars)
    (leadsOn : Leads mayStandAlone middle after moreTags more) :
    Leads mayStandAlone before after (tags ++ moreTags) (chars ++ more) where
  nests := by
    rw [nest_append, leads.nests]
    exact leadsOn.nests
  reads line member := by
    obtain ⟨isTags, inMiddle⟩ := leads.reads line member
    obtain ⟨areMore, inAfter⟩ := leadsOn.reads _ inMiddle
    rw [Line.readAll_append, isTags, areMore]
    exact ⟨rfl, inAfter⟩

/-- Whether all that is known of one place holds of another one. -/
def Place.within (place other : Place) : Bool :=
  place.opens = other.opens && place.lines.all (· ∈ other.lines)

theorem Leads.widen {tags : List Tag} {chars : List Char} {start finish : Place}
    (leads : Leads mayStandAlone before after tags chars) (startWithin : start.within before)
    (afterWithin : after.within finish) : Leads mayStandAlone start finish tags chars := by
  simp only [Place.within, Bool.and_eq_true, decide_eq_true_eq, List.all_eq_true] at *
  refine ⟨?_, fun line member => ?_⟩
  · rw [startWithin.1, leads.nests, afterWithin.1]
  · obtain ⟨isTags, inAfter⟩ := leads.reads line (startWithin.2 line member)
    exact ⟨isTags, afterWithin.2 _ inAfter⟩

theorem Parallel.refl (place : Place) : Parallel mayStandAlone place place "" "" := by
  have leads : Leads mayStandAlone place place [] [] := ⟨rfl, fun _ member => ⟨rfl, member⟩⟩
  exact ⟨[], leads, leads⟩

theorem Parallel.append {first second moreFirst moreSecond : String}
    (parallel : Parallel mayStandAlone before middle first second)
    (parallelOn : Parallel mayStandAlone middle after moreFirst moreSecond) :
    Parallel mayStandAlone before after (first ++ moreFirst) (second ++ moreSecond) := by
  obtain ⟨tags, firstLeads, secondLeads⟩ := parallel
  obtain ⟨moreTags, firstLeadsOn, secondLeadsOn⟩ := parallelOn
  refine ⟨tags ++ moreTags, ?_, ?_⟩
  · rw [String.toList_append]
    exact firstLeads.append firstLeadsOn
  · rw [String.toList_append]
    exact secondLeads.append secondLeadsOn

theorem Parallel.widen {first second : String} {start finish : Place}
    (parallel : Parallel mayStandAlone before after first second)
    (startWithin : start.within before) (afterWithin : after.within finish) :
    Parallel mayStandAlone start finish first second := by
  obtain ⟨tags, firstLeads, secondLeads⟩ := parallel
  exact ⟨tags, firstLeads.widen startWithin afterWithin, secondLeads.widen startWithin afterWithin⟩

end Leads

theorem Place.within_refl (place : Place) : place.within place := by
  simp [Place.within]

/-- The same as `readAll`, but without a list for each character that ends no tag. -/
def Line.scan : Line → List Char → Line × List Tag
  | line, [] => (line, [])
  | line, c :: rest =>
    match line.read c with
    | (next, none) => next.scan rest
    | (next, some ended) => ((next.scan rest).1, ended :: (next.scan rest).2)

theorem Line.scan_eq (line : Line) (chars : List Char) : line.scan chars = line.readAll chars := by
  induction chars generalizing line with
  | nil => rfl
  | cons c rest inductionHypothesis =>
    rw [scan, readAll]
    split
    · next same => rw [inductionHypothesis, same]; rfl
    · next same => rw [inductionHypothesis, same]; rfl

namespace Place

/-! ### Texts -/

/-- The tags of a text, if they are the same whatever has been read before. -/
def commonTags? : List (Line × List Tag) → Option (List Tag)
  | [] => none
  | first :: others => if others.all (·.2 = first.2) then some first.2 else none

/-- The place after some more characters, if their tags nest. -/
def readAll? (mayStandAlone : String → Bool) (place : Place) (chars : List Char) :
    Option Place := do
  let results := place.lines.map (·.scan chars)
  let tags ← commonTags? results
  let opens ← nest mayStandAlone place.opens tags
  return ⟨opens, (results.map (·.1)).eraseDups⟩

theorem snd_of_commonTags? {results : List (Line × List Tag)} {tags : List Tag}
    (common : commonTags? results = some tags) : ∀ result ∈ results, result.2 = tags := by
  unfold commonTags? at common
  split at common
  · cases common
  · split at common
    · next first others same =>
      cases common
      refine List.forall_mem_cons.mpr ⟨rfl, fun result member => ?_⟩
      exact of_decide_eq_true (List.all_eq_true.mp same result member)
    · cases common

theorem exists_leads_of_readAll? {mayStandAlone : String → Bool} {place after : Place}
    {chars : List Char} (found : place.readAll? mayStandAlone chars = some after) :
    ∃ tags, Leads mayStandAlone place after tags chars := by
  unfold readAll? at found
  obtain ⟨tags, common, found⟩ := Option.bind_eq_some_iff.mp found
  obtain ⟨opens, nests, found⟩ := Option.bind_eq_some_iff.mp found
  cases found
  refine ⟨tags, nests, fun line member => ?_⟩
  have isResult : line.readAll chars ∈ place.lines.map (·.scan chars) :=
    line.scan_eq chars ▸ List.mem_map_of_mem member
  exact ⟨snd_of_commonTags? common _ isResult,
    List.mem_eraseDups.mpr (List.mem_map_of_mem isResult)⟩

/-! ### Values -/

/-- What may have been read of a line after a value at a spot, if the value may be written there. -/
def linesAfter? (spot : Spot) : Line → Option (List Line)
  | .plain => some [.plain]
  | .blank => if spot = .start then some [.blank, .plain] else none
  | .argument letters => if spot = .argument then some [.argument letters] else none
  | .opening _ | .closing _ | .tag => none

/-- The place after a value at a spot. -/
def write? (place : Place) (spot : Spot) : Option Place :=
  if place.lines.all fun line => (linesAfter? spot line).isSome then
    some ⟨place.opens, (place.lines.filterMap (linesAfter? spot)).flatten.eraseDups⟩
  else
    none

theorem readAll_plain {chars : List Char} (onLine : '\n' ∉ chars) :
    Line.plain.readAll chars = (.plain, []) := by
  induction chars with
  | nil => rfl
  | cons c rest inductionHypothesis =>
    rw [List.mem_cons, not_or] at onLine
    have stays : Line.plain.read c = (.plain, none) := by
      unfold Line.read
      rw [if_neg (Ne.symm onLine.1)]
    rw [Line.readAll, stays, inductionHypothesis onLine.2]
    rfl

theorem readAll_argument (letters : List Char) {chars : List Char} (onLine : '\n' ∉ chars)
    (inside : '>' ∉ chars) : (Line.argument letters).readAll chars = (.argument letters, []) := by
  induction chars with
  | nil => rfl
  | cons c rest inductionHypothesis =>
    rw [List.mem_cons, not_or] at onLine inside
    have stays : (Line.argument letters).read c = (.argument letters, none) := by
      unfold Line.read
      rw [if_neg (Ne.symm onLine.1)]
      exact if_neg (Ne.symm inside.1)
    rw [Line.readAll, stays, inductionHypothesis onLine.2 inside.2]
    rfl

/-- A text that begins no tag and stays on its line leaves the line blank or without a tag. -/
theorem readAll_start {chars : List Char} (onLine : '\n' ∉ chars)
    (begins : (chars.dropWhile Text.isBlank).head? ≠ some '<') :
    Line.blank.readAll chars = (.blank, []) ∨ Line.blank.readAll chars = (.plain, []) := by
  have split : chars.takeWhile Text.isBlank ++ chars.dropWhile Text.isBlank = chars :=
    List.takeWhile_append_dropWhile
  have blankStart : (chars.takeWhile Text.isBlank).all Text.isBlank := List.all_takeWhile
  rw [← split, Line.readAll_append, Line.readAll_blank blankStart]
  have visibleOnLine : '\n' ∉ chars.dropWhile Text.isBlank :=
    fun member => onLine ((List.dropWhile_suffix _).subset member)
  cases visible : chars.dropWhile Text.isBlank with
  | nil => exact .inl rfl
  | cons c rest =>
    rw [visible] at begins visibleOnLine
    rw [List.mem_cons, not_or] at visibleOnLine
    have isVisible : Text.isBlank c = false := by
      have head := List.head?_dropWhile_not Text.isBlank chars
      rw [visible] at head
      simpa using head
    have isPlain : Line.blank.read c = (.plain, none) := by
      unfold Line.read
      rw [if_neg (Ne.symm visibleOnLine.1)]
      simp only [isVisible, Bool.false_eq_true, if_false]
      exact if_neg fun isTag => begins (by rw [isTag]; rfl)
    refine .inr ?_
    rw [Line.readAll, isPlain, readAll_plain visibleOnLine.2]
    rfl

theorem readAll_of_linesAfter? {spot : Spot} {line : Line} {lines : List Line}
    (found : linesAfter? spot line = some lines) {chars : List Char} (admits : spot.Admits chars) :
    (line.readAll chars).2 = [] ∧ (line.readAll chars).1 ∈ lines := by
  unfold linesAfter? at found
  split at found
  · cases found
    rw [readAll_plain admits.onLine]
    exact ⟨rfl, List.mem_singleton_self _⟩
  · split at found
    · next isStart =>
      cases found
      rcases readAll_start admits.onLine (admits.beginsNone isStart) with isBlank | isPlain
      · rw [isBlank]
        exact ⟨rfl, List.mem_cons_self⟩
      · rw [isPlain]
        exact ⟨rfl, List.mem_cons_of_mem _ (List.mem_singleton_self _)⟩
    · cases found
  · split at found
    · next letters isArgument =>
      cases found
      rw [readAll_argument letters admits.onLine (admits.endsNone isArgument)]
      exact ⟨rfl, List.mem_singleton_self _⟩
    · cases found
  all_goals cases found

theorem leads_of_write? {mayStandAlone : String → Bool} {place after : Place} {spot : Spot}
    (found : place.write? spot = some after) {chars : List Char} (admits : spot.Admits chars) :
    Leads mayStandAlone place after [] chars := by
  unfold write? at found
  split at found
  · next mayBeWritten =>
    cases found
    refine ⟨rfl, fun line member => ?_⟩
    obtain ⟨lines, isLines⟩ := Option.isSome_iff_exists.mp
      (List.all_eq_true.mp mayBeWritten line member)
    obtain ⟨noTag, inLines⟩ := readAll_of_linesAfter? isLines admits
    refine ⟨noTag, List.mem_eraseDups.mpr (List.mem_flatten.mpr ⟨lines, ?_, inLines⟩)⟩
    exact List.mem_filterMap.mpr ⟨line, member, isLines⟩
  · cases found

/-- The place at which two ways meet that have left the same sections open. -/
def join? (place other : Place) : Option Place :=
  if place.opens = other.opens then
    some ⟨place.opens, (place.lines ++ other.lines).eraseDups⟩
  else
    none

theorem within_of_join? {place other joined : Place} (found : place.join? other = some joined) :
    place.within joined ∧ other.within joined := by
  unfold join? at found
  split at found
  · next same =>
    cases found
    simp only [within, Bool.and_eq_true, decide_eq_true_eq, List.all_eq_true, List.mem_eraseDups,
      List.mem_append]
    exact ⟨⟨trivial, fun _ member => .inl member⟩, same.symm, fun _ member => .inr member⟩
  · cases found

end Place

/-! ### Expressions -/

/-- What is known of the templates that a template may include. -/
structure Slot where
  /-- What a template is rendered with. -/
  content : Content
  /-- Whether the template makes up a block of its own, and is not written inside of others. -/
  isBlock : Bool
  /-- What may have been read of the line before the template. -/
  before : List Line
  /-- What may have been read of the line after the template. -/
  after : List Line
  deriving DecidableEq

/-- The slots of templates by name. -/
abbrev Slots := List (String × Slot)

namespace Slot

/-- The sections that may be opened by a template when it has no section open. -/
def mayStandAlone (slot : Slot) (name : String) : Bool := !slot.isBlock || standsAlone name

/-- Whether two texts of a template take its slot alike. -/
def Takes (slot : Slot) (first second : String) : Prop :=
  Parallel slot.mayStandAlone ⟨[], slot.before⟩ ⟨[], slot.after⟩ first second

end Slot

/-- Whether templates that are included in two ways take their slots alike. -/
def Slots.Agree (slots : Slots) (first second : Includer) : Prop :=
  ∀ target slot, slots.lookup target = some slot → ∀ data, slot.content.Holds data →
    ∀ text, first target data = .ok text →
      ∃ outline, second target data = .ok outline ∧ slot.Takes text outline

/-- What is known where a node stands. -/
structure Scope where
  slots : Slots
  /-- The slot of the template. -/
  slot : Slot
  dot : Content

namespace Scope

/-- What is known of the value of an expression that is a path. -/
def content? (scope : Scope) : Expression → Option Content
  | [.mk (.dot path) _] => some (scope.dot.follow path)
  | [.mk (.root path) _] => some (scope.slot.content.follow path)
  | _ => none

/-- Where the text of an expression can be written, if it includes no template. -/
def spot? (scope : Scope) (expression : Expression) : Option Spot :=
  match expression with
  | [.mk (.function name) arguments] =>
    match Function.ofName? name, arguments with
    | some .join, [.text separator, .dot path] =>
      if '\n' ∉ separator.toList ∧ '>' ∉ separator.toList then
        some (scope.dot.follow path).item.spot
      else
        none
    | some .quoteList, [.dot _] => some .behind
    | some .kv, [.dot ["key"], .dot _] => if scope.dot = .setting then some .start else none
    | _, _ => none
  | _ => (scope.content? expression).map Content.spot

end Scope

/-! ### Evaluation -/

theorem evaluate_one (context : Context) (command : Command) :
    evaluate context [command] = command.evaluate context none := by
  simp only [evaluate, evaluateCommands]
  exact bind_pure _

theorem evaluate_two (context : Context) (first second : Command) :
    evaluate context [first, second] =
      first.evaluate context none >>= fun value => second.evaluate context (some value) := by
  simp only [evaluate, evaluateCommands]
  exact congrArg _ (funext fun _ => bind_pure _)

theorem evaluate_dot (context : Context) (path : List String) (arguments : List Operand) :
    evaluate context [.mk (.dot path) arguments] = followPath context.dot path := by
  simp only [evaluate_one, Command.evaluate, Operand.evaluate]

theorem evaluate_root (context : Context) (path : List String) (arguments : List Operand) :
    evaluate context [.mk (.root path) arguments] = followPath context.root path := by
  simp only [evaluate_one, Command.evaluate, Operand.evaluate]

/-- The value of a call is that of a function at the values of its arguments. -/
theorem exists_of_evaluate_function {context : Context} {name : String} {function : Function}
    (isFunction : Function.ofName? name = some function) {piped : Option Value}
    {arguments : List Operand} {value : Value}
    (evaluated : (Command.mk (.function name) arguments).evaluate context piped = .ok value) :
    ∃ values, evaluateOperands context arguments = .ok values ∧
      function.apply context.includer (values ++ piped.toList) = .ok value := by
  rw [Command.evaluate] at evaluated
  obtain ⟨values, areValues, called⟩ := exists_of_bind_eq_ok evaluated
  refine ⟨values, areValues, ?_⟩
  unfold call at called
  rw [isFunction] at called
  cases applied : function.apply context.includer (values ++ piped.toList) with
  | error error =>
    simp only [applied] at called
    cases called
  | ok result =>
    simp only [applied] at called
    cases called
    rfl

theorem exists_of_evaluateOperands_cons {context : Context} {operand : Operand}
    {rest : List Operand} {values : List Value}
    (evaluated : evaluateOperands context (operand :: rest) = .ok values) :
    ∃ value others, operand.evaluate context = .ok value ∧
      evaluateOperands context rest = .ok others ∧ values = value :: others := by
  rw [evaluateOperands] at evaluated
  obtain ⟨value, isValue, evaluated⟩ := exists_of_bind_eq_ok evaluated
  obtain ⟨others, areOthers, evaluated⟩ := exists_of_bind_eq_ok evaluated
  cases evaluated
  exact ⟨value, others, isValue, areOthers, rfl⟩

namespace Scope

section Values

variable {scope : Scope} {includer : Includer} {dot root : Value}

/-- A path is evaluated to what it leads to, however templates are included. -/
theorem evaluate_of_content? {expression : Expression} {content : Content}
    (known : scope.content? expression = some content) (first second : Includer) :
    evaluate ⟨first, dot, root⟩ expression = evaluate ⟨second, dot, root⟩ expression := by
  unfold content? at known
  split at known
  · rw [evaluate_dot, evaluate_dot]
  · rw [evaluate_root, evaluate_root]
  · cases known

variable (dotHolds : scope.dot.Holds dot) (rootHolds : scope.slot.content.Holds root)

include dotHolds rootHolds

theorem holds_of_content? {expression : Expression} {content : Content}
    (known : scope.content? expression = some content) {value : Value}
    (evaluated : evaluate ⟨includer, dot, root⟩ expression = .ok value) : content.Holds value := by
  unfold content? at known
  split at known
  · cases known
    rw [evaluate_dot] at evaluated
    exact dotHolds.followPath evaluated
  · cases known
    rw [evaluate_root] at evaluated
    exact rootHolds.followPath evaluated
  · cases known

theorem admits_of_spot? {expression : Expression} {spot : Spot}
    (known : scope.spot? expression = some spot) {value : Value}
    (evaluated : evaluate ⟨includer, dot, root⟩ expression = .ok value) :
    spot.Admits value.plainText.toList := by
  unfold spot? at known
  split at known
  · next name arguments =>
    obtain ⟨result, isResult, same⟩ := exists_of_bind_eq_ok evaluated
    cases same
    split at known
    · next separator path isJoin =>
      obtain ⟨values, areValues, applied⟩ := exists_of_evaluate_function isJoin isResult
      obtain ⟨_, _, isSeparator, areOthers, rfl⟩ := exists_of_evaluateOperands_cons areValues
      obtain ⟨list, _, isList, nothing, rfl⟩ := exists_of_evaluateOperands_cons areOthers
      rw [Operand.evaluate] at isSeparator
      rw [Operand.evaluate] at isList
      cases isSeparator
      cases nothing
      have run : (textsOf list >>= fun texts => .ok (.text (separator.intercalate texts))) =
          .ok result := applied
      obtain ⟨texts, areTexts, joined⟩ := exists_of_bind_eq_ok run
      cases joined
      split at known
      · next plain =>
        cases known
        have inside : (scope.dot.follow path).item.spot ≠ .start := Content.item_spot_ne_start _
        have admits := (dotHolds.followPath isList).texts areTexts
        show Spot.Admits _ (separator.intercalate texts).toList
        rw [String.toList_intercalate]
        exact Spot.Admits.intercalate inside
          ⟨plain.1, fun _ => plain.2, fun isStart => absurd isStart inside⟩ (by simpa using admits)
      · cases known
    · next path isQuoteList =>
      cases known
      obtain ⟨values, areValues, applied⟩ := exists_of_evaluate_function isQuoteList isResult
      obtain ⟨list, _, isList, nothing, rfl⟩ := exists_of_evaluateOperands_cons areValues
      cases nothing
      have run : (textsOf list >>= fun texts => .ok (.text (quoteList texts))) = .ok result := applied
      obtain ⟨texts, areTexts, quoted⟩ := exists_of_bind_eq_ok run
      cases quoted
      exact (Spot.admits_behind_iff _).mpr (Content.notMem_quoteList texts)
    · next path isKeyValue =>
      obtain ⟨values, areValues, applied⟩ := exists_of_evaluate_function isKeyValue isResult
      obtain ⟨key, _, isKey, areOthers, rfl⟩ := exists_of_evaluateOperands_cons areValues
      obtain ⟨field, _, isField, nothing, rfl⟩ := exists_of_evaluateOperands_cons areOthers
      rw [Operand.evaluate] at isKey isField
      cases nothing
      cases applied
      split at known
      · next isSetting =>
        cases known
        exact (isSetting ▸ dotHolds).admits_keyValue isKey isField
      · cases known
    · cases known
  · obtain ⟨content, isContent, rfl⟩ := Option.map_eq_some_iff.mp known
    exact (holds_of_content? dotHolds rootHolds isContent evaluated).admits

end Values

end Scope

/-! ### Inclusions -/

/-- An action that includes a template. -/
structure Inclusion where
  target : String
  /-- The path to what the template is rendered with. -/
  path : List String
  /-- The width by which its text is indented. -/
  width? : Option Nat
  deriving DecidableEq

namespace Inclusion

/-- The inclusion that an expression is. -/
def ofExpression? : Expression → Option Inclusion
  | [.mk (.function name) [.text target, .dot path]] =>
    if Function.ofName? name = some .include then some ⟨target, path, none⟩ else none
  | [.mk (.function name) [.text target, .dot path], .mk (.function other) [.integer width]] =>
    if Function.ofName? name = some .include ∧ Function.ofName? other = some .indent ∧ 0 ≤ width then
      some ⟨target, path, some width.toNat⟩
    else
      none
  | _ => none

/-- The text of a template as it is included. -/
def written (inclusion : Inclusion) (text : String) : String :=
  match inclusion.width? with
  | none => text
  | some width => indentText text width

theorem evaluate_include {name target : String} (isInclude : Function.ofName? name = some .include)
    (path : List String) (context : Context) (value : Value) :
    (Command.mk (.function name) [.text target, .dot path]).evaluate context none = .ok value ↔
      ∃ data text, followPath context.dot path = .ok data ∧
        context.includer target data = .ok text ∧ value = .text text := by
  refine ⟨fun evaluated => ?_, ?_⟩
  · obtain ⟨values, areValues, applied⟩ := exists_of_evaluate_function isInclude evaluated
    obtain ⟨_, _, isTarget, areOthers, rfl⟩ := exists_of_evaluateOperands_cons areValues
    obtain ⟨data, _, isData, nothing, rfl⟩ := exists_of_evaluateOperands_cons areOthers
    rw [Operand.evaluate] at isTarget
    rw [Operand.evaluate] at isData
    cases isTarget
    cases nothing
    have run : (context.includer target data >>= fun text => .ok (.text text)) = .ok value := applied
    obtain ⟨text, included, same⟩ := exists_of_bind_eq_ok run
    cases same
    exact ⟨data, text, isData, included, rfl⟩
  · rintro ⟨data, text, isData, included, rfl⟩
    simp [Command.evaluate, evaluateOperands, Operand.evaluate, isData, call, isInclude,
      Function.apply, Value.plainText, included, bind, Except.bind, pure, Except.pure,
      Except.mapError]

theorem evaluate_indent {name : String} (isIndent : Function.ofName? name = some .indent)
    {width : Int} (nonnegative : 0 ≤ width) (context : Context) (text : String) (value : Value) :
    (Command.mk (.function name) [.integer width]).evaluate context (some (.text text)) =
        .ok value ↔ value = .text (indentText text width.toNat) := by
  have isWidth : widthOf (.integer width) = .ok width.toNat := if_pos nonnegative
  simp [Command.evaluate, evaluateOperands, Operand.evaluate, call, isIndent, Function.apply,
    twoArguments, isWidth, Value.plainText, bind, Except.bind, pure, Except.pure, Except.mapError,
    eq_comm]

/-- An inclusion is evaluated to the text of its template, as it is included. -/
theorem evaluate_iff {expression : Expression} {inclusion : Inclusion}
    (isInclusion : ofExpression? expression = some inclusion) (context : Context) (value : Value) :
    evaluate context expression = .ok value ↔
      ∃ data text, followPath context.dot inclusion.path = .ok data ∧
        context.includer inclusion.target data = .ok text ∧
          value = .text (inclusion.written text) := by
  unfold ofExpression? at isInclusion
  split at isInclusion
  · next name target path =>
    split at isInclusion
    · next isInclude =>
      cases isInclusion
      rw [evaluate_one]
      exact evaluate_include isInclude path context value
    · cases isInclusion
  · next name target path other width =>
    split at isInclusion
    · next areFunctions =>
      obtain ⟨isInclude, isIndent, nonnegative⟩ := areFunctions
      cases isInclusion
      rw [evaluate_two]
      refine ⟨fun evaluated => ?_, ?_⟩
      · obtain ⟨included, isIncluded, evaluated⟩ := exists_of_bind_eq_ok evaluated
        obtain ⟨data, text, isData, isText, rfl⟩ :=
          (evaluate_include isInclude path context included).mp isIncluded
        exact ⟨data, text, isData, isText,
          (evaluate_indent isIndent nonnegative context text value).mp evaluated⟩
      · rintro ⟨data, text, isData, isText, isValue⟩
        rw [(evaluate_include isInclude path context (.text text)).mpr ⟨data, text, isData, isText, rfl⟩]
        exact (evaluate_indent isIndent nonnegative context text value).mpr isValue
    · cases isInclusion
  · cases isInclusion

theorem readAll_written (inclusion : Inclusion) {line : Line}
    (before : inclusion.width? = none ∨ line = .blank ∨ line = .plain) (text : String) :
    line.readAll (inclusion.written text).toList = line.readAll text.toList := by
  unfold written
  split
  · rfl
  · next width indented =>
    rw [indented] at before
    exact readAll_indentText (before.resolve_left nofun) text width

end Inclusion

/-! ### Nodes -/

/-- Whether an expression includes no template and calls functions that there are. -/
def isClosed (expression : Expression) : Bool :=
  (withGroups expression).flatten.all fun command =>
    (commandFaults "" command).isEmpty && (includeTarget? command).isNone

theorem evaluate_of_isClosed {expression : Expression} (closed : isClosed expression)
    (first second : Includer) (dot root : Value) :
    evaluate ⟨first, dot, root⟩ expression = evaluate ⟨second, dot, root⟩ expression := by
  have calls : CallAmong [] (withGroups expression) := by
    intro other isOther command isCommand
    have member := List.mem_flatten.mpr ⟨other, isOther, isCommand⟩
    have sound := List.all_eq_true.mp closed command member
    rw [Bool.and_eq_true, List.isEmpty_iff, Option.isNone_iff_eq_none] at sound
    refine Command.callsAmong_of_commandFaults sound.1 fun target included => ?_
    rw [sound.2] at included
    cases included
  have agree : AgreeAt [] first second := fun _ absurdity => absurd absurdity List.not_mem_nil
  exact (agree.evaluate dot root calls).same

namespace Scope

/-- The place after an inclusion, if its template fits there. -/
def include? (scope : Scope) (place : Place) (inclusion : Inclusion) : Option Place := do
  let slot ← scope.slots.lookup inclusion.target
  let fits := !slot.isBlock && slot.content = scope.dot.follow inclusion.path &&
    place.lines.all (· ∈ slot.before) &&
    (inclusion.width?.isNone || place.lines.all (· ∈ [.blank, .plain])) &&
    (!scope.slot.isBlock || !place.opens.isEmpty)
  if fits then some ⟨place.opens, slot.after⟩ else none

end Scope

section Places

-- How the characters of a text are looked up, as they may be kept elsewhere.
variable (charsOf : String → List Char)

mutual

/-- The place after a node, if its values are written only where they may be. -/
def nodePlace? (scope : Scope) (place : Place) : Node → Option Place
  | .text value => place.readAll? scope.slot.mayStandAlone (charsOf value)
  | .action expression =>
    if Expression.includes expression then do
      scope.include? place (← Inclusion.ofExpression? expression)
    else do
      place.write? (← scope.spot? expression)
  | .branch condition body otherwise =>
    if isClosed condition then do
      (← placeAfter? scope place body).join? (← placeAfter? scope place otherwise)
    else
      none
  | .within value body otherwise => do
    let content ← scope.content? value
    (← placeAfter? { scope with dot := content } place body).join?
      (← placeAfter? scope place otherwise)
  | .each collection body otherwise => do
    let content ← scope.content? collection
    let inner : Scope := { scope with dot := content.item }
    -- The place between two rounds: it has to hold after each of them, if it holds before.
    let between ← place.join? (← placeAfter? inner place body)
    if (← placeAfter? inner between body).within between then
      between.join? (← placeAfter? scope place otherwise)
    else
      none

/-- The place after some nodes, if their values are written only where they may be. -/
def placeAfter? (scope : Scope) (place : Place) : List Node → Option Place
  | [] => some place
  | node :: rest => do placeAfter? scope (← nodePlace? scope place node) rest

end

end Places

mutual

/-- Texts may be looked up where they are read, or be put in their places before that. -/
theorem nodePlace?_mapTexts (textOf : String → String) : ∀ (node : Node) (scope : Scope)
    (place : Place), nodePlace? String.toList scope place (node.mapTexts textOf) =
      nodePlace? (fun key => (textOf key).toList) scope place node
  | .text value, scope, place => by rw [Node.mapTexts, nodePlace?, nodePlace?]
  | .action expression, scope, place => by rw [Node.mapTexts, nodePlace?, nodePlace?]
  | .branch condition body otherwise, scope, place => by
    rw [Node.mapTexts, nodePlace?, nodePlace?, placeAfter?_mapTextsOf textOf body,
      placeAfter?_mapTextsOf textOf otherwise]
  | .each collection body otherwise, scope, place => by
    simp only [Node.mapTexts, nodePlace?, placeAfter?_mapTextsOf textOf body,
      placeAfter?_mapTextsOf textOf otherwise]
  | .within value body otherwise, scope, place => by
    simp only [Node.mapTexts, nodePlace?, placeAfter?_mapTextsOf textOf body,
      placeAfter?_mapTextsOf textOf otherwise]

theorem placeAfter?_mapTextsOf (textOf : String → String) : ∀ (nodes : List Node) (scope : Scope)
    (place : Place), placeAfter? String.toList scope place (mapTextsOf textOf nodes) =
      placeAfter? (fun key => (textOf key).toList) scope place nodes
  | [], scope, place => by rw [mapTextsOf, placeAfter?, placeAfter?]
  | node :: rest, scope, place => by
    simp only [mapTextsOf, placeAfter?, nodePlace?_mapTexts textOf node,
      placeAfter?_mapTextsOf textOf rest]

end

/-! ### Outlines of nodes -/

/-- What is inserted where it fits has the same tags as its outline. -/
theorem Scope.parallel_of_include? {scope : Scope} {place after : Place} {inclusion : Inclusion}
    {slot : Slot} (isSlot : scope.slots.lookup inclusion.target = some slot)
    (found : scope.include? place inclusion = some after) :
    slot.content = scope.dot.follow inclusion.path ∧ ∀ {first second : String},
      slot.Takes first second → Parallel scope.slot.mayStandAlone place after
        (inclusion.written first) (inclusion.written second) := by
  unfold include? at found
  rw [isSlot] at found
  obtain ⟨isFound, fits⟩ := Option.ite_none_right_eq_some.mp found
  simp only [Bool.and_eq_true, Bool.or_eq_true, Bool.not_eq_true', decide_eq_true_eq,
    Option.isNone_iff_eq_none, List.isEmpty_eq_false_iff] at isFound
  obtain ⟨⟨⟨⟨isInside, isContent⟩, before⟩, indentable⟩, inside⟩ := isFound
  cases fits
  refine ⟨isContent, fun takes => ?_⟩
  obtain ⟨tags, firstLeads, secondLeads⟩ := takes
  have anywhere : slot.mayStandAlone = fun _ => true := by
    funext name
    rw [Slot.mayStandAlone, isInside]
    rfl
  have nests : nest scope.slot.mayStandAlone place.opens tags = some place.opens := by
    have alone : nest (fun _ => true) [] tags = some [] := anywhere ▸ firstLeads.nests
    refine nest_within ?_ alone
    refine inside.symm.imp_right fun free name => ?_
    rw [Slot.mayStandAlone, free]
    rfl
  have leads {text : String}
      (leads : Leads slot.mayStandAlone ⟨[], slot.before⟩ ⟨[], slot.after⟩ tags text.toList) :
      Leads scope.slot.mayStandAlone place ⟨place.opens, slot.after⟩ tags
        (inclusion.written text).toList := by
    refine ⟨nests, fun line member => ?_⟩
    have isBefore : line ∈ slot.before := by simpa using List.all_eq_true.mp before line member
    have isIndentable : inclusion.width? = none ∨ line = .blank ∨ line = .plain :=
      indentable.imp_right fun all => by simpa using List.all_eq_true.mp all line member
    rw [inclusion.readAll_written isIndentable]
    exact leads.reads line isBefore
  exact ⟨tags, leads firstLeads, leads secondLeads⟩

theorem parallel_text {mayStandAlone : String → Bool} {place after : Place} {text : String}
    (found : place.readAll? mayStandAlone text.toList = some after) :
    Parallel mayStandAlone place after text text := by
  obtain ⟨tags, leads⟩ := Place.exists_leads_of_readAll? found
  exact ⟨tags, leads, leads⟩

/-- A placeholder can be written wherever a value can. -/
theorem parallel_value {mayStandAlone : String → Bool} {place after : Place} {spot : Spot}
    (found : place.write? spot = some after) {text : String} (admits : spot.Admits text.toList) :
    Parallel mayStandAlone place after text placeholder := by
  have placeholderAdmits : spot.Admits placeholder.toList :=
    ⟨by decide, fun _ => by decide, fun _ => by decide⟩
  exact ⟨[], Place.leads_of_write? found admits, Place.leads_of_write? found placeholderAdmits⟩

/-- If each of some items and its outline have the same tags, then so have all of them. -/
theorem parallel_items {mayStandAlone : String → Bool} {place after : Place}
    {render outline : Value → Except RenderError String} {items : List Value}
    (each : ∀ item ∈ items, ∀ text, render item = .ok text →
      ∃ other, outline item = .ok other ∧ Parallel mayStandAlone place after text other)
    (keeps : after.within place) {texts : List String} (rendered : items.mapM render = .ok texts) :
    ∃ others, items.mapM outline = .ok others ∧
      Parallel mayStandAlone place place (String.join texts) (String.join others) := by
  induction items generalizing texts with
  | nil =>
    cases rendered
    exact ⟨[], rfl, .refl place⟩
  | cons item rest inductionHypothesis =>
    obtain ⟨itemEach, restEach⟩ := List.forall_mem_cons.mp each
    rw [List.mapM_cons] at rendered
    obtain ⟨text, isText, rendered⟩ := exists_of_bind_eq_ok rendered
    obtain ⟨others, areOthers, rendered⟩ := exists_of_bind_eq_ok rendered
    cases rendered
    obtain ⟨head, isHead, headParallel⟩ := itemEach text isText
    obtain ⟨outlines, areOutlines, parallel⟩ := inductionHypothesis restEach areOthers
    refine ⟨head :: outlines, ?_, ?_⟩
    · rw [List.mapM_cons, isHead, areOutlines]
      rfl
    · rw [String.join_cons, String.join_cons]
      exact (headParallel.widen place.within_refl keeps).append parallel

section Outlines

variable {first second : Includer} {root : Value}

mutual

/-- A node and its outline have the same tags. -/
theorem exists_outline_node : ∀ (node : Node) {scope : Scope} {place after : Place},
    nodePlace? String.toList scope place node = some after → scope.slots.Agree first second →
      scope.slot.content.Holds root → ∀ {dot : Value}, scope.dot.Holds dot →
        ∀ {text : String}, node.render ⟨first, dot, root⟩ = .ok text →
          ∃ outline, node.outline.render ⟨second, dot, root⟩ = .ok outline ∧
            Parallel scope.slot.mayStandAlone place after text outline
  | .text value, scope, place, after, found, agree, rootHolds, dot, dotHolds, text, rendered => by
    rw [nodePlace?] at found
    rw [Node.render] at rendered
    cases rendered
    refine ⟨value, ?_, parallel_text found⟩
    rw [Node.outline, Node.render]
  | .action expression, scope, place, after, found, agree, rootHolds, dot, dotHolds, text,
      rendered => by
    rw [nodePlace?] at found
    rw [Node.render] at rendered
    obtain ⟨value, evaluated, rendered⟩ := exists_of_bind_eq_ok rendered
    cases rendered
    rw [Node.outline]
    split at found
    · next includes =>
      obtain ⟨inclusion, isInclusion, found⟩ := Option.bind_eq_some_iff.mp found
      obtain ⟨data, written, isData, isWritten, rfl⟩ :=
        (Inclusion.evaluate_iff isInclusion _ _).mp evaluated
      obtain ⟨slot, isSlot, _⟩ := Option.bind_eq_some_iff.mp found
      obtain ⟨isContent, parallel⟩ := Scope.parallel_of_include? isSlot found
      obtain ⟨outline, isOutline, takes⟩ := agree _ slot isSlot data
        (isContent ▸ dotHolds.followPath isData) written isWritten
      refine ⟨inclusion.written outline, ?_, parallel takes⟩
      have isEvaluated := (Inclusion.evaluate_iff isInclusion ⟨second, dot, root⟩ _).mpr
        ⟨data, outline, isData, isOutline, rfl⟩
      rw [if_pos includes, Node.render, isEvaluated]
      rfl
    · next includes =>
      obtain ⟨spot, isSpot, found⟩ := Option.bind_eq_some_iff.mp found
      refine ⟨placeholder, ?_,
        parallel_value found (scope.admits_of_spot? dotHolds rootHolds isSpot evaluated)⟩
      rw [if_neg includes, Node.render]
  | .branch condition body otherwise, scope, place, after, found, agree, rootHolds, dot, dotHolds,
      text, rendered => by
    rw [nodePlace?] at found
    rw [Node.render] at rendered
    obtain ⟨value, evaluated, rendered⟩ := exists_of_bind_eq_ok rendered
    rw [Node.outline, Node.render]
    split at found
    · next closed =>
      obtain ⟨afterBody, bodyFound, found⟩ := Option.bind_eq_some_iff.mp found
      obtain ⟨afterOther, otherFound, found⟩ := Option.bind_eq_some_iff.mp found
      obtain ⟨bodyWithin, otherWithin⟩ := Place.within_of_join? found
      rw [evaluate_of_isClosed closed second first, evaluated]
      split at rendered
      · next present =>
        obtain ⟨outline, isOutline, parallel⟩ :=
          exists_outline body bodyFound agree rootHolds dotHolds rendered
        refine ⟨outline, ?_, parallel.widen place.within_refl bodyWithin⟩
        exact (if_pos present).trans isOutline
      · next absent =>
        obtain ⟨outline, isOutline, parallel⟩ :=
          exists_outline otherwise otherFound agree rootHolds dotHolds rendered
        refine ⟨outline, ?_, parallel.widen place.within_refl otherWithin⟩
        exact (if_neg absent).trans isOutline
    · cases found
  | .within expression body otherwise, scope, place, after, found, agree, rootHolds, dot, dotHolds,
      text, rendered => by
    rw [nodePlace?] at found
    rw [Node.render] at rendered
    obtain ⟨value, evaluated, rendered⟩ := exists_of_bind_eq_ok rendered
    obtain ⟨content, isContent, found⟩ := Option.bind_eq_some_iff.mp found
    obtain ⟨afterBody, bodyFound, found⟩ := Option.bind_eq_some_iff.mp found
    obtain ⟨afterOther, otherFound, found⟩ := Option.bind_eq_some_iff.mp found
    obtain ⟨bodyWithin, otherWithin⟩ := Place.within_of_join? found
    rw [Node.outline, Node.render, Scope.evaluate_of_content? isContent second first, evaluated]
    have valueHolds := scope.holds_of_content? dotHolds rootHolds isContent evaluated
    split at rendered
    · next present =>
      obtain ⟨outline, isOutline, parallel⟩ :=
        exists_outline body bodyFound agree rootHolds valueHolds rendered
      refine ⟨outline, ?_, parallel.widen place.within_refl bodyWithin⟩
      exact (if_pos present).trans isOutline
    · next absent =>
      obtain ⟨outline, isOutline, parallel⟩ :=
        exists_outline otherwise otherFound agree rootHolds dotHolds rendered
      refine ⟨outline, ?_, parallel.widen place.within_refl otherWithin⟩
      exact (if_neg absent).trans isOutline
  | .each collection body otherwise, scope, place, after, found, agree, rootHolds, dot, dotHolds,
      text, rendered => by
    rw [nodePlace?] at found
    rw [Node.render] at rendered
    obtain ⟨value, evaluated, rendered⟩ := exists_of_bind_eq_ok rendered
    obtain ⟨items, areItems, rendered⟩ := exists_of_bind_eq_ok rendered
    obtain ⟨content, isContent, found⟩ := Option.bind_eq_some_iff.mp found
    obtain ⟨once, _, found⟩ := Option.bind_eq_some_iff.mp found
    obtain ⟨between, isBetween, found⟩ := Option.bind_eq_some_iff.mp found
    obtain ⟨again, bodyFound, found⟩ := Option.bind_eq_some_iff.mp found
    split at found
    · next keeps =>
      obtain ⟨afterOther, otherFound, found⟩ := Option.bind_eq_some_iff.mp found
      obtain ⟨betweenWithin, otherWithin⟩ := Place.within_of_join? found
      have valueHolds := scope.holds_of_content? dotHolds rootHolds isContent evaluated
      rw [Node.outline, Node.render, Scope.evaluate_of_content? isContent second first, evaluated]
      show ∃ outline, (itemsOf value >>= _) = .ok outline ∧ _
      rw [areItems]
      cases items with
      | nil =>
        obtain ⟨outline, isOutline, parallel⟩ :=
          exists_outline otherwise otherFound agree rootHolds dotHolds rendered
        exact ⟨outline, isOutline, parallel.widen place.within_refl otherWithin⟩
      | cons item rest =>
        obtain ⟨texts, areTexts, rendered⟩ := exists_of_bind_eq_ok rendered
        cases rendered
        obtain ⟨outlines, areOutlines, parallel⟩ := parallel_items (fun item member text isText =>
          exists_outline body bodyFound agree rootHolds (valueHolds.items areItems item member)
            isText) keeps areTexts
        refine ⟨String.join outlines, ?_,
          parallel.widen (Place.within_of_join? isBetween).1 betweenWithin⟩
        show ((item :: rest).mapM (fun item => renderNodes ⟨second, item, root⟩ (outlineNodes body)) >>=
          fun outlines => .ok (String.join outlines)) = _
        rw [areOutlines]
        rfl
    · cases found

theorem exists_outline : ∀ (nodes : List Node) {scope : Scope} {place after : Place},
    placeAfter? String.toList scope place nodes = some after → scope.slots.Agree first second →
      scope.slot.content.Holds root → ∀ {dot : Value}, scope.dot.Holds dot →
        ∀ {text : String}, renderNodes ⟨first, dot, root⟩ nodes = .ok text →
          ∃ outline, renderNodes ⟨second, dot, root⟩ (outlineNodes nodes) = .ok outline ∧
            Parallel scope.slot.mayStandAlone place after text outline
  | [], scope, place, after, found, agree, rootHolds, dot, dotHolds, text, rendered => by
    rw [placeAfter?] at found
    rw [renderNodes] at rendered
    cases found
    cases rendered
    refine ⟨"", ?_, .refl place⟩
    rw [outlineNodes, renderNodes]
  | node :: rest, scope, place, after, found, agree, rootHolds, dot, dotHolds, text, rendered => by
    rw [placeAfter?] at found
    rw [renderNodes] at rendered
    obtain ⟨middle, nodeFound, restFound⟩ := Option.bind_eq_some_iff.mp found
    obtain ⟨head, headRendered, rendered⟩ := exists_of_bind_eq_ok rendered
    obtain ⟨others, othersRendered, rendered⟩ := exists_of_bind_eq_ok rendered
    cases rendered
    obtain ⟨headOutline, isHead, headParallel⟩ :=
      exists_outline_node node nodeFound agree rootHolds dotHolds headRendered
    obtain ⟨othersOutline, areOthers, othersParallel⟩ :=
      exists_outline rest restFound agree rootHolds dotHolds othersRendered
    refine ⟨headOutline ++ othersOutline, ?_, headParallel.append othersParallel⟩
    rw [outlineNodes, renderNodes, isHead, areOthers]
    rfl

end

end Outlines

end Fluentd

end LogForwarder
