/-
This file says what the conditions of routers and filters mean, and proves that those of inputs are
read as they are meant. A condition compares fields of a record with texts; comparisons are joined
by `&&` and `||`, of which the first binds tighter, and may be put in parentheses. It is read in two
steps: its characters are cut into symbols, and a stack of open parentheses puts these together.
Texts stand in it as JSON strings, so that they are cut as strings of JSON texts are.
-/

import LogForwarder.Proofs.Json.Literal
import LogForwarder.Proofs.Lookup
import LogForwarder.Vector.Stream
import Mathlib.Data.List.ReduceOption

namespace LogForwarder.Vector

/-! ### Conditions and records -/

/-- What is asked of the fields of a record. -/
inductive Condition
  | equals (path : List String) (text : String)
  | both (first second : Condition)
  | either (first second : Condition)
  deriving DecidableEq

namespace Condition

/-- What a record holds at the end of a path. -/
def valueAt (record : Value) (path : List String) : Value := path.foldl Value.field record

/-- Whether a condition holds of a record. -/
def Holds (record : Value) : Condition → Prop
  | .equals path text => (valueAt record path).text? = some text
  | .both first second => first.Holds record ∧ second.Holds record
  | .either first second => first.Holds record ∨ second.Holds record

/-! ### Symbols -/

/-- A symbol of the text of a condition. -/
inductive Symbol
  | opening
  | closing
  | and
  | or
  | equals
  | path (steps : List String)
  | text (value : String)
  deriving DecidableEq

/-- What the next character belongs to. Steps and characters stand in falling order. -/
inductive LexMode
  | between
  /-- An operator that consists of the same character twice. -/
  | half (c : Char)
  /-- A path after a dot. -/
  | dot (steps : List String)
  | name (steps : List String) (read : List Char)
  | quotedName (steps : List String) (mode : Json.Mode)
  /-- A path after a quoted name. -/
  | afterQuote (steps : List String)
  | text (mode : Json.Mode)

/-- How far a condition has been cut into symbols, the last one first. -/
structure Lexing where
  symbols : List Symbol
  mode : LexMode

/-- Whether a character can stand in a name without quotes. -/
def isNameChar (c : Char) : Bool := c.isAlphanum || c = '_'

namespace Lexing

/-- The operator of a character that stands twice. -/
def operator? (c : Char) : Option Symbol :=
  if c = '=' then some .equals
  else if c = '&' then some .and
  else if c = '|' then some .or
  else none

/-- A character that stands between symbols, or begins one. -/
def start? (symbols : List Symbol) (c : Char) : Option Lexing :=
  if c = ' ' then some ⟨symbols, .between⟩
  else if c = '(' then some ⟨.opening :: symbols, .between⟩
  else if c = ')' then some ⟨.closing :: symbols, .between⟩
  else if c = '.' then some ⟨symbols, .dot []⟩
  else if c = '"' then some ⟨symbols, .text (.text [])⟩
  else if (operator? c).isSome then some ⟨symbols, .half c⟩
  else none

/-- A character inside a JSON string, which goes on in some mode or ends as a text. -/
def quote? (mode : Json.Mode) (c : Char) (goesOn : Json.Mode → Lexing) (ends : String → Lexing) :
    Option Lexing :=
  match mode.step c with
  | .ok (next, []) => some (goesOn next)
  | .ok (_, [.text value]) => some (ends value)
  | _ => none

/-- One more character. -/
def advance? (lexing : Lexing) (c : Char) : Option Lexing :=
  let symbols := lexing.symbols
  match lexing.mode with
  | .between => start? symbols c
  | .half first =>
    if c = first then (operator? c).map fun symbol => ⟨symbol :: symbols, .between⟩ else none
  | .dot steps =>
    if c = '"' then some ⟨symbols, .quotedName steps (.text [])⟩
    else if isNameChar c then some ⟨symbols, .name steps [c]⟩
    else none
  | .name steps read =>
    let path := String.ofList read.reverse :: steps
    if isNameChar c then some ⟨symbols, .name steps (c :: read)⟩
    else if c = '.' then some ⟨symbols, .dot path⟩
    else start? (.path path.reverse :: symbols) c
  | .quotedName steps mode =>
    quote? mode c (fun next => ⟨symbols, .quotedName steps next⟩)
      fun name => ⟨symbols, .afterQuote (name :: steps)⟩
  | .afterQuote steps =>
    if c = '.' then some ⟨symbols, .dot steps⟩ else start? (.path steps.reverse :: symbols) c
  | .text mode =>
    quote? mode c (fun next => ⟨symbols, .text next⟩) fun value => ⟨.text value :: symbols, .between⟩

/-- The symbols at the end of the text, in order. -/
def finish? (lexing : Lexing) : Option (List Symbol) :=
  match lexing.mode with
  | .between => some lexing.symbols.reverse
  | _ => none

end Lexing

/-- The symbols of the text of a condition. -/
def symbols? (text : String) : Option (List Symbol) :=
  (text.toList.foldlM Lexing.advance? ⟨[], .between⟩).bind Lexing.finish?

/-! ### Reading -/

/-- What has been read in some parentheses: what stands before the last `||`, and after it. -/
structure Level where
  alternatives : Option Condition
  factors : Option Condition

/-- What may come next. -/
inductive Place
  | operand
  | comparison (path : List String)
  | literal (path : List String)
  | operator

/-- How far a condition has been read: all open parentheses, the innermost one, and its place. -/
structure Reading where
  outer : List Level
  level : Level
  place : Place

namespace Level

/-- Nothing has been read. -/
def start : Level := ⟨none, none⟩

/-- One more factor after the last `||`. -/
def add (level : Level) (factor : Condition) : Level :=
  { level with factors := some ((level.factors.map (·.both factor)).getD factor) }

/-- All that has been read, if an operand stands at the end of it. -/
def whole? (level : Level) : Option Condition :=
  level.factors.map fun factors => (level.alternatives.map (·.either factors)).getD factors

end Level

namespace Reading

/-- One more symbol. -/
def advance? (reading : Reading) (symbol : Symbol) : Option Reading :=
  let { outer, level, place } := reading
  match place, symbol with
  | .operand, .opening => some ⟨level :: outer, .start, .operand⟩
  | .operand, .path path => some ⟨outer, level, .comparison path⟩
  | .comparison path, .equals => some ⟨outer, level, .literal path⟩
  | .literal path, .text text => some ⟨outer, level.add (.equals path text), .operator⟩
  | .operator, .and => some ⟨outer, level, .operand⟩
  | .operator, .or => some ⟨outer, ⟨level.whole?, none⟩, .operand⟩
  | .operator, .closing =>
    match outer, level.whole? with
    | around :: outer, some inner => some ⟨outer, around.add inner, .operator⟩
    | _, _ => none
  | _, _ => none

/-- The condition at the end of the text. -/
def finish? (reading : Reading) : Option Condition :=
  match reading with
  | ⟨[], level, .operator⟩ => level.whole?
  | _ => none

end Reading

/-- The condition that some symbols stand for. -/
def ofSymbols? (symbols : List Symbol) : Option Condition :=
  (symbols.foldlM Reading.advance? ⟨[], .start, .operand⟩).bind Reading.finish?

/-- The condition that is read from a text. -/
def read? (text : String) : Option Condition := (symbols? text).bind ofSymbols?

/-! ### Cutting of comparisons -/

/-- Whether some characters are cut into some symbols wherever they stand between others. -/
def CutsInto (chars : List Char) (symbols : List Symbol) : Prop :=
  ∀ before, chars.foldlM Lexing.advance? ⟨before, .between⟩ =
    some ⟨symbols.reverse ++ before, .between⟩

theorem CutsInto.append {first second : List Char} {symbols others : List Symbol}
    (firstCuts : CutsInto first symbols) (secondCuts : CutsInto second others) :
    CutsInto (first ++ second) (symbols ++ others) := by
  intro before
  rw [List.foldlM_append, firstCuts before, List.reverse_append, List.append_assoc]
  exact secondCuts _

section Strings

variable (inside : Json.Mode → Lexing) (ends : String → Lexing)
  (passesOn : ∀ mode c, (inside mode).advance? c = Lexing.quote? mode c inside ends)

include passesOn

/-- Characters inside of a string are passed on, as long as the string does not end. -/
theorem foldlM_inString {chars : List Char} {mode last : Json.Mode}
    (silent : chars.foldlM Json.Mode.silentStep? mode = some last) :
    chars.foldlM Lexing.advance? (inside mode) = some (inside last) := by
  induction chars generalizing mode with
  | nil =>
    cases silent
    rfl
  | cons c rest inductionHypothesis =>
    rw [List.foldlM_cons] at silent ⊢
    obtain ⟨next, stepped, others⟩ := Option.bind_eq_some_iff.mp silent
    have advanced : (inside mode).advance? c = some (inside next) := by
      rw [passesOn]
      unfold Json.Mode.silentStep? at stepped
      unfold Lexing.quote?
      split at stepped
      · next isStep =>
        cases stepped
        rw [isStep]
      · cases stepped
    rw [advanced]
    exact inductionHypothesis others

/-- A text that is written as a JSON string is read back, in whatever way strings are taken in. -/
theorem foldlM_literal (text : String) :
    (Json.literalBody text ++ ['"']).foldlM Lexing.advance? (inside (.text [])) =
      some (ends text) := by
  obtain ⟨parts, means, silent⟩ := Json.exists_foldlM_literalBody text
  have closed : (inside (.text parts)).advance? '"' = some (ends text) := by
    rw [passesOn]
    unfold Lexing.quote?
    rw [show Json.Mode.step (.text parts) '"' = .ok (.between, [Json.textToken parts.reverse])
      from rfl, means]
  rw [List.foldlM_append, foldlM_inString inside ends passesOn silent]
  show [_].foldlM Lexing.advance? (inside (.text parts)) = _
  rw [List.foldlM_cons, closed]
  rfl

end Strings

theorem cutsInto_literal (text : String) :
    CutsInto (Value.textLiteral text).toList [.text text] := by
  intro before
  rw [Json.toList_textLiteral]
  exact foldlM_literal (fun mode => ⟨before, .text mode⟩)
    (fun value => ⟨.text value :: before, .between⟩) (fun _ _ => rfl) text

theorem cutsInto_or : CutsInto " || ".toList [.or] := fun _ => rfl

theorem cutsInto_and : CutsInto " && ".toList [.and] := fun _ => rfl

theorem cutsInto_namespace :
    CutsInto ".kubernetes.namespace_name == ".toList
      [.path ["kubernetes", "namespace_name"], .equals] :=
  fun _ => rfl

theorem cutsInto_source : CutsInto ".log_source == ".toList [.path ["log_source"], .equals] :=
  fun _ => rfl

/-- The label of a key is named in quotes. -/
theorem cutsInto_label (key : String) :
    CutsInto (".kubernetes.labels.".toList ++ (Value.textLiteral key).toList ++ " == ".toList)
      [.path ["kubernetes", "labels", key], .equals] := by
  intro before
  have path : ".kubernetes.labels.".toList.foldlM Lexing.advance? ⟨before, .between⟩ =
      some ⟨before, .dot ["labels", "kubernetes"]⟩ := rfl
  have name := foldlM_literal (fun mode => ⟨before, .quotedName ["labels", "kubernetes"] mode⟩)
    (fun name => ⟨before, .afterQuote [name, "labels", "kubernetes"]⟩) (fun _ _ => rfl) key
  rw [List.foldlM_append, List.foldlM_append, path, Json.toList_textLiteral]
  show (Json.literalBody key ++ ['"']).foldlM Lexing.advance?
    ⟨before, .quotedName ["labels", "kubernetes"] (.text [])⟩ >>= _ = _
  rw [name]
  rfl

/-! ### Clauses and expressions -/

/-- Whether some symbols stand for a condition wherever an operand is expected. -/
def IsOperand (symbols : List Symbol) (condition : Condition) : Prop :=
  ∀ outer level, symbols.foldlM Reading.advance? ⟨outer, level, .operand⟩ =
    some ⟨outer, level.add condition, .operator⟩

/-- Whether some symbols stand for a condition where they are all there is in some parentheses. -/
def IsWhole (symbols : List Symbol) (condition : Condition) : Prop :=
  ∀ outer, ∃ last : Level, symbols.foldlM Reading.advance? ⟨outer, .start, .operand⟩ =
    some ⟨outer, last, .operator⟩ ∧ last.whole? = some condition

/-- A text that can be joined with others, and what it asks for. -/
structure Clause where
  text : String
  symbols : List Symbol
  condition : Condition
  cuts : CutsInto text.toList symbols
  isOperand : IsOperand symbols condition

/-- A text that can be put in parentheses, and what it asks for. -/
structure Expression where
  text : String
  symbols : List Symbol
  condition : Condition
  cuts : CutsInto text.toList symbols
  isWhole : IsWhole symbols condition

/-- An expression is read as what it asks for. -/
theorem Expression.read?_text (expression : Expression) :
    read? expression.text = some expression.condition := by
  obtain ⟨last, folded, whole⟩ := expression.isWhole []
  have symbols : symbols? expression.text = some expression.symbols := by
    unfold symbols?
    rw [expression.cuts []]
    show some (expression.symbols.reverse ++ []).reverse = _
    rw [List.append_nil, List.reverse_reverse]
  unfold read? ofSymbols?
  rw [symbols, Option.bind_some, folded]
  exact whole

/-- An expression has at least one symbol, and so at least one character. -/
theorem Expression.not_isEmpty_text (expression : Expression) :
    expression.text.isEmpty = false := by
  rw [← Bool.not_eq_true, String.isEmpty_iff]
  intro empty
  have cuts := expression.cuts []
  rw [empty] at cuts
  have noSymbols : expression.symbols = [] := by
    have same := congrArg Lexing.symbols (Option.some.inj cuts)
    rw [List.append_nil] at same
    exact List.reverse_eq_nil_iff.mp same.symm
  obtain ⟨last, folded, _⟩ := expression.isWhole []
  rw [noSymbols] at folded
  cases folded

namespace Clause

/-- A comparison of a field with a text. -/
def comparison (start : String) (path : List String)
    (cuts : CutsInto start.toList [.path path, .equals]) (text : String) : Clause where
  text := start ++ Value.textLiteral text
  symbols := [.path path, .equals, .text text]
  condition := .equals path text
  cuts := by
    rw [String.toList_append]
    exact cuts.append (cutsInto_literal text)
  isOperand := fun _ _ => rfl

/-- An expression in parentheses. -/
def group (expression : Expression) : Clause where
  text := "(" ++ expression.text ++ ")"
  symbols := [.opening] ++ expression.symbols ++ [.closing]
  condition := expression.condition
  cuts := by
    rw [String.toList_append, String.toList_append]
    have opens : CutsInto "(".toList [.opening] := fun _ => rfl
    have closes : CutsInto ")".toList [.closing] := fun _ => rfl
    exact (opens.append expression.cuts).append closes
  isOperand := by
    intro outer level
    obtain ⟨last, folded, whole⟩ := expression.isWhole (level :: outer)
    have opened : [Symbol.opening].foldlM Reading.advance? ⟨outer, level, .operand⟩ =
        some ⟨level :: outer, .start, .operand⟩ := rfl
    have closed : [Symbol.closing].foldlM Reading.advance? ⟨level :: outer, last, .operator⟩ =
        some ⟨outer, level.add expression.condition, .operator⟩ := by
      show (Reading.advance? ⟨level :: outer, last, .operator⟩ .closing).bind some = _
      unfold Reading.advance?
      simp only [whole, Option.bind_some]
    rw [List.foldlM_append, List.foldlM_append, opened]
    show (expression.symbols.foldlM Reading.advance? _ >>= fun state =>
      [Symbol.closing].foldlM Reading.advance? state) = _
    rw [folded]
    exact closed

end Clause

/-! ### Joined clauses -/

/-- Clauses are cut apart where they are joined. -/
theorem cutsInto_joined {separator : String} {mark : Symbol}
    (cuts : CutsInto separator.toList [mark]) (clauses : List Clause) :
    CutsInto (separator.intercalate (clauses.map (·.text))).toList
      ([mark].intercalate (clauses.map (·.symbols))) := by
  rw [String.toList_intercalate, List.map_map]
  induction clauses with
  | nil => exact fun _ => rfl
  | cons first rest inductionHypothesis =>
    cases rest with
    | nil =>
      simp only [List.map_cons, List.map_nil, List.intercalate_singleton]
      exact first.cuts
    | cons second others =>
      simp only [List.map_cons, List.intercalate_cons_cons] at inductionHypothesis ⊢
      exact (first.cuts.append cuts).append inductionHypothesis

/-- What one more clause does to what has been read, behind an operator. -/
def Joins (mark : Symbol) (join : Condition → Condition → Condition)
    (Holds : Level → Condition → Prop) : Prop :=
  ∀ outer level whole, Holds level whole → ∀ clause : Clause,
    ∃ next, (mark :: clause.symbols).foldlM Reading.advance? ⟨outer, level, .operator⟩ =
      some ⟨outer, next, .operator⟩ ∧ Holds next (join whole clause.condition)

/-- Clauses that are joined by an operator are read from the left to the right. -/
theorem exists_foldlM_joined {mark : Symbol} {join : Condition → Condition → Condition}
    {Holds : Level → Condition → Prop} (joins : Joins mark join Holds)
    (starts : ∀ condition, Holds (Level.start.add condition) condition) (first : Clause)
    (rest : List Clause) (outer : List Level) :
    ∃ last, ([mark].intercalate ((first :: rest).map (·.symbols))).foldlM Reading.advance?
        ⟨outer, .start, .operand⟩ = some ⟨outer, last, .operator⟩ ∧
      Holds last (rest.foldl (fun whole clause => join whole clause.condition)
        first.condition) := by
  have goesOn (level : Level) (whole : Condition) (held : Holds level whole) :
      ∃ last, (rest.flatMap fun clause => mark :: clause.symbols).foldlM Reading.advance?
          ⟨outer, level, .operator⟩ = some ⟨outer, last, .operator⟩ ∧
        Holds last (rest.foldl (fun whole clause => join whole clause.condition) whole) := by
    induction rest generalizing level whole with
    | nil => exact ⟨level, rfl, held⟩
    | cons clause others inductionHypothesis =>
      obtain ⟨next, folded, nextHeld⟩ := joins outer level whole held clause
      obtain ⟨last, othersFolded, lastHeld⟩ := inductionHypothesis next _ nextHeld
      refine ⟨last, ?_, lastHeld⟩
      rw [List.flatMap_cons, List.foldlM_append, folded]
      exact othersFolded
  obtain ⟨last, folded, held⟩ := goesOn _ _ (starts first.condition)
  refine ⟨last, ?_, held⟩
  have inFront : [mark].intercalate ((first :: rest).map (·.symbols)) =
      first.symbols ++ rest.flatMap fun clause => mark :: clause.symbols := by
    clear joins starts goesOn folded held
    induction rest generalizing first with
    | nil => simp
    | cons second others inductionHypothesis =>
      rw [List.map_cons, List.map_cons, List.intercalate_cons_cons, ← List.map_cons,
        inductionHypothesis]
      simp
  rw [inFront, List.foldlM_append, first.isOperand]
  exact folded

namespace Expression

/-- Clauses one of which must hold. -/
def anyOf (first : Clause) (rest : List Clause) : Expression where
  text := " || ".intercalate ((first :: rest).map Clause.text)
  symbols := [Symbol.or].intercalate ((first :: rest).map Clause.symbols)
  condition := rest.foldl (fun whole clause => .either whole clause.condition) first.condition
  cuts := cutsInto_joined cutsInto_or (first :: rest)
  isWhole := by
    have joins : Joins .or .either fun level whole => level.whole? = some whole := by
      intro outer level whole held clause
      refine ⟨Level.add ⟨some whole, none⟩ clause.condition, ?_, rfl⟩
      rw [← held]
      exact clause.isOperand outer _
    exact exists_foldlM_joined joins (fun _ => rfl) first rest

/-- Clauses all of which must hold. -/
def allOf (first : Clause) (rest : List Clause) : Expression where
  text := " && ".intercalate ((first :: rest).map Clause.text)
  symbols := [Symbol.and].intercalate ((first :: rest).map Clause.symbols)
  condition := rest.foldl (fun whole clause => .both whole clause.condition) first.condition
  cuts := cutsInto_joined cutsInto_and (first :: rest)
  isWhole := by
    have joins : Joins .and .both fun level whole => level = ⟨none, some whole⟩ := by
      rintro outer _ whole rfl clause
      exact ⟨_, clause.isOperand outer _, rfl⟩
    intro outer
    obtain ⟨last, folded, rfl⟩ := exists_foldlM_joined joins (fun _ => rfl) first rest outer
    exact ⟨_, folded, rfl⟩

variable (record : Value) (first : Clause) (rest : List Clause)

theorem holds_anyOf :
    (anyOf first rest).condition.Holds record ↔
      ∃ clause ∈ first :: rest, clause.condition.Holds record := by
  have general (whole : Condition) :
      (rest.foldl (fun whole clause => .either whole clause.condition) whole).Holds record ↔
        whole.Holds record ∨ ∃ clause ∈ rest, clause.condition.Holds record := by
    induction rest generalizing whole with
    | nil => simp
    | cons clause others inductionHypothesis =>
      rw [List.foldl_cons, inductionHypothesis]
      simp [Holds, or_assoc]
  rw [anyOf, general]
  simp

theorem holds_allOf :
    (allOf first rest).condition.Holds record ↔
      ∀ clause ∈ first :: rest, clause.condition.Holds record := by
  have general (whole : Condition) :
      (rest.foldl (fun whole clause => .both whole clause.condition) whole).Holds record ↔
        whole.Holds record ∧ ∀ clause ∈ rest, clause.condition.Holds record := by
    induction rest generalizing whole with
    | nil => simp
    | cons clause others inductionHypothesis =>
      rw [List.foldl_cons, inductionHypothesis]
      simp [Holds, and_assoc]
  rw [allOf, general]
  simp

end Expression

/-! ### Conditions of inputs -/

/-- The namespace that a record comes from. -/
def namespace? (record : Value) : Option String :=
  (valueAt record ["kubernetes", "namespace_name"]).text?

/-- The label at a key of the pod that a record comes from. -/
def label? (record : Value) (key : String) : Option String :=
  (valueAt record ["kubernetes", "labels", key]).text?

/-- The source that a record comes from. -/
def source? (record : Value) : Option String := (valueAt record ["log_source"]).text?

/-- Asks for a namespace. -/
def Clause.ofNamespace (name : String) : Clause :=
  .comparison ".kubernetes.namespace_name == " _ cutsInto_namespace name

/-- Asks for a label. -/
def Clause.ofLabel (label : String × String) : Clause :=
  .comparison (".kubernetes.labels." ++ Value.textLiteral label.1 ++ " == ")
    ["kubernetes", "labels", label.1]
    (by
      rw [String.toList_append, String.toList_append]
      exact cutsInto_label label.1)
    label.2

/-- Asks for a source. -/
def Clause.ofSource (name : String) : Clause :=
  .comparison ".log_source == " _ cutsInto_source name

namespace Expression

/-- The text of an expression that may be missing. -/
def textOf (part : Option Expression) : String := (part.map (·.text)).getD ""

/-- Of expressions that may be missing, those are put in parentheses that are not. -/
theorem map_group_filter_textOf (parts : List (Option Expression)) :
    ((parts.map textOf).filter (!·.isEmpty)).map (fun text => s!"({text})") =
      (parts.reduceOption).map fun expression => (Clause.group expression).text := by
  induction parts with
  | nil => rfl
  | cons part rest inductionHypothesis =>
    cases part with
    | none => exact inductionHypothesis
    | some expression =>
      have notEmpty : (!(textOf (some expression)).isEmpty) = true := by
        rw [textOf, Option.map_some, Option.getD_some, expression.not_isEmpty_text, Bool.not_false]
      rw [List.map_cons, List.filter_cons, if_pos notEmpty, List.map_cons, inductionHypothesis]
      rfl

/-- The namespaces that an input asks for, if it asks for any. -/
def ofNamespaces? : List String → Option Expression
  | [] => none
  | first :: rest => some (.anyOf (.ofNamespace first) (rest.map .ofNamespace))

/-- The labels that an input asks for, if it asks for any. -/
def ofLabels? : List (String × String) → Option Expression
  | [] => none
  | first :: rest => some (.allOf (.ofLabel first) (rest.map .ofLabel))

theorem textOf_ofNamespaces? (names : List String) :
    textOf (ofNamespaces? names) = namespaceCondition names := by
  cases names with
  | nil => rfl
  | cons first rest =>
    unfold namespaceCondition
    show " || ".intercalate ((_ :: rest.map Clause.ofNamespace).map (·.text)) = _
    rw [List.map_cons, List.map_map]
    rfl

theorem textOf_ofLabels? (labels : Dictionary String) :
    textOf (ofLabels? labels.entries) = labelCondition labels := by
  unfold labelCondition
  cases labels.entries with
  | nil => rfl
  | cons first rest =>
    show " && ".intercalate ((_ :: rest.map Clause.ofLabel).map (·.text)) = _
    rw [List.map_cons, List.map_map]
    rfl

/-- Namespaces hold of the records that come from one of them, or of all if there are none. -/
theorem holds_ofNamespaces? (record : Value) (names : List String) :
    (∀ part ∈ ofNamespaces? names, part.condition.Holds record) ↔
      names = [] ∨ ∃ name ∈ names, namespace? record = some name := by
  cases names with
  | nil => simp [ofNamespaces?]
  | cons first rest =>
    simp only [ofNamespaces?, Option.mem_some, forall_eq', holds_anyOf, List.mem_cons,
      List.mem_map, reduceCtorEq, false_or, exists_eq_or_imp, exists_exists_and_eq_and]
    rfl

theorem holds_ofLabels? (record : Value) (labels : List (String × String)) :
    (∀ part ∈ ofLabels? labels, part.condition.Holds record) ↔
      ∀ label ∈ labels, label? record label.1 = some label.2 := by
  cases labels with
  | nil => simp [ofLabels?]
  | cons first rest =>
    simp only [ofLabels?, Option.mem_some, forall_eq', holds_allOf, List.forall_mem_cons,
      List.forall_mem_map]
    rfl

end Expression

/--
The condition of an application input is read as what the input asks for: one of its namespaces, if
it has any, and all of its labels.
-/
theorem exists_read?_selectorCondition (input : Input) (selector : input.hasSelector) :
    ∃ condition, read? (selectorCondition input) = some condition ∧
      ∀ record, condition.Holds record ↔
        (input.namespaces = [] ∨ ∃ name ∈ input.namespaces, namespace? record = some name) ∧
          ∀ label ∈ input.matchLabels.entries, label? record label.1 = some label.2 := by
  let parts := [Expression.ofNamespaces? input.namespaces,
    Expression.ofLabels? input.matchLabels.entries]
  have written : selectorCondition input =
      " && ".intercalate (parts.reduceOption.map fun part => (Clause.group part).text) := by
    rw [← Expression.map_group_filter_textOf, List.map_cons, List.map_singleton,
      Expression.textOf_ofNamespaces?, Expression.textOf_ofLabels?]
    rfl
  have asks : parts.reduceOption ≠ [] := by
    intro noPart
    have noneOfBoth := List.filterMap_eq_nil_iff.mp noPart
    have noNamespace := noneOfBoth _ List.mem_cons_self
    have noLabel := noneOfBoth _ (List.mem_cons_of_mem _ List.mem_cons_self)
    unfold Input.hasSelector Dictionary.isEmpty at selector
    cases namespaces : input.namespaces with
    | cons name rest =>
      rw [namespaces] at noNamespace
      cases noNamespace
    | nil =>
      cases labels : input.matchLabels.entries with
      | cons label rest =>
        rw [labels] at noLabel
        cases noLabel
      | nil =>
        rw [namespaces, labels] at selector
        cases selector
  obtain ⟨first, rest, present⟩ := List.exists_cons_of_ne_nil asks
  refine ⟨(Expression.allOf (.group first) (rest.map .group)).condition, ?_, fun record => ?_⟩
  · rw [written, present, ← Expression.read?_text]
    congr 1
    show _ = " && ".intercalate ((_ :: rest.map Clause.group).map (·.text))
    rw [List.map_cons, List.map_cons, List.map_map]
    rfl
  · have holds : (Expression.allOf (.group first) (rest.map .group)).condition.Holds record ↔
        ∀ part ∈ parts.reduceOption, part.condition.Holds record := by
      rw [Expression.holds_allOf, present, List.forall_mem_cons, List.forall_mem_cons,
        List.forall_mem_map]
      rfl
    rw [holds, ← Expression.holds_ofNamespaces?, ← Expression.holds_ofLabels?]
    simp only [List.reduceOption_mem_iff, parts, List.mem_cons, List.not_mem_nil, or_false,
      Option.mem_def, or_imp, forall_and, eq_comm]

/-- The condition of an input of some sources is read as one of these sources. -/
theorem exists_read?_sourceCondition {names : List String} (some? : names ≠ []) :
    ∃ condition, read? (sourceCondition names) = some condition ∧
      ∀ record, condition.Holds record ↔ ∃ name ∈ names, source? record = some name := by
  obtain ⟨first, rest, rfl⟩ := List.exists_cons_of_ne_nil some?
  refine ⟨(Expression.anyOf (.ofSource first) (rest.map .ofSource)).condition, ?_, fun record => ?_⟩
  · rw [← Expression.read?_text]
    congr 1
    show _ = " || ".intercalate ((_ :: rest.map Clause.ofSource).map (·.text))
    rw [List.map_cons, List.map_map]
    rfl
  · rw [Expression.holds_anyOf]
    simp only [List.mem_cons, List.mem_map, exists_eq_or_imp, exists_exists_and_eq_and]
    rfl

end Condition

end LogForwarder.Vector
