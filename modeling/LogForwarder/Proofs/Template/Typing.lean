/-
This file proves that templates whose expressions make sense can be rendered. What is known about
the value that a template is called with is a shape: it tells whether the value has fields, what is
known of some of them, and whether it is a list. A value that lacks what a shape speaks of still
fits it, since the fields of null are null and a range over null does nothing; what a shape excludes
is only what rendering would refuse.

From the shape of the value the shapes of all expressions follow, and an expression has none if its
evaluation might fail: a field of what may have no fields, a range over what may be no list, or a
function at arguments that it may refuse. Nodes all of whose expressions have shapes are rendered
whatever value of the given shape they are called with.
-/
import LogForwarder.Proofs.Lookup
import LogForwarder.Proofs.Outcome
import LogForwarder.Template.Render
import Mathlib.Data.List.Forall2

namespace LogForwarder

/-- Whether a value has fields; those of null are all null. -/
def Value.hasFields : Value → Bool
  | .null => true
  | .object _ => true
  | _ => false

namespace Template

/-! ### Shapes -/

/-- What is known about a value. Null has no items, and all of its fields are null. -/
inductive Shape
  | any
  | text (value : String)
  /-- A whole number that is not negative. -/
  | width
  /-- A list of items of some shape, or null. -/
  | list (item : Shape)
  /-- An object, or null. -/
  | record
  /-- A value with a field of some shape, about which something else may be known as well. -/
  | field (name : String) (shape rest : Shape)
  deriving DecidableEq

namespace Shape

/-- The shape of records with some fields. -/
def ofFields (fields : List (String × Shape)) : Shape :=
  fields.foldr (fun entry rest => .field entry.1 entry.2 rest) .record

/-- Whether a value is of a shape. -/
def Fits : Shape → Value → Prop
  | .any, _ => True
  | .text expected, value => value = .text expected
  | .width, value => ∃ number : Nat, value = .integer number
  | .list item, value =>
    value = .null ∨ ∃ items, value = .list items ∧ ∀ member ∈ items, item.Fits member
  | .record, value => value.hasFields
  | .field name shape rest, value => shape.Fits (value.field name) ∧ rest.Fits value

/-- The shape of a field, if values of the shape are sure to have fields. -/
def fieldShape? : Shape → String → Option Shape
  | .record, _ => some .any
  | .field name shape rest, sought =>
    (rest.fieldShape? sought).map fun other => if sought = name then shape else other
  | _, _ => none

/-- The shape at the end of a path. -/
def pathShape? : Shape → List String → Option Shape
  | shape, [] => some shape
  | shape, step :: rest => do (← shape.fieldShape? step).pathShape? rest

/-- Whether all values of a shape are of another one as well. -/
def implies : Shape → Shape → Bool
  | _, .any => true
  | given, .text value => given = .text value
  | given, .width => given = .width
  | given, .list item =>
    match given with
    | .list own => own.implies item
    | _ => false
  | given, .record => (given.fieldShape? "").isSome
  | given, .field name shape rest =>
    given.implies rest &&
      match given.fieldShape? name with
      | some own => own.implies shape
      | none => false

@[simp]
theorem fits_any (value : Value) : any.Fits value := trivial

@[simp]
theorem fits_record (value : Value) : record.Fits value ↔ value.hasFields := Iff.rfl

@[simp]
theorem hasFields_null : Value.null.hasFields = true := rfl

@[simp]
theorem hasFields_ofEntries (entries : List (String × Value)) :
    (Value.ofEntries entries).hasFields = true := rfl

/-- A value is of the shape of a record if it has fields and they are of their shapes. -/
theorem fits_ofFields (fields : List (String × Shape)) (value : Value) :
    (ofFields fields).Fits value ↔
      value.hasFields ∧ ∀ entry ∈ fields, entry.2.Fits (value.field entry.1) := by
  induction fields with
  | nil => exact ⟨fun fits => ⟨fits, fun entry member => absurd member List.not_mem_nil⟩, And.left⟩
  | cons head rest inductionHypothesis =>
    show head.2.Fits (value.field head.1) ∧ (ofFields rest).Fits value ↔ _
    rw [inductionHypothesis, List.forall_mem_cons]
    exact and_left_comm

/-- The items of a list of some shape. -/
@[simp]
theorem fits_list (item : Shape) (items : List Value) :
    (list item).Fits (.list items) ↔ ∀ member ∈ items, item.Fits member := by
  refine ⟨?_, fun fits => .inr ⟨items, rfl, fits⟩⟩
  rintro (isNull | ⟨others, same, fits⟩)
  · cases isNull
  · cases same
    exact fits

@[simp]
theorem fits_list_null (item : Shape) : (list item).Fits .null := .inl rfl

@[simp]
theorem fits_ofTexts (texts : List String) : (list any).Fits (.ofTexts texts) :=
  (fits_list _ _).mpr fun _ _ => trivial

theorem fits_fieldShape {shape found : Shape} {value : Value} {name : String}
    (fits : shape.Fits value) (known : shape.fieldShape? name = some found) :
    value.hasFields ∧ found.Fits (value.field name) := by
  induction shape generalizing found with
  | record =>
    cases known
    exact ⟨fits, trivial⟩
  | field own shape rest _ inductionHypothesis =>
    obtain ⟨other, inRest, rfl⟩ := Option.map_eq_some_iff.mp known
    obtain ⟨hasFields, otherFits⟩ := inductionHypothesis fits.2 inRest
    refine ⟨hasFields, ?_⟩
    split
    · rename_i same
      rw [same]
      exact fits.1
    · exact otherFits
  | any => cases known
  | text => cases known
  | width => cases known
  | list => cases known

theorem followPath_cons {value : Value} (hasFields : value.hasFields) (step : String)
    (rest : List String) : followPath value (step :: rest) = followPath (value.field step) rest := by
  cases value with
  | null => cases rest <;> rfl
  | object entries =>
    rw [followPath, Value.field]
    cases entries.lookup step with
    | some next => rfl
    | none => cases rest <;> rfl
  | boolean | integer | float | text | list => cases hasFields

/-- Paths whose shape is known lead to a value of that shape. -/
theorem exists_followPath {shape found : Shape} {value : Value} {path : List String}
    (fits : shape.Fits value) (known : shape.pathShape? path = some found) :
    ∃ result, followPath value path = .ok result ∧ found.Fits result := by
  induction path generalizing shape value with
  | nil =>
    cases known
    exact ⟨value, by cases value <;> rfl, fits⟩
  | cons step rest inductionHypothesis =>
    obtain ⟨next, nextKnown, known⟩ := Option.bind_eq_some_iff.mp known
    obtain ⟨hasFields, nextFits⟩ := fits_fieldShape fits nextKnown
    rw [followPath_cons hasFields]
    exact inductionHypothesis nextFits known

theorem fits_of_implies {given wanted : Shape} {value : Value} (implied : given.implies wanted)
    (fits : given.Fits value) : wanted.Fits value := by
  induction wanted generalizing given value with
  | any => trivial
  | text expected =>
    rw [implies, decide_eq_true_eq] at implied
    exact implied ▸ fits
  | width =>
    rw [implies, decide_eq_true_eq] at implied
    exact implied ▸ fits
  | list item inductionHypothesis =>
    cases given with
    | list own =>
      rcases fits with rfl | ⟨items, rfl, each⟩
      · exact .inl rfl
      · exact .inr ⟨items, rfl, fun member present =>
          inductionHypothesis implied (each member present)⟩
    | any | text | width | record | field => cases implied
  | record =>
    obtain ⟨found, known⟩ := Option.isSome_iff_exists.mp implied
    exact (fits_fieldShape fits known).1
  | field name shape rest shapeHypothesis restHypothesis =>
    rw [implies, Bool.and_eq_true] at implied
    refine ⟨?_, restHypothesis implied.1 fits⟩
    cases known : given.fieldShape? name with
    | none =>
      rw [known] at implied
      exact absurd implied.2 Bool.false_ne_true
    | some own =>
      rw [known] at implied
      exact shapeHypothesis implied.2 (fits_fieldShape fits known).2

end Shape

/-! ### Functions -/

/-- The shapes of the values that templates are called with, by name. -/
abbrev Signature := List (String × Shape)

/-- Whether templates are rendered by name at all values of their shapes. -/
def Renders (includer : Includer) (signature : Signature) : Prop :=
  ∀ name shape, signature.lookup name = some shape →
    ∀ data, shape.Fits data → ∃ text, includer name data = .ok text

/-- Whether a function is sure to accept arguments of some shapes. -/
def Function.accepts (signature : Signature) : Function → List Shape → Bool
  | .labelName, [_] => true
  | .kindLabelName, [_] => true
  | .quote, [_] => true
  | .not, [_] => true
  | .quoteList, [.list _] => true
  | .len, [.list _] => true
  | .kv, [_, _] => true
  | .secretPath, [_, _] => true
  | .eq, [_, _] => true
  | .ne, [_, _] => true
  | .indent, [.width, _] => true
  | .join, [_, .list _] => true
  | .and, _ => true
  | .or, _ => true
  | .include, [.text name, data] => (signature.lookup name).any data.implies
  | _, _ => false

theorem exists_textsOf {item : Shape} {value : Value} (fits : (Shape.list item).Fits value) :
    ∃ texts, textsOf value = .ok texts := by
  rcases fits with rfl | ⟨items, rfl, _⟩
  · exact ⟨[], rfl⟩
  · exact ⟨_, rfl⟩

/-- The argument of a function of one. -/
theorem exists_oneArgument {shape : Shape} {arguments : List Value}
    (fits : List.Forall₂ Shape.Fits [shape] arguments) :
    ∃ value, shape.Fits value ∧ arguments = [value] := by
  obtain ⟨value, others, valueFits, nothing, rfl⟩ := List.forall₂_cons_left_iff.mp fits
  rw [List.forall₂_nil_left_iff.mp nothing]
  exact ⟨value, valueFits, rfl⟩

/-- The arguments of a function of two. -/
theorem exists_twoArguments {firstShape secondShape : Shape} {arguments : List Value}
    (fits : List.Forall₂ Shape.Fits [firstShape, secondShape] arguments) :
    ∃ first second, firstShape.Fits first ∧ secondShape.Fits second ∧
      arguments = [first, second] := by
  obtain ⟨first, others, firstFits, rest, rfl⟩ := List.forall₂_cons_left_iff.mp fits
  obtain ⟨second, secondFits, rfl⟩ := exists_oneArgument rest
  exact ⟨first, second, firstFits, secondFits, rfl⟩

/-- Functions accept the arguments that they are sure to accept. -/
theorem exists_apply {includer : Includer} {signature : Signature}
    (renders : Renders includer signature) {function : Function} {shapes : List Shape}
    (accepted : function.accepts signature shapes) {arguments : List Value}
    (fits : List.Forall₂ Shape.Fits shapes arguments) :
    ∃ result, function.apply includer arguments = .ok result := by
  match function, shapes, accepted, fits with
  | .labelName, [_], _, fits | .kindLabelName, [_], _, fits | .quote, [_], _, fits
  | .not, [_], _, fits =>
    obtain ⟨value, _, rfl⟩ := exists_oneArgument fits
    exact ⟨_, rfl⟩
  | .quoteList, [.list _], _, fits =>
    obtain ⟨value, listFits, rfl⟩ := exists_oneArgument fits
    obtain ⟨texts, isTexts⟩ := exists_textsOf listFits
    refine ⟨.text (quoteList texts), ?_⟩
    show (textsOf value >>= _) = _
    rw [isTexts]
    rfl
  | .len, [.list _], _, fits =>
    obtain ⟨value, rfl | ⟨items, rfl, _⟩, rfl⟩ := exists_oneArgument fits
    · exact ⟨_, rfl⟩
    · exact ⟨_, rfl⟩
  | .kv, [_, _], _, fits | .secretPath, [_, _], _, fits | .eq, [_, _], _, fits
  | .ne, [_, _], _, fits =>
    obtain ⟨first, second, _, _, rfl⟩ := exists_twoArguments fits
    exact ⟨_, rfl⟩
  | .indent, [.width, _], _, fits =>
    obtain ⟨_, text, ⟨width, rfl⟩, _, rfl⟩ := exists_twoArguments fits
    have isWidth : widthOf (.integer width) = .ok width := by
      rw [widthOf, if_pos (Int.natCast_nonneg width), Int.toNat_natCast]
    refine ⟨.text (indentText text.plainText width), ?_⟩
    show (widthOf (.integer width) >>= fun columns =>
      .ok (Value.text (indentText text.plainText columns))) = _
    rw [isWidth]
    rfl
  | .join, [_, .list _], _, fits =>
    obtain ⟨separator, value, _, listFits, rfl⟩ := exists_twoArguments fits
    obtain ⟨texts, isTexts⟩ := exists_textsOf listFits
    refine ⟨.text (separator.plainText.intercalate texts), ?_⟩
    show (textsOf value >>= _) = _
    rw [isTexts]
    rfl
  | .and, _, _, _ | .or, _, _, _ => exact ⟨_, rfl⟩
  | .include, [.text name, data], accepted, fits =>
    obtain ⟨_, value, rfl, dataFits, rfl⟩ := exists_twoArguments fits
    obtain ⟨wanted, known, implied⟩ := (Option.any_eq_true _ _).mp accepted
    obtain ⟨text, rendered⟩ := renders name wanted known value (Shape.fits_of_implies implied dataFits)
    refine ⟨.text text, ?_⟩
    show (includer name value >>= _) = _
    rw [rendered]
    rfl

/-! ### Expressions -/

/-- What is known where an expression is evaluated: of other templates, and of both values. -/
structure Scope where
  signature : Signature
  dot : Shape
  root : Shape

/-- Whether what is known holds of a context. -/
structure Context.Fits (context : Context) (scope : Scope) : Prop where
  renders : Renders context.includer scope.signature
  dot : scope.dot.Fits context.dot
  root : scope.root.Fits context.root

/-- The shape of a call of the function of a name. -/
def callShape? (signature : Signature) (name : String) (arguments : List Shape) : Option Shape :=
  if (Function.ofName? name).any (·.accepts signature arguments) then some .any else none

mutual

/-- The shape of an operand, if it is sure to have a value. -/
def Operand.shape? (scope : Scope) : Operand → Option Shape
  | .dot path => scope.dot.pathShape? path
  | .root path => scope.root.pathShape? path
  | .text value => some (.text value)
  | .integer value => some (if 0 ≤ value then .width else .any)
  | .boolean _ => some .any
  | .function name => callShape? scope.signature name []
  | .group commands => commandsShape? scope none commands

/-- The shapes of some operands. -/
def operandShapes? (scope : Scope) : List Operand → Option (List Shape)
  | [] => some []
  | operand :: rest => do
    let shape ← operand.shape? scope
    return shape :: (← operandShapes? scope rest)

/-- The shape of a command that a value of the shape `piped` flows into. -/
def Command.shape? (scope : Scope) (piped : Option Shape) : Command → Option Shape
  | .mk (.function name) arguments => do
    let shapes ← operandShapes? scope arguments
    callShape? scope.signature name (shapes ++ piped.toList)
  | .mk head _ =>
    match piped with
    | some _ => none
    | none => head.shape? scope

/-- The shape of the last of some commands. -/
def commandsShape? (scope : Scope) (piped : Option Shape) : List Command → Option Shape
  | [] => some (piped.getD .any)
  | command :: rest => do
    let shape ← command.shape? scope piped
    commandsShape? scope (some shape) rest

end

/-- The shape of the value of an expression, if it is sure to have one. -/
def expressionShape? (scope : Scope) (expression : Expression) : Option Shape :=
  commandsShape? scope none expression

theorem exists_call {includer : Includer} {signature : Signature}
    (renders : Renders includer signature) {name : String} {shapes : List Shape} {found : Shape}
    (known : callShape? signature name shapes = some found) {arguments : List Value}
    (fits : List.Forall₂ Shape.Fits shapes arguments) :
    ∃ result, call includer name arguments = .ok result ∧ found.Fits result := by
  unfold callShape? at known
  split at known
  · rename_i accepted
    cases known
    obtain ⟨function, isFunction, accepted⟩ := (Option.any_eq_true _ _).mp accepted
    obtain ⟨result, applied⟩ := exists_apply renders accepted fits
    refine ⟨result, ?_, trivial⟩
    unfold call
    rw [isFunction]
    show (function.apply includer arguments).mapError _ = _
    rw [applied]
    rfl
  · cases known

section Evaluation

variable {context : Context} {scope : Scope}

mutual

/-- Operands whose shape is known have a value of that shape. -/
theorem Operand.exists_evaluate (fits : context.Fits scope) :
    ∀ (operand : Operand) {found : Shape}, operand.shape? scope = some found →
      ∃ result, operand.evaluate context = .ok result ∧ found.Fits result
  | .dot path, found, known => by
    rw [Operand.shape?] at known
    rw [Operand.evaluate]
    exact Shape.exists_followPath fits.dot known
  | .root path, found, known => by
    rw [Operand.shape?] at known
    rw [Operand.evaluate]
    exact Shape.exists_followPath fits.root known
  | .text value, found, known => by
    rw [Operand.shape?] at known
    cases known
    rw [Operand.evaluate]
    exact ⟨.text value, rfl, rfl⟩
  | .integer value, found, known => by
    rw [Operand.shape?] at known
    cases known
    rw [Operand.evaluate]
    refine ⟨.integer value, rfl, ?_⟩
    split
    · rename_i nonnegative
      exact ⟨value.toNat, by rw [Int.toNat_of_nonneg nonnegative]⟩
    · trivial
  | .boolean value, found, known => by
    rw [Operand.shape?] at known
    cases known
    rw [Operand.evaluate]
    exact ⟨.boolean value, rfl, trivial⟩
  | .function name, found, known => by
    rw [Operand.shape?] at known
    rw [Operand.evaluate]
    exact exists_call fits.renders known .nil
  | .group commands, found, known => by
    rw [Operand.shape?] at known
    rw [Operand.evaluate]
    have nothing : List.Forall₂ Shape.Fits (none : Option Shape).toList
        (none : Option Value).toList := .nil
    exact exists_evaluateCommands fits commands nothing known

theorem exists_evaluateOperands (fits : context.Fits scope) :
    ∀ (operands : List Operand) {shapes : List Shape}, operandShapes? scope operands = some shapes →
      ∃ values, evaluateOperands context operands = .ok values ∧
        List.Forall₂ Shape.Fits shapes values
  | [], shapes, known => by
    rw [operandShapes?] at known
    cases known
    rw [evaluateOperands]
    exact ⟨[], rfl, .nil⟩
  | operand :: rest, shapes, known => by
    rw [operandShapes?] at known
    obtain ⟨shape, operandKnown, known⟩ := Option.bind_eq_some_iff.mp known
    obtain ⟨others, restKnown, known⟩ := Option.bind_eq_some_iff.mp known
    cases known
    obtain ⟨value, evaluated, valueFits⟩ := Operand.exists_evaluate fits operand operandKnown
    obtain ⟨values, restEvaluated, restFits⟩ := exists_evaluateOperands fits rest restKnown
    refine ⟨value :: values, ?_, .cons valueFits restFits⟩
    rw [evaluateOperands, evaluated, restEvaluated]
    rfl

theorem Command.exists_evaluate (fits : context.Fits scope) :
    ∀ (command : Command) {shape? : Option Shape} {value? : Option Value} {found : Shape},
      List.Forall₂ Shape.Fits shape?.toList value?.toList →
        command.shape? scope shape? = some found →
          ∃ result, command.evaluate context value? = .ok result ∧ found.Fits result
  | .mk head arguments, shape?, value?, found, piped, known => by
    by_cases isFunction : ∃ name, head = .function name
    · obtain ⟨name, rfl⟩ := isFunction
      rw [Command.shape?] at known
      obtain ⟨shapes, argumentsKnown, known⟩ := Option.bind_eq_some_iff.mp known
      obtain ⟨values, evaluated, valuesFit⟩ :=
        exists_evaluateOperands fits arguments argumentsKnown
      obtain ⟨result, called, resultFits⟩ :=
        exists_call fits.renders known (List.rel_append valuesFit piped)
      refine ⟨result, ?_, resultFits⟩
      rw [Command.evaluate, evaluated]
      exact called
    · have notFunction : ∀ name, head = .function name → False :=
        fun name same => isFunction ⟨name, same⟩
      cases shape? with
      | some shape =>
        rw [Command.shape?.eq_2 _ _ _ _ notFunction] at known
        cases known
      | none =>
        rw [Command.shape?.eq_3 _ _ _ notFunction] at known
        cases value? with
        | some value => cases piped
        | none =>
          rw [Command.evaluate.eq_3 _ _ _ notFunction]
          exact Operand.exists_evaluate fits head known

theorem exists_evaluateCommands (fits : context.Fits scope) :
    ∀ (commands : List Command) {shape? : Option Shape} {value? : Option Value} {found : Shape},
      List.Forall₂ Shape.Fits shape?.toList value?.toList →
        commandsShape? scope shape? commands = some found →
          ∃ result, evaluateCommands context value? commands = .ok result ∧ found.Fits result
  | [], shape?, value?, found, piped, known => by
    rw [commandsShape?] at known
    cases known
    rw [evaluateCommands]
    refine ⟨_, rfl, ?_⟩
    cases shape? with
    | none => trivial
    | some shape =>
      cases value? with
      | none => cases piped
      | some value => exact (List.forall₂_cons.mp piped).1
  | command :: rest, shape?, value?, found, piped, known => by
    rw [commandsShape?] at known
    obtain ⟨shape, commandKnown, known⟩ := Option.bind_eq_some_iff.mp known
    obtain ⟨value, evaluated, valueFits⟩ := Command.exists_evaluate fits command piped commandKnown
    have onwards : List.Forall₂ Shape.Fits (some shape).toList (some value).toList :=
      .cons valueFits .nil
    obtain ⟨result, restEvaluated, resultFits⟩ := exists_evaluateCommands fits rest onwards known
    refine ⟨result, ?_, resultFits⟩
    rw [evaluateCommands, evaluated]
    exact restEvaluated

end

theorem exists_evaluate (fits : context.Fits scope) {expression : Expression} {found : Shape}
    (known : expressionShape? scope expression = some found) :
    ∃ result, evaluate context expression = .ok result ∧ found.Fits result := by
  have nothing : List.Forall₂ Shape.Fits (none : Option Shape).toList
      (none : Option Value).toList := .nil
  exact exists_evaluateCommands fits expression nothing known

end Evaluation

/-! ### Nodes -/

mutual

/-- Whether a node is sure to have a text. -/
def Node.isRenderable (scope : Scope) : Node → Bool
  | .text _ => true
  | .action expression => (expressionShape? scope expression).isSome
  | .branch condition body otherwise =>
    (expressionShape? scope condition).isSome && areRenderable scope body &&
      areRenderable scope otherwise
  | .each collection body otherwise =>
    match expressionShape? scope collection with
    | some (.list item) =>
      areRenderable { scope with dot := item } body && areRenderable scope otherwise
    | _ => false
  | .within value body otherwise =>
    match expressionShape? scope value with
    | some shape =>
      areRenderable { scope with dot := shape } body && areRenderable scope otherwise
    | none => false

/-- Whether some nodes are sure to have a text. -/
def areRenderable (scope : Scope) : List Node → Bool
  | [] => true
  | node :: rest => node.isRenderable scope && areRenderable scope rest

end

theorem Context.Fits.withDot {context : Context} {scope : Scope} (fits : context.Fits scope)
    {shape : Shape} {value : Value} (valueFits : shape.Fits value) :
    Context.Fits { context with dot := value } { scope with dot := shape } :=
  ⟨fits.renders, valueFits, fits.root⟩

mutual

/-- Nodes that are sure to have a text have one, in every context that is as expected. -/
theorem Node.exists_render :
    ∀ (node : Node) {context : Context} {scope : Scope}, context.Fits scope →
      node.isRenderable scope → ∃ text, node.render context = .ok text
  | .text value, context, scope, fits, safe => by
    rw [Node.render]
    exact ⟨value, rfl⟩
  | .action expression, context, scope, fits, safe => by
    rw [Node.isRenderable] at safe
    obtain ⟨shape, known⟩ := Option.isSome_iff_exists.mp safe
    obtain ⟨value, evaluated, _⟩ := exists_evaluate fits known
    refine ⟨value.plainText, ?_⟩
    rw [Node.render, evaluated]
    rfl
  | .branch condition body otherwise, context, scope, fits, safe => by
    rw [Node.isRenderable, Bool.and_eq_true, Bool.and_eq_true] at safe
    obtain ⟨⟨conditionSafe, bodySafe⟩, otherwiseSafe⟩ := safe
    obtain ⟨shape, known⟩ := Option.isSome_iff_exists.mp conditionSafe
    obtain ⟨value, evaluated, _⟩ := exists_evaluate fits known
    rw [Node.render, evaluated]
    by_cases present : value.isPresent
    · obtain ⟨text, rendered⟩ := exists_renderNodes body fits bodySafe
      exact ⟨text, (if_pos present).trans rendered⟩
    · obtain ⟨text, rendered⟩ := exists_renderNodes otherwise fits otherwiseSafe
      exact ⟨text, (if_neg present).trans rendered⟩
  | .within expression body otherwise, context, scope, fits, safe => by
    rw [Node.isRenderable] at safe
    cases known : expressionShape? scope expression with
    | none =>
      rw [known] at safe
      cases safe
    | some shape =>
      rw [known, Bool.and_eq_true] at safe
      obtain ⟨value, evaluated, valueFits⟩ := exists_evaluate fits known
      rw [Node.render, evaluated]
      by_cases present : value.isPresent
      · obtain ⟨text, rendered⟩ := exists_renderNodes body (fits.withDot valueFits) safe.1
        exact ⟨text, (if_pos present).trans rendered⟩
      · obtain ⟨text, rendered⟩ := exists_renderNodes otherwise fits safe.2
        exact ⟨text, (if_neg present).trans rendered⟩
  | .each collection body otherwise, context, scope, fits, safe => by
    rw [Node.isRenderable] at safe
    split at safe
    · rename_i item known
      rw [Bool.and_eq_true] at safe
      obtain ⟨value, evaluated, valueFits⟩ := exists_evaluate fits known
      have ofItems : ∃ items, itemsOf value = .ok items ∧ ∀ member ∈ items, item.Fits member := by
        rcases valueFits with rfl | ⟨items, rfl, each⟩
        · exact ⟨[], rfl, fun member absent => absurd absent List.not_mem_nil⟩
        · exact ⟨items, rfl, each⟩
      obtain ⟨items, isItems, itemsFit⟩ := ofItems
      obtain ⟨nothing, nothingRendered⟩ := exists_renderNodes otherwise fits safe.2
      obtain ⟨texts, rendered⟩ := exists_mapM fun member present =>
        exists_renderNodes body (fits.withDot (itemsFit member present)) safe.1
      rw [Node.render, evaluated]
      show ∃ text, (itemsOf value >>= _) = .ok text
      rw [isItems]
      cases items with
      | nil => exact ⟨nothing, nothingRendered⟩
      | cons first rest =>
        refine ⟨String.join texts, ?_⟩
        show ((first :: rest).mapM (fun item => renderNodes { context with dot := item } body) >>=
          fun texts => .ok (String.join texts)) = _
        rw [rendered]
        rfl
    · cases safe

theorem exists_renderNodes :
    ∀ (nodes : List Node) {context : Context} {scope : Scope}, context.Fits scope →
      areRenderable scope nodes → ∃ text, renderNodes context nodes = .ok text
  | [], context, scope, fits, safe => by
    rw [renderNodes]
    exact ⟨"", rfl⟩
  | node :: rest, context, scope, fits, safe => by
    rw [areRenderable, Bool.and_eq_true] at safe
    obtain ⟨text, rendered⟩ := node.exists_render fits safe.1
    obtain ⟨others, othersRendered⟩ := exists_renderNodes rest fits safe.2
    refine ⟨text ++ others, ?_⟩
    rw [renderNodes, rendered, othersRendered]
    rfl

end

end Template

end LogForwarder
