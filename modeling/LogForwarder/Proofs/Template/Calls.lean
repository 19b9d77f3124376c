/-
This file proves that the scan of a template sees all that rendering can call. Registration looks at
the commands of all expressions, those in parentheses and in all bodies of blocks included, and
notes the functions and the templates that they name. Whatever is rendered then depends on how
templates are included only at the names that were noted, and no function that it meets is unknown:
these two facts are carried together through operands, commands, expressions and nodes.
-/

import LogForwarder.Proofs.Lookup
import LogForwarder.Proofs.Outcome
import LogForwarder.Template.Engine

namespace LogForwarder.Template

/-! ### Errors about names -/

/-- Whether what lies at the bottom of an error is a name that nothing has. -/
def RenderError.lacksName : RenderError → Bool
  | .noTemplate _ => true
  | .unknownFunction _ => true
  | .inTemplate _ error => error.lacksName
  | .inCall _ error => error.lacksName
  | _ => false

/-- Whether two computations come out alike, and without meeting a name that nothing has. -/
structure Agree {α : Type} (first second : Except RenderError α) : Prop where
  same : first = second
  named : ∀ error, first = .error error → error.lacksName = false

namespace Agree

variable {α β : Type}

theorem ok (value : α) : Agree (.ok value) (.ok value) :=
  ⟨rfl, fun _ absurdity => nomatch absurdity⟩

theorem error {fault : RenderError} (named : fault.lacksName = false) :
    Agree (.error fault : Except RenderError α) (.error fault) := by
  refine ⟨rfl, fun other same => ?_⟩
  cases same
  exact named

theorem bind {first second : Except RenderError α} (agree : Agree first second)
    {firstRest secondRest : α → Except RenderError β}
    (rest : ∀ value, Agree (firstRest value) (secondRest value)) :
    Agree (first >>= firstRest) (second >>= secondRest) := by
  obtain ⟨rfl, named⟩ := agree
  cases first with
  | error fault => exact .error (named fault rfl)
  | ok value => exact rest value

/-- An error that is wrapped up still has the same at its bottom. -/
theorem mapError {first second : Except RenderError α} (agree : Agree first second)
    {wrap : RenderError → RenderError} (keeps : ∀ fault, (wrap fault).lacksName = fault.lacksName) :
    Agree (first.mapError wrap) (second.mapError wrap) := by
  obtain ⟨rfl, named⟩ := agree
  cases first with
  | error fault => exact .error ((keeps fault).trans (named fault rfl))
  | ok value => exact .ok value

theorem mapM {firstStep secondStep : α → Except RenderError β}
    (agree : ∀ item, Agree (firstStep item) (secondStep item)) (items : List α) :
    Agree (items.mapM firstStep) (items.mapM secondStep) := by
  induction items with
  | nil => exact .ok []
  | cons head rest inductionHypothesis =>
    rw [List.mapM_cons, List.mapM_cons]
    exact (agree head).bind fun _ => inductionHypothesis.bind fun _ => .ok _

end Agree

/-! ### Functions -/

theorem agree_oneArgument (arguments : List Value) :
    Agree (oneArgument arguments) (oneArgument arguments) := by
  unfold oneArgument
  split
  · exact .ok _
  · exact .error rfl

theorem agree_twoArguments (arguments : List Value) :
    Agree (twoArguments arguments) (twoArguments arguments) := by
  unfold twoArguments
  split
  · exact .ok _
  · exact .error rfl

theorem agree_textsOf (value : Value) : Agree (textsOf value) (textsOf value) := by
  unfold textsOf
  split
  · exact .ok _
  · exact .ok _
  · exact .ok _
  · exact .error rfl

theorem agree_lengthOf (value : Value) : Agree (lengthOf value) (lengthOf value) := by
  unfold lengthOf
  split
  · exact .ok _
  · exact .ok _
  · exact .ok _
  · exact .ok _
  · exact .error rfl

theorem agree_widthOf (value : Value) : Agree (widthOf value) (widthOf value) := by
  unfold widthOf
  split
  · split
    · exact .ok _
    · exact .error rfl
  · exact .error rfl

theorem agree_routeMapValues (map key : Value) :
    Agree (routeMapValues map key) (routeMapValues map key) := by
  unfold routeMapValues
  split
  · exact (agree_textsOf _).bind fun _ => .ok _
  · exact .error rfl

/-- Of all functions only one includes templates, and no other asks how that is done. -/
theorem Function.agree_apply (first second : Includer) {function : Function}
    (other : function ≠ .include) (arguments : List Value) :
    Agree (function.apply first arguments) (function.apply second arguments) := by
  have one := agree_oneArgument arguments
  have two := agree_twoArguments arguments
  match function, other with
  | .labelName, _ | .kindLabelName, _ | .quote, _ | .not, _ => exact one.bind fun _ => .ok _
  | .quoteList, _ => exact one.bind fun value => (agree_textsOf value).bind fun _ => .ok _
  | .len, _ => exact one.bind fun value => (agree_lengthOf value).bind fun _ => .ok _
  | .kv, _ | .secretPath, _ | .eq, _ | .ne, _ => exact two.bind fun _ => .ok _
  | .routeMapValues, _ => exact two.bind fun _ => agree_routeMapValues _ _
  | .indent, _ => exact two.bind fun _ => (agree_widthOf _).bind fun _ => .ok _
  | .join, _ => exact two.bind fun _ => (agree_textsOf _).bind fun _ => .ok _
  | .and, _ | .or, _ => exact .ok _
  | .include, other => exact absurd rfl other

/-- Whether two ways to include templates agree at some names, whatever the data. -/
def AgreeAt (targets : List String) (first second : Includer) : Prop :=
  ∀ target ∈ targets, ∀ data, Agree (first target data) (second target data)

section Rendering

variable {targets : List String} {first second : Includer}

/-- The function that includes templates goes to the one that its first argument names. -/
theorem AgreeAt.apply_include (agree : AgreeAt targets first second) {arguments : List Value}
    (known : ∀ name ∈ arguments.head?, name.plainText ∈ targets) :
    Agree (Function.include.apply first arguments) (Function.include.apply second arguments) := by
  match arguments with
  | [] => exact .error rfl
  | [name] => exact (agree _ (known name rfl) .null).bind fun _ => .ok _
  | [name, data] => exact (agree _ (known name rfl) data).bind fun _ => .ok _
  | _ :: _ :: _ :: _ => exact .error rfl

theorem AgreeAt.call (agree : AgreeAt targets first second) {name : String}
    (isFunction : (Function.ofName? name).isSome) {arguments : List Value}
    (known : name = Function.include.name →
      ∀ target ∈ arguments.head?, target.plainText ∈ targets) :
    Agree (call first name arguments) (call second name arguments) := by
  obtain ⟨function, found⟩ := Option.isSome_iff_exists.mp isFunction
  unfold Template.call
  rw [found]
  refine Agree.mapError ?_ fun _ => rfl
  by_cases includes : function = .include
  · subst includes
    unfold Function.ofName? at found
    have isName := List.find?_some found
    exact agree.apply_include (known (of_decide_eq_true isName).symm)
  · exact Function.agree_apply first second includes arguments

/-! ### Expressions -/

/-- What a command may call: functions that there are, and templates of some names written out. -/
structure Command.CallsAmong (targets : List String) (command : Command) : Prop where
  functions : ∀ name, .function name ∈ command.operands → (Function.ofName? name).isSome
  includes : ∀ target?, includeTarget? command = some target? → ∃ target ∈ targets,
    target? = some target

/-- Whether all commands of some expressions call no more than they may. -/
def CallAmong (targets : List String) (expressions : List Expression) : Prop :=
  ∀ expression ∈ expressions, ∀ command ∈ expression, command.CallsAmong targets

theorem callAmong_append {before after : List Expression} :
    CallAmong targets (before ++ after) ↔ CallAmong targets before ∧ CallAmong targets after :=
  List.forall_mem_append

theorem callAmong_cons {expression : Expression} {rest : List Expression} :
    CallAmong targets (expression :: rest) ↔
      (∀ command ∈ expression, command.CallsAmong targets) ∧ CallAmong targets rest :=
  List.forall_mem_cons

/-- A command that includes a template has its name as its first argument. -/
theorem Command.CallsAmong.exists_target {arguments : List Operand}
    (calls : (Command.mk (.function Function.include.name) arguments).CallsAmong targets) :
    ∃ target ∈ targets, ∃ rest, arguments = .text target :: rest := by
  have included := calls.includes
  simp only [includeTarget?, if_true] at included
  split at included
  · next target rest =>
    obtain ⟨other, member, same⟩ := included _ rfl
    cases same
    exact ⟨target, member, rest, rfl⟩
  · obtain ⟨_, _, absurdity⟩ := included _ rfl
    cases absurdity

/-- What a list of operands is evaluated to starts with what its first operand is evaluated to. -/
theorem evaluateOperands_text {context : Context} {target : String} {rest : List Operand}
    {values : List Value}
    (evaluated : evaluateOperands context (.text target :: rest) = .ok values) :
    values.head? = some (.text target) := by
  rw [evaluateOperands] at evaluated
  obtain ⟨value, isText, evaluated⟩ := exists_of_bind_eq_ok evaluated
  obtain ⟨others, _, evaluated⟩ := exists_of_bind_eq_ok evaluated
  rw [Operand.evaluate] at isText
  cases isText
  cases evaluated
  rfl

theorem agree_followPath (value : Value) (path : List String) :
    Agree (followPath value path) (followPath value path) := by
  induction path generalizing value with
  | nil => cases value <;> exact .ok _
  | cons step rest inductionHypothesis =>
    cases value with
    | object entries =>
      rw [followPath]
      split
      · exact inductionHypothesis _
      · exact .ok _
    | null => exact .ok _
    | boolean | integer | float | text | list => exact .error rfl

mutual

/-- Operands that call no more than they may have values that depend on no other includes. -/
theorem AgreeAt.evaluate_operand (agree : AgreeAt targets first second) (dot root : Value) :
    ∀ operand : Operand, (∀ name, operand = .function name → (Function.ofName? name).isSome) →
      CallAmong targets operand.groups →
        Agree (operand.evaluate ⟨first, dot, root⟩) (operand.evaluate ⟨second, dot, root⟩)
  | .dot path, _, _ => by
    rw [Operand.evaluate, Operand.evaluate]
    exact agree_followPath dot path
  | .root path, _, _ => by
    rw [Operand.evaluate, Operand.evaluate]
    exact agree_followPath root path
  | .text value, _, _ => by
    rw [Operand.evaluate, Operand.evaluate]
    exact .ok _
  | .integer value, _, _ => by
    rw [Operand.evaluate, Operand.evaluate]
    exact .ok _
  | .boolean value, _, _ => by
    rw [Operand.evaluate, Operand.evaluate]
    exact .ok _
  | .function name, isFunction, _ => by
    rw [Operand.evaluate, Operand.evaluate]
    exact agree.call (isFunction name rfl) fun _ _ absurdity => nomatch absurdity
  | .group commands, _, calls => by
    rw [Operand.groups, callAmong_cons] at calls
    rw [Operand.evaluate, Operand.evaluate]
    exact agree.evaluate_commands dot root commands none calls.1 calls.2

theorem AgreeAt.evaluate_operands (agree : AgreeAt targets first second) (dot root : Value) :
    ∀ operands : List Operand,
      (∀ name, .function name ∈ operands → (Function.ofName? name).isSome) →
        CallAmong targets (groupsOfOperands operands) →
          Agree (evaluateOperands ⟨first, dot, root⟩ operands)
            (evaluateOperands ⟨second, dot, root⟩ operands)
  | [], _, _ => by
    rw [evaluateOperands, evaluateOperands]
    exact .ok _
  | operand :: rest, areFunctions, calls => by
    rw [groupsOfOperands, callAmong_append] at calls
    rw [evaluateOperands, evaluateOperands]
    have head := agree.evaluate_operand dot root operand
      (fun name isName => areFunctions name (isName ▸ List.mem_cons_self)) calls.1
    have others := agree.evaluate_operands dot root rest
      (fun name member => areFunctions name (List.mem_cons_of_mem _ member)) calls.2
    exact head.bind fun _ => others.bind fun _ => .ok _

theorem AgreeAt.evaluate_command (agree : AgreeAt targets first second) (dot root : Value) :
    ∀ (command : Command) (piped : Option Value), command.CallsAmong targets →
      CallAmong targets command.groups →
        Agree (command.evaluate ⟨first, dot, root⟩ piped)
          (command.evaluate ⟨second, dot, root⟩ piped)
  | .mk head arguments, piped, calls, groups => by
    rw [Command.groups, callAmong_append] at groups
    have headFunction : ∀ name, head = .function name → (Function.ofName? name).isSome :=
      fun name isName => calls.functions name (isName ▸ List.mem_cons_self)
    by_cases isFunction : ∃ name, head = .function name
    · obtain ⟨name, rfl⟩ := isFunction
      rw [Command.evaluate, Command.evaluate]
      have values := agree.evaluate_operands dot root arguments
        (fun name member => calls.functions name (List.mem_cons_of_mem _ member)) groups.2
      -- The values are the same on both sides, and the first one is the name that was noted.
      obtain ⟨same, named⟩ := values
      rw [← same]
      cases evaluated : evaluateOperands ⟨first, dot, root⟩ arguments with
      | error fault => exact .error (named fault evaluated)
      | ok values =>
        refine agree.call (headFunction name rfl) fun isInclude target isTarget => ?_
        subst isInclude
        obtain ⟨known, member, rest, rfl⟩ := calls.exists_target
        have isFirst := evaluateOperands_text evaluated
        rw [Option.mem_def, List.head?_append, isFirst, Option.some_or] at isTarget
        cases isTarget
        exact member
    · have notFunction : ∀ name, head = .function name → False :=
        fun name same => isFunction ⟨name, same⟩
      cases piped with
      | some value =>
        rw [Command.evaluate.eq_2 _ _ _ _ notFunction, Command.evaluate.eq_2 _ _ _ _ notFunction]
        exact .error rfl
      | none =>
        rw [Command.evaluate.eq_3 _ _ _ notFunction, Command.evaluate.eq_3 _ _ _ notFunction]
        exact agree.evaluate_operand dot root head headFunction groups.1

theorem AgreeAt.evaluate_commands (agree : AgreeAt targets first second) (dot root : Value) :
    ∀ (commands : List Command) (piped : Option Value),
      (∀ command ∈ commands, command.CallsAmong targets) →
        CallAmong targets (groupsOfCommands commands) →
          Agree (evaluateCommands ⟨first, dot, root⟩ piped commands)
            (evaluateCommands ⟨second, dot, root⟩ piped commands)
  | [], piped, _, _ => by
    rw [evaluateCommands, evaluateCommands]
    exact .ok _
  | command :: rest, piped, calls, groups => by
    rw [groupsOfCommands, callAmong_append] at groups
    obtain ⟨headCalls, restCalls⟩ := List.forall_mem_cons.mp calls
    rw [evaluateCommands, evaluateCommands]
    exact (agree.evaluate_command dot root command piped headCalls groups.1).bind fun value =>
      agree.evaluate_commands dot root rest (some value) restCalls groups.2

end

theorem AgreeAt.evaluate (agree : AgreeAt targets first second) (dot root : Value)
    {expression : Expression} (calls : CallAmong targets (withGroups expression)) :
    Agree (evaluate ⟨first, dot, root⟩ expression) (evaluate ⟨second, dot, root⟩ expression) := by
  rw [withGroups, callAmong_cons] at calls
  exact agree.evaluate_commands dot root expression none calls.1 calls.2

/-! ### Nodes -/

theorem agree_itemsOf (value : Value) : Agree (itemsOf value) (itemsOf value) := by
  unfold itemsOf
  split
  · exact .ok _
  · exact .ok _
  · exact .ok _
  · exact .error rfl

mutual

/-- Nodes that call no more than they may have texts that depend on no other includes. -/
theorem AgreeAt.render_node (agree : AgreeAt targets first second) :
    ∀ (node : Node) (dot root : Value), CallAmong targets node.expressions →
      Agree (node.render ⟨first, dot, root⟩) (node.render ⟨second, dot, root⟩)
  | .text value, dot, root, _ => by
    rw [Node.render, Node.render]
    exact .ok _
  | .action expression, dot, root, calls => by
    rw [Node.render, Node.render]
    exact (agree.evaluate dot root calls).bind fun _ => .ok _
  | .branch condition body otherwise, dot, root, calls => by
    rw [Node.expressions, callAmong_append, callAmong_append] at calls
    obtain ⟨conditionCalls, bodyCalls, otherwiseCalls⟩ := calls
    rw [Node.render, Node.render]
    refine (agree.evaluate dot root conditionCalls).bind fun value => ?_
    split
    · exact agree.render_nodes body dot root bodyCalls
    · exact agree.render_nodes otherwise dot root otherwiseCalls
  | .within expression body otherwise, dot, root, calls => by
    rw [Node.expressions, callAmong_append, callAmong_append] at calls
    obtain ⟨valueCalls, bodyCalls, otherwiseCalls⟩ := calls
    rw [Node.render, Node.render]
    refine (agree.evaluate dot root valueCalls).bind fun value => ?_
    split
    · exact agree.render_nodes body value root bodyCalls
    · exact agree.render_nodes otherwise dot root otherwiseCalls
  | .each collection body otherwise, dot, root, calls => by
    rw [Node.expressions, callAmong_append, callAmong_append] at calls
    obtain ⟨collectionCalls, bodyCalls, otherwiseCalls⟩ := calls
    rw [Node.render, Node.render]
    refine (agree.evaluate dot root collectionCalls).bind fun value => ?_
    refine (agree_itemsOf value).bind fun items => ?_
    cases items with
    | nil => exact agree.render_nodes otherwise dot root otherwiseCalls
    | cons item rest =>
      have texts := Agree.mapM (fun item => agree.render_nodes body item root bodyCalls)
        (item :: rest)
      exact texts.bind fun _ => .ok _

theorem AgreeAt.render_nodes (agree : AgreeAt targets first second) :
    ∀ (nodes : List Node) (dot root : Value), CallAmong targets (expressionsOf nodes) →
      Agree (renderNodes ⟨first, dot, root⟩ nodes) (renderNodes ⟨second, dot, root⟩ nodes)
  | [], dot, root, _ => by
    rw [renderNodes, renderNodes]
    exact .ok _
  | node :: rest, dot, root, calls => by
    rw [expressionsOf, callAmong_append] at calls
    rw [renderNodes, renderNodes]
    exact (agree.render_node node dot root calls.1).bind fun _ =>
      (agree.render_nodes rest dot root calls.2).bind fun _ => .ok _

end

end Rendering

/-! ### What is noted of a template -/

theorem mem_keys_ofTexts (texts : List String) (text : String) :
    text ∈ (TextSet.ofTexts texts).keys ↔ text ∈ texts := mem_sortedTexts texts text

/-- A command without faults calls functions that there are and templates written out. -/
theorem Command.callsAmong_of_commandFaults {name : String} {command : Command}
    {targets : List String} (clean : commandFaults name command = [])
    (noted : ∀ target, (includeTarget? command).join = some target → target ∈ targets) :
    command.CallsAmong targets := by
  unfold commandFaults at clean
  obtain ⟨noUnknown, noComputed⟩ := List.append_eq_nil_iff.mp clean
  refine ⟨fun function member => ?_, fun target? included => ?_⟩
  · have notUnknown := List.filterMap_eq_nil_iff.mp noUnknown (.function function) member
    by_contra unknown
    rw [unknownFunction?, if_neg unknown] at notUnknown
    cases notUnknown
  · rw [included] at noComputed noted
    cases target? with
    | none => cases noComputed
    | some target => exact ⟨target, noted target rfl, rfl⟩

/-- A template that can be defined calls functions that there are and the templates it includes. -/
theorem callAmong_of_define {name : String} {nodes : List Node} {definition : Definition}
    (defined : define name nodes = .ok definition) :
    definition.nodes = nodes ∧
      CallAmong definition.includes.keys (expressionsOf nodes) := by
  simp only [define] at defined
  split at defined
  · cases defined
  · next clean =>
    cases defined
    refine ⟨rfl, fun expression isExpression command isCommand => ?_⟩
    have member : command ∈ (expressionsOf nodes).flatten :=
      List.mem_flatten.mpr ⟨expression, isExpression, isCommand⟩
    refine Command.callsAmong_of_commandFaults (List.flatMap_eq_nil_iff.mp clean command member) ?_
    intro target included
    rw [mem_keys_ofTexts]
    exact List.mem_filterMap.mpr ⟨command, member, included⟩

end LogForwarder.Template
