/-
Functions of templates: what a template can do with values, and what can go wrong when it is
rendered.
-/

import LogForwarder.Dictionary
import LogForwarder.Document.Value
import LogForwarder.Name
import LogForwarder.Secret.Store

namespace LogForwarder

namespace Value

/--
The text of a value where it is written into a template: a text as it stands, and nothing for null.
-/
def plainText : Value → String
  | .null => ""
  | .text value => value
  | value => value.compact

/-- Whether a value counts as present: null, false, zero and everything empty do not. -/
def isPresent : Value → Bool
  | .null => false
  | .boolean value => value
  | .integer value => value ≠ 0
  | .float value => !value.isZero
  | .text value => !value.isEmpty
  | .list items => !items.isEmpty
  | .object entries => !entries.isEmpty

end Value

namespace Template

/-! ### Faults -/

/-- Why a template cannot be rendered. -/
inductive RenderError
  | noTemplate (name : String)
  | unknownFunction (name : String)
  | pipedIntoValue
  /-- A field of a value that has no fields. -/
  | fieldOf (field kind : String)
  | rangeOver (kind : String)
  | argumentCount (wanted : String) (given : Nat)
  | lengthOfScalar
  | notList
  | notMap
  | badWidth
  | inTemplate (name : String) (error : RenderError)
  | inCall (function : String) (error : RenderError)
  deriving DecidableEq

/-- The text that reports why a template cannot be rendered. -/
def RenderError.message : RenderError → String
  | .noTemplate name => s!"no template named `{name}`"
  | .unknownFunction name => s!"unknown function `{name}`"
  | .pipedIntoValue => "cannot pipe into a non-function"
  | .fieldOf field kind => s!"can't access field `{field}` of {kind}"
  | .rangeOver kind => s!"range over {kind}"
  | .argumentCount wanted given => s!"expected {wanted}, got {given}"
  | .lengthOfScalar => "len of scalar"
  | .notList => "expected a list"
  | .notMap => "expected a map"
  | .badWidth => "indent width must be a non-negative integer"
  | .inTemplate name error => s!"template `{name}`: {error.message}"
  | .inCall function error => s!"{function}: {error.message}"

/-! ### Texts -/

/-- A line after `width` blanks, unless there is nothing to see on it. -/
def indentLine (width : Nat) (line : String) : String :=
  if Text.isAllBlank line then "" else String.ofList (List.replicate width ' ') ++ line

/-- The lines of some characters. -/
def linesOf : List Char → List (List Char)
  | [] => [[]]
  | '\n' :: rest => [] :: linesOf rest
  | c :: rest =>
    match linesOf rest with
    | [] => [[c]]
    | line :: others => (c :: line) :: others

/-- A text with its lines indented. -/
def indentText (text : String) (width : Nat) : String :=
  "\n".intercalate ((linesOf text.toList).map fun line => indentLine width (String.ofList line))

/-- Texts as a list of strings between brackets. -/
def quoteList (texts : List String) : String :=
  "[" ++ ", ".intercalate (texts.map Value.textLiteral) ++ "]"

/-! ### Functions -/

/-- A function of templates. -/
inductive Function
  | labelName
  | kindLabelName
  | routeMapValues
  | kv
  | include
  | indent
  | quote
  | quoteList
  | join
  | secretPath
  | eq
  | ne
  | not
  | and
  | or
  | len
  deriving DecidableEq

namespace Function

/-- All functions. -/
def all : List Function :=
  [.labelName, .kindLabelName, .routeMapValues, .kv, .include, .indent, .quote, .quoteList, .join,
    .secretPath, .eq, .ne, .not, .and, .or, .len]

/-- The name of a function in templates. -/
def name : Function → String
  | .labelName => "labelName"
  | .kindLabelName => "sourceTypelabelName"
  | .routeMapValues => "routeMapValues"
  | .kv => "kv"
  | .include => "include"
  | .indent => "indent"
  | .quote => "quote"
  | .quoteList => "quoteList"
  | .join => "join"
  | .secretPath => "secretPath"
  | .eq => "eq"
  | .ne => "ne"
  | .not => "not"
  | .and => "and"
  | .or => "or"
  | .len => "len"

/-- The function of a name. -/
def ofName? (name : String) : Option Function := all.find? (·.name = name)

end Function

/-- The only argument of a function of one. -/
def oneArgument : List Value → Except RenderError Value
  | [value] => .ok value
  | values => .error (.argumentCount "1 argument" values.length)

/-- The arguments of a function of two. -/
def twoArguments : List Value → Except RenderError (Value × Value)
  | [first, second] => .ok (first, second)
  | values => .error (.argumentCount "2 arguments" values.length)

/-- The texts of a list; a text stands for the list of itself, and null for the empty list. -/
def textsOf : Value → Except RenderError (List String)
  | .list items => .ok (items.map Value.plainText)
  | .null => .ok []
  | .text value => .ok [value]
  | _ => .error .notList

/-- The number of members of a collection, or of bytes of a text. -/
def lengthOf : Value → Except RenderError Nat
  | .list items => .ok items.length
  | .object entries => .ok entries.length
  | .text value => .ok value.utf8ByteSize
  | .null => .ok 0
  | _ => .error .lengthOfScalar

/-- The width of an indentation. -/
def widthOf : Value → Except RenderError Nat
  | .integer value => if 0 ≤ value then .ok value.toNat else .error .badWidth
  | _ => .error .badWidth

/-- The texts at a key of an object, in rising order and each once. -/
def routeMapValues (map key : Value) : Except RenderError Value :=
  match map with
  | .object entries => do
    let texts ← textsOf ((entries.lookup key.plainText).getD .null)
    return .ofTexts (sortedTexts texts)
  | _ => .error .notMap

/-- A key and a value with a blank between them, or nothing if there is no value. -/
def keyValue (key value : Value) : String :=
  if value.isPresent then s!"{key.plainText} {value.plainText}" else ""

/-- How templates are rendered from inside others: by name and value. -/
abbrev Includer := String → Value → Except RenderError String

/-- The value of a function at some arguments. -/
def Function.apply (includer : Includer) (function : Function) (arguments : List Value) :
    Except RenderError Value :=
  match function with
  | .labelName => do return .text (Name.label (← oneArgument arguments).plainText)
  | .kindLabelName => do return .text (Name.kindLabel (← oneArgument arguments).plainText)
  | .quote => do return .text (Value.textLiteral (← oneArgument arguments).plainText)
  | .not => do return .boolean !(← oneArgument arguments).isPresent
  | .quoteList => do return .text (Template.quoteList (← textsOf (← oneArgument arguments)))
  | .len => do return .integer (← lengthOf (← oneArgument arguments))
  | .routeMapValues => do
    let (map, key) ← twoArguments arguments
    Template.routeMapValues map key
  | .kv => do
    let (key, value) ← twoArguments arguments
    return .text (keyValue key value)
  | .indent => do
    let (width, text) ← twoArguments arguments
    return .text (indentText text.plainText (← widthOf width))
  | .join => do
    let (separator, texts) ← twoArguments arguments
    return .text (separator.plainText.intercalate (← textsOf texts))
  | .secretPath => do
    let (name, key) ← twoArguments arguments
    return .text (Secret.mountPath name.plainText key.plainText)
  | .eq => do
    let (left, right) ← twoArguments arguments
    return .boolean (left.same right)
  | .ne => do
    let (left, right) ← twoArguments arguments
    return .boolean !(left.same right)
  | .and => .ok (.boolean (!arguments.isEmpty && arguments.all Value.isPresent))
  | .or => .ok (.boolean (arguments.any Value.isPresent))
  | .include =>
    match arguments with
    | [name] => do return .text (← includer name.plainText .null)
    | [name, data] => do return .text (← includer name.plainText data)
    | _ => .error (.argumentCount "1 or 2 arguments" arguments.length)

end Template

end LogForwarder
