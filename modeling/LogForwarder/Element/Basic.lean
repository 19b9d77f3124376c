/-
Elements: the stanzas that generated text is made of. An element has an id, reads from other
elements by their ids, and is rendered by a template from a value; its parts are rendered right
after it.
-/

import LogForwarder.Document.Value

namespace LogForwarder

/-- What a template is rendered with, by name. -/
abbrev Params := List (String × Value)

/-- What an element does with records. -/
inductive Stage
  | source
  | transform
  | sink
  /-- A section that other sections lead to, or that stands alone. -/
  | block
  deriving DecidableEq

/-- The name of a stage. -/
def Stage.name : Stage → String
  | .source => "source"
  | .transform => "transform"
  | .sink => "sink"
  | .block => "section"

/-- A block that is rendered right after its element. -/
structure Part where
  template : String
  params : Params

/-- A stanza of generated text. -/
structure Element where
  id : String
  stage : Stage
  /-- The elements that this one reads from. An input `a.b` is the branch `b` of the element `a`. -/
  inputs : List String
  template : String
  /-- What the template is rendered with, by name and in rising order. -/
  params : Params
  parts : List Part

/-- Why some elements are no configuration. -/
inductive ElementError
  | duplicateId (id : String)
  | paramsNotMap (template : String) (params : Value)

/-- The text that reports why some elements are no configuration. -/
def ElementError.message : ElementError → String
  | .duplicateId id => s!"duplicate component id `{id}`"
  | .paramsNotMap template params => s!"params for `{template}` must be a map, got {params.compact}"

/-- Parameters in rising order, with one added. -/
def withParam (name : String) (value : Value) (params : Params) : Params :=
  insertEntry name value params

/-- The parameters of a template that are given as one value; null gives none. -/
def paramsOfValue (template : String) : Value → Except ElementError Params
  | .object entries => .ok entries
  | .null => .ok []
  | value => .error (.paramsNotMap template value)

/-- Parameters in rising order. -/
def sortedParams (params : Params) : Params :=
  params.foldl (fun sorted entry => insertEntry entry.1 entry.2 sorted) []

namespace Element

/-- An element without parts. Its id and its inputs are parameters of its template. -/
def create (stage : Stage) (id : String) (inputs : List String) (template : String)
    (params : Params) : Element :=
  ⟨id, stage, inputs, template,
    withParam "inputs" (.ofTexts inputs) (withParam "id" (.text id) (sortedParams params)), []⟩

/-- The element with one more part. The element's id is a parameter of the part. -/
def withPart (element : Element) (template : String) (params : Params) : Element :=
  let part : Part := ⟨template, withParam "id" (.text element.id) (sortedParams params)⟩
  { element with parts := element.parts ++ [part] }

/-- The element with one more part, if there are parameters for it. -/
def withPart? (element : Element) (template : String) (params : Option Params) :
    Element :=
  match params with
  | some params => element.withPart template params
  | none => element

/-- The element that an input names, which comes before the first dot. -/
def component (input : String) : String := String.ofList (input.toList.takeWhile (· ≠ '.'))

/-- The elements that the inputs of an element name. -/
def feeders (element : Element) : List String := element.inputs.map component

end Element

end LogForwarder
