/-
The text of an arena: the blocks of its elements, each followed by the blocks of its parts, with a
blank line between any two of them.
-/

import LogForwarder.Compile.Error
import LogForwarder.Element.Arena

namespace LogForwarder

/-- An arena with more elements at its end. -/
def Arena.extended (arena : Arena) (elements : List Element) : Except CompileError Arena :=
  (arena.extend elements).mapError .element

/-- The block of a template, on behalf of the element `owner`. -/
def renderBlock (engine : Template.Engine) (owner template : String)
    (params : List (String × Value)) : Except CompileError String :=
  match engine.render template (.object params) with
  | .ok text => .ok (Text.trim text)
  | .error error => .error (.render owner template error)

/-- The blocks of an element and of its parts. -/
def Element.blocks (engine : Template.Engine) (element : Element) :
    Except CompileError (List String) := do
  let block ← renderBlock engine element.id element.template element.params
  let parts ← element.parts.mapM fun part => renderBlock engine element.id part.template part.params
  return block :: parts

/-- The text of an arena. Blocks with nothing in them are left out. -/
def Arena.text (engine : Template.Engine) (arena : Arena) : Except CompileError String := do
  let blocks ← arena.elements.mapM (·.blocks engine)
  return "\n\n".intercalate (blocks.flatten.filter (!·.isEmpty)) ++ "\n"

end LogForwarder
