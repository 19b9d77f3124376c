/-
Generated names: the identifiers that names of inputs, outputs and pipelines turn into. Different
names may turn into one identifier, which is why specs are checked for that.
-/

import LogForwarder.Text.Case

namespace LogForwarder.Name

/-- A character of a component's id, which has ASCII letters and digits, underscores and dashes. -/
def componentChar (c : Char) : Char := if c.isAlphanum || c = '_' || c = '-' then c else '_'

/-- The id of the component of a name. -/
def componentId (name : String) : String := String.ofList (name.toList.map componentChar)

/-- A character of a label, which has neither blanks nor dashes nor dots. -/
def labelChar (c : Char) : Char := if c = ' ' || c = '-' || c = '.' then '_' else c

/-- The upper-case form of a name in labels. -/
def labelWord (name : String) : String := String.ofList ((Text.upper name).toList.map labelChar)

/-- The label of a name. -/
def label (name : String) : String := "@" ++ labelWord name

/-- The label of a kind of records. -/
def kindLabel (name : String) : String := "@_" ++ labelWord name

/-- A character of a store's id. -/
def storeChar (c : Char) : Char := if c = '-' || c = '.' then '_' else c

/-- The id of the store of an output, which is also the name of its buffer's directory. -/
def storeId (name : String) : String := String.ofList ((Text.lower name).toList.map storeChar)

end LogForwarder.Name
