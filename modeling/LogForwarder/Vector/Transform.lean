/-
Transforms of the vector dialect: programs that run on every record, routers that send records to
branches, and filters that let records through.
-/

import LogForwarder.Element.Basic
import LogForwarder.Vector.Templates

namespace LogForwarder.Vector

/-- A transform that runs a program on every record. -/
def remap (id : String) (inputs : List String) (program : String) : Element :=
  .create .transform id inputs Templates.remap.name [("vrl", .text program)]

/-- A transform that runs a program on every record, with a line that says what for. -/
def describedRemap (id : String) (inputs : List String) (description program : String) : Element :=
  .create .transform id inputs Templates.remap.name
    [("desc", .text description), ("vrl", .text program)]

/-- A branch of a router: its name, and the condition under which records take it. -/
structure Branch where
  name : String
  condition : String
  deriving DecidableEq

/-- A branch as a parameter. -/
def Branch.value (branch : Branch) : Value :=
  .ofEntries [("name", .text branch.name), ("condition", .text branch.condition)]

/-- A transform that sends records to branches. -/
def route (id : String) (inputs : List String) (branches : List Branch) : Element :=
  .create .transform id inputs Templates.route.name [("routes", .list (branches.map Branch.value))]

/-- The input that reads a branch of a router. -/
def branchOf (router branch : String) : String := s!"{router}.{branch}"

/-- A transform that lets records through by condition. -/
def filter (id : String) (inputs : List String) (condition : String) : Element :=
  .create .transform id inputs Templates.filter.name [("condition", .text condition)]

end LogForwarder.Vector
