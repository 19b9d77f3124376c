/-
Checks of generated ids: no name may turn into an id that every configuration may have, and no two
names into one id. A name that two inputs, two outputs or two pipelines have is reported elsewhere.
-/

import LogForwarder.Check.Problem
import LogForwarder.Dictionary
import LogForwarder.Fluentd.Label
import LogForwarder.Spec.Basic
import LogForwarder.Vector.Id

namespace LogForwarder

namespace Dialect

/-- The ids that every configuration in a dialect may have. -/
def reservedIds : Dialect → List String
  | .fluentd => Fluentd.Label.reserved
  | .vector => Vector.Id.reserved

/-- The id that a name turns into in a dialect. -/
def idOf : Dialect → String → String
  | .fluentd => Name.label
  | .vector => Name.componentId

end Dialect

namespace Spec

/-- Whether an input has a component of its own in the vector dialect. -/
def hasOwnComponent (input : Input) : Bool :=
  (input.kind? = some .infrastructure || input.kind? = some .audit) && input.wholeKind?.isNone

/-- What has a generated id in a dialect, in the order in which ids are given away. -/
def idOwners (spec : Spec) (dialect : Dialect) : List Subject :=
  let inputs : List Subject :=
    match dialect with
    | .vector => (spec.inputs.filter hasOwnComponent).map (.input ·.name)
    | .fluentd => []
  let owners : List Subject :=
    inputs ++ spec.pipelines.map (.pipeline ·.name) ++ spec.outputs.map (.output ·.name)
  owners.filter (!·.name.isEmpty)

/--
What is found out about an owner of an id, and the ids given away after it, each to its first owner.
-/
def judgeId (dialect : Dialect) (given : Dictionary Subject) (owner : Subject) :
    Option Problem × Dictionary Subject :=
  let id := dialect.idOf owner.name
  if id ∈ dialect.reservedIds then (some ⟨some owner, .reservedId dialect id⟩, given)
  else
    match given.get? id with
    | none => (none, given.insert id owner)
    | some first =>
      if first = owner then (none, given)
      else (some ⟨some owner, .sharedId dialect id first.name⟩, given)

/-- The problems of owners of ids that come after those to whom ids are given already. -/
def idProblemsFrom (dialect : Dialect) (given : Dictionary Subject) : List Subject → List Problem
  | [] => []
  | owner :: rest =>
    let (problem?, givenAfter) := judgeId dialect given owner
    problem?.toList ++ idProblemsFrom dialect givenAfter rest

/-- The problems of the generated ids of a spec. -/
def idProblems (spec : Spec) (dialect : Dialect) : List Problem :=
  idProblemsFrom dialect ∅ (spec.idOwners dialect)

end Spec

end LogForwarder
