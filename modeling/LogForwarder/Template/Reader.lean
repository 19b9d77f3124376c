/-
Reading of templates. Segments are put together by a stack of open blocks, so that every block is
closed by an end of its own and has at most one alternative.
-/

import LogForwarder.Template.Segment

namespace LogForwarder.Template

/-- What a block is rendered by. -/
inductive BlockKind
  /--
  A chain of conditions: the earlier ones with their bodies, the last one first, and the present
  one.
  -/
  | branch (earlier : List (Expression × List Node)) (condition : Expression)
  | each (collection : Expression)
  | within (value : Expression)

/-- The keyword that opens a block. -/
def BlockKind.keyword : BlockKind → String
  | .branch _ _ => "if"
  | .each _ => "range"
  | .within _ => "with"

/-- A block that has been opened. -/
structure Block where
  kind : BlockKind
  /-- The body, once the alternative has begun. -/
  body? : Option (List Node)
  /-- The nodes before the block, the last one first. -/
  before : List Node

/--
A template that has been begun: the nodes of the innermost block, the last one first, and the open
blocks.
-/
structure Building where
  nodes : List Node
  blocks : List Block

/-- The node of a block with a body and an alternative. -/
def BlockKind.node (kind : BlockKind) (body otherwise : List Node) : Node :=
  match kind with
  | .branch earlier condition =>
    earlier.foldl (fun inner (condition, body) => .branch condition body [inner])
      (.branch condition body otherwise)
  | .each collection => .each collection body otherwise
  | .within value => .within value body otherwise

namespace Building

/-- One more node. -/
def add (building : Building) (node : Node) : Building :=
  { building with nodes := node :: building.nodes }

/-- A block opened. -/
def openBlock (building : Building) (kind : BlockKind) : Building :=
  ⟨[], ⟨kind, none, building.nodes⟩ :: building.blocks⟩

/-- The innermost block closed. -/
def closeBlock (building : Building) : Except ReadError Building :=
  match building.blocks with
  | [] => .error .unexpectedEnd
  | block :: blocks =>
    let nodes := building.nodes.reverse
    let node :=
      match block.body? with
      | none => block.kind.node nodes []
      | some body => block.kind.node body nodes
    .ok ⟨node :: block.before, blocks⟩

/-- The alternative of the innermost block begun. -/
def beginElse (building : Building) : Except ReadError Building :=
  match building.blocks with
  | [] => .error .unexpectedElse
  | block :: blocks =>
    match block.body? with
    | some _ => .error (.duplicateElse block.kind.keyword)
    | none => .ok ⟨[], { block with body? := some building.nodes.reverse } :: blocks⟩

/-- A further condition of the innermost block begun. -/
def beginElseIf (building : Building) (condition : Expression) : Except ReadError Building :=
  match building.blocks with
  | [] => .error .unexpectedElse
  | block :: blocks =>
    match block.body?, block.kind with
    | some _, kind => .error (.duplicateElse kind.keyword)
    | none, .branch earlier present =>
      let kind := BlockKind.branch ((present, building.nodes.reverse) :: earlier) condition
      .ok ⟨[], { block with kind := kind } :: blocks⟩
    | none, _ => .error .elseIfOutsideIf

/-- The state after one more segment. -/
def advance (building : Building) : Segment → Except ReadError Building
  | .text value => .ok (building.add (.text value))
  | .tag (.expression value) => .ok (building.add (.action value))
  | .tag (.ifTag condition) => .ok (building.openBlock (.branch [] condition))
  | .tag (.rangeTag collection) => .ok (building.openBlock (.each collection))
  | .tag (.withTag value) => .ok (building.openBlock (.within value))
  | .tag (.elseIfTag condition) => building.beginElseIf condition
  | .tag .elseTag => building.beginElse
  | .tag .endTag => building.closeBlock

/-- The finished template. -/
def finish (building : Building) : Except ReadError (List Node) :=
  match building.blocks with
  | [] => .ok building.nodes.reverse
  | block :: _ => .error (.unclosedBlock block.kind.keyword)

end Building

/-- The nodes of some segments. -/
def nodesOf (segments : List Segment) : Except ReadError (List Node) := do
  (← segments.foldlM Building.advance ⟨[], []⟩).finish

/-- The template of a text. -/
def read (text : String) : Except ReadError (List Node) := do nodesOf (← segments text)

end LogForwarder.Template
