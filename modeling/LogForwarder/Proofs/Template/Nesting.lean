/-
This file proves which rows of segments make up a template. The grammar of nested blocks is stated
on its own: a block is closed by an end, after at most one alternative, and only a chain of
conditions goes on with further ones. Whatever follows it is put together to nodes, and a row that
is put together can be split at the open blocks into parts that close them, by induction on it.
-/

import LogForwarder.Proofs.Outcome
import LogForwarder.Proofs.Template.Written

namespace LogForwarder.Template

/-! ### The grammar of blocks -/

/-- What may come before the end of a block. -/
inductive Part
  /-- A condition, which others or an alternative may follow. -/
  | condition
  /-- Another body, which an alternative may follow. -/
  | body
  /-- An alternative, which nothing may follow. -/
  | alternative

/-- The part that a segment opens a block with, if it opens one. -/
def Segment.opens? : Segment → Option Part
  | .tag (.ifTag _) => some .condition
  | .tag (.rangeTag _) | .tag (.withTag _) => some .body
  | _ => none

/-- Whether a segment is a node of its own. -/
def Segment.isLeaf : Segment → Bool
  | .text _ | .tag (.expression _) => true
  | _ => false

mutual

/-- Whether all blocks of a row of segments are nested as they should be. -/
inductive IsNested : List Segment → Prop
  | nil : IsNested []
  | leaf {segment : Segment} {rest : List Segment} : segment.isLeaf → IsNested rest →
      IsNested (segment :: rest)
  | block {opening : Segment} {part : Part} {inside rest : List Segment} :
      opening.opens? = some part → Closes part inside → IsNested rest →
        IsNested (opening :: (inside ++ rest))

/-- Whether a row of segments is what remains of a block in some part of it. -/
inductive Closes : Part → List Segment → Prop
  | ended {part : Part} {body : List Segment} : IsNested body →
      Closes part (body ++ [.tag .endTag])
  | divided {part : Part} {body rest : List Segment} : part ≠ .alternative → IsNested body →
      Closes .alternative rest → Closes part (body ++ .tag .elseTag :: rest)
  | continued {condition : Expression} {body rest : List Segment} : IsNested body →
      Closes .condition rest → Closes .condition (body ++ .tag (.elseIfTag condition) :: rest)

end

/-- Whether a row of segments closes blocks in some parts of them, and is nested behind them. -/
def Completes : List Part → List Segment → Prop
  | [], segments => IsNested segments
  | part :: parts, segments =>
    ∃ inside rest, segments = inside ++ rest ∧ Closes part inside ∧ Completes parts rest

theorem IsNested.append {before after : List Segment} :
    IsNested before → IsNested after → IsNested (before ++ after)
  | .nil, behind => behind
  | .leaf isLeaf nested, behind => .leaf isLeaf (nested.append behind)
  | .block opens closes nested, behind => by
    rw [List.cons_append, List.append_assoc]
    exact .block opens closes (nested.append behind)

theorem Closes.prepend {before inside : List Segment} {part : Part} (nested : IsNested before)
    (closes : Closes part inside) : Closes part (before ++ inside) := by
  cases closes with
  | ended body =>
    rw [← List.append_assoc]
    exact .ended (nested.append body)
  | divided notAlternative body rest =>
    rw [← List.append_assoc]
    exact .divided notAlternative (nested.append body) rest
  | continued body rest =>
    rw [← List.append_assoc]
    exact .continued (nested.append body) rest

theorem Completes.prepend {before segments : List Segment} {parts : List Part}
    (nested : IsNested before) (completes : Completes parts segments) :
    Completes parts (before ++ segments) := by
  cases parts with
  | nil => exact nested.append completes
  | cons part parts =>
    obtain ⟨inside, rest, rfl, closes, restCompletes⟩ := completes
    exact ⟨before ++ inside, rest, (List.append_assoc ..).symm, closes.prepend nested,
      restCompletes⟩

/-! ### Accepted segments -/

/-- The part that a block is in. -/
def Block.part (block : Block) : Part :=
  match block.body?, block.kind with
  | some _, _ => .alternative
  | none, .branch _ _ => .condition
  | none, _ => .body

section Steps

variable {building next : Building} {segment : Segment} {before : List Segment}

theorem foldlM_cons_of_eq_ok (advanced : building.advance segment = .ok next)
    (rest : List Segment) :
    (segment :: rest).foldlM Building.advance building = rest.foldlM Building.advance next := by
  rw [List.foldlM_cons, advanced]
  rfl

theorem foldlM_append_of_eq_ok (built : before.foldlM Building.advance building = .ok next)
    (rest : List Segment) :
    (before ++ rest).foldlM Building.advance building = rest.foldlM Building.advance next := by
  rw [List.foldlM_append, built]
  rfl

end Steps

theorem exists_advance_leaf {segment : Segment} (isLeaf : segment.isLeaf) (building : Building) :
    ∃ nodes, building.advance segment = .ok ⟨nodes, building.blocks⟩ := by
  cases segment with
  | text value => exact ⟨_, rfl⟩
  | tag action =>
    cases action with
    | expression value => exact ⟨_, rfl⟩
    | ifTag | elseIfTag | elseTag | endTag | rangeTag | withTag => cases isLeaf

/-- A segment that opens a block opens one in the part that it says. -/
theorem exists_advance_opening {opening : Segment} {part : Part}
    (opens : opening.opens? = some part) (building : Building) :
    ∃ block, block.part = part ∧
      building.advance opening = .ok ⟨[], block :: building.blocks⟩ := by
  cases opening with
  | text value => cases opens
  | tag action =>
    cases action with
    | ifTag condition =>
      cases opens
      exact ⟨⟨.branch [] condition, none, building.nodes⟩, rfl, rfl⟩
    | rangeTag collection =>
      cases opens
      exact ⟨⟨.each collection, none, building.nodes⟩, rfl, rfl⟩
    | withTag value =>
      cases opens
      exact ⟨⟨.within value, none, building.nodes⟩, rfl, rfl⟩
    | expression | elseIfTag | elseTag | endTag => cases opens

theorem exists_advance_elseTag {block : Block} (notAlternative : block.part ≠ .alternative)
    (nodes : List Node) (blocks : List Block) :
    ∃ next, next.part = .alternative ∧
      Building.advance ⟨nodes, block :: blocks⟩ (.tag .elseTag) = .ok ⟨[], next :: blocks⟩ := by
  obtain ⟨kind, body?, before⟩ := block
  cases body? with
  | some body => exact absurd rfl notAlternative
  | none => exact ⟨⟨kind, some nodes.reverse, before⟩, rfl, rfl⟩

theorem exists_advance_elseIfTag {block : Block} (isCondition : block.part = .condition)
    (condition : Expression) (nodes : List Node) (blocks : List Block) :
    ∃ next, next.part = .condition ∧
      Building.advance ⟨nodes, block :: blocks⟩ (.tag (.elseIfTag condition)) =
        .ok ⟨[], next :: blocks⟩ := by
  obtain ⟨kind, body?, before⟩ := block
  cases body? with
  | some body => cases isCondition
  | none =>
    cases kind with
    | branch earlier present =>
      exact ⟨⟨.branch ((present, nodes.reverse) :: earlier) condition, none, before⟩, rfl, rfl⟩
    | each | within => cases isCondition

mutual

/-- Segments that are nested are put together and leave the open blocks alone. -/
theorem IsNested.exists_foldlM {segments : List Segment} : IsNested segments →
    ∀ building : Building, ∃ nodes,
      segments.foldlM Building.advance building = .ok ⟨nodes, building.blocks⟩
  | .nil, building => ⟨building.nodes, rfl⟩
  | .leaf isLeaf nested, building => by
    obtain ⟨nodes, advanced⟩ := exists_advance_leaf isLeaf building
    rw [foldlM_cons_of_eq_ok advanced]
    exact nested.exists_foldlM ⟨nodes, building.blocks⟩
  | .block opens closes nested, building => by
    obtain ⟨block, isPart, opened⟩ := exists_advance_opening opens building
    obtain ⟨nodes, closed⟩ := closes.exists_foldlM isPart [] building.blocks
    rw [foldlM_cons_of_eq_ok opened, foldlM_append_of_eq_ok closed]
    exact nested.exists_foldlM ⟨nodes, building.blocks⟩

/-- What closes a block is put together and leaves the blocks around it. -/
theorem Closes.exists_foldlM {part : Part} {inside : List Segment} : Closes part inside →
    ∀ {block : Block}, block.part = part → ∀ (nodes : List Node) (blocks : List Block),
      ∃ others, inside.foldlM Building.advance ⟨nodes, block :: blocks⟩ = .ok ⟨others, blocks⟩
  | .ended nested, block, isPart, nodes, blocks => by
    obtain ⟨body, built⟩ := nested.exists_foldlM ⟨nodes, block :: blocks⟩
    rw [foldlM_append_of_eq_ok built]
    exact ⟨_, rfl⟩
  | .divided notAlternative nested closes, block, isPart, nodes, blocks => by
    obtain ⟨body, built⟩ := nested.exists_foldlM ⟨nodes, block :: blocks⟩
    obtain ⟨next, isAlternative, begun⟩ :=
      exists_advance_elseTag (isPart ▸ notAlternative) body blocks
    obtain ⟨others, closed⟩ := closes.exists_foldlM isAlternative [] blocks
    rw [foldlM_append_of_eq_ok built, foldlM_cons_of_eq_ok begun]
    exact ⟨others, closed⟩
  | .continued nested closes, block, isPart, nodes, blocks => by
    obtain ⟨body, built⟩ := nested.exists_foldlM ⟨nodes, block :: blocks⟩
    obtain ⟨next, isCondition, begun⟩ := exists_advance_elseIfTag isPart _ body blocks
    obtain ⟨others, closed⟩ := closes.exists_foldlM isCondition [] blocks
    rw [foldlM_append_of_eq_ok built, foldlM_cons_of_eq_ok begun]
    exact ⟨others, closed⟩

end

section Stops

variable {building next : Building}

/-- Only an open block is closed. -/
theorem exists_of_endTag (advanced : building.advance (.tag .endTag) = .ok next) :
    ∃ block, building.blocks = block :: next.blocks := by
  obtain ⟨nodes, blocks⟩ := building
  cases blocks with
  | nil => cases advanced
  | cons block blocks =>
    cases advanced
    exact ⟨block, rfl⟩

/-- Only an open block without an alternative goes on with one. -/
theorem exists_of_elseTag (advanced : building.advance (.tag .elseTag) = .ok next) :
    ∃ block following blocks, building.blocks = block :: blocks ∧ block.part ≠ .alternative ∧
      next.blocks = following :: blocks ∧ following.part = .alternative := by
  obtain ⟨nodes, blocks⟩ := building
  cases blocks with
  | nil => cases advanced
  | cons block blocks =>
    obtain ⟨kind, body?, before⟩ := block
    cases body? with
    | some body => cases advanced
    | none =>
      cases advanced
      refine ⟨_, _, blocks, rfl, ?_, rfl, rfl⟩
      cases kind <;> exact fun absurdity => nomatch absurdity

/-- Only a chain of conditions goes on with a further one. -/
theorem exists_of_elseIfTag {condition : Expression}
    (advanced : building.advance (.tag (.elseIfTag condition)) = .ok next) :
    ∃ block following blocks, building.blocks = block :: blocks ∧ block.part = .condition ∧
      next.blocks = following :: blocks ∧ following.part = .condition := by
  obtain ⟨nodes, blocks⟩ := building
  cases blocks with
  | nil => cases advanced
  | cons block blocks =>
    obtain ⟨kind, body?, before⟩ := block
    cases body? with
    | some body => cases advanced
    | none =>
      cases kind with
      | branch earlier present =>
        cases advanced
        exact ⟨_, _, blocks, rfl, rfl, rfl, rfl⟩
      | each | within => cases advanced

end Stops

/-- What is accepted completes the open blocks: by induction, one case for each kind of segment. -/
theorem completes_of_foldlM {segments : List Segment} {building done : Building}
    (built : segments.foldlM Building.advance building = .ok done) (closed : done.blocks = []) :
    Completes (building.blocks.map Block.part) segments := by
  induction segments generalizing building with
  | nil =>
    cases built
    rw [closed]
    exact .nil
  | cons segment rest inductionHypothesis =>
    rw [List.foldlM_cons] at built
    obtain ⟨next, advanced, restBuilt⟩ := exists_of_bind_eq_ok built
    have completes := inductionHypothesis restBuilt
    have leaf (isLeaf : segment.isLeaf) :
        Completes (building.blocks.map Block.part) (segment :: rest) := by
      obtain ⟨nodes, isNext⟩ := exists_advance_leaf isLeaf building
      cases advanced.symm.trans isNext
      exact completes.prepend (.leaf isLeaf .nil)
    have opening : ∀ part, segment.opens? = some part →
        Completes (building.blocks.map Block.part) (segment :: rest) := by
      intro part opens
      obtain ⟨block, isPart, isNext⟩ := exists_advance_opening opens building
      cases advanced.symm.trans isNext
      rw [List.map_cons, isPart] at completes
      obtain ⟨inside, others, rfl, closes, othersComplete⟩ := completes
      have nested := IsNested.block opens closes .nil
      rw [List.append_nil] at nested
      exact othersComplete.prepend nested
    match segment, leaf, opening, advanced with
    | .text _, leaf, _, _ | .tag (.expression _), leaf, _, _ => exact leaf rfl
    | .tag (.ifTag _), _, opening, _ | .tag (.rangeTag _), _, opening, _
    | .tag (.withTag _), _, opening, _ => exact opening _ rfl
    | .tag .endTag, _, _, advanced =>
      obtain ⟨block, split⟩ := exists_of_endTag advanced
      rw [split]
      exact ⟨[_], rest, rfl, .ended .nil, completes⟩
    | .tag .elseTag, _, _, advanced =>
      obtain ⟨block, following, blocks, split, notAlternative, nextSplit, isAlternative⟩ :=
        exists_of_elseTag advanced
      rw [nextSplit, List.map_cons, isAlternative] at completes
      obtain ⟨inside, others, rfl, closes, othersComplete⟩ := completes
      rw [split]
      exact ⟨_ :: inside, others, rfl, .divided notAlternative .nil closes, othersComplete⟩
    | .tag (.elseIfTag _), _, _, advanced =>
      obtain ⟨block, following, blocks, split, isCondition, nextSplit, stillCondition⟩ :=
        exists_of_elseIfTag advanced
      rw [nextSplit, List.map_cons, stillCondition] at completes
      obtain ⟨inside, others, rfl, closes, othersComplete⟩ := completes
      rw [split, List.map_cons, isCondition]
      exact ⟨_ :: inside, others, rfl, .continued .nil closes, othersComplete⟩

/-- Segments make up a template just if their blocks are nested. -/
theorem exists_nodesOf_iff (segments : List Segment) :
    (∃ nodes, nodesOf segments = .ok nodes) ↔ IsNested segments := by
  unfold nodesOf
  refine ⟨?_, fun nested => ?_⟩
  · rintro ⟨nodes, built⟩
    obtain ⟨done, folded, finished⟩ := exists_of_bind_eq_ok built
    refine completes_of_foldlM folded ?_
    unfold Building.finish at finished
    split at finished
    · next closed => exact closed
    · cases finished
  · obtain ⟨nodes, folded⟩ := nested.exists_foldlM ⟨[], []⟩
    rw [folded]
    exact ⟨nodes.reverse, rfl⟩

/-! ### Segments of nodes -/

/-- Whether a row of segments is put together to some nodes, wherever it stands. -/
def Builds (segments : List Segment) (nodes : List Node) : Prop :=
  ∀ building : Building, segments.foldlM Building.advance building =
    .ok ⟨nodes.reverse ++ building.nodes, building.blocks⟩

theorem Builds.append {before after : List Segment} {first second : List Node}
    (builds : Builds before first) (others : Builds after second) :
    Builds (before ++ after) (first ++ second) := by
  intro building
  rw [foldlM_append_of_eq_ok (builds building), others, List.reverse_append, List.append_assoc]

/-- A block is put together by what opens it, from its two bodies. -/
theorem builds_blockSegments {opening : Tag} {kind : BlockKind}
    (opens : ∀ building : Building, building.advance (.tag opening) = .ok (building.openBlock kind))
    {body otherwise : List Segment} {bodyNodes otherNodes : List Node}
    (bodyBuilds : Builds body bodyNodes) (otherBuilds : Builds otherwise otherNodes) :
    Builds (blockSegments opening body otherwise) [kind.node bodyNodes otherNodes] := by
  intro building
  have bodyBuilt : body.foldlM Building.advance (building.openBlock kind) =
      .ok ⟨bodyNodes.reverse, ⟨kind, none, building.nodes⟩ :: building.blocks⟩ := by
    rw [bodyBuilds]
    show Except.ok (⟨bodyNodes.reverse ++ [], _⟩ : Building) = _
    rw [List.append_nil]
    rfl
  unfold blockSegments
  rw [foldlM_cons_of_eq_ok (opens building), foldlM_append_of_eq_ok bodyBuilt]
  split
  · next isEmpty =>
    have noNodes : otherNodes = [] := by
      have built := otherBuilds ⟨[], []⟩
      rw [List.isEmpty_iff.mp isEmpty, List.append_nil] at built
      exact List.reverse_eq_nil_iff.mp (congrArg Building.nodes (Except.ok.inj built)).symm
    show Except.ok (⟨kind.node bodyNodes.reverse.reverse [] :: building.nodes, _⟩ : Building) = _
    rw [List.reverse_reverse, noNodes]
    rfl
  · have begun : Building.advance ⟨bodyNodes.reverse, ⟨kind, none, building.nodes⟩ ::
        building.blocks⟩ (.tag .elseTag) =
          .ok ⟨[], ⟨kind, some bodyNodes, building.nodes⟩ :: building.blocks⟩ := by
      show Except.ok (⟨[], ⟨kind, some bodyNodes.reverse.reverse, _⟩ :: _⟩ : Building) = _
      rw [List.reverse_reverse]
    rw [List.cons_append, foldlM_cons_of_eq_ok begun, foldlM_append_of_eq_ok (otherBuilds _),
      List.append_nil]
    show Except.ok (⟨kind.node bodyNodes otherNodes.reverse.reverse :: _, _⟩ : Building) = _
    rw [List.reverse_reverse]
    rfl

mutual

/-- The segments of a node are put together to it. -/
theorem Node.builds : ∀ node : Node, Builds node.segments [node]
  | .text value => by
    rw [Node.segments]
    exact fun _ => rfl
  | .action expression => by
    rw [Node.segments]
    exact fun _ => rfl
  | .branch condition body otherwise => by
    rw [Node.segments]
    have opens : ∀ building : Building, building.advance (.tag (.ifTag condition)) =
        .ok (building.openBlock (.branch [] condition)) := fun _ => rfl
    exact builds_blockSegments opens (builds_segmentsOf body) (builds_segmentsOf otherwise)
  | .each collection body otherwise => by
    rw [Node.segments]
    have opens : ∀ building : Building, building.advance (.tag (.rangeTag collection)) =
        .ok (building.openBlock (.each collection)) := fun _ => rfl
    exact builds_blockSegments opens (builds_segmentsOf body) (builds_segmentsOf otherwise)
  | .within value body otherwise => by
    rw [Node.segments]
    have opens : ∀ building : Building, building.advance (.tag (.withTag value)) =
        .ok (building.openBlock (.within value)) := fun _ => rfl
    exact builds_blockSegments opens (builds_segmentsOf body) (builds_segmentsOf otherwise)

theorem builds_segmentsOf : ∀ nodes : List Node, Builds (segmentsOf nodes) nodes
  | [] => by
    rw [segmentsOf]
    exact fun _ => rfl
  | node :: rest => by
    rw [segmentsOf]
    exact node.builds.append (builds_segmentsOf rest)

end

theorem nodesOf_segmentsOf (nodes : List Node) : nodesOf (segmentsOf nodes) = .ok nodes := by
  unfold nodesOf
  rw [builds_segmentsOf nodes]
  show Except.ok (nodes.reverse ++ []).reverse = _
  rw [List.append_nil, List.reverse_reverse]

end LogForwarder.Template
