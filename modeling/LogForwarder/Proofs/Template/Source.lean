/-
This file proves that an engine renders the templates it was made of. What the text of a source is
read as can be found out by computation, and these are the nodes that the engine renders under the
name of the source, whatever other templates there are. A template whose nodes are known is rendered
by putting together what these are rendered as, one lemma for each node: fields of the value at
hand, texts, lists, and what stands inside of a value if it is present.
-/
import LogForwarder.Proofs.Lookup
import LogForwarder.Proofs.Outcome
import LogForwarder.Proofs.Template.Inclusion
import LogForwarder.Proofs.Template.Reading
import LogForwarder.Template.Render

namespace LogForwarder.Template

/-! ### Nodes of a text -/

/-- Segments that can be read back are the same if they are written alike. -/
theorem segments_inj {first second : List Segment} (firstWritable : areWritableSegments first)
    (secondWritable : areWritableSegments second)
    (alike : first.flatMap Segment.written = second.flatMap Segment.written) : first = second := by
  have back := segments_written firstWritable
  unfold writtenSegments at back
  rw [alike] at back
  exact Except.ok.inj (back.symm.trans (segments_written secondWritable))

/-- Whether a text in which brackets stand for braces has the segments of some nodes. -/
def isTextOf (nodes : List Node) (chars : List Char) : Bool :=
  match segmentsFrom 0 false (bracedChars chars) with
  | .error _ => false
  | .ok found => areWritable nodes && areWritableSegments found &&
      found.flatMap Segment.written = (segmentsOf nodes).flatMap Segment.written

theorem read_braced {name : String} {chars : List Char} {nodes : List Node}
    (isText : isTextOf nodes chars) :
    read (Source.braced name (String.ofList chars)).text = .ok nodes := by
  unfold isTextOf at isText
  split at isText
  · cases isText
  · next found isFound =>
    simp only [Bool.and_eq_true, decide_eq_true_eq] at isText
    obtain ⟨⟨writable, foundWritable⟩, alike⟩ := isText
    have same := segments_inj foundWritable (areWritableSegments_segmentsOf nodes writable) alike
    rw [read_braced_ofList, isFound, same]
    exact nodesOf_segmentsOf nodes

/-! ### Characters of texts -/

/-- A part of a template's text, with the characters of what stands outside of actions. -/
inductive Piece
  | text (chars : List Char)
  | tag (value : Tag)

namespace Piece

/-- The segment of a piece. -/
def segment : Piece → Segment
  | .text chars => .text (String.ofList chars)
  | .tag value => .tag value

/-- The piece of some text, which is none if there is no text. -/
def ofChars (chars : List Char) : List Piece := if chars.isEmpty then [] else [.text chars]

/-- The pieces of an action's text, if it can be read. -/
def ofAction? (text : List Char) : Option (List Piece) :=
  if isComment text then some [] else (readTag? text).map fun tag => [.tag tag]

theorem map_segment_ofChars (chars : List Char) :
    (ofChars chars).map segment = textSegment chars := by
  unfold ofChars textSegment
  split <;> rfl

theorem actionSegment_of_ofAction? {text : List Char} {pieces : List Piece}
    (found : ofAction? text = some pieces) : actionSegment text = .ok (pieces.map segment) := by
  unfold ofAction? at found
  unfold actionSegment
  split at found
  · next comment =>
    cases found
    rw [if_pos comment]
    rfl
  · next action =>
    obtain ⟨tag, isTag, rfl⟩ := Option.map_eq_some_iff.mp found
    rw [if_neg action, isTag]
    rfl

end Piece

/--
A text cut at its first opening, after some characters before it, which are given last one first.
That is sooner found out by computation than where `splitOpening?` cuts it.
-/
def cutOpening? (before : List Char) : List Char → Option (List Char × List Char)
  | [] => none
  | '{' :: '{' :: rest => some (before.reverse, rest)
  | c :: rest => cutOpening? (c :: before) rest

theorem cutOpening?_eq (before chars : List Char) :
    cutOpening? before chars = (splitOpening? chars).map fun parts =>
      (before.reverse ++ parts.1, parts.2) := by
  fun_induction cutOpening? before chars with
  | case1 before => rfl
  | case2 before rest => simp [splitOpening?]
  | case3 before c rest notOpening inductionHypothesis =>
    rw [splitOpening?, inductionHypothesis, Option.map_map]
    · congr 1
      funext parts
      simp
    · exact notOpening

theorem cutOpening?_nil (chars : List Char) : cutOpening? [] chars = splitOpening? chars := by
  simp [cutOpening?_eq]

/-- The pieces of a template's text from some place on, if it can be read and has few actions. -/
def piecesWithin? : (count : Nat) → (trims : Bool) → (chars : List Char) → Option (List Piece)
  | 0, _, _ => none
  | count + 1, trims, chars =>
    match cutOpening? [] chars with
    | none => some (Piece.ofChars (trimStartIf trims chars))
    | some (before, after) =>
      match splitClosing? false (actionStart after) with
      | none => none
      | some (inner, rest) => do
        let found ← Piece.ofAction? (Text.trimChars ((beforeTrailingDash? inner).getD inner))
        let others ← piecesWithin? count (beforeTrailingDash? inner).isSome rest
        return Piece.ofChars (trimEndIf (afterLeadingDash? after).isSome
          (trimStartIf trims before)) ++ found ++ others

theorem segmentsFrom_of_piecesWithin? {count : Nat} {trims : Bool} {chars : List Char}
    {pieces : List Piece} (found : piecesWithin? count trims chars = some pieces) (offset : Nat) :
    segmentsFrom offset trims chars = .ok (pieces.map Piece.segment) := by
  induction count generalizing trims chars pieces offset with
  | zero => cases found
  | succ count inductionHypothesis =>
    rw [piecesWithin?, cutOpening?_nil] at found
    rw [segmentsFrom]
    split
    · next noOpening =>
      rw [noOpening] at found
      cases found
      rw [Piece.map_segment_ofChars]
    · next before after opening =>
      rw [opening] at found
      dsimp only at found
      split
      · next noClosing =>
        rw [noClosing] at found
        cases found
      · next inner rest closing =>
        rw [closing] at found
        obtain ⟨action, isAction, found⟩ := Option.bind_eq_some_iff.mp found
        obtain ⟨others, areOthers, found⟩ := Option.bind_eq_some_iff.mp found
        cases found
        show (actionSegment _ >>= fun found => segmentsFrom _ _ rest >>= fun others =>
          Except.ok (textSegment _ ++ found ++ others)) = _
        rw [Piece.actionSegment_of_ofAction? isAction, inductionHypothesis areOthers]
        show Except.ok _ = _
        rw [List.map_append, List.map_append, Piece.map_segment_ofChars]

/-- The number of characters of one byte, and of the actions that a text may have to be read here. -/
def keyCount : Nat := 128

/-- The pieces of a template's text that has brackets for braces. -/
def pieces? (chars : List Char) : Option (List Piece) :=
  piecesWithin? keyCount false (bracedChars chars)

theorem read_braced_of_pieces? {name : String} {chars : List Char} {pieces : List Piece}
    (found : pieces? chars = some pieces) :
    read (Source.braced name (String.ofList chars)).text = nodesOf (pieces.map Piece.segment) := by
  rw [read_braced_ofList, segmentsFrom_of_piecesWithin? found]
  rfl

/-! ### Typed texts -/

/-- Whether a template whose text has brackets for braces is typed, as can be computed. -/
def isTypedText (signature : Signature) (name : String) (chars : List Char) : Bool :=
  match pieces? chars with
  | none => false
  | some pieces =>
    match nodesOf (pieces.map Piece.segment) with
    | .error _ => false
    | .ok nodes =>
      match define name nodes with
      | .error _ => false
      | .ok definition => definition.isTyped signature

theorem isTyped_braced {signature : Signature} {name : String} {chars : List Char}
    (typed : isTypedText signature name chars) :
    (Source.braced name (String.ofList chars)).IsTyped signature := by
  unfold isTypedText at typed
  split at typed
  · cases typed
  rename_i pieces found
  split at typed
  · cases typed
  rename_i nodes isNodes
  split at typed
  · cases typed
  rename_i definition defined
  refine ⟨definition, ?_, typed⟩
  unfold Source.definition
  rw [read_braced_of_pieces? found, isNodes]
  exact defined

/-! ### Other texts -/

section Texts

-- What stands in the place of a text.
variable (change : String → String)

mutual

/-- A node with other texts. -/
def Node.mapTexts : Node → Node
  | .text value => .text (change value)
  | .action expression => .action expression
  | .branch condition body otherwise =>
    .branch condition (mapTextsOf body) (mapTextsOf otherwise)
  | .each collection body otherwise =>
    .each collection (mapTextsOf body) (mapTextsOf otherwise)
  | .within value body otherwise => .within value (mapTextsOf body) (mapTextsOf otherwise)

/-- Nodes with other texts. -/
def mapTextsOf : List Node → List Node
  | [] => []
  | node :: rest => node.mapTexts :: mapTextsOf rest

end

/-- A segment with another text. -/
def Segment.mapTexts : Segment → Segment
  | .text value => .text (change value)
  | .tag value => .tag value

/-- What a block is rendered by, with other texts. -/
def BlockKind.mapTexts : BlockKind → BlockKind
  | .branch earlier condition =>
    .branch (earlier.map fun entry => (entry.1, mapTextsOf change entry.2)) condition
  | .each collection => .each collection
  | .within value => .within value

/-- A block with other texts. -/
def Block.mapTexts (block : Block) : Block where
  kind := block.kind.mapTexts change
  body? := block.body?.map (mapTextsOf change)
  before := mapTextsOf change block.before

/-- A template that has been begun, with other texts. -/
def Building.mapTexts (building : Building) : Building where
  nodes := mapTextsOf change building.nodes
  blocks := building.blocks.map (Block.mapTexts change)

theorem mapTextsOf_eq_map (nodes : List Node) :
    mapTextsOf change nodes = nodes.map (Node.mapTexts change) := by
  induction nodes with
  | nil => rfl
  | cons node rest inductionHypothesis => rw [mapTextsOf, inductionHypothesis, List.map_cons]

theorem mapTextsOf_reverse (nodes : List Node) :
    mapTextsOf change nodes.reverse = (mapTextsOf change nodes).reverse := by
  rw [mapTextsOf_eq_map, mapTextsOf_eq_map, List.map_reverse]

theorem BlockKind.node_mapTexts (kind : BlockKind) (body otherwise : List Node) :
    (kind.mapTexts change).node (mapTextsOf change body) (mapTextsOf change otherwise) =
      (kind.node body otherwise).mapTexts change := by
  cases kind with
  | each collection | within value => rw [mapTexts, node, node, Node.mapTexts]
  | branch earlier condition =>
    rw [mapTexts, node, node, List.foldl_map]
    have innermost : Node.branch condition (mapTextsOf change body) (mapTextsOf change otherwise) =
        (Node.branch condition body otherwise).mapTexts change := by rw [Node.mapTexts]
    rw [innermost]
    generalize Node.branch condition body otherwise = inner
    clear innermost
    induction earlier generalizing inner with
    | nil => rfl
    | cons entry rest inductionHypothesis =>
      rw [List.foldl_cons, List.foldl_cons, ← inductionHypothesis, Node.mapTexts, mapTextsOf,
        mapTextsOf]

/-- A block is closed alike with other texts. -/
theorem Building.closeBlock_mapTexts {building next : Building}
    (closed : building.closeBlock = .ok next) :
    (building.mapTexts change).closeBlock = .ok (next.mapTexts change) := by
  obtain ⟨nodes, blocks⟩ := building
  cases blocks with
  | nil => cases closed
  | cons block blocks =>
    obtain ⟨kind, body?, before⟩ := block
    have isNode (body otherwise : List Node) :
        Except.ok (Building.mk ((kind.mapTexts change).node (mapTextsOf change body)
          (mapTextsOf change otherwise) :: mapTextsOf change before)
            (blocks.map (Block.mapTexts change))) =
          (.ok ((Building.mk (kind.node body otherwise :: before) blocks).mapTexts change) :
            Except ReadError Building) := by
      rw [kind.node_mapTexts]
      rfl
    cases body? with
    | none =>
      cases closed
      rw [← isNode, mapTextsOf_reverse]
      rfl
    | some body =>
      cases closed
      rw [← isNode, mapTextsOf_reverse]
      rfl

/-- A segment is added alike with other texts. -/
theorem Building.advance_mapTexts {building next : Building} {segment : Segment}
    (advanced : building.advance segment = .ok next) :
    (building.mapTexts change).advance (segment.mapTexts change) = .ok (next.mapTexts change) := by
  obtain ⟨nodes, blocks⟩ := building
  cases segment with
  | text value =>
    cases advanced
    rfl
  | tag tag =>
    cases tag with
    | expression | ifTag | rangeTag | withTag =>
      cases advanced
      rfl
    | endTag => exact Building.closeBlock_mapTexts change advanced
    | elseTag =>
      cases blocks with
      | nil => cases advanced
      | cons block blocks =>
        obtain ⟨kind, body?, before⟩ := block
        cases body? with
        | some body => cases advanced
        | none =>
          cases advanced
          show Except.ok (Building.mk [] (⟨_, some (mapTextsOf change nodes).reverse, _⟩ :: _)) = _
          rw [← mapTextsOf_reverse]
          rfl
    | elseIfTag condition =>
      cases blocks with
      | nil => cases advanced
      | cons block blocks =>
        obtain ⟨kind, body?, before⟩ := block
        cases body? with
        | some body => cases advanced
        | none =>
          cases kind with
          | each | within => cases advanced
          | branch earlier present =>
            cases advanced
            show Except.ok (Building.mk [] (⟨.branch ((present,
              (mapTextsOf change nodes).reverse) :: _) condition, none, _⟩ :: _)) = _
            rw [← mapTextsOf_reverse]
            rfl

/-- Segments are put together alike with other texts. -/
theorem nodesOf_mapTexts {segments : List Segment} {nodes : List Node}
    (built : nodesOf segments = .ok nodes) :
    nodesOf (segments.map (Segment.mapTexts change)) = .ok (mapTextsOf change nodes) := by
  have foldlM {building done : Building}
      (advanced : segments.foldlM Building.advance building = .ok done) :
      (segments.map (Segment.mapTexts change)).foldlM Building.advance (building.mapTexts change) =
        .ok (done.mapTexts change) := by
    clear built
    induction segments generalizing building with
    | nil =>
      cases advanced
      rfl
    | cons segment rest inductionHypothesis =>
      rw [List.foldlM_cons] at advanced
      obtain ⟨next, isNext, advanced⟩ := exists_of_bind_eq_ok advanced
      rw [List.map_cons, List.foldlM_cons, Building.advance_mapTexts change isNext]
      exact inductionHypothesis advanced
  unfold nodesOf at built ⊢
  obtain ⟨⟨done, blocks⟩, isDone, finished⟩ := exists_of_bind_eq_ok built
  have start : (Building.mk [] []).mapTexts change = ⟨[], []⟩ := rfl
  rw [← start, foldlM isDone]
  cases blocks with
  | cons block others => cases finished
  | nil =>
    cases finished
    rw [mapTextsOf_reverse]
    rfl

end Texts

/-! ### Texts under keys -/

/-- The key of the piece at a position, which is a single byte. -/
def pieceKey (position : Nat) : String := String.singleton (Char.ofNat position)

/-- The segment of a piece at a position, with the key of the piece for its text. -/
def Piece.keyed (position : Nat) : Piece → Segment
  | .text _ => .text (pieceKey position)
  | .tag value => .tag value

/-- The characters of the piece of a key. -/
def charsAt (pieces : List Piece) (key : String) : List Char :=
  match pieces[(key.toByteArray.data.toList.headD 0).toNat]? with
  | some (.text chars) => chars
  | _ => []

/-- The text of the piece of a key. -/
def textAt (pieces : List Piece) (key : String) : String := String.ofList (charsAt pieces key)

theorem bytes_pieceKey {position : Nat} (isByte : position < keyCount) :
    (pieceKey position).toByteArray.data.toList = [UInt8.ofNat position] := by
  have isCode : (Char.ofNat position).toNat = position := by
    unfold Char.ofNat
    rw [dif_pos (.inl (isByte.trans (by decide)))]
    rfl
  have encoded : String.utf8EncodeChar (Char.ofNat position) = [UInt8.ofNat position] := by
    have oneByte : (Char.ofNat position).val.toNat ≤ 127 :=
      isCode.trans_le (Nat.le_of_lt_succ isByte)
    unfold String.utf8EncodeChar
    rw [if_pos oneByte]
    exact congrArg (fun code => [UInt8.ofNat code]) isCode
  unfold pieceKey
  rw [← String.utf8Encode_toList, String.toList_singleton]
  unfold List.utf8Encode
  rw [List.data_toByteArray, List.flatMap_singleton]
  exact encoded

/-- A text is found under its key. -/
theorem map_keyed {pieces : List Piece} (few : pieces.length ≤ keyCount) :
    (pieces.mapIdx Piece.keyed).map (Segment.mapTexts (textAt pieces)) =
      pieces.map Piece.segment := by
  refine List.ext_getElem (by simp) fun position inKeyed inRange => ?_
  rw [List.length_map] at inRange
  rw [List.getElem_map, List.getElem_mapIdx, List.getElem_map]
  have isByte := Nat.lt_of_lt_of_le inRange few
  have isCode : (UInt8.ofNat position).toNat = position := by
    rw [UInt8.toNat_ofNat', Nat.mod_eq_of_lt (isByte.trans (by decide))]
  cases piece : pieces[position] with
  | tag value => rfl
  | text chars =>
    have found : charsAt pieces (pieceKey position) = chars := by
      unfold charsAt
      rw [bytes_pieceKey isByte, List.headD_cons, isCode, List.getElem?_eq_getElem inRange, piece]
    show Segment.text (textAt pieces (pieceKey position)) = _
    unfold textAt
    rw [found]
    rfl

/-- A template can be read with keys for its texts, which are then put in their places. -/
theorem read_braced_of_keyed {name : String} {chars : List Char} {pieces : List Piece}
    (found : pieces? chars = some pieces) (few : pieces.length ≤ keyCount) {nodes : List Node}
    (built : nodesOf (pieces.mapIdx Piece.keyed) = .ok nodes) :
    read (Source.braced name (String.ofList chars)).text =
      .ok (mapTextsOf (textAt pieces) nodes) := by
  rw [read_braced_of_pieces? found, ← map_keyed few]
  exact nodesOf_mapTexts _ built

/--
Whether the nodes of a template, whose text has brackets for braces, pass a test. The texts in the
nodes are keys, and the test is told the characters that they stand for.
-/
def testText (test : (String → List Char) → List Node → Bool) (chars : List Char) : Bool :=
  match pieces? chars with
  | none => false
  | some pieces =>
    match nodesOf (pieces.mapIdx Piece.keyed) with
    | .error _ => false
    | .ok nodes => pieces.length ≤ keyCount && test (charsAt pieces) nodes

theorem exists_read_of_testText (name : String) {test : (String → List Char) → List Node → Bool}
    {chars : List Char} (passes : testText test chars) :
    ∃ charsOf nodes, read (Source.braced name (String.ofList chars)).text =
        .ok (mapTextsOf (String.ofList ∘ charsOf) nodes) ∧ test charsOf nodes := by
  unfold testText at passes
  split at passes
  · cases passes
  · next pieces found =>
    split at passes
    · cases passes
    · next nodes isNodes =>
      rw [Bool.and_eq_true, decide_eq_true_eq] at passes
      exact ⟨charsAt pieces, nodes, read_braced_of_keyed found passes.1 isNodes, passes.2⟩

/-! ### Engines -/

theorem Source.read_of_definition {source : Source} {definition : Definition}
    (defined : source.definition = .ok definition) : read source.text = .ok definition.nodes := by
  unfold Source.definition at defined
  obtain ⟨nodes, isRead, isDefined⟩ := exists_of_bind_eq_ok defined
  rw [(callAmong_of_define isDefined).1]
  cases found : read source.text with
  | error error =>
    rw [found] at isRead
    cases isRead
  | ok nodes =>
    rw [found] at isRead
    cases isRead
    rfl

/-- The template of a source is rendered as its nodes are, with what it includes. -/
theorem Engine.render_eq {sources : List Source} {engine : Engine}
    (made : ofSources sources = .ok engine) {source : Source} (member : source ∈ sources)
    {nodes : List Node} (isRead : read source.text = .ok nodes) (data : Value) :
    engine.render source.name data =
      (renderNodes ⟨engine.render, data, data⟩ nodes).mapError (.inTemplate source.name) := by
  obtain ⟨known, distinct, defined, knows, _, perm⟩ := exists_known_of_ofSources made
  obtain ⟨registered, names⟩ := isRegistered_of_ofSources made
  have isName : source.name ∈ engine.names := names.mem_iff.mpr (List.mem_map_of_mem member)
  obtain ⟨before, definition, after, split, named⟩ := exists_split isName
  have isDefinition : definition ∈ known.values := by
    refine perm.subset ?_
    rw [split]
    exact List.mem_append_right _ List.mem_cons_self
  obtain ⟨other, isSource, otherDefined⟩ := (knows.mem_values_iff definition).mp isDefinition
  -- The definition of the name is that of the source, as different sources have different names.
  have same : other = source := List.inj_on_of_nodup_map distinct isSource member
    ((Source.name_of_definition otherDefined).symm.trans named)
  subst same
  have sameNodes := Except.ok.inj ((Source.read_of_definition otherDefined).symm.trans isRead)
  rw [← (registered.rendersToEnd isName data).descends engine.render fun _ _ _ => rfl, ← named,
    renderWithin, definition?_name registered.distinct split, ← sameNodes]
  rfl

section Nodes

variable {includer : Includer} {entries : List (String × Value)} {root : Value}

theorem followPath_one (entries : List (String × Value)) (key : String) :
    followPath (.object entries) [key] = .ok ((Value.object entries).field key) := by
  unfold Value.field
  cases found : entries.lookup key <;> simp [followPath, found]

theorem evaluate_field (key : String) :
    evaluate ⟨includer, .object entries, root⟩ [.mk (.dot [key]) []] =
      .ok ((Value.object entries).field key) := by
  simp [evaluate, evaluateCommands, Command.evaluate, Operand.evaluate, followPath_one, bind,
    Except.bind]

/-- A field is rendered as the plain text of its value. -/
theorem render_field_eq (key : String) :
    (Node.action [.mk (.dot [key]) []]).render ⟨includer, .object entries, root⟩ =
      .ok ((Value.object entries).field key).plainText := by
  rw [Node.render, evaluate_field]
  rfl

theorem render_field {key text : String} (isText : (Value.object entries).field key = .text text) :
    (Node.action [.mk (.dot [key]) []]).render ⟨includer, .object entries, root⟩ = .ok text := by
  rw [render_field_eq, isText]
  rfl

/-- The value at hand is rendered as its plain text. -/
theorem render_dot (value : Value) :
    (Node.action [.mk (.dot []) []]).render ⟨includer, value, root⟩ = .ok value.plainText := by
  simp [Node.render, evaluate, evaluateCommands, Command.evaluate, Operand.evaluate, followPath,
    bind, Except.bind, pure, Except.pure]

theorem textsOf_ofTexts (texts : List String) : textsOf (.ofTexts texts) = .ok texts := by
  show Except.ok ((texts.map Value.text).map Value.plainText) = _
  rw [List.map_map]
  exact congrArg _ (List.map_id _)

theorem render_quoteList {key : String} {texts : List String}
    (isList : (Value.object entries).field key = .ofTexts texts) :
    (Node.action [.mk (.function "quoteList") [.dot [key]]]).render
      ⟨includer, .object entries, root⟩ = .ok (quoteList texts) := by
  have named : Function.ofName? "quoteList" = some .quoteList := by decide
  have called : call includer "quoteList" [.ofTexts texts] = .ok (.text (quoteList texts)) := by
    rw [call, named]
    simp [Function.apply, oneArgument, textsOf_ofTexts, bind, Except.bind, pure, Except.pure,
      Except.mapError]
  simp [Node.render, evaluate, evaluateCommands, Command.evaluate, evaluateOperands,
    Operand.evaluate, followPath_one, isList, called, bind, Except.bind, pure, Except.pure,
    Value.plainText]

/-- A value is quoted as its plain text. -/
theorem render_quote {context : Context} {operand : Operand} {value : Value}
    (evaluated : operand.evaluate context = .ok value) :
    (Node.action [.mk (.function "quote") [operand]]).render context =
      .ok (Value.textLiteral value.plainText) := by
  have named : Function.ofName? "quote" = some .quote := by decide
  have called : call context.includer "quote" [value] =
      .ok (.text (Value.textLiteral value.plainText)) := by
    rw [call, named]
    simp [Function.apply, oneArgument, bind, Except.bind, pure, Except.pure, Except.mapError]
  simp [Node.render, evaluate, evaluateCommands, Command.evaluate, evaluateOperands, evaluated,
    called, bind, Except.bind, pure, Except.pure, Value.plainText]

theorem render_quoteField (key : String) :
    (Node.action [.mk (.function "quote") [.dot [key]]]).render ⟨includer, .object entries, root⟩ =
      .ok (Value.textLiteral ((Value.object entries).field key).plainText) :=
  render_quote (by rw [Operand.evaluate, followPath_one])

theorem render_quoteDot (value : Value) :
    (Node.action [.mk (.function "quote") [.dot []]]).render ⟨includer, value, root⟩ =
      .ok (Value.textLiteral value.plainText) :=
  render_quote (by rw [Operand.evaluate, followPath])

theorem render_indent {key text : String} (isText : (Value.object entries).field key = .text text)
    (width : Nat) :
    (Node.action [.mk (.function "indent") [.integer width, .dot [key]]]).render
      ⟨includer, .object entries, root⟩ = .ok (indentText text width) := by
  have named : Function.ofName? "indent" = some .indent := by decide
  have called : call includer "indent" [.integer width, .text text] =
      .ok (.text (indentText text width)) := by
    rw [call, named]
    simp [Function.apply, twoArguments, widthOf, bind, Except.bind, pure, Except.pure,
      Except.mapError, Value.plainText]
  simp [Node.render, evaluate, evaluateCommands, Command.evaluate, evaluateOperands,
    Operand.evaluate, followPath_one, isText, called, bind, Except.bind, pure, Except.pure,
    Value.plainText]

theorem renderNodes_nil (context : Context) : renderNodes context [] = .ok "" := by
  rw [renderNodes]

theorem renderNodes_one {context : Context} {node : Node} {text : String}
    (here : node.render context = .ok text) : renderNodes context [node] = .ok text := by
  rw [renderNodes, here, renderNodes]
  show Except.ok (text ++ "") = _
  rw [String.append_empty]

theorem render_of_renderNodes_one {context : Context} {node : Node} {text : String}
    (rendered : renderNodes context [node] = .ok text) : node.render context = .ok text := by
  cases here : node.render context with
  | error error =>
    rw [renderNodes, here] at rendered
    cases rendered
  | ok first => rw [← rendered, renderNodes_one here]

theorem renderNodes_cons {context : Context} {node : Node} {rest : List Node} {text others : String}
    (here : node.render context = .ok text) (later : renderNodes context rest = .ok others) :
    renderNodes context (node :: rest) = .ok (text ++ others) := by
  rw [renderNodes, here, later]
  rfl

/-- What nodes one after the other are rendered as comes apart like the nodes. -/
theorem exists_of_renderNodes_append {context : Context} {before after : List Node} {text : String}
    (rendered : renderNodes context (before ++ after) = .ok text) :
    ∃ first second, renderNodes context before = .ok first ∧
      renderNodes context after = .ok second ∧ text = first ++ second := by
  induction before generalizing text with
  | nil => exact ⟨"", text, renderNodes_nil context, rendered, String.empty_append.symm⟩
  | cons node rest inductionHypothesis =>
    rw [List.cons_append, renderNodes] at rendered
    obtain ⟨here, isHere, rendered⟩ := exists_of_bind_eq_ok rendered
    obtain ⟨others, areOthers, rendered⟩ := exists_of_bind_eq_ok rendered
    obtain ⟨first, second, isFirst, isSecond, rfl⟩ := inductionHypothesis areOthers
    cases rendered
    exact ⟨here ++ first, second, renderNodes_cons isHere isFirst, isSecond,
      String.append_assoc.symm⟩

theorem render_text (context : Context) (text : String) :
    (Node.text text).render context = .ok text := by
  rw [Node.render]

/-- What stands inside of a field is rendered if the value of the field is present. -/
theorem render_within (key : String) (body : List Node) :
    (Node.within [.mk (.dot [key]) []] body []).render ⟨includer, .object entries, root⟩ =
      if ((Value.object entries).field key).isPresent then
        renderNodes ⟨includer, (Value.object entries).field key, root⟩ body
      else .ok "" := by
  rw [Node.render, evaluate_field, ← renderNodes_nil ⟨includer, .object entries, root⟩]
  rfl

/-- One of two branches is rendered: which one, the text of a field decides. -/
theorem render_branchEq {key text : String}
    (isText : (Value.object entries).field key = .text text) (word : String)
    (body otherwise : List Node) :
    (Node.branch [.mk (.function "eq") [.dot [key], .text word]] body otherwise).render
        ⟨includer, .object entries, root⟩ =
      renderNodes ⟨includer, .object entries, root⟩ (if text = word then body else otherwise) := by
  have named : Function.ofName? "eq" = some .eq := by decide
  have same : (Value.text text).same (.text word) = decide (text = word) := beq_eq_decide text word
  have called : call includer "eq" [.text text, .text word] = .ok (.boolean (text = word)) := by
    rw [call, named]
    simp [Function.apply, twoArguments, same, bind, Except.bind, pure, Except.pure,
      Except.mapError]
  rw [Node.render]
  simp only [evaluate, evaluateCommands, Command.evaluate, evaluateOperands, Operand.evaluate,
    followPath_one, isText, called, bind, Except.bind, pure, Except.pure, Option.toList_none,
    List.append_nil]
  by_cases isWord : text = word <;> simp [isWord, Value.isPresent]

/-- The items of a list are rendered one after the other. -/
theorem render_each {α : Type} {key : String} {items : List α} {value : α → Value}
    {body : List Node} {text : α → String}
    (isList : (Value.object entries).field key = .list (items.map value))
    (rendered : ∀ item ∈ items,
      renderNodes ⟨includer, value item, root⟩ body = .ok (text item)) :
    (Node.each [.mk (.dot [key]) []] body []).render ⟨includer, .object entries, root⟩ =
      .ok (String.join (items.map text)) := by
  have texts : (items.map value).mapM (fun item => renderNodes ⟨includer, item, root⟩ body) =
      .ok (items.map text) := by
    rw [mapM_eq_ok_iff, List.forall₂_map_left_iff, List.forall₂_map_right_iff, List.forall₂_same]
    exact rendered
  rw [Node.render, evaluate_field, isList]
  cases items with
  | nil => exact renderNodes_nil ⟨includer, .object entries, root⟩
  | cons first rest =>
    simp only [itemsOf, List.map_cons, bind, Except.bind] at texts ⊢
    rw [texts]
    rfl

/-- A list is rendered item by item. -/
theorem exists_of_render_each {context : Context} {collection : Expression} {body : List Node}
    {text : String} (rendered : (Node.each collection body []).render context = .ok text) :
    ∃ items texts, List.Forall₂ (fun item line =>
        renderNodes { context with dot := item } body = .ok line) items texts ∧
      text = String.join texts := by
  rw [Node.render] at rendered
  obtain ⟨value, _, found⟩ := exists_of_bind_eq_ok rendered
  obtain ⟨items, _, joined⟩ := exists_of_bind_eq_ok found
  split at joined
  · rw [renderNodes_nil] at joined
    exact ⟨[], [], .nil, (Except.ok.inj joined).symm⟩
  · obtain ⟨texts, areTexts, same⟩ := exists_of_bind_eq_ok joined
    exact ⟨items, texts, mapM_eq_ok_iff.mp areTexts, (Except.ok.inj same).symm⟩

end Nodes

end LogForwarder.Template
