/-
This file proves that rendering by an engine comes to an end and never meets a name that nothing
has. Registration keeps templates in an order in which each comes after those it includes, and its
scan sees every include, so a template asks only for templates before it. Followed in the order,
every error is about something else than a name; and following includes as deep as the place of a
template is enough, whatever is done below. The order itself is the least of those in which each
template comes after what it includes; if there is none, those that are named are the templates from
which includes lead into a cycle, and no engine is made of them.
-/

import LogForwarder.Proofs.Template.Calls
import LogForwarder.Proofs.Template.Engine

namespace LogForwarder.Template

namespace Engine

/-! ### Following includes -/

/-- The definition of a name. -/
def definition? (engine : Engine) (name : String) : Option Definition :=
  engine.definitions.find? (·.name = name)

/--
Rendering in which every include looks among all templates, down to some depth; what is deeper is
rendered in some other way.
-/
def renderWithin (engine : Engine) (deeper : Includer) : Nat → Includer
  | 0, name, data => deeper name data
  | depth + 1, name, data =>
    match engine.definition? name with
    | none => .error (.noTemplate name)
    | some definition =>
      (renderNodes ⟨engine.renderWithin deeper depth, data, data⟩ definition.nodes).mapError
        (.inTemplate name)

/-- The place of a name in the order of an engine. -/
def place (engine : Engine) (name : String) : Nat := engine.names.idxOf name

/-- Whether rendering a template ends without meeting a name that nothing has. -/
structure RendersToEnd (engine : Engine) (name : String) (data : Value) : Prop where
  /-- It depends on what earlier templates are rendered to, and on nothing else. -/
  descends : ∀ includer : Includer,
    (∀ target, engine.place target < engine.place name →
      ∀ value, includer target value = engine.render target value) →
    engine.renderWithin includer 1 name data = engine.render name data
  /-- Includes go no deeper than its place. -/
  ends : ∀ deeper depth, engine.place name < depth →
    engine.renderWithin deeper depth name data = engine.render name data
  named : ∀ error, engine.render name data = .error error → error.lacksName = false

/-- What registration has made sure of. -/
structure IsRegistered (engine : Engine) : Prop where
  distinct : engine.names.Nodup
  calls : ∀ definition ∈ engine.definitions,
    CallAmong definition.includes.keys (expressionsOf definition.nodes)
  earlier : ∀ {before definition after}, engine.definitions = before ++ definition :: after →
    ∀ target ∈ definition.includes.keys, target ∈ before.map (·.name)

/-! ### Places -/

theorem renderAmong_append {later among : List Definition} {name : String}
    (absent : name ∉ later.map (·.name)) (data : Value) :
    renderAmong (later ++ among) name data = renderAmong among name data := by
  induction later with
  | nil => rfl
  | cons definition rest inductionHypothesis =>
    rw [List.map_cons, List.mem_cons, not_or] at absent
    rw [List.cons_append, renderAmong, if_neg (Ne.symm absent.1)]
    exact inductionHypothesis absent.2

section Places

variable {engine : Engine} {before after : List Definition} {definition : Definition}

theorem exists_split {name : String} (member : name ∈ engine.names) :
    ∃ before definition after, engine.definitions = before ++ definition :: after ∧
      definition.name = name := by
  obtain ⟨definition, isDefinition, isName⟩ := List.mem_map.mp member
  obtain ⟨before, after, split⟩ := List.append_of_mem isDefinition
  exact ⟨before, definition, after, split, isName⟩

variable (distinct : engine.names.Nodup)
  (split : engine.definitions = before ++ definition :: after)

include split

theorem names_split :
    engine.names = before.map (·.name) ++ definition.name :: after.map (·.name) := by
  unfold names
  rw [split, List.map_append, List.map_cons]

theorem mem_names_of_earlier {target : String} (member : target ∈ before.map (·.name)) :
    target ∈ engine.names := by
  rw [names_split split]
  exact List.mem_append_left _ member

include distinct

theorem not_mem_before : definition.name ∉ before.map (·.name) := by
  rw [names_split split] at distinct
  exact fun member => (List.nodup_append.mp distinct).2.2 _ member _ List.mem_cons_self rfl

theorem not_mem_after : definition.name ∉ after.map (·.name) := by
  rw [names_split split] at distinct
  exact (List.nodup_cons.mp (List.nodup_append.mp distinct).2.1).1

theorem place_definition : engine.place definition.name = before.length := by
  unfold place
  rw [names_split split, List.idxOf_append_of_notMem (not_mem_before distinct split),
    List.idxOf_cons_self, List.length_map, Nat.add_zero]

theorem place_lt {target : String} (member : target ∈ before.map (·.name)) :
    engine.place target < engine.place definition.name := by
  rw [place_definition distinct split]
  unfold place
  rw [names_split split, List.idxOf_append_of_mem member, ← before.length_map (·.name)]
  exact List.idxOf_lt_length_of_mem member

theorem definition?_name : engine.definition? definition.name = some definition := by
  have notBefore := not_mem_before distinct split
  unfold definition?
  rw [split, List.find?_append, List.find?_eq_none.mpr, Option.none_or]
  · exact List.find?_cons_of_pos (decide_eq_true rfl)
  · intro other member same
    exact notBefore (List.mem_map.mpr ⟨other, member, of_decide_eq_true same⟩)

/-- What a template is rendered to, by those before it. -/
theorem render_definition (data : Value) :
    engine.render definition.name data =
      (renderNodes ⟨renderAmong before.reverse, data, data⟩ definition.nodes).mapError
        (.inTemplate definition.name) := by
  have reversed : engine.definitions.reverse =
      after.reverse ++ definition :: before.reverse := by
    rw [split, List.reverse_append, List.reverse_cons, List.append_assoc, List.singleton_append]
  have absent : definition.name ∉ after.reverse.map (·.name) := by
    rw [List.map_reverse, List.mem_reverse]
    exact not_mem_after distinct split
  unfold render
  rw [reversed, renderAmong_append absent, renderAmong, if_pos rfl]

/-- What templates are rendered to does not depend on those after them. -/
theorem render_earlier {target : String} (member : target ∈ before.map (·.name)) (data : Value) :
    engine.render target data = renderAmong before.reverse target data := by
  have reversed : engine.definitions.reverse =
      (definition :: after).reverse ++ before.reverse := by
    rw [split, List.reverse_append]
  have absent : target ∉ (definition :: after).reverse.map (·.name) := by
    rw [List.map_reverse, List.mem_reverse]
    rw [names_split split] at distinct
    exact fun later => (List.nodup_append.mp distinct).2.2 target member target later rfl
  unfold render
  rw [reversed, renderAmong_append absent]

end Places

/-! ### Rendering -/

namespace IsRegistered

variable {engine : Engine} (registered : engine.IsRegistered)

include registered

/--
A template asks for no name that nothing has and depends only on earlier templates: by induction on
its place, as what those ask for is known by then.
-/
theorem agree_render {name : String} (member : name ∈ engine.names) (data : Value)
    {includer : Includer} (agrees : ∀ target, engine.place target < engine.place name →
      ∀ value, includer target value = engine.render target value) :
    Agree (engine.renderWithin includer 1 name data) (engine.render name data) := by
  induction at_place : engine.place name using Nat.strong_induction_on
    generalizing name data includer with
  | _ place inductionHypothesis =>
    obtain ⟨before, definition, after, split, rfl⟩ := exists_split member
    have isDefinition : definition ∈ engine.definitions := by
      rw [split]
      exact List.mem_append_right _ List.mem_cons_self
    have agreeAt : AgreeAt definition.includes.keys includer (renderAmong before.reverse) := by
      intro target included value
      have isEarlier := registered.earlier split target included
      have below := place_lt registered.distinct split isEarlier
      have self := inductionHypothesis _ (at_place ▸ below) (mem_names_of_earlier split isEarlier)
        value (fun _ _ _ => rfl) rfl
      refine ⟨?_, fun error failed => self.named error ?_⟩
      · rw [agrees target below, render_earlier registered.distinct split isEarlier]
      · rw [self.same, ← agrees target below, failed]
    rw [render_definition registered.distinct split, renderWithin,
      definition?_name registered.distinct split]
    refine Agree.mapError ?_ fun _ => rfl
    exact agreeAt.render_nodes definition.nodes data data (registered.calls definition isDefinition)

/-- Includes followed to the place of a template are followed to the end. -/
theorem renderWithin_eq (deeper : Includer) {name : String} (member : name ∈ engine.names)
    {depth : Nat} (enough : engine.place name < depth) (data : Value) :
    engine.renderWithin deeper depth name data = engine.render name data := by
  induction depth generalizing name data with
  | zero => exact absurd enough (Nat.not_lt_zero _)
  | succ depth inductionHypothesis =>
    show engine.renderWithin (engine.renderWithin deeper depth) 1 name data = _
    refine (registered.agree_render member data fun target below value => ?_).same
    have isName : target ∈ engine.names :=
      List.idxOf_lt_length_iff.mp (below.trans_le List.idxOf_le_length)
    exact inductionHypothesis isName (by omega) value

theorem rendersToEnd {name : String} (member : name ∈ engine.names) (data : Value) :
    engine.RendersToEnd name data where
  descends includer agrees := (registered.agree_render member data agrees).same
  ends deeper _ enough := registered.renderWithin_eq deeper member enough data
  named error failed := by
    have agree := registered.agree_render member data fun _ _ _ => rfl
    exact agree.named error (agree.same.trans failed)

end IsRegistered

/-! ### Registration -/

/-- A definition that can be added is that of its source, and has a new name. -/
theorem exists_of_addDefinition {known next : Dictionary Definition} {source : Source}
    (added : addDefinition known source = .ok next) :
    ∃ definition, source.definition = .ok definition ∧ known.get? source.name = none ∧
      next = known.insert source.name definition := by
  unfold addDefinition at added
  obtain ⟨nodes, isRead, added⟩ := exists_of_bind_eq_ok added
  obtain ⟨definition, isDefined, added⟩ := exists_of_bind_eq_ok added
  refine ⟨definition, ?_, ?_⟩
  · unfold Source.definition
    rw [isRead]
    exact isDefined
  · split at added
    · cases added
    · next unknown =>
      cases added
      refine ⟨?_, rfl⟩
      unfold Dictionary.contains at unknown
      exact Option.not_isSome_iff_eq_none.mp unknown

/-- Sources that can all be added have definitions, and names that are new and different. -/
theorem fresh_of_foldlM {sources : List Source} {known all : Dictionary Definition}
    (added : sources.foldlM addDefinition known = .ok all) :
    (sources.map (·.name)).Nodup ∧ ∀ source ∈ sources, known.get? source.name = none ∧
      ∃ definition, source.definition = .ok definition := by
  induction sources generalizing known with
  | nil => exact ⟨List.nodup_nil, fun _ absurdity => nomatch absurdity⟩
  | cons source rest inductionHypothesis =>
    rw [List.foldlM_cons] at added
    obtain ⟨next, nextAdded, restAdded⟩ := exists_of_bind_eq_ok added
    obtain ⟨definition, defined, fresh, rfl⟩ := exists_of_addDefinition nextAdded
    obtain ⟨restDistinct, restFresh⟩ := inductionHypothesis restAdded
    have different : ∀ other ∈ rest, other.name ≠ source.name := by
      intro other member same
      have absent := (restFresh other member).1
      rw [Dictionary.get?_insert, if_pos same] at absent
      cases absent
    refine ⟨List.nodup_cons.mpr ⟨fun later => ?_, restDistinct⟩, List.forall_mem_cons.mpr
      ⟨⟨fresh, definition, defined⟩, fun other member => ?_⟩⟩
    · obtain ⟨other, member, same⟩ := List.mem_map.mp later
      exact different other member same
    · have absent := (restFresh other member).1
      rw [Dictionary.get?_insert, if_neg (different other member)] at absent
      exact ⟨absent, (restFresh other member).2⟩

/-- No include is unknown exactly if all of them are known. -/
theorem findSome?_unknownInclude?_eq_none_iff {known : Dictionary Definition} :
    known.values.findSome? (unknownInclude? known) = none ↔ IncludesKnown known := by
  rw [List.findSome?_eq_none_iff]
  unfold unknownInclude?
  simp only [Option.map_eq_none_iff, List.find?_eq_none, Bool.not_eq_true', Bool.not_eq_false,
    Dictionary.contains_iff, known.mem_values_iff]
  refine ⟨?_, ?_⟩
  · rintro noneUnknown user target ⟨definition, present, included⟩
    exact noneUnknown definition ⟨user, present⟩ target included
  · rintro includesKnown definition ⟨user, present⟩ target included
    exact includesKnown user target ⟨definition, present, included⟩

/-- Sources that can all be added have different names, and their definitions are what is known. -/
theorem knows_of_foldlM {sources : List Source} {known : Dictionary Definition}
    (added : sources.foldlM addDefinition ∅ = .ok known) :
    (sources.map (·.name)).Nodup ∧
      (∀ source ∈ sources, ∃ definition, source.definition = .ok definition) ∧
      Knows known sources := by
  obtain ⟨distinct, fresh⟩ := fresh_of_foldlM added
  have defined := fun source member => (fresh source member).2
  obtain ⟨all, allAdded, found⟩ := exists_known distinct defined ∅ fun _ _ => rfl
  cases added.symm.trans allAdded
  refine ⟨distinct, defined, fun name definition => ?_⟩
  rw [found]
  exact or_iff_right fun absurdity => nomatch absurdity

/-- The definitions that an engine was made of, and their order. -/
theorem exists_known_of_ofSources {sources : List Source} {engine : Engine}
    (made : ofSources sources = .ok engine) :
    ∃ known, (sources.map (·.name)).Nodup ∧
      (∀ source ∈ sources, ∃ definition, source.definition = .ok definition) ∧
      Knows known sources ∧ IsOrder known engine.names ∧
      engine.definitions.Perm known.values := by
  unfold ofSources at made
  obtain ⟨known, added, made⟩ := exists_of_bind_eq_ok made
  obtain ⟨distinct, defined, knows⟩ := knows_of_foldlM added
  split at made
  · cases made
  · next noneUnknown =>
    have includesKnown := findSome?_unknownInclude?_eq_none_iff.mp noneUnknown
    split at made
    · next order ordered =>
      cases made
      have isOrder := ((isSorted_topoOrder includesKnown).least order ordered).1
      refine ⟨known, distinct, defined, knows, ?_, perm_filterMap_get? isOrder⟩
      have names := map_name_of_isOrder knows.knownByName isOrder
      unfold Engine.names
      rwa [names]
    · cases made

section Known

variable {sources : List Source} {known : Dictionary Definition} (knows : Knows known sources)

include knows

theorem callAmong_of_mem_values {definition : Definition} (member : definition ∈ known.values) :
    CallAmong definition.includes.keys (expressionsOf definition.nodes) := by
  obtain ⟨source, _, defined⟩ := (knows.mem_values_iff definition).mp member
  unfold Source.definition at defined
  obtain ⟨nodes, _, defined⟩ := exists_of_bind_eq_ok defined
  obtain ⟨isNodes, calls⟩ := callAmong_of_define defined
  rw [isNodes]
  exact calls

theorem mem_keys_iff
    (defined : ∀ source ∈ sources, ∃ definition, source.definition = .ok definition)
    (name : String) : name ∈ known.keys ↔ name ∈ sources.map (·.name) := by
  rw [known.mem_keys_iff, Option.isSome_iff_exists, List.mem_map]
  refine ⟨?_, ?_⟩
  · rintro ⟨definition, present⟩
    obtain ⟨source, member, isName, _⟩ := (knows _ _).mp present
    exact ⟨source, member, isName⟩
  · rintro ⟨source, member, isName⟩
    obtain ⟨definition, isDefinition⟩ := defined source member
    exact ⟨definition, (knows _ _).mpr ⟨source, member, isName, isDefinition⟩⟩

end Known

theorem isRegistered_of_ofSources {sources : List Source} {engine : Engine}
    (made : ofSources sources = .ok engine) :
    engine.IsRegistered ∧ engine.names.Perm (sources.map (·.name)) := by
  obtain ⟨known, distinct, defined, knows, isOrder, perm⟩ := exists_known_of_ofSources made
  refine ⟨⟨isOrder.perm.nodup_iff.mpr known.nodup_keys, fun definition member => ?_, ?_⟩, ?_⟩
  · exact callAmong_of_mem_values knows (perm.subset member)
  · intro before definition after split target included
    have isDefinition : definition ∈ engine.definitions := by
      rw [split]
      exact List.mem_append_right _ List.mem_cons_self
    exact isOrder.comeAfter _ _ _ (names_split split) target
      ⟨definition, get?_name knows.knownByName (perm.subset isDefinition), included⟩
  · exact isOrder.perm.trans ((List.perm_ext_iff_of_nodup known.nodup_keys distinct).mpr
      (mem_keys_iff knows defined))

/--
An engine has the templates it was made of, and renders each of them to an end at all values: it
includes only earlier ones, and no error is about a name that nothing has.
-/
theorem rendersToEnd_of_ofSources {sources : List Source} {engine : Engine}
    (made : ofSources sources = .ok engine) :
    engine.names.Perm (sources.map (·.name)) ∧
      ∀ name ∈ engine.names, ∀ data, engine.RendersToEnd name data :=
  have registered := isRegistered_of_ofSources made
  ⟨registered.2, fun _ member data => registered.1.rendersToEnd member data⟩

/-- Templates that include each other in parentheses, behind bars and in both parts of blocks. -/
def nestedSources : List Source :=
  [.braced "lines" "⟦ range .lines ⟧⟦ include \"line\" . ⟧;⟦ else ⟧⟦ include \"word\" ⟧⟦ end ⟧",
    .braced "line"
      "⟦ if .x ⟧⟦ quote (.x | include \"word\") ⟧⟦ else ⟧⟦ . | include \"word\" ⟧⟦ end ⟧",
    .braced "word" "⟦ with . ⟧<⟦ . ⟧>⟦ end ⟧"]

theorem rendersToEnd_nestedSources :
    ∃ engine, ofSources nestedSources = .ok engine ∧ engine.names.Perm ["lines", "line", "word"] ∧
      ∀ name ∈ engine.names, ∀ data, engine.RendersToEnd name data := by
  have succeeds : (ofSources nestedSources).isOk := by
    -- The texts are read from their characters, for it would take long to decode them.
    show (ofSources [.braced _ (String.ofList _), .braced _ (String.ofList _),
      .braced _ (String.ofList _)]).isOk
    simp only [ofSources, List.foldlM_cons, List.foldlM_nil, addDefinition, read_braced_ofList]
    decide +kernel
  obtain ⟨engine, made⟩ := exists_of_isOk succeeds
  exact ⟨engine, made, rendersToEnd_of_ofSources made⟩

/-! ### The order of registration -/

/-- Sources all of whose includes are known make an engine exactly if there is an order. -/
theorem names_ofSources {sources : List Source} {known : Dictionary Definition}
    (added : sources.foldlM addDefinition ∅ = .ok known) (includesKnown : IncludesKnown known) :
    (ofSources sources).map names = (topoOrder known).mapError .cycle := by
  have byName := (knows_of_foldlM added).2.2.knownByName
  unfold ofSources
  simp only [added, findSome?_unknownInclude?_eq_none_iff.mpr includesKnown, bind, Except.bind]
  cases ordered : topoOrder known with
  | error left => rfl
  | ok order =>
    have isOrder := ((isSorted_topoOrder includesKnown).least order ordered).1
    exact congrArg Except.ok (map_name_of_isOrder byName isOrder)

/--
Templates that include only each other are brought in the least order in which each comes after what
it includes, or those from which includes lead into a cycle are named; and this is what becomes of
sources of which they are the templates.
-/
theorem isSorted_of_includesKnown {known : Dictionary Definition}
    (includesKnown : IncludesKnown known) :
    IsSorted known (topoOrder known) ∧
      ∀ sources, sources.foldlM addDefinition ∅ = .ok known →
        (ofSources sources).map names = (topoOrder known).mapError .cycle :=
  ⟨isSorted_topoOrder includesKnown, fun _ added => names_ofSources added includesKnown⟩

/-- Templates two of which include a third one, beside one that includes itself and its user. -/
def crossingSources : List Source :=
  [.braced "file" "⟦ include \"left\" . ⟧⟦ include \"right\" . ⟧⟦ include \"left\" . ⟧",
    .braced "right" "⟦ if .x ⟧⟦ include \"base\" . ⟧⟦ end ⟧", .braced "left" "⟦ include \"base\" . ⟧",
    .braced "base" "", .braced "user" "⟦ include \"loop\" . ⟧⟦ include \"base\" . ⟧",
    .braced "loop" "⟦ with . ⟧⟦ else ⟧⟦ include \"loop\" . ⟧⟦ end ⟧"]

theorem isSorted_crossingSources :
    ∃ known, crossingSources.foldlM addDefinition ∅ = .ok known ∧ IncludesKnown known ∧
      topoOrder known = .error ["loop", "user"] ∧ IsSorted known (topoOrder known) ∧
      (ofSources crossingSources).map names = .error (.cycle ["loop", "user"]) := by
  have evaluated : (crossingSources.foldlM addDefinition ∅).toOption.any fun known =>
      known.values.findSome? (unknownInclude? known) = none ∧
        topoOrder known = .error ["loop", "user"] := by
    -- The texts are read from their characters, for it would take long to decode them.
    show (List.foldlM addDefinition ∅ [.braced _ (String.ofList _), .braced _ (String.ofList _),
      .braced _ (String.ofList _), .braced _ (String.ofList _), .braced _ (String.ofList _),
      .braced _ (String.ofList _)]).toOption.any _
    simp only [List.foldlM_cons, List.foldlM_nil, addDefinition, read_braced_ofList]
    decide +kernel
  cases added : crossingSources.foldlM addDefinition ∅ with
  | error fault =>
    rw [added] at evaluated
    cases evaluated
  | ok known =>
    rw [added] at evaluated
    obtain ⟨noneUnknown, left⟩ := of_decide_eq_true evaluated
    have includesKnown := findSome?_unknownInclude?_eq_none_iff.mp noneUnknown
    obtain ⟨isSorted, registered⟩ := isSorted_of_includesKnown includesKnown
    refine ⟨known, rfl, includesKnown, left, isSorted, ?_⟩
    rw [registered _ added, left]
    rfl

end Engine

end LogForwarder.Template
