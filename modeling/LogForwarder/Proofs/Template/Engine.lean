/-
This file proves that an engine can be made of templates whose includes go down in rank, and that it
renders each of them at all values of its shape. Rank is the place in a signature, so that a
signature lists templates after those that they include. Includes that go down in rank never lead
into a cycle, which is why there is an order; and in this order what a template includes comes
before it, so that rendering is followed from there by induction.
-/

import LogForwarder.Proofs.Template.Ordering
import LogForwarder.Proofs.Template.Typing

namespace LogForwarder

namespace Template

/-! ### Templates with shapes -/

/-- The definition of the template of a source. -/
def Source.definition (source : Source) : Except RegisterError Definition := do
  define source.name (← (read source.text).mapError (.unreadable source.name))

/-- The place of a template in a signature. -/
def Signature.rank (signature : Signature) (name : String) : Nat :=
  (signature.map (·.1)).idxOf name

/-- The part of a signature that is about some names. -/
def Signature.among (signature : Signature) (names : List String) : Signature :=
  signature.filter fun entry => entry.1 ∈ names

theorem Signature.lookup_among (signature : Signature) (names : List String) (name : String) :
    (signature.among names).lookup name = if name ∈ names then signature.lookup name else none := by
  unfold among
  induction signature with
  | nil => rw [List.filter_nil, List.lookup_nil, ite_self]
  | cons head rest inductionHypothesis =>
    obtain ⟨other, shape⟩ := head
    rw [List.lookup_cons, List.filter_cons]
    by_cases same : name = other
    · subst same
      by_cases member : name ∈ names
      · rw [if_pos (decide_eq_true member), if_pos member, List.lookup_cons, BEq.rfl]
      · rw [if_neg (by simpa using member), inductionHypothesis, if_neg member, if_neg member]
    · rw [beq_false_of_ne same, ← inductionHypothesis]
      split
      · rw [List.lookup_cons, beq_false_of_ne same]
      · rfl

/-- Whether a template can be rendered by what a signature says of it and of what it includes. -/
def Definition.isTyped (signature : Signature) (definition : Definition) : Bool :=
  match signature.lookup definition.name with
  | none => false
  | some shape =>
    (definition.includes.keys.all fun target =>
      signature.rank target < signature.rank definition.name) &&
    areRenderable ⟨signature.among definition.includes.keys, shape, shape⟩ definition.nodes

/-- Whether the template of a source can be read, and rendered as a signature says. -/
structure Source.IsTyped (signature : Signature) (source : Source) : Prop where
  defined : ∃ definition, source.definition = .ok definition ∧ definition.isTyped signature

/-- The least code of a bracket, which is above those of most characters. -/
def bracketFloor : Nat := 0x27E6

/-- The characters of a text with braces in place of its brackets, one after the other. -/
def bracedChars : List Char → List Char
  | [] => []
  | c :: rest =>
    bif c.toNat.blt bracketFloor then c :: bracedChars rest else bracesOf c ++ bracedChars rest

theorem bracesOf_of_lt {c : Char} (below : c.toNat < bracketFloor) : bracesOf c = [c] := by
  have apart {bracket : Char} (above : bracketFloor ≤ bracket.toNat) : c ≠ bracket := by
    rintro rfl
    exact Nat.not_lt_of_le above below
  unfold bracesOf
  rw [if_neg (apart (by decide)), if_neg (apart (by decide)), if_neg (apart (by decide)),
    if_neg (apart (by decide))]

theorem toList_withBraces (chars : List Char) :
    (withBraces (String.ofList chars)).toList = bracedChars chars := by
  unfold withBraces
  rw [String.toList_ofList, String.toList_ofList]
  induction chars with
  | nil => rfl
  | cons c rest inductionHypothesis =>
    rw [List.flatMap_cons, bracedChars, inductionHypothesis]
    cases below : c.toNat.blt bracketFloor with
    | false => rfl
    | true => rw [bracesOf_of_lt (Nat.blt_eq.mp below)]; rfl

theorem read_braced_ofList (name : String) (chars : List Char) :
    read (Source.braced name (String.ofList chars)).text =
      segmentsFrom 0 false (bracedChars chars) >>= nodesOf := by
  unfold Source.braced read segments
  rw [toList_withBraces]

/-- What a typed template includes comes before it. -/
theorem Definition.rank_lt {signature : Signature} {definition : Definition}
    (typed : definition.isTyped signature) {target : String}
    (included : target ∈ definition.includes.keys) :
    signature.rank target < signature.rank definition.name := by
  unfold Definition.isTyped at typed
  split at typed
  · cases typed
  · rw [Bool.and_eq_true, List.all_eq_true] at typed
    exact of_decide_eq_true (typed.1 target included)

/-- What a typed template includes is in the signature. -/
theorem Definition.mem_signature {signature : Signature} {definition : Definition}
    (typed : definition.isTyped signature) {target : String}
    (included : target ∈ definition.includes.keys) : target ∈ signature.map (·.1) :=
  List.idxOf_lt_length_iff.mp ((rank_lt typed included).trans_le List.idxOf_le_length)

/-! ### Rendering -/

/-- The names of templates that includes of some templates must not leave. -/
def IncludesWithin (names : List String) (definitions : List Definition) : Prop :=
  ∀ definition ∈ definitions, ∀ target ∈ definition.includes.keys, target ∈ names

/-- A typed template is rendered if what it includes is among others that are. -/
theorem Definition.exists_renderNodes {signature : Signature} {definition : Definition}
    (typed : definition.isTyped signature) {names : List String} {includer : Includer}
    (renders : Renders includer (signature.among names))
    (within : ∀ target ∈ definition.includes.keys, target ∈ names) {shape : Shape}
    (known : signature.lookup definition.name = some shape) {data : Value}
    (fits : shape.Fits data) :
    ∃ text, renderNodes ⟨includer, data, data⟩ definition.nodes = .ok text := by
  have rendersIncluded : Renders includer (signature.among definition.includes.keys) := by
    intro target wanted targetKnown
    rw [signature.lookup_among] at targetKnown
    split at targetKnown
    · rename_i included
      refine renders target wanted ?_
      rw [signature.lookup_among, if_pos (within target included)]
      exact targetKnown
    · cases targetKnown
  unfold isTyped at typed
  rw [known, Bool.and_eq_true] at typed
  have contextFits : Context.Fits ⟨includer, data, data⟩
      ⟨signature.among definition.includes.keys, shape, shape⟩ :=
    ⟨rendersIncluded, fits, fits⟩
  exact Template.exists_renderNodes definition.nodes contextFits typed.2

/--
Typed templates that are given last one first are rendered, if none includes one that comes after
it.
-/
theorem renders_renderAmong {signature : Signature} {definitions : List Definition}
    (typed : ∀ definition ∈ definitions, definition.isTyped signature)
    (ordered : definitions.Pairwise fun later earlier => later.name ∉ earlier.includes.keys)
    (within : IncludesWithin (definitions.map (·.name)) definitions) :
    Renders (Engine.renderAmong definitions) (signature.among (definitions.map (·.name))) := by
  induction definitions with
  | nil =>
    intro name shape known
    rw [signature.lookup_among, List.map_nil, if_neg List.not_mem_nil] at known
    cases known
  | cons definition earlier inductionHypothesis =>
    obtain ⟨definitionTyped, earlierTyped⟩ := List.forall_mem_cons.mp typed
    obtain ⟨notIncluded, earlierOrdered⟩ := List.pairwise_cons.mp ordered
    -- No template includes the one that comes after it, so that includes stay among the others.
    have withinEarlier : IncludesWithin (earlier.map (·.name)) (definition :: earlier) := by
      intro other member target included
      rcases List.mem_cons.mp (within other member target included) with rfl | inEarlier
      · rcases List.mem_cons.mp member with rfl | isEarlier
        · exact absurd (other.rank_lt definitionTyped included) (Nat.lt_irrefl _)
        · exact absurd included (notIncluded other isEarlier)
      · exact inEarlier
    have renders := inductionHypothesis earlierTyped earlierOrdered
      fun other member => withinEarlier other (List.mem_cons_of_mem _ member)
    intro name shape known data fits
    rw [signature.lookup_among] at known
    split at known
    · rename_i member
      unfold Engine.renderAmong
      by_cases same : definition.name = name
      · subst same
        rw [if_pos rfl]
        obtain ⟨text, rendered⟩ := definition.exists_renderNodes definitionTyped renders
          (withinEarlier definition List.mem_cons_self) known fits
        refine ⟨text, ?_⟩
        rw [rendered]
        rfl
      · rw [if_neg same]
        refine renders name shape ?_ data fits
        rw [signature.lookup_among, if_pos]
        · exact known
        · exact (List.mem_cons.mp member).resolve_left fun isName => same isName.symm
    · cases known

/-! ### Engines -/

theorem Source.name_of_definition {source : Source} {definition : Definition}
    (defined : source.definition = .ok definition) : definition.name = source.name := by
  unfold Source.definition at defined
  obtain ⟨nodes, _, defined⟩ := exists_of_bind_eq_ok defined
  simp only [define] at defined
  split at defined
  · cases defined
  · cases defined
    rfl

namespace Engine

/-- Adding a definition is to find it, and to put it in place if its name is free. -/
theorem addDefinition_eq {known : Dictionary Definition} {source : Source}
    {definition : Definition} (defined : source.definition = .ok definition)
    (fresh : known.get? source.name = none) :
    addDefinition known source = .ok (known.insert source.name definition) := by
  unfold Source.definition at defined
  obtain ⟨nodes, isRead, isDefined⟩ := exists_of_bind_eq_ok defined
  unfold addDefinition
  rw [isRead]
  show (define source.name nodes >>= _) = _
  rw [isDefined]
  have unknown : known.contains source.name = false := by
    unfold Dictionary.contains
    rw [fresh]
    rfl
  simp only [unknown]
  rfl

/-- Sources of different names are all added, and nothing else is. -/
theorem exists_known {sources : List Source} (distinct : (sources.map (·.name)).Nodup)
    (defined : ∀ source ∈ sources, ∃ definition, source.definition = .ok definition)
    (known : Dictionary Definition) (fresh : ∀ source ∈ sources, known.get? source.name = none) :
    ∃ all, sources.foldlM addDefinition known = .ok all ∧ ∀ name definition,
      all.get? name = some definition ↔ known.get? name = some definition ∨
        ∃ source ∈ sources, source.name = name ∧ source.definition = .ok definition := by
  induction sources generalizing known with
  | nil =>
    refine ⟨known, rfl, fun name definition => ?_⟩
    simp only [List.not_mem_nil, false_and, exists_false, or_false]
  | cons source rest inductionHypothesis =>
    obtain ⟨sourceFresh, restFresh⟩ := List.forall_mem_cons.mp fresh
    obtain ⟨notLater, restDistinct⟩ := List.nodup_cons.mp distinct
    obtain ⟨definition, isDefinition⟩ := defined source List.mem_cons_self
    have stillFresh : ∀ other ∈ rest,
        (known.insert source.name definition).get? other.name = none := by
      intro other member
      have different : other.name ≠ source.name :=
        fun same => notLater (List.mem_map.mpr ⟨other, member, same⟩)
      rw [Dictionary.get?_insert, if_neg different]
      exact restFresh other member
    obtain ⟨all, added, found⟩ := inductionHypothesis restDistinct
      (fun other member => defined other (List.mem_cons_of_mem _ member)) _ stillFresh
    refine ⟨all, ?_, fun name other => ?_⟩
    · rw [List.foldlM_cons, addDefinition_eq isDefinition sourceFresh]
      exact added
    · rw [found, Dictionary.get?_insert]
      simp only [List.mem_cons, exists_eq_or_imp, isDefinition, Except.ok.injEq]
      by_cases same : name = source.name
      · subst same
        rw [if_pos rfl, sourceFresh, Option.some.injEq]
        simp only [reduceCtorEq, false_or, true_and]
      · rw [if_neg same]
        simp only [Ne.symm same, false_and, false_or]

/-- Whether a dictionary holds the definitions of some sources by their names, and nothing else. -/
def Knows (known : Dictionary Definition) (sources : List Source) : Prop :=
  ∀ name definition, known.get? name = some definition ↔
    ∃ source ∈ sources, source.name = name ∧ source.definition = .ok definition

theorem Knows.knownByName {known : Dictionary Definition} {sources : List Source}
    (knows : Knows known sources) : KnownByName known := by
  intro name definition present
  obtain ⟨source, _, isName, defined⟩ := (knows name definition).mp present
  exact (Source.name_of_definition defined).trans isName

section Known

variable {signature : Signature} {sources : List Source} {known : Dictionary Definition}

theorem Knows.mem_values_iff (knows : Knows known sources) (definition : Definition) :
    definition ∈ known.values ↔ ∃ source ∈ sources, source.definition = .ok definition := by
  rw [known.mem_values_iff]
  refine ⟨?_, ?_⟩
  · rintro ⟨name, present⟩
    obtain ⟨source, member, _, defined⟩ := (knows name definition).mp present
    exact ⟨source, member, defined⟩
  · rintro ⟨source, member, defined⟩
    exact ⟨source.name, (knows _ _).mpr ⟨source, member, rfl, defined⟩⟩

variable (knows : Knows known sources) (typed : ∀ source ∈ sources, source.IsTyped signature)

include knows typed

theorem isTyped_of_mem_values {definition : Definition} (member : definition ∈ known.values) :
    definition.isTyped signature := by
  obtain ⟨source, isSource, defined⟩ := (knows.mem_values_iff definition).mp member
  obtain ⟨other, otherDefined, otherTyped⟩ := (typed source isSource).defined
  cases defined.symm.trans otherDefined
  exact otherTyped

variable (complete : ∀ name ∈ signature.map (·.1), name ∈ sources.map (·.name))

include complete

/-- Whatever a signature speaks of has a definition. -/
theorem exists_definition {name : String} (member : name ∈ signature.map (·.1)) :
    ∃ definition ∈ known.values, definition.name = name ∧ known.get? name = some definition := by
  obtain ⟨source, isSource, rfl⟩ := List.mem_map.mp (complete name member)
  obtain ⟨definition, defined, _⟩ := (typed source isSource).defined
  exact ⟨definition, (knows.mem_values_iff definition).mpr ⟨source, isSource, defined⟩,
    Source.name_of_definition defined, (knows _ _).mpr ⟨source, isSource, rfl, defined⟩⟩

/-- What a definition includes has a definition too. -/
theorem exists_included {definition : Definition} (member : definition ∈ known.values)
    {target : String} (included : target ∈ definition.includes.keys) :
    ∃ other ∈ known.values, other.name = target ∧ known.get? target = some other :=
  exists_definition knows typed complete
    (Definition.mem_signature (isTyped_of_mem_values knows typed member) included)

theorem findSome?_unknownInclude? : known.values.findSome? (unknownInclude? known) = none := by
  rw [List.findSome?_eq_none_iff]
  intro definition member
  unfold unknownInclude?
  rw [Option.map_eq_none_iff, List.find?_eq_none]
  intro target included
  obtain ⟨_, _, _, isKnown⟩ := exists_included knows typed complete member included
  unfold Dictionary.contains
  rw [isKnown]
  exact Bool.false_ne_true

/-- The definitions are rendered once each comes after those that it includes. -/
theorem renders_of_perm {ordered : List Definition} (perm : ordered.Perm known.values)
    (pairwise : ordered.Pairwise fun earlier later => later.name ∉ earlier.includes.keys) :
    Renders (renderAmong ordered.reverse) signature := by
  have isOrdered : ∀ definition, definition ∈ ordered.reverse ↔ definition ∈ known.values :=
    fun definition => List.mem_reverse.trans perm.mem_iff
  have isName : ∀ name, (∃ definition ∈ known.values, definition.name = name ∧
      known.get? name = some definition) → name ∈ ordered.reverse.map (·.name) := by
    rintro name ⟨definition, member, rfl, _⟩
    exact List.mem_map_of_mem ((isOrdered definition).mpr member)
  have renders : Renders (renderAmong ordered.reverse)
      (signature.among (ordered.reverse.map (·.name))) :=
    renders_renderAmong
      (fun definition member => isTyped_of_mem_values knows typed ((isOrdered definition).mp member))
      (List.pairwise_reverse.mpr pairwise) fun definition member target included =>
        isName target
          (exists_included knows typed complete ((isOrdered definition).mp member) included)
  intro name shape isShape
  have inSignature : name ∈ signature.map (·.1) := by
    obtain ⟨before, after, split, _⟩ := List.lookup_eq_some_iff.mp isShape
    rw [split, List.map_append]
    exact List.mem_append_right _ List.mem_cons_self
  refine renders name shape ?_
  rw [signature.lookup_among,
    if_pos (isName name (exists_definition knows typed complete inSignature))]
  exact isShape

end Known

/--
An engine can be made of typed sources of different names, and it renders the template of any of
them at all values of its shape.
-/
theorem exists_ofSources {signature : Signature} {sources : List Source}
    (distinct : (sources.map (·.name)).Nodup)
    (typed : ∀ source ∈ sources, source.IsTyped signature)
    (complete : ∀ name ∈ signature.map (·.1), name ∈ sources.map (·.name)) :
    ∃ engine, ofSources sources = .ok engine ∧ Renders engine.render signature := by
  obtain ⟨known, added, found⟩ := exists_known distinct
    (fun source member => (typed source member).defined.imp fun _ => And.left) ∅
    fun _ _ => rfl
  have knows : Knows known sources := by
    intro name definition
    rw [found]
    exact or_iff_right fun absurdity => nomatch absurdity
  have isValue {user : String} {definition : Definition}
      (present : known.get? user = some definition) : definition ∈ known.values :=
    (known.mem_values_iff definition).mpr ⟨user, present⟩
  have includesKnown : IncludesKnown known := by
    rintro user target ⟨definition, present, included⟩
    obtain ⟨_, _, _, isKnown⟩ := exists_included knows typed complete (isValue present) included
    exact (known.mem_keys_iff target).mpr (isKnown ▸ rfl)
  obtain ⟨order, ordered⟩ := exists_topoOrder includesKnown signature.rank <| by
    rintro user target ⟨definition, present, included⟩
    rw [← knows.knownByName user definition present]
    exact definition.rank_lt (isTyped_of_mem_values knows typed (isValue present)) included
  have isOrder := ((isSorted_topoOrder includesKnown).least order ordered).1
  refine ⟨⟨order.filterMap known.get?⟩, ?_, renders_of_perm knows typed complete
    (perm_filterMap_get? isOrder) (pairwise_filterMap_get? knows.knownByName isOrder)⟩
  unfold ofSources
  simp only [added, bind, Except.bind, findSome?_unknownInclude? knows typed complete, ordered]
  rfl

end Engine

end Template

end LogForwarder
