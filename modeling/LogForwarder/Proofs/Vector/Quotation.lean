/-
This file finds out when programs and conditions survive in the text of the vector dialect. They are
put into literal strings, which have no escapes: a quote in a namespace or in a label ends the
condition that asks for it, and three of them in the label of a pipeline end its program. Whatever
can stand in such a string is read back, and the checks let everything else pass as well.

A text of a user stands in a condition as a JSON string, whose escapes take care of control
characters; what they leave as it is, and a literal string of TOML cannot hold, are single quotes
and the delete character.
-/

import LogForwarder.Proofs.Json.Literal
import LogForwarder.Proofs.Outcome
import LogForwarder.Proofs.Vector.Embedding
import LogForwarder.Proofs.Vector.Rendering

namespace LogForwarder.Vector

open Toml

/-! ### JSON strings between single quotes -/

/-- Whether the JSON string of a text can stand between single quotes. -/
def isQuotable (text : String) : Bool := text.toList.all fun c => c ≠ '\'' && c.toNat ≠ 127

theorem isLiteral_append_iff {first second : List Char} :
    isLiteral (first ++ second) ↔ isLiteral first ∧ isLiteral second := by
  simp [isLiteral, List.all_append]

/-- What JSON escapes can stand between single quotes, and all the rest is written as it is. -/
theorem escapedChar_cases (c : Char) :
    (isLiteral (Value.escapedChar c).toList ∧ c ≠ '\'' ∧ c.toNat ≠ 127) ∨
      ((Value.escapedChar c).toList = [c] ∧ 32 ≤ c.toNat) := by
  by_cases control : c.toNat < 32
  · have escaped : ∀ code < 32, isLiteral (Value.escapedChar (Char.ofNat code)).toList ∧
        Char.ofNat code ≠ '\'' ∧ (Char.ofNat code).toNat ≠ 127 := by decide
    have here := escaped c.toNat control
    rw [Char.ofNat_toNat] at here
    exact .inl here
  by_cases isQuote : c = '"'
  · subst isQuote
    exact .inl (by decide)
  by_cases isBackslash : c = '\\'
  · subst isBackslash
    exact .inl (by decide)
  have visible : 32 ≤ c.toNat := not_lt.mp control
  exact .inr ⟨Json.toList_escapedChar visible isQuote isBackslash, visible⟩

theorem isLiteral_escapedChar_iff (c : Char) :
    isLiteral (Value.escapedChar c).toList ↔ c ≠ '\'' ∧ c.toNat ≠ 127 := by
  rcases escapedChar_cases c with ⟨literal, quotable⟩ | ⟨same, visible⟩
  · exact iff_of_true literal quotable
  · rw [same, isLiteral_cons, and_iff_left (show isLiteral [] = true from rfl), and_comm]
    refine and_congr_right fun _ => ?_
    have notTab : c ≠ '\t' := by
      rintro rfl
      exact absurd visible (by decide)
    simp [isPlain, notTab, visible]

theorem isLiteral_textLiteral_iff (text : String) :
    isLiteral (Value.textLiteral text).toList ↔ isQuotable text := by
  have body : isLiteral (Json.literalBody text) ↔ isQuotable text := by
    unfold Json.literalBody isLiteral isQuotable
    rw [List.all_flatMap, List.all_eq_true, List.all_eq_true]
    refine forall₂_congr fun c _ => (isLiteral_escapedChar_iff c).trans ?_
    simp
  rw [Json.toList_textLiteral, isLiteral_cons, isLiteral_append_iff, body]
  simp [isLiteral, isPlain]

/-- Texts can be joined inside of a literal string if each of them can stand in one. -/
theorem isLiteral_intercalate_iff {separator : String} (literal : isLiteral separator.toList)
    (texts : List String) :
    isLiteral (separator.intercalate texts).toList ↔ ∀ text ∈ texts, isLiteral text.toList := by
  rw [String.toList_intercalate]
  induction texts with
  | nil => simp [isLiteral]
  | cons text rest inductionHypothesis =>
    cases rest with
    | nil => simp
    | cons next others =>
      rw [List.forall_mem_cons, ← inductionHypothesis, List.map_cons, List.map_cons,
        List.intercalate_cons_cons, isLiteral_append_iff, isLiteral_append_iff]
      simp [literal]

/-! ### Conditions -/

theorem isLiteral_namespaceCondition_iff (namespaces : List String) :
    isLiteral (namespaceCondition namespaces).toList ↔ ∀ name ∈ namespaces, isQuotable name := by
  have start : isLiteral ".kubernetes.namespace_name == ".toList := by decide
  unfold namespaceCondition
  rw [isLiteral_intercalate_iff (by decide), List.forall_mem_map]
  refine forall₂_congr fun name _ => ?_
  show isLiteral (".kubernetes.namespace_name == " ++ Value.textLiteral name).toList ↔ _
  rw [String.toList_append, isLiteral_append_iff, isLiteral_textLiteral_iff, and_iff_right start]

theorem isLiteral_labelCondition_iff (labels : Dictionary String) :
    isLiteral (labelCondition labels).toList ↔
      ∀ entry ∈ labels.entries, isQuotable entry.1 ∧ isQuotable entry.2 := by
  have start : isLiteral ".kubernetes.labels.".toList := by decide
  have middle : isLiteral " == ".toList := by decide
  unfold labelCondition
  rw [isLiteral_intercalate_iff (by decide), List.forall_mem_map]
  refine forall₂_congr fun (key, value) _ => ?_
  show isLiteral (".kubernetes.labels." ++ Value.textLiteral key ++ " == " ++
    Value.textLiteral value).toList ↔ _
  simp only [String.toList_append, isLiteral_append_iff, isLiteral_textLiteral_iff, start, middle,
    true_and, and_true]

/-- Whether the texts that an application input asks for can stand in a condition. -/
def isQuotableInput (input : Input) : Bool :=
  input.namespaces.all isQuotable &&
    input.matchLabels.entries.all fun entry => isQuotable entry.1 && isQuotable entry.2

theorem isLiteral_selectorCondition_iff (input : Input) :
    isLiteral (selectorCondition input).toList ↔ isQuotableInput input := by
  have parts (condition : String) :
      isLiteral s!"({condition})".toList ↔ isLiteral condition.toList := by
    show isLiteral ("(" ++ condition ++ ")").toList ↔ _
    have opening : isLiteral "(".toList := by decide
    have closing : isLiteral ")".toList := by decide
    simp only [String.toList_append, isLiteral_append_iff, opening, closing, true_and, and_true]
  have nothing (condition : String) (empty : condition.isEmpty) : isLiteral condition.toList := by
    rw [String.isEmpty_iff.mp empty]
    rfl
  have given (condition : String) :
      (condition.isEmpty = false → isLiteral condition.toList) ↔ isLiteral condition.toList :=
    ⟨fun literal => (Bool.eq_false_or_eq_true _).elim (nothing condition) literal, fun h _ => h⟩
  unfold selectorCondition isQuotableInput
  rw [isLiteral_intercalate_iff (by decide), List.forall_mem_map]
  simp only [parts, List.mem_filter, Bool.not_eq_true', and_imp, List.forall_mem_cons,
    List.not_mem_nil, false_imp_iff, implies_true, and_true, given,
    isLiteral_namespaceCondition_iff, isLiteral_labelCondition_iff, Bool.and_eq_true,
    List.all_eq_true]

/-- The names of sources can all stand in a condition. -/
theorem isLiteral_sourceCondition (input : Input) :
    isLiteral (sourceCondition (sourceNames input)).toList := by
  have start : isLiteral ".log_source == ".toList := by decide
  have quotable : ∀ name ∈ sourceNames input, isQuotable name := by
    unfold sourceNames
    split
    · exact List.forall_mem_map.mpr fun source _ => by cases source <;> decide
    · exact List.forall_mem_map.mpr fun source _ => by cases source <;> decide
    · exact nofun
  unfold sourceCondition
  rw [isLiteral_intercalate_iff (by decide), List.forall_mem_map]
  intro name member
  show isLiteral (".log_source == " ++ Value.textLiteral name).toList
  rw [String.toList_append, isLiteral_append_iff, isLiteral_textLiteral_iff]
  exact ⟨start, quotable name member⟩

theorem isLiteral_quoteList_iff (texts : List String) :
    isLiteral (Template.quoteList texts).toList ↔ ∀ text ∈ texts, isQuotable text := by
  have opening : isLiteral "[".toList := by decide
  have closing : isLiteral "]".toList := by decide
  unfold Template.quoteList
  simp only [String.toList_append, isLiteral_append_iff, opening, closing, true_and, and_true]
  rw [isLiteral_intercalate_iff (by decide), List.forall_mem_map]
  exact forall₂_congr fun text _ => isLiteral_textLiteral_iff text

/-- The sources that records of a kind are sent from have to be such that they can be quoted. -/
theorem isLiteral_otlpBranch_iff (options : Options) (kind : LogKind) :
    isLiteral (Sink.otlpBranch options kind).condition.toList ↔
      ∀ sources ∈ options.otlpLogSources.get? kind.name, ∀ source ∈ sources, isQuotable source := by
  have ofKind : isLiteral (".log_type == " ++ Value.textLiteral kind.name).toList := by
    have quotable : isQuotable kind.name := by cases kind <;> decide
    rw [String.toList_append, isLiteral_append_iff, isLiteral_textLiteral_iff]
    exact ⟨by decide, quotable⟩
  have middle : isLiteral " && includes(".toList := by decide
  have ending : isLiteral ", .log_source)".toList := by decide
  unfold Sink.otlpBranch
  split
  · next sources given =>
    obtain ⟨found, _⟩ := Option.filter_eq_some_iff.mp given
    show isLiteral (".log_type == " ++ Value.textLiteral kind.name ++ " && includes(" ++
      Template.quoteList sources ++ ", .log_source)").toList ↔ _
    rw [String.toList_append, String.toList_append, String.toList_append]
    simp only [isLiteral_append_iff, isLiteral_quoteList_iff, middle, ending, and_true, found,
      Option.mem_some_iff, forall_eq']
    exact and_iff_right ofKind
  · next none =>
    refine iff_of_true ofKind fun sources found source member => ?_
    have empty := Option.filter_eq_none_iff.mp none sources found
    rw [Bool.not_eq_true', Bool.not_eq_false, List.isEmpty_iff] at empty
    rw [empty] at member
    cases member

/-! ### Transforms -/

/-- A configuration has a router for the application inputs that pipelines read. -/
theorem exists_selectorRouter {spec : Spec} {secrets : SecretStore} {options : Options}
    {arena : Arena} (built : build spec secrets options = .ok arena)
    (some : selectorInputs spec ≠ []) :
    ∃ router ∈ arena.elements, router ∈ selectorRouter spec ∧
      router.template = Templates.route.name := by
  obtain ⟨input, selects⟩ := List.exists_mem_of_ne_nil _ some
  have isRouter := mem_selectorRouter selects
  refine ⟨_, ?_, isRouter, rfl⟩
  exact present_of_build built _ (mem_upToPipelines_of_mem_streams
    (List.mem_append_left _ (List.mem_append_right _ isRouter)))

/-- The router of the application inputs can be embedded if all of its conditions can. -/
theorem isEmbeddable_selectorRouter_iff {spec : Spec} {router : Element}
    (member : router ∈ selectorRouter spec) :
    isEmbeddable router ↔ (∀ input ∈ selectorInputs spec, isQuotableInput input) ∧
      ((selectorInputs spec).map fun input => Name.componentId input.name).Nodup := by
  unfold selectorRouter at member
  simp only [List.mem_ite_nil_left, List.mem_singleton] at member
  obtain ⟨_, rfl⟩ := member
  rw [isEmbeddable_route_iff, List.forall_mem_map, List.map_map]
  refine and_congr (forall₂_congr fun input _ => ?_) Iff.rfl
  exact isLiteral_selectorCondition_iff input

theorem isEmbeddable_sourceFilter (input : Input) : isEmbeddable (sourceFilter input) :=
  (isEmbeddable_filter_iff _ _ _).mpr (isLiteral_sourceCondition input)

theorem isEmbeddable_rerouter_iff (sink : Sink) :
    isEmbeddable sink.rerouter ↔ (∀ kind ∈ sink.kinds,
      ∀ sources ∈ sink.options.otlpLogSources.get? kind.name, ∀ source ∈ sources,
        isQuotable source) ∧ sink.kinds.Nodup := by
  have names : (sink.kinds.map (Sink.otlpBranch sink.options)).map (·.name) =
      sink.kinds.map LogKind.name := by
    simp [Function.comp_def]
  unfold Sink.rerouter
  rw [isEmbeddable_route_iff, names, List.forall_mem_map,
    List.nodup_map_iff LogKind.name_injective]
  exact and_congr_left fun _ => forall₂_congr fun kind _ => isLiteral_otlpBranch_iff _ kind

end LogForwarder.Vector

/-! ### Configurations -/

namespace LogForwarder.Spec

/--
The block of a transform is read, by the rules of TOML, with the program or the conditions that it
was rendered from exactly if literal strings can hold these and its branches have different names.
-/
theorem isReadBack_iff_isEmbeddable (spec : Spec) (secrets : SecretStore) (options : Options)
    (clean : spec.problems secrets options .vector = []) {arena : Arena}
    (built : Vector.build spec.normalize secrets options = .ok arena) {engine : Template.Engine}
    (made : Vector.Templates.engine = .ok engine) {element : Element}
    (member : element ∈ arena.elements)
    (isTransform : element.template ∈ Vector.transformTemplates) :
    Vector.IsReadBack engine element ↔ Vector.isEmbeddable element :=
  Vector.isReadBack_iff_of_build (spec.isReady_normalize clean) built made member isTransform

/-- Records of some namespaces, on their way to an output. -/
def fromNamespaces (names : List String) : Spec where
  inputs := [⟨"people", some ⟨names, none⟩, none, none⟩]
  outputs := [{ Output.bare "web" .http with url? := some "https://[::1]" }]
  pipelines := [⟨some "all", ["people"], ["web"], ∅, none⟩]
  tuning := none

/-- A spec all of whose transforms are read back, whatever else their texts have in them. -/
theorem isReadBack_fromNamespaces :
    ∃ engine arena, Vector.Templates.engine = .ok engine ∧
      Vector.build (fromNamespaces ["shop", "\"it\""]).normalize ∅ .standard = .ok arena ∧
        ∃ router ∈ arena.elements, router.template = Vector.Templates.route.name ∧
          Vector.IsReadBack engine router := by
  have succeeds : (Vector.build (fromNamespaces ["shop", "\"it\""]).normalize ∅
      .standard).isOk := by
    decide
  obtain ⟨arena, built⟩ := exists_of_isOk succeeds
  obtain ⟨engine, made, _⟩ := Vector.exists_engine
  obtain ⟨router, member, isRouter, isRoute⟩ :=
    Vector.exists_selectorRouter built (by decide)
  refine ⟨engine, arena, made, built, router, member, isRoute, ?_⟩
  refine (isReadBack_iff_isEmbeddable (fromNamespaces _) ∅ .standard (by decide) built made
    member (by rw [isRoute]; decide)).mpr ?_
  rw [Vector.isEmbeddable_selectorRouter_iff isRouter]
  decide

theorem exists_not_isReadBack :
    (fromNamespaces ["o'brien"]).problems ∅ .standard .vector = [] ∧
      ∃ arena engine, Vector.build (fromNamespaces ["o'brien"]).normalize ∅ .standard =
          .ok arena ∧ Vector.Templates.engine = .ok engine ∧
          ∃ router ∈ arena.elements, router.template = Vector.Templates.route.name ∧
            ¬Vector.IsReadBack engine router := by
  have clean : (fromNamespaces ["o'brien"]).problems ∅ .standard .vector = [] := by decide
  have succeeds : (Vector.build (fromNamespaces ["o'brien"]).normalize ∅ .standard).isOk := by
    decide
  obtain ⟨arena, built⟩ := exists_of_isOk succeeds
  obtain ⟨engine, made, _⟩ := Vector.exists_engine
  obtain ⟨router, member, isRouter, isRoute⟩ :=
    Vector.exists_selectorRouter built (by decide)
  refine ⟨clean, arena, engine, built, made, router, member, isRoute, ?_⟩
  rw [Vector.isReadBack_iff_of_build (isReady_normalize _ clean) built made member
    (by rw [isRoute]; decide), Vector.isEmbeddable_selectorRouter_iff isRouter]
  decide

end LogForwarder.Spec
