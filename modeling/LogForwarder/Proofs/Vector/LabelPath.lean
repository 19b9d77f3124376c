/-
This file proves which labels of a stream are read from the path that they are meant to be. The
value of a label stands between double quotes as it is. Of a key that is partly quoted the quotes
are escaped, but nothing else is: the path is read back exactly if no character of the key itself
has to be escaped.
-/

import LogForwarder.Proofs.LabelName
import LogForwarder.Proofs.Vector.Rendering
import LogForwarder.Proofs.Vector.Transform

namespace LogForwarder

open Toml

/-! ### Paths between double quotes -/

namespace LabelKey

/-- Whether all characters of a key can stand between double quotes as they are. -/
def IsPlain (key : String) : Prop := ∀ c ∈ key.toList, StandsForItself c

instance (key : String) : Decidable (IsPlain key) :=
  inferInstanceAs (Decidable (∀ c ∈ key.toList, _))

/-- A key is its own path, or what follows a prefix is quoted. -/
inductive PathForm (key : String) : Prop
  | whole (isPath : ∀ quote, pathWith quote key = key)
  | quoted {start : String} {rest : List Char} (isPrefix : start ∈ quotedPrefixes)
      (split : key.toList = start.toList ++ rest)
      (isPath : ∀ quote, (pathWith quote key).toList =
        start.toList ++ (quote.toList ++ (rest.map stepChar ++ quote.toList)))

theorem pathForm (key : String) : PathForm key := by
  have isPath (quote : String) : pathWith quote key =
      ((quotedPrefixes.findSome? fun start =>
        (Text.afterStart? start key).map fun rest => (start, rest)).map fun found =>
          found.1 ++ quote ++ String.ofList (found.2.toList.map stepChar) ++ quote).getD key := by
    rw [List.map_findSome?]
    simp only [Option.map_map, Function.comp_def]
    rfl
  cases found : quotedPrefixes.findSome? fun start =>
      (Text.afterStart? start key).map fun rest => (start, rest) with
  | none => exact .whole fun quote => by rw [isPath, found]; rfl
  | some part =>
    obtain ⟨start, isPrefix, isPart⟩ := List.exists_of_findSome?_eq_some found
    obtain ⟨rest, isRest, rfl⟩ := Option.map_eq_some_iff.mp isPart
    unfold Text.afterStart? at isRest
    split at isRest
    · next begins =>
      obtain ⟨others, split⟩ := List.isPrefixOf_iff_prefix.mp begins
      rw [← split, List.drop_left] at isRest
      cases isRest
      refine .quoted isPrefix split.symm fun quote => ?_
      simp [isPath, found]
    · cases isRest

theorem standsForItself_stepChar (c : Char) :
    StandsForItself (stepChar c) ↔ StandsForItself c := by
  unfold stepChar
  split
  · next isMark =>
    rw [Bool.or_eq_true, decide_eq_true_eq, decide_eq_true_eq] at isMark
    rcases isMark with rfl | rfl <;> decide
  · rfl

theorem escapedCount_map_stepChar (chars : List Char) :
    escapedCount (chars.map stepChar) = escapedCount chars := by
  unfold escapedCount
  rw [List.countP_map]
  exact List.countP_congr fun c _ => by simp [standsForItself_stepChar]

/-- The prefixes of keys that are partly quoted can stand between double quotes. -/
theorem isPlain_of_mem_quotedPrefixes : ∀ start ∈ quotedPrefixes, IsPlain start := by
  decide

/-- A key is plain if nothing in its path has to be escaped but the quotes that are put there. -/
theorem isPlain_of_isInside {version : Version} {key : String} {before after : List Char}
    (isInside : IsInside version (before ++ ((escapedPath key).toList ++ after))
      (before ++ ((path key).toList ++ after))) : IsPlain key := by
  have short := isInside.length_le
  simp only [List.length_append, escapedCount_append] at short
  unfold IsPlain
  rw [← escapedCount_eq_zero_iff]
  cases pathForm key with
  | whole isPath =>
    rw [path, escapedPath, isPath, isPath] at short
    omega
  | quoted isPrefix split isPath =>
    have counts : escapedCount "\"".toList = 1 ∧ "\"".toList.length = 1 ∧
        "\\\"".toList.length = 2 := ⟨rfl, rfl, rfl⟩
    have inStart := (escapedCount_eq_zero_iff _).mpr (isPlain_of_mem_quotedPrefixes _ isPrefix)
    rw [path, escapedPath, isPath, isPath] at short
    simp only [List.length_append, escapedCount_append, List.length_map, counts,
      escapedCount_map_stepChar] at short
    rw [split, escapedCount_append]
    omega

/-- The path of a plain key stands between quotes once the quotes that are put there are escaped. -/
theorem isInside_escapedPath (version : Version) {key : String} (plain : IsPlain key) :
    IsInside version (escapedPath key).toList (path key).toList := by
  have quote : IsInside version "\\\"".toList "\"".toList :=
    .cons (Spells.letter '"' (by cases version <;> decide)) .nil
  unfold path escapedPath
  cases pathForm key with
  | whole isPath =>
    rw [isPath, isPath]
    exact isInside_of_standForThemselves version plain
  | @quoted start rest isPrefix split isPath =>
    unfold IsPlain at plain
    rw [split, List.forall_mem_append] at plain
    have step : ∀ c ∈ rest.map stepChar, StandsForItself c :=
      List.forall_mem_map.mpr fun c member => (standsForItself_stepChar c).mpr (plain.2 c member)
    rw [isPath, isPath]
    exact (isInside_of_standForThemselves version plain.1).append
      (quote.append ((isInside_of_standForThemselves version step).append quote))

/-- What stands around a path makes no difference, if it can stand between double quotes. -/
theorem isInside_escapedPath_iff (version : Version) (key : String) {before after : List Char}
    (beforePlain : ∀ c ∈ before, StandsForItself c)
    (afterPlain : ∀ c ∈ after, StandsForItself c) :
    IsInside version (before ++ ((escapedPath key).toList ++ after))
        (before ++ ((path key).toList ++ after)) ↔
      IsPlain key :=
  ⟨isPlain_of_isInside, fun plain =>
    (isInside_of_standForThemselves version beforePlain).append
      ((isInside_escapedPath version plain).append
        (isInside_of_standForThemselves version afterPlain))⟩

theorem isBasicString_escapedPath_iff (version : Version) (key : String) :
    IsBasicString version ("\"" ++ escapedPath key ++ "\"").toList (path key) ↔ IsPlain key := by
  have chars : ("\"" ++ escapedPath key ++ "\"").toList =
      '"' :: ((escapedPath key).toList ++ ['"']) := by
    simp
  have none : ∀ c ∈ ([] : List Char), StandsForItself c := nofun
  have isInside := isInside_escapedPath_iff version key none none
  rw [List.nil_append, List.nil_append, List.append_nil, List.append_nil] at isInside
  rw [chars, isBasicString_iff, isInside]

end LabelKey

/-! ### Labels of sinks -/

namespace Vector

/-- The value of a label between double quotes. -/
def quotedLabelValue (key : String) : String := "\"" ++ Sink.streamLabelValue key ++ "\""

/-- The line of a label, with a line break in front of it. -/
def labelLine (key : String) : String :=
  "\n" ++ (LabelKey.name key ++ (" = " ++ quotedLabelValue key))

/-- The block of labels with some keys. -/
def labelsBlock (table : String) (keys : List String) : String :=
  "[" ++ (table ++ (".labels]" ++ String.join (keys.map labelLine)))

/-- The line of a label as its template has it, with the line break behind it. -/
def renderedLine (key : String) : String :=
  LabelKey.name key ++ (" = \"" ++ (Sink.streamLabelValue key ++ "\"\n"))

/-- Lines are the same whether line breaks are counted to the lines before or behind them. -/
theorem toList_join_renderedLine (keys : List String) :
    '\n' :: (String.join (keys.map renderedLine)).toList =
      (String.join (keys.map labelLine)).toList ++ ['\n'] := by
  simp only [String.toList_join, List.flatMap_map]
  induction keys with
  | nil => rfl
  | cons key rest inductionHypothesis =>
    rw [List.flatMap_cons, List.flatMap_cons, List.append_assoc, ← inductionHypothesis]
    simp [renderedLine, labelLine, quotedLabelValue]

/-- A block ends with the quote of its last label, or with the bracket of its header. -/
theorem endsVisibly_labelsBlock (table : String) (keys : List String) :
    EndsVisibly (labelsBlock table keys) := by
  refine EndsVisibly.append (EndsVisibly.append ?_ _) _
  rcases List.eq_nil_or_concat keys with rfl | ⟨earlier, key, rfl⟩
  · exact ⟨".labels".toList, ']', rfl, by decide⟩
  · have quote : EndsVisibly (quotedLabelValue key) :=
      EndsVisibly.append ⟨[], '"', rfl, by decide⟩ _
    have line : EndsVisibly (labelLine key) := ((quote.append _).append _).append _
    have last : String.join ((earlier.concat key).map labelLine) =
        String.join (earlier.map labelLine) ++ labelLine key := by
      simp
    rw [last]
    exact (line.append _).append _

theorem trim_renderedLines (table : String) (keys : List String) :
    Text.trim ("[" ++ (table ++ (".labels]\n" ++ String.join (keys.map renderedLine)))) =
      labelsBlock table keys := by
  have broken : "[" ++ (table ++ (".labels]\n" ++ String.join (keys.map renderedLine))) =
      labelsBlock table keys ++ "\n" := by
    refine String.toList_inj.mp ?_
    simpa [labelsBlock] using toList_join_renderedLine keys
  have opens : ∃ rest, (labelsBlock table keys).toList = '[' :: rest := by
    rw [labelsBlock, String.toList_append]
    exact ⟨_, rfl⟩
  rw [broken, trim_block opens (endsVisibly_labelsBlock table keys)]

/-- The nodes of the template of labels. -/
def labelsNodes : List Template.Node :=
  [.text "[", .action [.mk (.dot ["table"]) []], .text ".labels]\n",
    .each [.mk (.dot ["labels"]) []]
      [.action [.mk (.dot ["name"]) []], .text " = \"", .action [.mk (.dot ["value"]) []],
        .text "\"\n"] []]

set_option maxRecDepth 20000 in
theorem read_labels : Template.read Templates.labels.text = .ok labelsNodes :=
  Template.read_braced (by decide +kernel)

section

open Template

variable {includer : Includer} {root : Value}

theorem renderNodes_label (key : String) :
    renderNodes
        ⟨includer, Sink.streamLabelParam (LabelKey.name key, Sink.streamLabelValue key), root⟩
        [.action [.mk (.dot ["name"]) []], .text " = \"", .action [.mk (.dot ["value"]) []],
          .text "\"\n"] =
      .ok (renderedLine key) := by
  have isName : (Sink.streamLabelParam (LabelKey.name key, Sink.streamLabelValue key)).field
      "name" = .text (LabelKey.name key) := by
    rw [Sink.streamLabelParam, Value.field_ofEntries]
    rfl
  have isValue : (Sink.streamLabelParam (LabelKey.name key, Sink.streamLabelValue key)).field
      "value" = .text (Sink.streamLabelValue key) := by
    rw [Sink.streamLabelParam, Value.field_ofEntries]
    rfl
  exact renderNodes_cons (render_field isName) (renderNodes_cons (render_text _ _)
    (renderNodes_cons (render_field isValue) (renderNodes_one (render_text _ _))))

/-- The block of labels is rendered line by line. -/
theorem renderBlock_labels {engine : Engine} (made : Templates.engine = .ok engine)
    (owner table : String) (keys : List String) {params : Params}
    (isTable : (Value.object params).field "table" = .text table)
    (isLabels : (Value.object params).field "labels" = .list (keys.map fun key =>
      Sink.streamLabelParam (LabelKey.name key, Sink.streamLabelValue key))) :
    renderBlock engine owner Templates.labels.name params = .ok (labelsBlock table keys) := by
  have rendered : renderNodes ⟨engine.render, .object params, .object params⟩ labelsNodes =
      .ok ("[" ++ (table ++ (".labels]\n" ++ String.join (keys.map renderedLine)))) :=
    renderNodes_cons (render_text _ _) (renderNodes_cons (render_field isTable)
      (renderNodes_cons (render_text _ _) (renderNodes_one (render_each isLabels fun key _ =>
        renderNodes_label key))))
  rw [renderBlock_eq made (by simp [Templates.all]) read_labels rendered, trim_renderedLines]

end

namespace Sink

theorem parts_subset_finish (sink : Sink) (extras : Extras) (element : Element) :
    element.parts ⊆ (sink.finish extras element).parts := by
  obtain ⟨added, parts, _⟩ := sink.exists_parts_finish extras element
  exact parts ▸ List.subset_append_left _ _

/-- The sink of a loki output has a part that is rendered as the labels of its keys. -/
theorem exists_labels_part {engine : Template.Engine} (made : Templates.engine = .ok engine)
    (sink : Sink) :
    ∃ element ∈ sink.lokiChain, ∃ part ∈ element.parts, ∀ owner,
      renderBlock engine owner part.template part.params =
        .ok (labelsBlock sink.table (LabelKey.ofLoki sink.output.loki)) := by
  unfold lokiChain
  refine ⟨_, List.mem_cons_of_mem _ (List.mem_singleton_self _), _,
    parts_subset_finish _ _ _ (List.mem_append_right _ (List.mem_singleton_self _)), fun owner =>
      renderBlock_labels made owner _ _ ?_ ?_⟩
  · rw [field_withParam, if_neg (by decide), field_sortedParams]
    rfl
  · rw [field_withParam, if_neg (by decide), field_sortedParams]
    show Value.list ((streamLabels sink.output.loki).map streamLabelParam) = _
    rw [streamLabels, List.map_map]
    rfl

end Sink

/-- The value of a label other than that of the node is the path of its key between braces. -/
theorem isBasicString_quotedLabelValue_iff (version : Version) {key : String}
    (notHost : key ≠ LabelKey.host) :
    IsBasicString version (quotedLabelValue key).toList
      (Sink.fieldReference (LabelKey.path key)) ↔ LabelKey.IsPlain key := by
  have opening : ∀ c ∈ "\x7b\x7b".toList, StandsForItself c := by decide
  have closing : ∀ c ∈ "\x7d\x7d".toList, StandsForItself c := by decide
  have chars : (quotedLabelValue key).toList =
      '"' :: (("\x7b\x7b".toList ++ ((LabelKey.escapedPath key).toList ++ "\x7d\x7d".toList)) ++
        ['"']) := by
    simp [quotedLabelValue, Sink.streamLabelValue, notHost, Sink.fieldReference]
  have path : (Sink.fieldReference (LabelKey.path key)).toList =
      "\x7b\x7b".toList ++ ((LabelKey.path key).toList ++ "\x7d\x7d".toList) := by
    simp [Sink.fieldReference]
  rw [chars, isBasicString_iff, path]
  exact LabelKey.isInside_escapedPath_iff version key opening closing

/--
The path of a key is read from where it stands between double quotes exactly if the key is plain. So
is the path between braces from the line of a label, in the block of a sink's labels, except for the
label of the node.
-/
theorem reads_paths_iff_isPlain {engine : Template.Engine} (made : Templates.engine = .ok engine)
    (sink : Sink) (version : Version) :
    (∀ key, IsBasicString version ("\"" ++ LabelKey.escapedPath key ++ "\"").toList
      (LabelKey.path key) ↔ LabelKey.IsPlain key) ∧
    (∃ element ∈ sink.lokiChain, ∃ part ∈ element.parts, ∀ owner,
      renderBlock engine owner part.template part.params =
        .ok (labelsBlock sink.table (LabelKey.ofLoki sink.output.loki))) ∧
    ∀ key ≠ LabelKey.host, IsBasicString version (quotedLabelValue key).toList
      (Sink.fieldReference (LabelKey.path key)) ↔ LabelKey.IsPlain key :=
  ⟨LabelKey.isBasicString_escapedPath_iff version, sink.exists_labels_part made,
    fun _ notHost => isBasicString_quotedLabelValue_iff version notHost⟩

/-- Labels of pods are plain, and their quoted paths are read back. -/
theorem reads_paths_podLabels :
    let keys := ["level", "kubernetes.labels.app/name"]
    let sink := Sink.ofOutput (.toStreams keys) ∅ .standard (.withStreamKeys keys)
    ∃ engine, Templates.engine = .ok engine ∧
      (∃ element ∈ sink.lokiChain, ∃ part ∈ element.parts, ∀ owner,
        renderBlock engine owner part.template part.params =
          .ok (labelsBlock sink.table (LabelKey.ofLoki sink.output.loki))) ∧
      ∀ key ∈ keys, ∀ version, IsBasicString version (quotedLabelValue key).toList
        (Sink.fieldReference (LabelKey.path key)) := by
  intro keys sink
  obtain ⟨engine, made, _⟩ := exists_engine
  have plain : ∀ key ∈ keys, LabelKey.IsPlain key := by decide
  have notHost : ∀ key ∈ keys, key ≠ LabelKey.host := by decide
  have reads (version : Version) := reads_paths_iff_isPlain made sink version
  exact ⟨engine, made, (reads .v1_0).2.1, fun key member version =>
    ((reads version).2.2 key (notHost key member)).mpr (plain key member)⟩

/--
A proper spec may have a key with a backslash, which is neither escaped nor refused. What is read is
another path.
-/
theorem not_reads_path_backslash :
    let key := "a\\b"
    (∀ dialect, (Spec.toStreams [key]).problems ∅ .standard dialect = []) ∧
    ∀ version,
      ¬ IsBasicString version ("\"" ++ LabelKey.escapedPath key ++ "\"").toList
        (LabelKey.path key) ∧
      ¬ IsBasicString version (quotedLabelValue key).toList
        (Sink.fieldReference (LabelKey.path key)) ∧
      IsBasicString version ("\"" ++ LabelKey.escapedPath key ++ "\"").toList "a\x08" := by
  intro key
  have notPlain : ¬ LabelKey.IsPlain key := by decide
  have notHost : key ≠ LabelKey.host := by decide
  refine ⟨fun dialect => ?_, fun version => ⟨?_, ?_, ?_⟩⟩
  · cases dialect <;> decide
  · rwa [LabelKey.isBasicString_escapedPath_iff]
  · rwa [isBasicString_quotedLabelValue_iff version notHost]
  · exact ⟨['a', '\\', 'b'], by decide, .cons (.plain (by decide))
      (.cons (Spells.letter 'b' (by cases version <;> decide)) .nil)⟩

end Vector

end LogForwarder
