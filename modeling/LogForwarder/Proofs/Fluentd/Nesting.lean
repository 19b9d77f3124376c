/-
This file proves that a configuration in the fluentd dialect is a file of sections, and that it has
the tags of its outline, as long as the texts of the spec stay in their places: names and what else
stands in tags neither end them nor leave their lines, and other texts do not leave their lines. Normal
forms keep that. It has to be asked for: texts are written as they are given, so that a line break
in a name is enough for a section of its own.
-/

import LogForwarder.Proofs.Case
import LogForwarder.Proofs.Clean
import LogForwarder.Proofs.Fluentd.Compile
import LogForwarder.Proofs.Fluentd.StorePlacing

namespace LogForwarder

/-! ### Names -/

theorem InTag.label {name : String} (inTag : InTag name) : InTag (Name.label name) where
  left member := inTag.1 (Name.mem_of_mem_label (by decide) member)
  right member := inTag.2 (Name.mem_of_mem_label (by decide) member)

theorem InTag.storeId {name : String} (inTag : InTag name) : InTag (Name.storeId name) where
  left member := inTag.1 (Name.mem_of_mem_storeId (by decide) member)
  right member := inTag.2 (Name.mem_of_mem_storeId (by decide) member)

theorem InTag.tenantName {name : String} (inTag : InTag name) (kind : LogKind) :
    InTag (LogForwarder.tenantName name kind) := by
  have kindInTag : InTag kind.name := by cases kind <;> decide
  unfold LogForwarder.tenantName
  simp only [inTag_append_iff]
  exact ⟨⟨inTag, by decide⟩, kindInTag⟩

/-! ### Specs whose texts stay in place -/

/-- The texts that records are selected by. -/
def Input.selectorTexts (input : Input) : List String :=
  input.namespaces ++ input.matchLabels.entries.flatMap fun (key, value) => [key, value]

/-- Whether all texts of a spec that are written as they are given stay in their places. -/
structure Spec.StaysInPlace (spec : Spec) : Prop where
  inputs : ∀ input ∈ spec.inputs, ∀ text ∈ input.selectorTexts, OneLine text
  outputs : ∀ output ∈ spec.outputs, output.StaysInPlace
  pipelines : ∀ pipeline ∈ spec.pipelines, InTag pipeline.name

instance (spec : Spec) : Decidable spec.StaysInPlace :=
  decidable_of_iff ((∀ input ∈ spec.inputs, ∀ text ∈ input.selectorTexts, OneLine text) ∧
      (∀ output ∈ spec.outputs, output.StaysInPlace) ∧
      ∀ pipeline ∈ spec.pipelines, InTag pipeline.name)
    ⟨fun ⟨inputs, outputs, pipelines⟩ => ⟨inputs, outputs, pipelines⟩,
      fun stays => ⟨stays.inputs, stays.outputs, stays.pipelines⟩⟩

/-- Secrets show nothing but texts on their lines if all their values are such texts. -/
theorem SecretStore.showsOneLine_of_forall {secrets : SecretStore}
    (each : ∀ secret ∈ secrets.entries, ∀ entry ∈ secret.2.entries,
      ∀ value ∈ Secret.textOf? entry.2, OneLine value) : secrets.ShowsOneLine := by
  intro name key _ value found
  obtain ⟨bytes, areBytes, isValue⟩ := Option.bind_eq_some_iff.mp found
  obtain ⟨secret, isSecret, areBytes⟩ := Option.bind_eq_some_iff.mp areBytes
  obtain ⟨before, after, split, _⟩ := List.lookup_eq_some_iff.mp isSecret
  obtain ⟨beforeKey, afterKey, splitKeys, _⟩ := List.lookup_eq_some_iff.mp areBytes
  exact each (name, secret) (by simp [split]) (key, bytes) (by simp [splitKeys]) value isValue

/-! ### Normal forms -/

/-- The tenants of a stack stay in place if the stack does. -/
theorem Output.StaysInPlace.tenantOutput {output : Output} (stays : output.StaysInPlace)
    {stack : LokiStackSection} (expands : output.expandable? = some stack) (kind : LogKind) :
    (output.tenantOutput stack kind).StaysInPlace := by
  obtain ⟨type, isStack, _⟩ := (output.expandable?_eq_some_iff stack).mp expands
  have secret : ∀ text ∈ output.secretName.toList, OneLine text := fun text member =>
    stays.lines text (List.mem_append_left _ member)
  have target : OneLine stack.target.name ∧ OneLine stack.target.namespaceName := by
    have texts : ∀ text ∈ [stack.target.name, stack.target.namespaceName], OneLine text := by
      intro text member
      refine stays.lines text (List.mem_append_right _ ?_)
      rw [type, isStack]
      exact member
    exact ⟨texts _ (by simp), texts _ (by simp)⟩
  have kindOnLine : OneLine kind.name := by cases kind <;> decide
  have urlOnLine : OneLine (stack.tenantUrl kind) := by
    unfold LokiStackSection.tenantUrl
    simp only [oneLine_append_iff]
    exact ⟨⟨⟨⟨⟨by decide, target.1⟩, by decide⟩, target.2⟩, by decide⟩, by decide, kindOnLine⟩
  have keys : ∀ key ∈ stack.tenantLabelKeys kind, BeginsNoTag key := by
    have standard : ∀ key ∈ LabelKey.defaults, BeginsNoTag key := by decide
    have given : ∀ key ∈ output.streamKeys, BeginsNoTag key := stays.keys
    unfold Output.streamKeys at given
    simp only [type, isStack, Option.getD_some, List.mem_append, List.mem_flatMap] at given
    intro key member
    unfold LokiStackSection.tenantLabelKeys at member
    split at member
    · cases member
    · next keys named =>
      rw [named, Option.getD_some] at given
      split at member
      · exact given key (.inl ((mem_sortedTexts _ key).mp member))
      · next tenant isTenant =>
        have own (isOwn : key ∈ tenant.labelKeys) : BeginsNoTag key := by
          refine given key (.inr ⟨kind, LogKind.mem_all kind, ?_⟩)
          rw [isTenant]
          exact isOwn
        split at member
        · exact own ((mem_sortedTexts _ key).mp member)
        · rcases List.mem_append.mp ((mem_sortedTexts _ key).mp member) with shared | isOwn
          · split at shared
            · exact standard key shared
            · exact given key (.inl shared)
          · exact own isOwn
  have name := stays.name.tenantName kind
  unfold Output.tenantOutput
  cases stack.dataModel with
  | viaq =>
    refine ⟨name, fun text member => ?_, keys, nofun⟩
    rcases List.mem_append.mp member with isSecret | isUrl
    · exact secret text isSecret
    · exact List.mem_singleton.mp isUrl ▸ urlOnLine
  | otel =>
    refine ⟨name, fun text member => ?_, fun _ absurdity => absurd absurdity List.not_mem_nil, nofun⟩
    rcases List.mem_append.mp member with isSecret | absurdity
    · exact secret text isSecret
    · exact absurd absurdity List.not_mem_nil

theorem inTag_toString (value : Nat) : InTag (toString value) := by
  have written : toString value = String.ofList (Nat.toDigits 10 value) :=
    Nat.toString_eq_ofList_toDigits
  refine ⟨oneLine_toString value, fun member => ?_⟩
  rw [written, String.toList_ofList] at member
  exact absurd (Text.isDigit_of_mem_toDigits member) (by decide)

/-- A part of a pipeline has the name of the pipeline, which may be followed by a kind. -/
theorem Spec.name_of_mem_splitPipeline (spec : Spec) {pipeline part : Pipeline}
    (isPart : part ∈ spec.splitPipeline spec.stackNames pipeline) :
    part.name = pipeline.name ∨ ∃ kind, part.name = tenantName pipeline.name kind := by
  have splits (isFirst : Bool) (group : RefGroup) :
      (splitPart spec.stackNames pipeline isFirst group).name = pipeline.name ∨
        ∃ kind, (splitPart spec.stackNames pipeline isFirst group).name =
          tenantName pipeline.name kind := by
    unfold splitPart Pipeline.name
    split
    · next kind _ => exact .inr ⟨kind, rfl⟩
    · exact .inl rfl
  unfold splitPipeline at isPart
  split at isPart
  · split at isPart
    · exact absurd isPart List.not_mem_nil
    · next first others _ =>
      rcases List.mem_cons.mp isPart with rfl | later
      · exact splits true first
      · obtain ⟨group, _, rfl⟩ := List.mem_map.mp later
        exact splits false group
  · exact .inl (List.mem_singleton.mp isPart ▸ rfl)

namespace Spec.StaysInPlace

variable {spec : Spec} (stays : spec.StaysInPlace)

include stays

theorem tidied : spec.tidied.StaysInPlace where
  inputs := stays.inputs
  outputs := stays.outputs
  pipelines := by
    intro pipeline member
    obtain ⟨position, bound, rfl⟩ := List.mem_mapIdx.mp member
    show InTag (spec.pipelines[position].named position).name
    unfold Pipeline.named
    split
    · show InTag ("pipeline_" ++ toString position)
      exact (inTag_append_iff _ _).mpr ⟨by decide, inTag_toString position⟩
    · exact stays.pipelines _ (List.getElem_mem bound)

theorem expandStacks : spec.expandStacks.StaysInPlace where
  inputs := stays.inputs
  outputs := by
    intro output member
    rcases (spec.mem_outputs_expandStacks output).mp member with
      ⟨declared, _⟩ | ⟨stack, settings, kind, found, expands, _, rfl⟩
    · exact stays.outputs output declared
    · exact (stays.outputs stack (List.mem_of_find?_eq_some found)).tenantOutput expands kind
  pipelines := by
    intro part member
    obtain ⟨pipeline, declared, isPart⟩ := (spec.mem_pipelines_expandStacks part).mp member
    have inTag := stays.pipelines pipeline declared
    rcases spec.name_of_mem_splitPipeline isPart with same | ⟨kind, named⟩
    · exact same ▸ inTag
    · exact named ▸ inTag.tenantName kind

theorem normalize : spec.normalize.StaysInPlace := stays.tidied.expandStacks

end Spec.StaysInPlace

/-! ### Elements -/

namespace Fluentd

variable {spec : Spec} {secrets : SecretStore} {options : Options} {arena : Arena}

/-- An input whose selector has to be met is one of the spec. -/
theorem mem_inputs_of_selector? {reference : String} {reading : Reading}
    (isReading : readingOf? spec reference = some reading) {input : Input}
    (selects : reading.selector? = some input) : input ∈ spec.inputs := by
  unfold readingOf? at isReading
  split at isReading
  · cases isReading
    cases selects
  · obtain ⟨found, isFound, isReading⟩ := Option.bind_eq_some_iff.mp isReading
    obtain ⟨kind, _, isReading⟩ := Option.bind_eq_some_iff.mp isReading
    cases isReading
    dsimp only at selects
    split at selects
    · exact Option.some.inj selects ▸ List.mem_of_find?_eq_some isFound
    · cases selects

theorem isOneLine_ofKind (stays : spec.StaysInPlace) (kind : LogKind) :
    (KindRoute.ofKind spec options kind).IsOneLine := by
  have ofPipelines : ∀ entry ∈ (readings spec).filter (·.2.kind = kind), OneLine entry.1 ∧
      ∀ input, entry.2.selector? = some input → input ∈ spec.inputs := by
    intro entry member
    obtain ⟨pipeline, declared, isReading⟩ := List.mem_flatMap.mp (List.mem_filter.mp member).1
    obtain ⟨reading, inReadings, rfl⟩ := List.mem_map.mp isReading
    obtain ⟨reference, _, isReading⟩ := List.mem_filterMap.mp inReadings
    exact ⟨(stays.pipelines pipeline declared).label.1, fun input selects =>
      mem_inputs_of_selector? isReading selects⟩
  refine ⟨fun target member => ?_, fun target member => ?_, fun selection member => ?_⟩
  · obtain ⟨entry, isEntry, rfl⟩ := List.mem_map.mp (List.mem_eraseDups.mp member)
    exact (ofPipelines entry (List.mem_filter.mp isEntry).1).1
  · have legacy : ∀ target ∈ [Label.legacySecureForward, Label.legacySyslog], OneLine target := by
      decide
    refine legacy target ?_
    simp only [KindRoute.ofKind, legacyTargets, List.mem_append, List.mem_ite_nil_right,
      List.mem_singleton] at member
    rcases member with ⟨_, rfl⟩ | ⟨_, rfl⟩ <;> simp
  · obtain ⟨entry, isEntry, selects⟩ := List.mem_filterMap.mp member
    obtain ⟨input, isInput, rfl⟩ := Option.map_eq_some_iff.mp selects
    have texts := stays.inputs input ((ofPipelines entry isEntry).2 input isInput)
    refine ⟨fun text isText => texts text (List.mem_append_left _ isText), fun text isText => ?_,
      (ofPipelines entry isEntry).1⟩
    obtain ⟨label, isLabel, rfl⟩ := List.mem_map.mp isText
    have parts : ∀ part ∈ [label.1, label.2], OneLine part := fun part isPart =>
      texts part (List.mem_append_right _ (List.mem_flatMap.mpr ⟨label, isLabel, isPart⟩))
    have key := parts label.1 (by simp)
    have value := parts label.2 (by simp)
    simp only [oneLine_append_iff]
    exact ⟨⟨key, by decide⟩, value⟩

theorem isPlaced_pipelineLabel (stays : spec.StaysInPlace) (clean : spec.IsClean)
    {pipeline : Pipeline} (declared : pipeline ∈ spec.pipelines) :
    IsPlaced (pipelineLabel spec (Routing.ofSpec spec options) options pipeline) := by
  have inTag := stays.pipelines pipeline declared
  have targets : ∀ target ∈ (if options.debug then [] else pipeline.outputRefs.map Name.label),
      OneLine target := by
    intro target member
    split at member
    · exact absurd member List.not_mem_nil
    · obtain ⟨reference, leads, rfl⟩ := List.mem_map.mp member
      obtain ⟨output, isOutput, rfl⟩ := clean.exists_output declared leads
      exact (stays.outputs output isOutput).name.label.1
  have inputs : ∀ reading, OneLine ((Routing.ofSpec spec options).labelOf reading) := by
    intro reading
    unfold Routing.labelOf
    split
    · decide
    · exact (inTag_ofKind reading.kind).1
  refine isPlaced_create (by decide) inTag.label (fun input isInput => ?_) ?_
  · obtain ⟨reading, _, rfl⟩ := List.mem_map.mp (List.mem_eraseDups.mp isInput)
    exact inputs reading
  · simp [Content.field, inTag.1, holds_fanParam true targets, oneLine_compact_ofDictionary]

theorem isPlaced_of_mem_legacyElements {element : Element}
    (member : element ∈ legacyElements (Routing.ofSpec spec options) options) :
    IsPlaced element := by
  have inputs : ∀ input ∈ (Routing.ofSpec spec options).kindLabels, OneLine input := by
    intro input isInput
    obtain ⟨route, _, rfl⟩ := List.mem_map.mp isInput
    exact (inTag_ofKind route.kind).1
  unfold legacyElements at member
  simp only [List.mem_append, List.mem_ite_nil_right, List.mem_singleton] at member
  rcases member with ⟨_, rfl⟩ | ⟨_, rfl⟩
  · refine isPlaced_create (by decide) (by decide) inputs ?_
    simp [Content.field]
    decide
  · refine isPlaced_create (by decide) (by decide) inputs ?_
    simp [Content.field]
    decide

theorem isPlaced_of_mem_upToPipelines (stays : spec.StaysInPlace) (clean : spec.IsClean)
    (ciphers : ∀ cipher ∈ options.ciphers, OneLine cipher) {element : Element}
    (member : element ∈ upToPipelines spec options) : IsPlaced element := by
  unfold upToPipelines ingress kindElements at member
  simp only [List.mem_append, List.mem_cons, List.not_mem_nil, or_false, List.mem_ite_nil_right,
    List.mem_flatMap] at member
  rcases member with ((((rfl | rfl) | isSource) | ⟨_, rfl⟩ | rfl) | ⟨route, isRoute, isLabel⟩) |
    isPipeline
  · exact isPlaced_header
  · exact isPlaced_metrics ciphers
  · exact isPlaced_of_mem_sources isSource
  · exact isPlaced_concatLabel
  · exact isPlaced_ingressLabel _
  · obtain ⟨kind, _, rfl⟩ := List.mem_map.mp (List.mem_filter.mp isRoute).1
    have route : (KindRoute.ofKind spec options kind).IsOneLine := isOneLine_ofKind stays kind
    rcases isLabel with rfl | ⟨_, rfl⟩
    · exact route.isPlaced_label
    · exact route.isPlaced_fallbackLabel
  · obtain ⟨pipeline, declared, rfl⟩ := List.mem_map.mp isPipeline
    exact isPlaced_pipelineLabel stays clean declared

theorem isPlaced_ofOutput (stays : spec.StaysInPlace)
    (ciphers : ∀ cipher ∈ options.ciphers, OneLine cipher) (shows : secrets.ShowsOneLine)
    {output : Output} (declared : output ∈ spec.outputs) :
    (Store.ofOutput spec secrets options output).IsPlaced where
  output := stays.outputs output declared
  id := (stays.outputs output declared).name.label
  storeId := (stays.outputs output declared).name.storeId
  inputs := by
    intro input isInput
    obtain ⟨name, isName, rfl⟩ := List.mem_map.mp isInput
    obtain ⟨pipeline, isPipeline, _, rfl⟩ := (spec.mem_pipelinesFor output.name name).mp isName
    exact (stays.pipelines pipeline isPipeline).label.1
  ciphers := ciphers
  secrets := shows

/-- All elements of a configuration are placed. -/
theorem isPlaced_of_build (stays : spec.StaysInPlace) (clean : spec.IsClean)
    (ciphers : ∀ cipher ∈ options.ciphers, OneLine cipher) (shows : secrets.ShowsOneLine)
    (built : build spec secrets options = .ok arena) :
    ∀ element ∈ arena.elements, IsPlaced element := by
  intro element member
  rcases mem_cases_of_build built member with upToPipelines | ⟨output, isShown, made⟩ | legacy
  · exact isPlaced_of_mem_upToPipelines stays clean ciphers upToPipelines
  · have declared := (clean.sublist_shownOutputs options).subset isShown
    exact (isPlaced_ofOutput stays ciphers shows declared).isPlaced_outputLabel made
  · exact isPlaced_of_mem_legacyElements legacy

end Fluentd

namespace Spec

open Fluentd

/-- A text comes from a configuration of a spec without problems. -/
theorem exists_of_compile_fluentd {spec : Spec} {secrets : SecretStore} {options : Options}
    {text : String} (compiled : spec.compile secrets options .fluentd = .ok text) :
    spec.problems secrets options .fluentd = [] ∧
      ∃ arena engine, Fluentd.build spec.normalize secrets options = .ok arena ∧
        Templates.engine = .ok engine ∧ arena.text engine = .ok text := by
  unfold compile at compiled
  split at compiled
  · cases compiled
  · next clean =>
    obtain ⟨arena, built, compiled⟩ := exists_of_bind_eq_ok compiled
    obtain ⟨engine, made, written⟩ := exists_of_bind_eq_ok compiled
    exact ⟨clean, arena, engine, built, mapError_eq_ok_iff.mp made, written⟩

/--
If all texts stay in their places, then a configuration is a file of sections that nest, and its
sections are those of its outline, in which a placeholder stands for every text of the spec.
-/
theorem isSectionFile_of_compile (spec : Spec) (secrets : SecretStore) (options : Options)
    (stays : spec.StaysInPlace) (ciphers : ∀ cipher ∈ options.ciphers, OneLine cipher)
    (shows : secrets.ShowsOneLine) {text : String}
    (compiled : spec.compile secrets options .fluentd = .ok text) :
    IsSectionFile text ∧ ∃ arena engine outline,
      Fluentd.build spec.normalize secrets options = .ok arena ∧
        Templates.engine = .ok engine ∧ arena.text engine = .ok text ∧
          arena.text engine.outline = .ok outline ∧ tagsIn text = tagsIn outline := by
  obtain ⟨clean, arena, engine, built, made, written⟩ := exists_of_compile_fluentd compiled
  have placed := isPlaced_of_build stays.normalize (spec.isReady_normalize clean).clean ciphers
    shows built
  obtain ⟨outline, isOutline, sameTags, isFile⟩ := exists_outline_text made placed written
  exact ⟨isFile, arena, engine, outline, built, made, written, isOutline, sameTags⟩

theorem isSectionFile_storesOfManyTypes :
    ∃ text, storesOfManyTypes.compile roleSecret .standard .fluentd = .ok text ∧
      IsSectionFile text ∧ ∃ arena engine outline,
        Fluentd.build storesOfManyTypes.normalize roleSecret .standard = .ok arena ∧
          Templates.engine = .ok engine ∧ arena.text engine = .ok text ∧
            arena.text engine.outline = .ok outline ∧ tagsIn text = tagsIn outline := by
  obtain ⟨arena, built⟩ := exists_fluentd_build clean_storesOfManyTypes
  obtain ⟨text, compiled⟩ := exists_compile_of_fluentd_build clean_storesOfManyTypes built
  exact ⟨text, compiled, isSectionFile_of_compile storesOfManyTypes roleSecret .standard
    (by decide) (by decide) (SecretStore.showsOneLine_of_forall (by decide))
    compiled⟩

end Spec

/-! ### Texts that leave their places -/

namespace Fluentd

open Template

/-- Whether a node writes what a path leads to. -/
def writes (path : List String) : Node → Bool
  | .action [.mk (.dot other) []] => other = path
  | _ => false

theorem writes_mapTexts {path : List String} (textOf : String → String) {node : Node}
    (isWritten : writes path node) : writes path (node.mapTexts textOf) := by
  unfold writes at isWritten
  split at isWritten
  · rw [Node.mapTexts]
    exact isWritten
  · cases isWritten

/-- A node of a template, whose text has brackets for braces, may write what a path leads to. -/
theorem exists_read_of_writes {name : String} {path : List String} {chars : List Char}
    (isWritten : testText (fun _ nodes => nodes.any (writes path)) chars) :
    ∃ nodes, Template.read (Source.braced name (String.ofList chars)).text = .ok nodes ∧
      ∃ node ∈ nodes, writes path node := by
  obtain ⟨charsOf, nodes, isRead, present⟩ := exists_read_of_testText name isWritten
  obtain ⟨node, member, writesPath⟩ := List.any_eq_true.mp present
  refine ⟨_, isRead, node.mapTexts (String.ofList ∘ charsOf), ?_, writes_mapTexts _ writesPath⟩
  rw [mapTextsOf_eq_map]
  exact List.mem_map_of_mem member

/-- What nodes are rendered as has in it what each of them is rendered as. -/
theorem exists_append_of_renderNodes {context : Context} {nodes : List Node} {node : Node}
    (member : node ∈ nodes) {text : String} (rendered : renderNodes context nodes = .ok text) :
    ∃ before part after, node.render context = .ok part ∧ text = before ++ part ++ after := by
  obtain ⟨above, below, rfl⟩ := List.append_of_mem member
  obtain ⟨before, _, _, fromNode, rfl⟩ := exists_of_renderNodes_append rendered
  obtain ⟨part, after, isPart, _, rfl⟩ :=
    exists_of_renderNodes_append (show renderNodes _ ([node] ++ below) = _ from fromNode)
  exact ⟨before, part, after, render_of_renderNodes_one isPart, String.append_assoc.symm⟩

/-- A node writes what its path leads to as it is. -/
theorem render_of_writes {path : List String} {node : Node} (isWritten : writes path node)
    {context : Context} {value : Value} (found : followPath context.dot path = .ok value) :
    node.render context = .ok value.plainText := by
  unfold writes at isWritten
  split at isWritten
  · rw [of_decide_eq_true isWritten]
    simp [Node.render, evaluate, evaluateCommands, Command.evaluate, Operand.evaluate, found, bind,
      Except.bind, pure, Except.pure]
  · cases isWritten

/-- What an element's template writes as it is given stands in the text of the configuration. -/
theorem exists_tags_of_writes {engine : Engine} (made : Templates.engine = .ok engine)
    {arena : Arena} {text : String} (written : arena.text engine = .ok text) {element : Element}
    (member : element ∈ arena.elements) {source : Source} (isSource : source ∈ Templates.all)
    (named : element.template = source.name) {path : List String}
    (writesPath : ∃ nodes, Template.read source.text = .ok nodes ∧
      ∃ node ∈ nodes, writes path node)
    {value : Value} (found : followPath (.object element.params) path = .ok value) :
    ∃ tags before after moreTags,
      tagsIn text = tags ++ tagsIn (before ++ value.plainText ++ after) ++ moreTags := by
  obtain ⟨nodes, isRead, node, isNode, isWritten⟩ := writesPath
  have renders := Engine.render_eq made isSource isRead
  unfold Arena.text at written
  obtain ⟨blocks, areBlocks, written⟩ := exists_of_bind_eq_ok written
  cases written
  obtain ⟨own, isOwn, rendered⟩ := exists_of_mem_forall₂ (mapM_eq_ok_iff.mp areBlocks) member
  unfold Element.blocks at rendered
  obtain ⟨block, isBlock, rendered⟩ := exists_of_bind_eq_ok rendered
  obtain ⟨parts, _, rendered⟩ := exists_of_bind_eq_ok rendered
  cases rendered
  unfold renderBlock at isBlock
  rw [named, renders] at isBlock
  split at isBlock
  · next whole isWhole =>
    cases isBlock
    obtain ⟨before, part, after, isPart, rfl⟩ :=
      exists_append_of_renderNodes isNode (mapError_eq_ok_iff.mp isWhole)
    rw [render_of_writes isWritten found] at isPart
    cases isPart
    obtain ⟨earlier, later, split⟩ := List.append_of_mem isOwn
    refine ⟨earlier.flatten.flatMap tagsIn, before, after,
      (parts ++ later.flatten).flatMap tagsIn, ?_⟩
    rw [tagsIn_blocks, split]
    simp [tagsIn_trim]
  · cases isBlock

set_option maxRecDepth 20000 in
/-- The topic of a kafka output is written as it is given. -/
theorem exists_read_kafka :
    ∃ nodes, Template.read Templates.kafka.text = .ok nodes ∧
      ∃ node ∈ nodes, writes ["topic"] node :=
  exists_read_of_writes (by decide)

end Fluentd

/-- A topic with a section of its own in it, which another section is closed before. -/
def topicWithSection : String := "audit\n<source>\n</match>\n#"

/-- Audit records go to a topic. -/
def Spec.toTopic (topic : String) : Spec where
  inputs := []
  outputs :=
    [{ Output.bare "queue" .kafka with
        url? := some "tls://[::1]:9093"
        kafka := some ⟨some topic, []⟩ }]
  pipelines := [⟨some "all", ["audit"], ["queue"], ∅, none⟩]
  tuning := none

theorem Spec.exists_not_isSectionFile :
    ∃ text, (toTopic topicWithSection).compile ∅ .standard .fluentd = .ok text ∧
      ¬Fluentd.IsSectionFile text := by
  have clean : (toTopic topicWithSection).problems ∅ .standard .fluentd = [] := by decide
  obtain ⟨arena, built⟩ := exists_fluentd_build clean
  obtain ⟨text, compiled⟩ := exists_compile_of_fluentd_build clean built
  obtain ⟨_, _, engine, same, made, written⟩ := exists_of_compile_fluentd compiled
  cases built.symm.trans same
  refine ⟨text, compiled, fun isFile => ?_⟩
  have isThere : (Fluentd.build (toTopic topicWithSection).normalize ∅ .standard).toOption.any
      fun arena => arena.elements.any fun element =>
        element.template = Fluentd.Templates.kafka.name &&
          (element.params.lookup "topic").bind (·.text?) = some topicWithSection := by
    decide
  rw [built] at isThere
  obtain ⟨element, member, isLabel⟩ := List.any_eq_true.mp isThere
  rw [Bool.and_eq_true, decide_eq_true_eq, decide_eq_true_eq] at isLabel
  obtain ⟨named, isTopic⟩ := isLabel
  obtain ⟨value, topic, isText⟩ := Option.bind_eq_some_iff.mp isTopic
  rw [Value.eq_text_of_text? isText] at topic
  have isKafka : Fluentd.Templates.kafka ∈ Fluentd.Templates.all := by simp [Fluentd.Templates.all]
  have found : Template.followPath (.object element.params) ["topic"] =
      .ok (.text topicWithSection) := by
    rw [Template.followPath, topic]
    rfl
  obtain ⟨tags, before, after, moreTags, tagsInText⟩ := Fluentd.exists_tags_of_writes made written
    member isKafka named Fluentd.exists_read_kafka found
  have lines : topicWithSection = "audit" ++ "\n" ++ ("<source>\n</match>" ++ "\n" ++ "#") := by
    decide
  have inner : Fluentd.tagsIn "<source>\n</match>" = [.opening "source", .closing "match"] := by
    decide
  have never : ∀ opens, Fluentd.nest Fluentd.standsAlone opens
      [.opening "source", .closing "match"] = none := by
    intro opens
    cases opens <;> rfl
  have whole : Fluentd.tagsIn text = (tags ++ Fluentd.tagsIn (before ++ "audit")) ++
      [.opening "source", .closing "match"] ++ (Fluentd.tagsIn ("#" ++ after) ++ moreTags) := by
    have split : before ++ topicWithSection ++ after =
        before ++ "audit" ++ "\n" ++ ("<source>\n</match>" ++ "\n" ++ ("#" ++ after)) := by
      rw [lines]
      simp only [String.append_assoc]
    rw [tagsInText, Value.plainText, split, Fluentd.tagsIn_append_break,
      Fluentd.tagsIn_append_break, inner]
    simp only [List.append_assoc]
  have none := Fluentd.nest_eq_none_of_infix never (tags ++ Fluentd.tagsIn (before ++ "audit"))
    (Fluentd.tagsIn ("#" ++ after) ++ moreTags) []
  rw [← whole] at none
  exact Option.some_ne_none _ (isFile.symm.trans none)

end LogForwarder
