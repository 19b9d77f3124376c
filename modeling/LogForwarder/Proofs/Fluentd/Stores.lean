/-
This file finds out when no two stores of a configuration in the fluentd dialect share an id or the
directory of a buffer. Ids of stores are made from the names of outputs in another way than labels,
which are what the checks keep apart, and an elasticsearch output has a second store, whose id the
checks know nothing of.

It also proves what the settings of stores say under keys of some sort, such as those that name
files with certificates or versions of TLS. A store has one list of settings, which is put together
from lines, and some of these are left out; what such a list says under the keys that pass a test is
found line by line. In the label of an output the settings are those of the type of the output, and
all stores of the label have the same ones.
-/
import LogForwarder.Proofs.Fluentd.Compile
import Mathlib.Data.List.Pairwise

namespace LogForwarder

namespace Fluentd

/-! ### Stores of elements -/

/-- The templates of labels with one store each. -/
def storeTemplates : List String :=
  [Templates.forward.name, Templates.syslog.name, Templates.kafka.name, Templates.loki.name,
    Templates.cloudwatch.name, Templates.http.name]

/-- What the stores of an element are written from: its own parameters, or two groups of them. -/
def stores (element : Element) : List Value :=
  let params := Value.object element.params
  if element.template = Templates.elasticsearch.name then
    [params.field "retry", params.field "main"]
  else if element.template ∈ storeTemplates then [params]
  else []

/-- The ids of the stores of an element. -/
def storeIds (element : Element) : List String :=
  (stores element).filterMap fun store => (store.field "store_id").text?

/-- The directory of the buffer of a store. The old plugins for syslog have no buffer in files. -/
def bufferPath? (store : Value) : Option String :=
  if (store.field "old_plugin").text?.isSome then none
  else ((store.field "buffer").field "path").text?

/-- The directories of the buffers of an element. -/
def bufferPaths (element : Element) : List String := (stores element).filterMap bufferPath?

namespace Store

variable {store : Store}

/-- The ids of the stores in the label of an output. -/
def ids (store : Store) : List String :=
  if store.output.type = .elasticsearch then [store.retryId, store.storeId] else [store.storeId]

theorem bufferPath?_buffer (interval : String) (keys : List String) :
    ((store.buffer interval keys).param.field "path").text? = some store.storeId := by
  simp [buffer, Buffer.ofTuning, Buffer.param, List.lookup_cons]

theorem stores_label {template : Template.Source} (single : template.name ∈ storeTemplates)
    (params : Params) :
    stores (store.label template params) = [.object (store.label template params).params] := by
  have other : ∀ name ∈ storeTemplates, name ≠ Templates.elasticsearch.name := by decide
  exact (if_neg (other _ single)).trans (if_pos single)

theorem storeIds_label {template : Template.Source} (single : template.name ∈ storeTemplates)
    (params : Params) : storeIds (store.label template params) = [store.storeId] := by
  unfold storeIds
  rw [stores_label single]
  simp [label, Element.field_create]

/-- The directory of the buffer is called like the store, if there is a buffer in files at all. -/
theorem sublist_bufferPaths_label {template : Template.Source}
    (single : template.name ∈ storeTemplates) {params : Params}
    (own : ∀ buffer ∈ params.reverse.lookup "buffer",
      (buffer.field "path").text? = some store.storeId) :
    (bufferPaths (store.label template params)).Sublist [store.storeId] := by
  have path : bufferPath? (.object (store.label template params).params) = none ∨
      bufferPath? (.object (store.label template params).params) = some store.storeId := by
    unfold bufferPath?
    split
    · exact .inl rfl
    · have field : (Value.object (store.label template params).params).field "buffer" =
          (params.reverse.lookup "buffer").getD .null := by
        simp [label, Element.field_create, List.lookup_cons]
      rw [field]
      cases given : params.reverse.lookup "buffer" with
      | none => exact .inl rfl
      | some buffer => exact .inr (own buffer given)
  unfold bufferPaths
  rw [stores_label single]
  rcases path with noPath | isPath
  · rw [List.filterMap_cons_none noPath]
    exact List.nil_sublist _
  · rw [List.filterMap_cons_some isPath]
    exact List.Sublist.refl _

theorem stores_elasticsearch (params : Params) :
    stores (store.label Templates.elasticsearch params) =
      [(Value.object (store.label Templates.elasticsearch params).params).field "retry",
        (Value.object (store.label Templates.elasticsearch params).params).field "main"] := by
  unfold stores
  exact if_pos rfl

/-- The stores in the label of an elasticsearch output have a buffer each. -/
theorem stores_elasticsearchLabel {element : Element}
    (made : store.elasticsearchLabel = .ok element) :
    storeIds element = [store.retryId, store.storeId] ∧
      bufferPaths element = [store.retryId, store.storeId] := by
  obtain ⟨url, rfl⟩ := exists_of_label_made made
  unfold storeIds bufferPaths
  rw [stores_elasticsearch]
  simp [label, Element.field_create, elasticsearchStore, List.lookup_cons, bufferPath?,
    Buffer.ofTuning, Buffer.param]

theorem ids_of_ne (other : store.output.type ≠ .elasticsearch) : store.ids = [store.storeId] :=
  if_neg other

/-- The ids of the stores in the label of an output, and the directories of their buffers. -/
theorem storeIds_outputLabel {element : Element} (made : store.outputLabel = .ok element) :
    storeIds element = store.ids ∧ (bufferPaths element).Sublist store.ids := by
  have single {template : Template.Source} (isSingle : template.name ∈ storeTemplates)
      {params : Params} (own : ∀ buffer ∈ params.reverse.lookup "buffer",
        (buffer.field "path").text? = some store.storeId)
      (other : store.output.type ≠ .elasticsearch) :
      storeIds (store.label template params) = store.ids ∧
        (bufferPaths (store.label template params)).Sublist store.ids := by
    rw [ids_of_ne other]
    exact ⟨storeIds_label isSingle _, sublist_bufferPaths_label isSingle own⟩
  have ownBuffer (interval : String) (keys : List String) :
      ∀ buffer ∈ some (store.buffer interval keys).param,
        (buffer.field "path").text? = some store.storeId := by
    rintro _ ⟨⟩
    exact bufferPath?_buffer interval keys
  unfold outputLabel at made
  split at made <;> rename_i type
  · obtain ⟨sameIds, samePaths⟩ := stores_elasticsearchLabel made
    rw [sameIds, samePaths, ids, if_pos type]
    exact ⟨rfl, List.Sublist.refl _⟩
  · obtain ⟨address, rfl⟩ := exists_of_label_made made
    exact single (by decide) (ownBuffer _ _) (by rw [type]; decide)
  · obtain ⟨address, rfl⟩ := exists_of_label_made made
    exact single (by decide) (ownBuffer _ _) (by rw [type]; decide)
  · obtain ⟨brokers, rfl⟩ := exists_of_label_made made
    exact single (by decide) (ownBuffer _ _) (by rw [type]; decide)
  · obtain ⟨url, rfl⟩ := exists_of_label_made made
    exact single (by decide) (ownBuffer _ _) (by rw [type]; decide)
  · simp only [cloudwatchLabel] at made
    split at made
    · cases made
    · cases made
      refine single (by decide) (fun buffer isBuffer => ?_) (by rw [type]; decide)
      cases isBuffer
  · cases made
    exact single (by decide) (ownBuffer _ _) (by rw [type]; decide)
  · cases made

end Store

/-! ### Stores of configurations -/

/-- The templates of elements that have no stores. -/
def plainTemplates : List String :=
  [Templates.header.name, Templates.metrics.name, Templates.container.name, Templates.journal.name,
    Templates.audit.name, Templates.concat.name, Templates.ingress.name, Templates.sourceType.name,
    Templates.fanLabel.name, Templates.pipeline.name, Templates.legacy.name]

theorem stores_of_mem_plainTemplates {element : Element}
    (plain : element.template ∈ plainTemplates) : stores element = [] := by
  have others : ∀ name ∈ plainTemplates, name ≠ Templates.elasticsearch.name ∧
      name ∉ storeTemplates := by
    decide
  obtain ⟨notElasticsearch, notOther⟩ := others _ plain
  exact (if_neg notElasticsearch).trans (if_neg notOther)

variable {spec : Spec} {secrets : SecretStore} {options : Options} {arena : Arena}

theorem template_of_mem_upToPipelines {element : Element}
    (member : element ∈ upToPipelines spec options) : element.template ∈ plainTemplates := by
  unfold upToPipelines sources ingress kindElements pipelineElements at member
  simp only [List.mem_append, List.mem_ite_nil_right, List.mem_cons, List.not_mem_nil, or_false,
    List.mem_map, List.mem_flatMap] at member
  rcases member with (((start | source) | intake) | ⟨route, _, rfl | ⟨_, rfl⟩⟩) | ⟨_, _, rfl⟩
  · rcases start with rfl | rfl
    · exact show Templates.header.name ∈ _ by decide
    · exact show Templates.metrics.name ∈ _ by decide
  · rcases source with (⟨_, rfl⟩ | ⟨_, rfl⟩) | ⟨_, _, _, rfl⟩
    · exact show Templates.container.name ∈ _ by decide
    · exact show Templates.journal.name ∈ _ by decide
    · exact show Templates.audit.name ∈ _ by decide
  · rcases intake with ⟨_, rfl⟩ | rfl
    · exact show Templates.concat.name ∈ _ by decide
    · exact show Templates.ingress.name ∈ _ by decide
  · exact show Templates.sourceType.name ∈ _ by decide
  · exact show Templates.fanLabel.name ∈ _ by decide
  · exact show Templates.pipeline.name ∈ _ by decide

theorem template_of_mem_legacyElements {routing : Routing} {element : Element}
    (member : element ∈ legacyElements routing options) : element.template ∈ plainTemplates := by
  unfold legacyElements at member
  simp only [List.mem_append, List.mem_ite_nil_right, List.mem_singleton] at member
  rcases member with ⟨_, rfl⟩ | ⟨_, rfl⟩ <;> exact show Templates.legacy.name ∈ _ by decide

/-- The stores in the labels of some outputs. -/
theorem stores_of_labels {outputs : List Output} {labels : List (List Element)}
    (made : List.Forall₂ (fun output added => ∃ label, added = [label] ∧
      (Store.ofOutput spec secrets options output).outputLabel = .ok label) outputs labels) :
    labels.flatten.flatMap storeIds =
        outputs.flatMap (fun output => (Store.ofOutput spec secrets options output).ids) ∧
      (labels.flatten.flatMap bufferPaths).Sublist
        (outputs.flatMap fun output => (Store.ofOutput spec secrets options output).ids) := by
  induction made with
  | nil => exact ⟨rfl, List.nil_sublist _⟩
  | cons isLabel _ inductionHypothesis =>
    obtain ⟨label, rfl, labelMade⟩ := isLabel
    obtain ⟨restIds, restPaths⟩ := inductionHypothesis
    obtain ⟨ids, paths⟩ := Store.storeIds_outputLabel labelMade
    rw [List.flatten_cons, List.singleton_append, List.flatMap_cons, List.flatMap_cons,
      List.flatMap_cons, restIds, ids]
    exact ⟨rfl, paths.append restPaths⟩

/-- The stores of a configuration are those in the labels of the outputs. -/
theorem stores_of_build (noDebug : options.debug = false)
    (built : build spec secrets options = .ok arena) :
    arena.elements.flatMap storeIds = spec.routedOutputs.flatMap
        (fun output => (Store.ofOutput spec secrets options output).ids) ∧
      (arena.elements.flatMap bufferPaths).Sublist (spec.routedOutputs.flatMap
        fun output => (Store.ofOutput spec secrets options output).ids) := by
  obtain ⟨labels, made, elements⟩ := labels_of_build built
  obtain ⟨ids, paths⟩ := stores_of_labels (spec.shownOutputs_of_noDebug noDebug ▸ made)
  have before {α : Type} (ofStore : Value → Option α) :
      (upToPipelines spec options).flatMap (fun element => (stores element).filterMap ofStore) =
        [] := by
    refine List.flatMap_eq_nil_iff.mpr fun element member => ?_
    rw [stores_of_mem_plainTemplates (template_of_mem_upToPipelines member), List.filterMap_nil]
  have after {α : Type} (ofStore : Value → Option α) :
      (legacyElements (Routing.ofSpec spec options) options).flatMap
        (fun element => (stores element).filterMap ofStore) = [] := by
    refine List.flatMap_eq_nil_iff.mpr fun element member => ?_
    rw [stores_of_mem_plainTemplates (template_of_mem_legacyElements member), List.filterMap_nil]
  have ofLabels {α : Type} (ofStore : Value → Option α) :
      arena.elements.flatMap (fun element => (stores element).filterMap ofStore) =
        labels.flatten.flatMap fun element => (stores element).filterMap ofStore := by
    rw [elements, List.flatMap_append, List.flatMap_append, before, after, List.nil_append,
      List.append_nil]
  exact ⟨(ofLabels _).trans ids, (ofLabels _).symm ▸ paths⟩

/-! ### Ids of stores that differ -/

/-- The ids of the stores of an output. -/
def idsOf (output : Output) : List String :=
  if output.type = .elasticsearch then
    ["retry_" ++ Name.storeId output.name, Name.storeId output.name]
  else [Name.storeId output.name]

theorem ids_ofOutput (output : Output) :
    (Store.ofOutput spec secrets options output).ids = idsOf output := rfl

theorem mem_idsOf {output : Output} {id : String} :
    id ∈ idsOf output ↔ id = Name.storeId output.name ∨
      output.type = .elasticsearch ∧ id = "retry_" ++ Name.storeId output.name := by
  unfold idsOf
  split
  · next isElasticsearch => simp [isElasticsearch, or_comm]
  · next other => simp [other]

theorem retry_ne_self (id : String) : "retry_" ++ id ≠ id := by
  intro same
  have lengths := congrArg (·.toList.length) same
  simp only [String.toList_append, List.length_append] at lengths
  exact absurd lengths (by simp)

theorem nodup_idsOf (output : Output) : (idsOf output).Nodup := by
  unfold idsOf
  split
  · refine List.nodup_cons.mpr ⟨?_, List.nodup_singleton _⟩
    exact mt List.mem_singleton.mp (retry_ne_self _)
  · exact List.nodup_singleton _

/--
Whether the outputs that pipelines lead to have stores with ids of their own: no two names turn into
one id, and no name turns into the id of the second store of an elasticsearch output.
-/
structure HasOwnStoreIds (spec : Spec) : Prop where
  distinct : ∀ first ∈ spec.routedOutputs, ∀ second ∈ spec.routedOutputs,
    Name.storeId first.name = Name.storeId second.name → first = second
  fresh : ∀ first ∈ spec.routedOutputs, first.type = .elasticsearch →
    ∀ second ∈ spec.routedOutputs, Name.storeId second.name ≠ "retry_" ++ Name.storeId first.name

theorem nodup_flatMap_idsOf_iff (distinct : spec.routedOutputs.Nodup) :
    (spec.routedOutputs.flatMap idsOf).Nodup ↔ HasOwnStoreIds spec := by
  rw [List.nodup_flatMap, and_iff_right fun output _ => nodup_idsOf output]
  refine ⟨fun disjoint => ?_, fun own => distinct.pairwise_of_forall_ne ?_⟩
  · have symmetric : Std.Symm (Function.onFun List.Disjoint idsOf) :=
      ⟨fun _ _ apart id ofSecond ofFirst => apart ofFirst ofSecond⟩
    have same {first second : Output} (firstRouted : first ∈ spec.routedOutputs)
        (secondRouted : second ∈ spec.routedOutputs) {id : String} (ofFirst : id ∈ idsOf first)
        (ofSecond : id ∈ idsOf second) : first = second := by
      by_contra different
      exact disjoint.forall firstRouted secondRouted different ofFirst ofSecond
    refine ⟨fun first firstRouted second secondRouted sameId => ?_, ?_⟩
    · exact same firstRouted secondRouted (mem_idsOf.mpr (.inl rfl)) (mem_idsOf.mpr (.inl sameId))
    · intro first firstRouted isElasticsearch second secondRouted sameId
      have isFirst := same firstRouted secondRouted
        (mem_idsOf.mpr (.inr ⟨isElasticsearch, rfl⟩)) (mem_idsOf.mpr (.inl sameId.symm))
      rw [isFirst] at sameId
      exact retry_ne_self _ sameId.symm
  · intro first firstRouted second secondRouted different id ofFirst ofSecond
    rcases mem_idsOf.mp ofFirst with rfl | ⟨firstElastic, rfl⟩ <;>
      rcases mem_idsOf.mp ofSecond with sameId | ⟨secondElastic, sameId⟩
    · exact different (own.distinct first firstRouted second secondRouted sameId)
    · exact own.fresh second secondRouted secondElastic first firstRouted sameId
    · exact own.fresh first firstRouted firstElastic second secondRouted sameId.symm
    · refine different (own.distinct first firstRouted second secondRouted ?_)
      exact (String.append_right_inj _).mp sameId

/-! ### Names in the alphabet of ASCII -/

/-- What tells the ids of stores from labels is only the case, for which a label has no regard. -/
theorem labelWord_storeId (name : String) :
    Name.labelWord (Name.storeId name) = Name.labelWord (Text.lower name) := by
  have sameChar (c : Char) : (Text.upperChar (Name.storeChar c)).map Name.labelChar =
      (Text.upperChar c).map Name.labelChar := by
    unfold Name.storeChar
    split
    · next separator =>
      rcases (Bool.or_eq_true _ _).mp separator with isDash | isDot
      · rw [of_decide_eq_true isDash]
        decide
      · rw [of_decide_eq_true isDot]
        decide
    · rfl
  unfold Name.labelWord Name.storeId Text.upper
  rw [String.toList_ofList, String.toList_ofList, String.toList_ofList, List.flatMap_map,
    List.map_flatMap, List.map_flatMap]
  simp only [sameChar]

/-- Whether all characters of a text belong to the alphabet of ASCII. -/
def IsAscii (text : String) : Prop := ∀ c ∈ text.toList, c.toNat < 128

theorem lowerFrom_of_ascii (before : List Char) {chars : List Char}
    (ascii : ∀ c ∈ chars, c.toNat < 128) :
    Text.lowerFrom before chars = chars.map Char.toLower := by
  induction chars generalizing before with
  | nil => rfl
  | cons c rest inductionHypothesis =>
    obtain ⟨first, others⟩ := List.forall_mem_cons.mp ascii
    have notSigma : ¬(c.toNat == 0x3A3) = true := by
      rw [beq_iff_eq]
      omega
    rw [Text.lowerFrom, if_neg notSigma, Text.lowerChar, if_pos first,
      inductionHypothesis (c :: before) others]
    rfl

theorem upper_lower_of_isAscii {name : String} (ascii : IsAscii name) :
    Text.upper (Text.lower name) = Text.upper name := by
  have all : ∀ code < 128, Text.upperChar (Char.ofNat code).toLower =
      Text.upperChar (Char.ofNat code) := by
    decide
  have sameChar (c : Char) (member : c ∈ name.toList) :
      Text.upperChar c.toLower = Text.upperChar c := by
    have here := all c.toNat (ascii c member)
    rwa [Char.ofNat_toNat] at here
  unfold Text.upper Text.lower
  rw [lowerFrom_of_ascii [] ascii, String.toList_ofList, List.flatMap_map]
  exact congrArg String.ofList (List.flatMap_congr sameChar)

/-- In the alphabet of ASCII the id of a store tells the label. -/
theorem label_eq_of_storeId_eq {first second : String} (firstAscii : IsAscii first)
    (secondAscii : IsAscii second) (same : Name.storeId first = Name.storeId second) :
    Name.label first = Name.label second := by
  have word {name : String} (ascii : IsAscii name) :
      Name.labelWord (Name.storeId name) = Name.labelWord name := by
    rw [labelWord_storeId]
    unfold Name.labelWord
    rw [upper_lower_of_isAscii ascii]
  unfold Name.label
  rw [← word firstAscii, same, word secondAscii]

/--
If names are in the alphabet of ASCII, then the checks leave nothing to go wrong but that a name
turns into the id of the second store of an elasticsearch output.
-/
theorem hasOwnStoreIds_iff_of_isAscii (ready : spec.IsReady .fluentd)
    (ascii : ∀ output ∈ spec.routedOutputs, IsAscii output.name) :
    HasOwnStoreIds spec ↔ ∀ first ∈ spec.routedOutputs, first.type = .elasticsearch →
      ∀ second ∈ spec.routedOutputs,
        Name.storeId second.name ≠ "retry_" ++ Name.storeId first.name := by
  refine ⟨HasOwnStoreIds.fresh, fun fresh => ⟨?_, fresh⟩⟩
  intro first firstRouted second secondRouted same
  have routed := spec.sublist_routedOutputs ready.clean.outputsDistinct
  have names := ready.output_name_inj (routed.subset firstRouted) (routed.subset secondRouted)
    (label_eq_of_storeId_eq (ascii first firstRouted) (ascii second secondRouted) same)
  exact List.inj_on_of_nodup_map ready.clean.outputsDistinct (routed.subset firstRouted)
    (routed.subset secondRouted) names

/-- Whether no two stores of a configuration share an id or the directory of a buffer. -/
structure HasOwnStores (arena : Arena) : Prop where
  ids : (arena.elements.flatMap storeIds).Nodup
  paths : (arena.elements.flatMap bufferPaths).Nodup

end Fluentd

namespace Spec

/--
In a configuration no two stores share an id or the directory of a buffer exactly if the names of
the outputs that pipelines lead to turn into different ids, also from those of second stores.
-/
theorem hasOwnStores_iff_hasOwnStoreIds (spec : Spec) (secrets : SecretStore) (options : Options)
    (clean : spec.problems secrets options .fluentd = []) (noDebug : options.debug = false)
    {arena : Arena} (built : Fluentd.build spec.normalize secrets options = .ok arena) :
    Fluentd.HasOwnStores arena ↔ Fluentd.HasOwnStoreIds spec.normalize := by
  have ready := spec.isReady_normalize clean
  have distinct : spec.normalize.routedOutputs.Nodup :=
    (ready.clean.outputsDistinct.of_map _).sublist
      (spec.normalize.sublist_routedOutputs ready.clean.outputsDistinct)
  obtain ⟨ids, paths⟩ := Fluentd.stores_of_build noDebug built
  simp only [Fluentd.ids_ofOutput] at ids paths
  rw [← Fluentd.nodup_flatMap_idsOf_iff distinct]
  refine ⟨fun own => ids ▸ own.ids, fun different => ⟨?_, different.sublist paths⟩⟩
  rw [ids]
  exact different

/-- Records of audits, on their way to a store of records and to a web server. -/
def toStoreAndServer (store server : String) : Spec where
  inputs := []
  outputs :=
    [{ Output.bare store .elasticsearch with url? := some "https://[::1]:9200" },
      { Output.bare server .http with url? := some "https://[::1]" }]
  pipelines := [⟨some "all", ["audit"], [store, server], ∅, none⟩]
  tuning := none

/-- Three stores with three names, one of which the spec does not give. -/
theorem hasOwnStores_toStoreAndServer :
    ∃ arena, Fluentd.build (toStoreAndServer "logs" "Retry-Logs.2").normalize ∅ .standard =
        .ok arena ∧ Fluentd.HasOwnStores arena := by
  have succeeds : (Fluentd.build (toStoreAndServer "logs" "Retry-Logs.2").normalize ∅
      .standard).isOk := by
    decide
  obtain ⟨arena, built⟩ := exists_of_isOk succeeds
  refine ⟨arena, built, ?_⟩
  exact (hasOwnStores_iff_hasOwnStoreIds _ ∅ .standard (by decide) rfl built).mpr
    ⟨by decide, by decide⟩

/-- A web server may have the name of the second store. -/
theorem exists_not_hasOwnStores :
    (toStoreAndServer "logs" "retry-logs").problems ∅ .standard .fluentd = [] ∧
      ∃ arena, Fluentd.build (toStoreAndServer "logs" "retry-logs").normalize ∅ .standard =
          .ok arena ∧
        arena.elements.flatMap Fluentd.storeIds = ["retry_logs", "logs", "retry_logs"] ∧
        arena.elements.flatMap Fluentd.bufferPaths = ["retry_logs", "logs", "retry_logs"] ∧
        ¬Fluentd.HasOwnStores arena := by
  have stores : (Fluentd.build (toStoreAndServer "logs" "retry-logs").normalize ∅
      .standard).toOption.map (fun arena => (arena.elements.flatMap Fluentd.storeIds,
        arena.elements.flatMap Fluentd.bufferPaths)) =
      some (["retry_logs", "logs", "retry_logs"], ["retry_logs", "logs", "retry_logs"]) := by
    decide
  obtain ⟨arena, built, found⟩ := exists_of_toOption_map stores
  obtain ⟨ids, paths⟩ := Prod.mk.inj found
  have twice : ¬["retry_logs", "logs", "retry_logs"].Nodup := by decide
  exact ⟨by decide, arena, built, ids, paths, fun own => twice (ids ▸ own.ids)⟩

end Spec

/-- The scheme of the address of an output, if the address can be read. -/
def Output.urlScheme? (output : Output) : Option String :=
  (Endpoint.readUrl output.url).toOption.map (·.scheme)

namespace Fluentd

/-! ### Settings under some keys -/

namespace Setting

/-- The values of the settings whose keys pass a test. -/
def valuesUnder (keep : String → Bool) (settings : List Setting) : List String :=
  settings.filterMap fun setting => if keep setting.key then some setting.value else none

variable {keep : String → Bool} {key : String}

@[simp]
theorem valuesUnder_nil : valuesUnder keep [] = [] := rfl

@[simp]
theorem valuesUnder_append (first second : List Setting) :
    valuesUnder keep (first ++ second) = valuesUnder keep first ++ valuesUnder keep second :=
  List.filterMap_append

@[simp]
theorem valuesUnder_line_of_false (other : keep key = false) (value : String) :
    valuesUnder keep (line key value) = [] := by
  unfold line
  split
  · rfl
  · exact List.filterMap_cons_none (if_neg (by rw [other]; exact Bool.false_ne_true))

@[simp]
theorem valuesUnder_line?_of_false (other : keep key = false) (value? : Option String) :
    valuesUnder keep (line? key value?) = [] := by
  cases value? with
  | none => rfl
  | some value =>
    show valuesUnder keep (line key value ++ []) = []
    rw [List.append_nil, valuesUnder_line_of_false other]

@[simp]
theorem valuesUnder_lineIf (condition : Bool) (value : String) :
    valuesUnder keep (lineIf condition key value) =
      if condition then valuesUnder keep (line key value) else [] := by
  unfold lineIf
  split <;> rfl

/-- A line with a value stands where its key passes the test. -/
theorem valuesUnder_line_of_true (kept : keep key = true) {value : String} (given : value ≠ "") :
    valuesUnder keep (line key value) = [value] := by
  unfold line
  rw [if_neg (mt String.isEmpty_iff.mp given)]
  exact List.filterMap_cons_some (if_pos kept)

theorem valuesUnder_line?_of_true (kept : keep key = true) (value? : Option String) :
    valuesUnder keep (line? key value?) = (value?.filter (· ≠ "")).toList := by
  cases value? with
  | none => rfl
  | some value =>
    show valuesUnder keep (line key value ++ []) = _
    rw [List.append_nil]
    by_cases empty : value = ""
    · rw [empty]
      rfl
    · rw [valuesUnder_line_of_true kept empty, Option.filter_some, if_pos (decide_eq_true empty)]
      rfl

end Setting

/-- The value of a setting among the parameters of a store, if its key passes a test. -/
def valueUnder? (keep : String → Bool) (setting : Value) : Option String :=
  if (setting.field "key").text?.any keep then (setting.field "value").text? else none

theorem filterMap_valueUnder?_params (keep : String → Bool) (settings : List Setting) :
    (Setting.params settings).items.filterMap (valueUnder? keep) =
      Setting.valuesUnder keep settings := by
  show (settings.map Setting.param).filterMap (valueUnder? keep) = _
  rw [List.filterMap_map]
  refine List.filterMap_congr fun setting _ => ?_
  simp [valueUnder?, Setting.param, List.lookup_cons]

/-! ### Settings of outputs -/

namespace Store

variable {store : Store}

/-- The scheme of the address of an output, which is empty if the address cannot be read. -/
def scheme (store : Store) : String := store.output.urlScheme?.getD ""

/-- The settings of the stores of an output. -/
def settings (store : Store) : List Setting :=
  match store.output.type with
  | .elasticsearch => store.elasticsearchSettings store.scheme
  | .fluentForward => store.forwardSettings
  | .syslog => store.syslogSettings (SyslogTransport.ofAddress store.output.url)
  | .kafka => store.kafkaSettings
  | .loki => store.lokiSettings store.scheme
  | .cloudwatch => store.cloudwatchSettings
  | .http => store.httpSettings
  | _ => []

/-- Whether an element has stores, all of which have some settings. -/
structure HasSettings (settings : List Setting) (element : Element) : Prop where
  some : stores element ≠ []
  each : ∀ part ∈ stores element, part.field "settings" = Setting.params settings

/-- A label with one store hands its settings to it. -/
theorem hasSettings_label {template : Template.Source} (single : template.name ∈ storeTemplates)
    {params : Params} {settings : List Setting}
    (own : params.reverse.lookup "settings" = some (Setting.params settings)) :
    HasSettings settings (store.label template params) := by
  have one : stores (store.label template params) = [_] := stores_label single params
  refine ⟨by rw [one]; exact List.cons_ne_nil _ _, fun part member => ?_⟩
  rw [one] at member
  rw [List.mem_singleton.mp member]
  simp [label, Element.field_create, own, List.lookup_cons]

/-- The label of an output whose address has to be read is made with the scheme of the address. -/
theorem exists_of_label_read {element : Element} {label : Url → Element}
    (made : ((Endpoint.readUrl store.output.url).mapError store.endpointError >>= fun url =>
      .ok (label url)) = .ok element) : ∃ url, store.scheme = url.scheme ∧ element = label url := by
  unfold scheme Output.urlScheme?
  cases read : Endpoint.readUrl store.output.url with
  | error error =>
    rw [read] at made
    cases made
  | ok url =>
    rw [read] at made
    cases made
    exact ⟨url, rfl, rfl⟩

/-- Both stores of an elasticsearch output have the same settings. -/
theorem hasSettings_elasticsearchLabel {element : Element}
    (made : store.elasticsearchLabel = .ok element) :
    HasSettings (store.elasticsearchSettings store.scheme) element := by
  obtain ⟨url, isScheme, rfl⟩ := exists_of_label_read made
  rw [isScheme]
  refine ⟨by rw [stores_elasticsearch]; exact List.cons_ne_nil _ _, fun part member => ?_⟩
  rw [stores_elasticsearch, List.mem_cons, List.mem_singleton] at member
  rcases member with rfl | rfl <;>
    simp [label, Element.field_create, elasticsearchStore, List.lookup_cons]

/-- The stores of an output have the settings for its type. -/
theorem hasSettings_outputLabel {element : Element} (made : store.outputLabel = .ok element) :
    HasSettings store.settings element := by
  unfold outputLabel at made
  split at made <;> rename_i type
  · rw [settings, type]
    exact hasSettings_elasticsearchLabel made
  · obtain ⟨address, rfl⟩ := exists_of_label_made made
    rw [settings, type]
    exact hasSettings_label (by decide) rfl
  · obtain ⟨address, rfl⟩ := exists_of_label_made made
    rw [settings, type]
    exact hasSettings_label (by decide) rfl
  · obtain ⟨brokers, rfl⟩ := exists_of_label_made made
    rw [settings, type]
    exact hasSettings_label (by decide) rfl
  · obtain ⟨url, isScheme, rfl⟩ := exists_of_label_read made
    rw [settings, type, isScheme]
    exact hasSettings_label (by decide) rfl
  · simp only [cloudwatchLabel] at made
    split at made
    · cases made
    · cases made
      rw [settings, type]
      exact hasSettings_label (by decide) rfl
  · cases made
    rw [settings, type]
    exact hasSettings_label (by decide) rfl
  · cases made

end Store

end Fluentd

end LogForwarder
