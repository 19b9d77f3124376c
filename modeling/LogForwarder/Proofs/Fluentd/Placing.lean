/-
This file proves that a configuration in the fluentd dialect is a file of sections, as long as the
texts that it writes as they are given stay in their places. That the templates of the dialect write
sections that nest is computed for each of them from its text, with what may stand around it where it
is included. A configuration whose parameters hold what they should is then a file of sections, and
it has the tags of its outline: of the same configuration with a placeholder for every value.

Which texts are written as they are given is said for each part of a spec; all other texts are
encoded or do not come from the spec. The values of all elements then hold what their templates want.
-/

import LogForwarder.Fluentd.Templates
import LogForwarder.Proofs.Fluentd.Label
import LogForwarder.Proofs.Fluentd.Outline
import LogForwarder.Proofs.Fluentd.Secrecy
import LogForwarder.Proofs.OneLine
import LogForwarder.Proofs.Rendering
import LogForwarder.Proofs.Template.Source

namespace LogForwarder

namespace Fluentd

open Template

/-! ### Templates -/

namespace Slots

/-- Whether the nodes of the template of a name take its slot. -/
def fits (slots : Slots) (charsOf : String → List Char) (name : String) (nodes : List Node) :
    Bool :=
  (slots.lookup name).any fun slot =>
    (placeAfter? charsOf ⟨slots, slot, slot.content⟩ ⟨[], slot.before⟩ nodes).any
      (·.within ⟨[], slot.after⟩)

/-- Whether the template of a source can be read and takes its slot. -/
structure Fits (slots : Slots) (source : Source) : Prop where
  read : ∃ nodes, Template.read source.text = .ok nodes ∧
    slots.fits String.toList source.name nodes

/--
Whether a template whose text has brackets for braces takes its slot, as can be computed. Its texts
are looked up by keys, so that only their characters are gone through.
-/
def fitsText (slots : Slots) (name : String) (chars : List Char) : Bool :=
  match pieces? chars with
  | none => false
  | some pieces =>
    match nodesOf (pieces.mapIdx Piece.keyed) with
    | .error _ => false
    | .ok nodes => pieces.length ≤ keyCount && slots.fits (charsAt pieces) name nodes

variable {slots : Slots}

theorem fits_braced {name : String} {chars : List Char} (fits : slots.fitsText name chars) :
    slots.Fits (Source.braced name (String.ofList chars)) := by
  unfold fitsText at fits
  split at fits
  · cases fits
  · next pieces found =>
    split at fits
    · cases fits
    · next nodes isNodes =>
      rw [Bool.and_eq_true, decide_eq_true_eq] at fits
      refine ⟨_, read_braced_of_keyed found fits.1 isNodes, ?_⟩
      have charsOf : (fun key => (textAt pieces key).toList) = charsAt pieces :=
        funext fun key => String.toList_ofList
      simp only [Slots.fits, placeAfter?_mapTextsOf, charsOf]
      exact fits.2

/-- Templates take their slots as their outlines do, if all of them take their slots. -/
theorem agree_renderAmong {definitions : List Definition}
    (fits : ∀ definition ∈ definitions, slots.fits String.toList definition.name definition.nodes) :
    slots.Agree (Engine.renderAmong definitions)
      (Engine.renderAmong (definitions.map Definition.outline)) := by
  induction definitions with
  | nil =>
    intro target slot isSlot data holds text rendered
    cases rendered
  | cons definition earlier inductionHypothesis =>
    obtain ⟨definitionFits, earlierFit⟩ := List.forall_mem_cons.mp fits
    have agree := inductionHypothesis earlierFit
    intro target slot isSlot data holds text rendered
    rw [List.map_cons]
    rw [Engine.renderAmong] at rendered ⊢
    show ∃ outline, (if definition.name = target then _ else _) = Except.ok outline ∧ _
    split at rendered
    · next isTarget =>
      rw [if_pos isTarget]
      subst isTarget
      obtain ⟨own, isOwn, fitsOwn⟩ := (Option.any_eq_true _ _).mp definitionFits
      cases isSlot.symm.trans isOwn
      obtain ⟨after, isAfter, within⟩ := (Option.any_eq_true _ _).mp fitsOwn
      obtain ⟨outline, isOutline, parallel⟩ := exists_outline definition.nodes isAfter agree holds
        holds (mapError_eq_ok_iff.mp rendered)
      exact ⟨outline, mapError_eq_ok_iff.mpr isOutline, parallel.widen (Place.within_refl _) within⟩
    · next isOther =>
      rw [if_neg isOther]
      exact agree target slot isSlot data holds text rendered

/-- The templates of an engine take their slots as their outlines do. -/
theorem agree_of_ofSources {sources : List Source} {engine : Engine}
    (made : Engine.ofSources sources = .ok engine)
    (fits : ∀ source ∈ sources, slots.Fits source) :
    slots.Agree engine.render engine.outline.render := by
  obtain ⟨known, _, _, knows, _, perm⟩ := Engine.exists_known_of_ofSources made
  have fit : ∀ definition ∈ engine.definitions.reverse,
      slots.fits String.toList definition.name definition.nodes := by
    intro definition member
    have isKnown := perm.subset (List.mem_reverse.mp member)
    obtain ⟨source, isSource, defined⟩ := (knows.mem_values_iff definition).mp isKnown
    obtain ⟨nodes, isRead, takes⟩ := (fits source isSource).read
    cases isRead.symm.trans (Source.read_of_definition defined)
    rw [Source.name_of_definition defined]
    exact takes
  have outline : engine.outline.render =
      Engine.renderAmong (engine.definitions.reverse.map Definition.outline) := by
    rw [List.map_reverse]
    rfl
  rw [outline]
  exact agree_renderAmong fit

end Slots

/-! ### Slots of the dialect -/

/-- The slot of a template that is included where a line starts, and that ends with a tag. -/
def Slot.section : Slot := ⟨.inside, false, [.blank], [.tag]⟩

/-- The slot of a template that makes up a block. -/
def Slot.block : Slot := ⟨.inside, true, [.blank], [.blank]⟩

/-- The templates of the blocks. -/
def blockTemplates : List Source :=
  [Templates.header, Templates.metrics, Templates.container, Templates.journal, Templates.audit,
    Templates.concat, Templates.ingress, Templates.sourceType, Templates.fanLabel,
    Templates.pipeline, Templates.legacy, Templates.elasticsearch, Templates.forward,
    Templates.syslog, Templates.kafka, Templates.loki, Templates.cloudwatch, Templates.http]

/-- The slots of all templates. -/
def slots : Slots :=
  [(Templates.fan.name, .section), (Templates.router.name, .section),
    (Templates.buffer.name, .section), (Templates.elasticsearchStore.name, .section),
    (Templates.dedot.name, .section),
    (Templates.settings.name, ⟨.settings, false, [.plain], [.plain, .blank]⟩)] ++
    blockTemplates.map fun source => (source.name, .block)

theorem lookup_slots : ∀ source ∈ blockTemplates, slots.lookup source.name = some .block := by
  decide

set_option maxRecDepth 20000 in
/-- All templates take their slots. -/
theorem fits_of_mem_all : ∀ source ∈ Templates.all, slots.Fits source := by
  simp only [Templates.all, List.forall_mem_cons]
  repeat refine And.intro (by apply Slots.fits_braced; decide +kernel) ?_
  intro source absent
  cases absent

/-! ### Configurations -/

/-- Whether an element is a block whose values can be written where they are meant to be. -/
structure IsPlaced (element : Element) : Prop where
  isBlock : element.template ∈ blockTemplates.map (·.name)
  noParts : element.parts = []
  holds : Content.inside.Holds (.object element.params)

/-- What takes the slot of a block alike has the same tags, and these nest. -/
theorem tagsIn_of_takes {text outline : String} (takes : Slot.block.Takes text outline) :
    tagsIn text = tagsIn outline ∧ IsSectionFile text := by
  obtain ⟨tags, leads, outlineLeads⟩ := takes
  have tagsIn_eq {text : String}
      (leads : Leads Slot.block.mayStandAlone ⟨[], [.blank]⟩ ⟨[], [.blank]⟩ tags text.toList) :
      tagsIn text = tags := by
    obtain ⟨areTags, endsBlank⟩ := leads.reads .blank (List.mem_singleton_self _)
    unfold tagsIn
    rw [Line.readAll_append, areTags, List.mem_singleton.mp endsBlank]
    exact List.append_nil _
  refine ⟨(tagsIn_eq leads).trans (tagsIn_eq outlineLeads).symm, ?_⟩
  unfold IsSectionFile
  rw [tagsIn_eq leads]
  exact leads.nests

section Arenas

variable {engine : Engine} (made : Templates.engine = .ok engine)

include made

/-- The block of an element has the same tags as its outline, and these nest. -/
theorem IsPlaced.exists_outline_blocks {element : Element} (placed : IsPlaced element)
    {blocks : List String} (rendered : element.blocks engine = .ok blocks) :
    ∃ block outline, blocks = [block] ∧ element.blocks engine.outline = .ok [outline] ∧
      tagsIn block = tagsIn outline ∧ IsSectionFile block := by
  obtain ⟨source, isSource, named⟩ := List.mem_map.mp placed.isBlock
  have isSlot := named ▸ lookup_slots source isSource
  unfold Element.blocks at rendered
  obtain ⟨block, isBlock, rendered⟩ := exists_of_bind_eq_ok rendered
  rw [placed.noParts] at rendered
  cases rendered
  unfold renderBlock at isBlock
  split at isBlock
  · next text isText =>
    cases isBlock
    obtain ⟨outline, isOutline, takes⟩ := Slots.agree_of_ofSources made fits_of_mem_all
      element.template .block isSlot _ placed.holds text isText
    obtain ⟨sameTags, isFile⟩ := tagsIn_of_takes takes
    refine ⟨_, Text.trim outline, rfl, ?_, ?_, ?_⟩
    · unfold Element.blocks renderBlock
      rw [isOutline, placed.noParts]
      rfl
    · rw [tagsIn_trim, tagsIn_trim, sameTags]
    · unfold IsSectionFile
      rw [tagsIn_trim]
      exact isFile
  · cases isBlock

/-- The blocks of elements have the same tags as their outlines, and these nest. -/
theorem exists_outline_mapM {elements : List Element}
    (placed : ∀ element ∈ elements, IsPlaced element) {blocks : List (List String)}
    (rendered : elements.mapM (·.blocks engine) = .ok blocks) :
    ∃ outlines, elements.mapM (·.blocks engine.outline) = .ok outlines ∧
      blocks.flatten.flatMap tagsIn = outlines.flatten.flatMap tagsIn ∧
        nest standsAlone [] (blocks.flatten.flatMap tagsIn) = some [] := by
  induction elements generalizing blocks with
  | nil =>
    cases rendered
    exact ⟨[], rfl, rfl, rfl⟩
  | cons element rest inductionHypothesis =>
    obtain ⟨elementPlaced, restPlaced⟩ := List.forall_mem_cons.mp placed
    rw [List.mapM_cons] at rendered
    obtain ⟨first, isFirst, rendered⟩ := exists_of_bind_eq_ok rendered
    obtain ⟨others, areOthers, rendered⟩ := exists_of_bind_eq_ok rendered
    cases rendered
    obtain ⟨block, outline, rfl, isOutline, sameTags, isFile⟩ :=
      elementPlaced.exists_outline_blocks made isFirst
    obtain ⟨outlines, areOutlines, sameOthers, othersNest⟩ :=
      inductionHypothesis restPlaced areOthers
    refine ⟨[outline] :: outlines, ?_, ?_, ?_⟩
    · rw [List.mapM_cons, isOutline, areOutlines]
      rfl
    · rw [List.flatten_cons, List.flatten_cons, List.singleton_append, List.singleton_append,
        List.flatMap_cons, List.flatMap_cons, sameTags, sameOthers]
    · rw [List.flatten_cons, List.singleton_append, List.flatMap_cons, nest_append, isFile]
      exact othersNest

/-- A configuration is a file of sections with the tags of its outline. -/
theorem exists_outline_text {arena : Arena} (placed : ∀ element ∈ arena.elements, IsPlaced element)
    {text : String} (written : arena.text engine = .ok text) :
    ∃ outline, arena.text engine.outline = .ok outline ∧ tagsIn text = tagsIn outline ∧
      IsSectionFile text := by
  unfold Arena.text at written ⊢
  obtain ⟨blocks, areBlocks, written⟩ := exists_of_bind_eq_ok written
  cases written
  obtain ⟨outlines, areOutlines, sameTags, nests⟩ := exists_outline_mapM made placed areBlocks
  refine ⟨_, by rw [areOutlines]; rfl, ?_, ?_⟩
  · rw [tagsIn_blocks, tagsIn_blocks, sameTags]
  · unfold IsSectionFile
    rw [tagsIn_blocks]
    exact nests

end Arenas

end Fluentd

/-! ### Texts in their places -/

/-- Whether a text can stand in a tag: it stays on its line, and does not end the tag. -/
def InTag (text : String) : Prop := OneLine text ∧ '>' ∉ text.toList

instance (text : String) : Decidable (InTag text) :=
  decidable_of_iff (OneLine text ∧ UInt8.ofNat '>'.toNat ∉ text.toByteArray.data.toList)
    (and_congr_right' (mem_bytes_iff (by decide) text).not)

theorem inTag_append_iff (first second : String) :
    InTag (first ++ second) ↔ InTag first ∧ InTag second := by
  unfold InTag
  rw [oneLine_append_iff, String.toList_append, List.mem_append, not_or, and_and_and_comm]

/-- Whether a line can begin with a text: it stays on its line, and begins no tag. -/
def BeginsNoTag (text : String) : Prop :=
  OneLine text ∧ (text.toList.dropWhile Text.isBlank).head? ≠ some '<'

instance (text : String) : Decidable (BeginsNoTag text) := inferInstanceAs (Decidable (_ ∧ _))

namespace Fluentd

namespace Content

section Values

variable {content : Content}

@[simp]
theorem holds_boolean (value : Bool) : Content.inside.Holds (.boolean value) := .boolean value rfl

@[simp]
theorem holds_integer (count : Nat) : Content.inside.Holds (.integer count) := .integer count rfl

theorem holds_text_iff (other : content ≠ .arguments) (text : String) :
    content.Holds (.text text) ↔ content.spot.Admits text.toList := by
  refine ⟨fun holds => ?_, .text other⟩
  cases holds with
  | text _ admits => exact admits

@[simp]
theorem inside_holds_text_iff (text : String) : Content.inside.Holds (.text text) ↔ OneLine text :=
  (holds_text_iff (by decide) text).trans (Spot.admits_behind_iff _)

@[simp]
theorem labels_holds_text_iff (text : String) : Content.labels.Holds (.text text) ↔ OneLine text :=
  (holds_text_iff (by decide) text).trans (Spot.admits_behind_iff _)

@[simp]
theorem label_holds_text_iff (text : String) : Content.label.Holds (.text text) ↔ OneLine text :=
  (holds_text_iff (by decide) text).trans (Spot.admits_behind_iff _)

@[simp]
theorem argument_holds_text_iff (text : String) : Content.argument.Holds (.text text) ↔ InTag text :=
  (holds_text_iff (by decide) text).trans (Spot.admits_argument_iff _)

@[simp]
theorem start_holds_text_iff (text : String) :
    Content.start.Holds (.text text) ↔ BeginsNoTag text :=
  (holds_text_iff (by decide) text).trans
    ⟨fun admits => ⟨admits.onLine, admits.beginsNone rfl⟩,
      fun begins => ⟨begins.1, nofun, fun _ => begins.2⟩⟩

@[simp]
theorem holds_ofText?_iff (text? : Option String) :
    content.Holds (.ofText? text?) ↔ ∀ text, text? = some text → content.Holds (.text text) := by
  cases text? with
  | none => exact ⟨fun _ => nofun, fun _ => .null _⟩
  | some text => exact ⟨fun holds _ same => Option.some.inj same ▸ holds, fun each => each text rfl⟩

@[simp]
theorem holds_list_iff (items : List Value) :
    content.Holds (.list items) ↔ content.isList ∧ ∀ item ∈ items, content.item.Holds item := by
  refine ⟨fun holds => ?_, fun ⟨isList, each⟩ => .list isList each⟩
  cases holds with
  | list isList each => exact ⟨isList, each⟩

@[simp]
theorem holds_ofTexts_iff (texts : List String) :
    content.Holds (.ofTexts texts) ↔
      content.isList ∧ ∀ text ∈ texts, content.item.Holds (.text text) := by
  unfold Value.ofTexts
  simp

/-- An entry that is inserted is the new one or was there before. -/
theorem eq_or_mem_of_mem_insertEntry {α : Type} {key : String} {value : α}
    {entries : List (String × α)} {entry : String × α}
    (member : entry ∈ insertEntry key value entries) : entry = (key, value) ∨ entry ∈ entries := by
  induction entries with
  | nil => exact .inl (List.mem_singleton.mp member)
  | cons head rest inductionHypothesis =>
    unfold insertEntry at member
    split at member
    · exact List.mem_cons.mp member
    · split at member
      · exact (List.mem_cons.mp member).imp_right (List.mem_cons_of_mem _)
      · rcases List.mem_cons.mp member with rfl | later
        · exact .inr List.mem_cons_self
        · exact (inductionHypothesis later).imp_right (List.mem_cons_of_mem _)

theorem mem_of_mem_foldl_insertEntry {α : Type} {entries sorted : List (String × α)}
    {entry : String × α}
    (member : entry ∈ entries.foldl (fun sorted entry => insertEntry entry.1 entry.2 sorted) sorted) :
    entry ∈ entries ∨ entry ∈ sorted := by
  induction entries generalizing sorted with
  | nil => exact .inr member
  | cons head rest inductionHypothesis =>
    rcases inductionHypothesis member with later | inserted
    · exact .inl (List.mem_cons_of_mem _ later)
    · rcases eq_or_mem_of_mem_insertEntry inserted with rfl | before
      · exact .inl List.mem_cons_self
      · exact .inr before

/-- A record holds something if all that it is made of does. -/
theorem holds_ofEntries (isRecord : content.isRecord) (other : content ≠ .setting)
    {entries : List (String × Value)}
    (each : ∀ entry ∈ entries, (content.field entry.1).Holds entry.2) :
    content.Holds (.ofEntries entries) := by
  refine .object isRecord (fun entry member => ?_) fun isSetting => absurd isSetting other
  rcases mem_of_mem_foldl_insertEntry member with present | absurdity
  · exact each entry present
  · exact absurd absurdity List.not_mem_nil

end Values

end Content

/-- An element is placed if its id, its inputs and its parameters are. -/
theorem isPlaced_create {stage : Stage} {id : String} {inputs : List String} {template : String}
    {params : Params} (isBlock : template ∈ blockTemplates.map (·.name)) (inTag : InTag id)
    (inputsOnLine : ∀ input ∈ inputs, OneLine input)
    (each : ∀ entry ∈ params, (Content.inside.field entry.1).Holds entry.2) :
    IsPlaced (.create stage id inputs template params) where
  isBlock := isBlock
  noParts := rfl
  holds := by
    refine .object rfl (fun entry member => ?_) nofun
    have isInside : Content.inside.field "inputs" = .inside := by decide
    have isArgument : Content.inside.field "id" = .argument := by decide
    rcases Content.eq_or_mem_of_mem_insertEntry member with rfl | member
    · rw [isInside, Content.holds_ofTexts_iff]
      exact ⟨rfl, fun input isInput =>
        (Content.inside_holds_text_iff input).mpr (inputsOnLine input isInput)⟩
    · rcases Content.eq_or_mem_of_mem_insertEntry member with rfl | member
      · rw [isArgument, Content.argument_holds_text_iff]
        exact inTag
      · rcases Content.mem_of_mem_foldl_insertEntry member with present | absurdity
        · exact each entry present
        · exact absurd absurdity List.not_mem_nil

/-! ### Sources, and where records come in -/

theorem isPlaced_header : IsPlaced header :=
  isPlaced_create (by decide) (by decide) (by decide) (by simp)

theorem oneLine_minTlsVersion? {options : Options} {word text : String} (wordOnLine : OneLine word)
    (found : minTlsVersion? options word = some text) : OneLine text := by
  obtain ⟨minor, isMinor, rfl⟩ := Option.map_eq_some_iff.mp found
  obtain ⟨version, _, isMinor⟩ := Option.bind_eq_some_iff.mp isMinor
  have onLine : OneLine minor := by
    unfold tlsMinor? at isMinor
    split at isMinor <;> cases isMinor <;> decide
  simp only [oneLine_append_iff]
  exact ⟨⟨wordOnLine, by decide⟩, onLine⟩

theorem oneLine_sslVersion (options : Options) : OneLine (sslVersion options) := by
  unfold sslVersion
  cases found : minTlsVersion? options "TLSv" with
  | none => decide
  | some text => exact oneLine_minTlsVersion? (by decide) found

theorem oneLine_cipherList? {options : Options} (ciphers : ∀ cipher ∈ options.ciphers, OneLine cipher)
    {text : String} (found : cipherList? options = some text) : OneLine text := by
  unfold cipherList? at found
  split at found
  · cases found
  · cases found
    exact oneLine_intercalate (by decide) ciphers

theorem isPlaced_metrics {options : Options} (ciphers : ∀ cipher ∈ options.ciphers, OneLine cipher) :
    IsPlaced (metrics options) := by
  refine isPlaced_create (by decide) (by decide) (by decide) ?_
  simp only [List.forall_mem_cons, Content.field]
  simp
  exact ⟨fun text => oneLine_minTlsVersion? (by decide), fun text => oneLine_cipherList? ciphers⟩

theorem isPlaced_of_mem_sources {routing : Routing} {element : Element}
    (member : element ∈ sources routing) : IsPlaced element := by
  unfold sources at member
  simp only [List.mem_append, List.mem_ite_nil_right, List.mem_singleton, List.mem_map] at member
  rcases member with (⟨_, rfl⟩ | ⟨_, rfl⟩) | ⟨_, source, _, rfl⟩
  · refine isPlaced_create (by decide) (by decide) (by decide) ?_
    simp [Content.field, Content.isList, Content.item]
    decide
  · refine isPlaced_create (by decide) (by decide) (by decide) ?_
    simp [Content.field]
    decide
  · cases source <;> refine isPlaced_create (by decide) (by decide) (by decide) ?_
    all_goals
      simp [Content.field, auditTailParams]
      decide

theorem inTag_ofKind (kind : LogKind) : InTag (Label.ofKind kind) := by
  cases kind <;> decide

theorem inTag_tagsOf (kind : LogKind) : InTag (tagsOf kind) := by
  cases kind <;> decide

theorem holds_ingressRoute (routing : Routing) (kind : LogKind) :
    Content.inside.Holds (ingressRoute routing kind) := by
  have title : OneLine (titleOf kind) := by cases kind <;> decide
  refine Content.holds_ofEntries rfl (by decide) ?_
  simp [Content.field, title, inTag_tagsOf, (inTag_ofKind kind).1]

theorem isPlaced_concatLabel : IsPlaced concatLabel := by
  refine isPlaced_create (by decide) (by decide) (by decide) ?_
  simp [Content.field]
  decide

theorem isPlaced_ingressLabel (routing : Routing) : IsPlaced (ingressLabel routing) := by
  have inputs : ∀ input ∈ ingressInputs routing, OneLine input := by
    unfold ingressInputs
    simp only [List.mem_append, List.mem_ite_nil_right, List.mem_singleton, List.mem_map]
    rintro input ((⟨_, rfl⟩ | ⟨_, rfl⟩) | ⟨_, source, _, rfl⟩)
    · decide
    · decide
    · cases source <;> decide
  have levelsOnLine : ∀ level ∈ levels, OneLine level.1 ∧ OneLine level.2 := by decide
  have level (name pattern : String) (member : (name, pattern) ∈ levels) :
      Content.inside.Holds (.ofEntries [("name", .text name), ("pattern", .text pattern)]) := by
    refine Content.holds_ofEntries rfl (by decide) ?_
    simpa [Content.field] using levelsOnLine _ member
  refine isPlaced_create (by decide) (by decide) inputs ?_
  simp [Content.field, Content.isList, Content.item, holds_ingressRoute]
  rintro _ name pattern member rfl
  exact level name pattern member

/-! ### Kinds and pipelines -/

theorem holds_fanParam (isDeep : Bool) {targets : List String}
    (targetsOnLine : ∀ target ∈ targets, OneLine target) :
    Content.inside.Holds (fanParam isDeep targets) := by
  unfold fanParam
  split
  · refine Content.holds_ofEntries rfl (by decide) ?_
    simp [Content.field]
  · refine Content.holds_ofEntries rfl (by decide) ?_
    simpa [Content.field] using targetsOnLine
  · have copy : Content.inside.Holds
        (.ofEntries [("deep", .boolean isDeep), ("targets", .ofTexts targets)]) := by
      refine Content.holds_ofEntries rfl (by decide) ?_
      simpa [Content.field, Content.isList, Content.item] using targetsOnLine
    refine Content.holds_ofEntries rfl (by decide) ?_
    simp [Content.field, copy]

/-- Whether the texts of a selection stay on their lines. -/
structure Selection.IsOneLine (selection : Selection) : Prop where
  namespaces : ∀ text ∈ selection.namespaces, OneLine text
  labels : ∀ text ∈ selection.labels, OneLine text
  pipeline : OneLine selection.pipeline

theorem Selection.IsOneLine.holds_param {selection : Selection} (onLine : selection.IsOneLine) :
    Content.inside.Holds selection.param := by
  refine Content.holds_ofEntries rfl (by decide) ?_
  simp [Content.field, Content.isList, Content.item, onLine.pipeline]
  exact ⟨onLine.namespaces, onLine.labels⟩

/-- Whether the labels that records of a kind go to stay on their lines. -/
structure KindRoute.IsOneLine (route : KindRoute) : Prop where
  direct : ∀ target ∈ route.direct, OneLine target
  legacy : ∀ target ∈ route.legacy, OneLine target
  selected : ∀ selection ∈ route.selected, selection.IsOneLine

namespace KindRoute.IsOneLine

variable {route : KindRoute} (onLine : route.IsOneLine)

include onLine

theorem targets : ∀ target ∈ route.targets, OneLine target := fun target member =>
  (List.mem_append.mp member).elim (onLine.direct target) (onLine.legacy target)

theorem holds_routerParam : Content.inside.Holds route.routerParam := by
  unfold routerParam
  split
  · exact .null _
  · have fallback : OneLine Label.applicationAll := by decide
    refine Content.holds_ofEntries rfl (by decide) ?_
    simp [Content.field, Content.isList, Content.item, fallback]
    exact fun selection member => (onLine.selected selection member).holds_param

theorem isPlaced_label : IsPlaced route.label := by
  have kind : OneLine route.kind.name := by cases route.kind <;> decide
  refine isPlaced_create (by decide) (inTag_ofKind _) (by decide) ?_
  simp [Content.field, kind, onLine.holds_routerParam, holds_fanParam _ onLine.targets]

theorem isPlaced_fallbackLabel : IsPlaced route.fallbackLabel := by
  have inputs : ∀ input ∈ [Label.ofKind route.kind], OneLine input := by
    simp [(inTag_ofKind route.kind).1]
  have desc : OneLine "Sending unrouted application to pipelines" := by decide
  refine isPlaced_create (by decide) (by decide) inputs ?_
  simp [Content.field, desc, holds_fanParam _ onLine.targets]

end KindRoute.IsOneLine

/-- A JSON document of texts stands on one line. -/
theorem oneLine_compact_ofDictionary (dictionary : Dictionary String) :
    OneLine (Value.ofDictionary dictionary).compact := by
  have entriesOnLine (entries : List (String × String)) : OneLine (Value.compactEntries
      (entries.map fun entry => (entry.1, .text entry.2))) := by
    induction entries with
    | nil => decide
    | cons entry rest inductionHypothesis =>
      have head : OneLine (Value.textLiteral entry.1 ++ ":" ++ Value.textLiteral entry.2) := by
        simp only [oneLine_append_iff]
        exact ⟨⟨Json.notMem_textLiteral _, by decide⟩, Json.notMem_textLiteral _⟩
      cases rest with
      | nil =>
        rw [List.map_cons, List.map_nil, Value.compactEntries, Value.compact]
        exact head
      | cons next others =>
        have onLine := (oneLine_append_iff (_ ++ ",") _).mpr
          ⟨(oneLine_append_iff _ ",").mpr ⟨head, by decide⟩, inductionHypothesis⟩
        rw [List.map_cons] at onLine ⊢
        rw [List.map_cons, Value.compactEntries, Value.compact]
        · exact onLine
        · simp
  unfold Value.ofDictionary
  rw [Value.compact, oneLine_append_iff, oneLine_append_iff]
  exact ⟨⟨by decide, entriesOnLine _⟩, by decide⟩

end Fluentd

end LogForwarder
