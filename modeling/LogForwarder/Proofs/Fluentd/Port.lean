/-
This file finds out when the stores of elasticsearch outputs use the port that the address of the
output names. The reader of addresses leaves out the usual port of a scheme, and a store takes a
port that is left out for one that was never given, in whose place it has a default of its own. So
an address may name any port but the usual one of its scheme.
-/

import LogForwarder.Proofs.Fluentd.Compile
import LogForwarder.Proofs.Fluentd.Outline
import LogForwarder.Proofs.Fluentd.Stores
import LogForwarder.Proofs.Template.Source
import LogForwarder.Proofs.Url

namespace LogForwarder

namespace Fluentd

open Template

/-! ### The line of a port -/

/-- The nodes of the template for lines of settings. -/
def settingsNodes : List Node :=
  [.each [.mk (.dot []) []]
    [.text "\n", .action [.mk (.function "kv") [.dot ["key"], .dot ["value"]]]] []]

/-- How the settings of a store are included. -/
def settingsInclusion : Inclusion := ⟨Templates.settings.name, ["settings"], some 2⟩

/--
Whether there is a port among some nodes, with its word before it, and with settings and another
line behind it.
-/
def showsPort (charsOf : String → List Char) : List Node → Bool
  | .text word :: .action [.mk (.dot ["port"]) []] :: .action settings :: .text behind :: _ =>
    charsOf word = "\n  port ".toList && (charsOf behind).head? = some '\n' &&
      Inclusion.ofExpression? settings = some settingsInclusion
  | _ :: rest => showsPort charsOf rest
  | [] => false

/-- Nodes with a port come apart around it. -/
theorem exists_append_of_showsPort {charsOf : String → List Char} {nodes : List Node}
    (shown : showsPort charsOf nodes) :
    ∃ before settings behind after,
      mapTextsOf (String.ofList ∘ charsOf) nodes =
        before ++ ([.text "\n  port ", .action [.mk (.dot ["port"]) []]] ++
          ([.action settings] ++ ([.text behind] ++ after))) ∧
      Inclusion.ofExpression? settings = some settingsInclusion ∧
      behind.toList.head? = some '\n' := by
  fun_induction showsPort charsOf nodes with
  | case1 word settings behind rest =>
    simp only [Bool.and_eq_true, decide_eq_true_eq] at shown
    obtain ⟨⟨isWord, breaks⟩, includes⟩ := shown
    refine ⟨[], settings, String.ofList (charsOf behind), mapTextsOf (String.ofList ∘ charsOf) rest,
      ?_, includes, ?_⟩
    · simp [mapTextsOf, Node.mapTexts, isWord]
    · rwa [String.toList_ofList]
  | case2 node rest _ inductionHypothesis =>
    obtain ⟨before, settings, behind, after, split, found⟩ := inductionHypothesis shown
    refine ⟨node.mapTexts (String.ofList ∘ charsOf) :: before, settings, behind, after, ?_, found⟩
    rw [mapTextsOf, split]
    rfl
  | case3 => cases shown

set_option maxRecDepth 20000 in
/-- The template of a store shows the port of the store. -/
theorem exists_read_elasticsearchStore :
    ∃ charsOf nodes, read Templates.elasticsearchStore.text =
        .ok (mapTextsOf (String.ofList ∘ charsOf) nodes) ∧ showsPort charsOf nodes :=
  exists_read_of_testText _ (by decide +kernel)

set_option maxRecDepth 20000 in
theorem read_settings : read Templates.settings.text = .ok settingsNodes :=
  read_braced (by decide +kernel)

/-- Whether a text begins with a new line, if there is anything in it. -/
def BeginsLine (text : String) : Prop := ∀ c ∈ text.toList.head?, c = '\n'

/-- Settings are written on lines of their own. -/
theorem beginsLine_of_settings {engine : Engine} (made : Templates.engine = .ok engine)
    {data : Value} {text : String}
    (rendered : engine.render Templates.settings.name data = .ok text) : BeginsLine text := by
  rw [Engine.render_eq made (by simp [Templates.all]) read_settings, mapError_eq_ok_iff] at rendered
  obtain ⟨items, lines, areLines, rfl⟩ := exists_of_render_each (render_of_renderNodes_one rendered)
  cases areLines with
  | nil =>
    intro c absent
    cases absent
  | @cons _ line _ others isLine _ =>
    obtain ⟨_, rest, isBreak, _, rfl⟩ :=
      exists_of_renderNodes_append (show renderNodes _ ([.text "\n"] ++ _) = _ from isLine)
    rw [renderNodes_one (render_text _ _)] at isBreak
    cases isBreak
    intro c first
    rw [String.toList_join, List.flatMap_cons, String.toList_append] at first
    exact (Option.some.inj first).symm

theorem BeginsLine.indentText {text : String} (begins : BeginsLine text) (width : Nat) :
    BeginsLine (Template.indentText text width) := by
  unfold BeginsLine
  rw [toList_indentText]
  cases chars : text.toList with
  | nil => simp [linesOf, movedLine]
  | cons c rest =>
    obtain rfl : c = '\n' := begins c (by rw [chars]; rfl)
    have others : (linesOf rest).map (movedLine width) ≠ [] :=
      fun none => linesOf_ne_nil rest (List.map_eq_nil_iff.mp none)
    rw [linesOf, List.map_cons, Text.intercalate_cons _ _ others]
    intro c first
    exact (Option.some.inj first).symm

/-- A text that begins with a new line, if at all, leaves one at the front of another. -/
theorem BeginsLine.exists_append {first second : String} (begins : BeginsLine first)
    {chars : List Char} (breaks : second.toList = '\n' :: chars) :
    ∃ rest, (first ++ second).toList = '\n' :: rest := by
  rw [String.toList_append, breaks]
  cases found : first.toList with
  | nil => exact ⟨_, rfl⟩
  | cons c rest =>
    obtain rfl : c = '\n' := begins c (by rw [found]; rfl)
    exact ⟨_, rfl⟩

/-- The settings of a store are written from the next line on. -/
theorem beginsLine_of_settingsInclusion {engine : Engine} (made : Templates.engine = .ok engine)
    {data root : Value} {settings : Expression}
    (includes : Inclusion.ofExpression? settings = some settingsInclusion) {text : String}
    (rendered : (Node.action settings).render ⟨engine.render, data, root⟩ = .ok text) :
    BeginsLine text := by
  rw [Node.render] at rendered
  obtain ⟨value, evaluated, written⟩ := exists_of_bind_eq_ok rendered
  obtain ⟨_, lines, _, areLines, rfl⟩ := (Inclusion.evaluate_iff includes _ value).mp evaluated
  cases written
  exact (beginsLine_of_settings made areLines).indentText 2

/-- The line of a port, with the line breaks around it. -/
def portLine (port : Nat) : String := "\n  port " ++ toString port ++ "\n"

/-- The text of a store has the line of its port. -/
theorem portLine_infix {engine : Engine} (made : Templates.engine = .ok engine)
    {entries : List (String × Value)} {port : Nat}
    (isPort : (Value.object entries).field "port" = .integer port) {text : String}
    (rendered : engine.render Templates.elasticsearchStore.name (.object entries) = .ok text) :
    (portLine port).toList <:+: text.toList := by
  obtain ⟨charsOf, nodes, isRead, shown⟩ := exists_read_elasticsearchStore
  obtain ⟨_, settings, next, _, split, includes, breaks⟩ := exists_append_of_showsPort shown
  rw [Engine.render_eq made (by simp [Templates.all]) isRead, split, mapError_eq_ok_iff] at rendered
  obtain ⟨before, _, _, atPort, rfl⟩ := exists_of_renderNodes_append rendered
  obtain ⟨line, _, isLine, behindPort, rfl⟩ := exists_of_renderNodes_append atPort
  obtain ⟨lines, behind, areLines, behindSettings, rfl⟩ := exists_of_renderNodes_append behindPort
  obtain ⟨first, others, isFirst, _, isBehind⟩ := exists_of_renderNodes_append behindSettings
  have isField : (Node.action [.mk (.dot ["port"]) []]).render
      ⟨engine.render, .object entries, .object entries⟩ = _ := render_field_eq "port"
  have written := renderNodes_cons (render_text _ "\n  port ") (renderNodes_one isField)
  rw [isPort] at written
  obtain rfl : line = "\n  port " ++ toString port :=
    Except.ok.inj (isLine.symm.trans written)
  rw [renderNodes_one (render_text _ _)] at isFirst
  have nextLine : ∃ chars, behind.toList = '\n' :: chars := by
    obtain ⟨chars, isNext⟩ := List.head?_eq_some_iff.mp breaks
    rw [isBehind, ← Except.ok.inj isFirst, String.toList_append, isNext]
    exact ⟨_, rfl⟩
  -- A line begins behind the port, be it of settings or of what follows them.
  obtain ⟨rest, followed⟩ := (beginsLine_of_settingsInclusion made includes
    (render_of_renderNodes_one areLines)).exists_append nextLine.choose_spec
  refine ⟨before.toList, rest, ?_⟩
  rw [String.toList_append, String.toList_append, followed, portLine, String.toList_append]
  simp

/-! ### Ports of stores -/

/-- Whether a store is given a port, and has the line of the port in its text. -/
structure HasPort (port : Nat) (part : Value) : Prop where
  isGiven : part.field "port" = .integer port
  isWritten : ∃ engine text, Templates.engine = .ok engine ∧
    engine.render Templates.elasticsearchStore.name part = .ok text ∧
      (portLine port).toList <:+: text.toList

namespace Store

variable (store : Store)

/-- A store has the port of the address and no other, or the default if the address has none. -/
theorem hasPort_elasticsearchStore_iff (url : Url) (tags id : String) (retryTag : Option String)
    (port : Nat) :
    HasPort port (store.elasticsearchStore url tags id retryTag) ↔
      port = url.port?.getD defaultElasticsearchPort := by
  have isGiven : (store.elasticsearchStore url tags id retryTag).field "port" =
      .integer (url.port?.getD defaultElasticsearchPort) := by
    simp [elasticsearchStore, List.lookup_cons]
  refine ⟨fun has => ?_, ?_⟩
  · exact Int.ofNat.inj (Value.integer.inj (has.isGiven.symm.trans isGiven))
  · rintro rfl
    obtain ⟨engine, made, renders⟩ := exists_engine
    obtain ⟨text, rendered⟩ := renders Templates.elasticsearchStore.name (Shapes.store []) rfl _
      (store.fits_elasticsearchStore url tags id retryTag)
    exact ⟨isGiven, engine, text, made, rendered, portLine_infix made isGiven rendered⟩

/-- Both stores of an elasticsearch output have the port of its address, or the default. -/
theorem hasPort_of_elasticsearchLabel {element : Element}
    (made : store.elasticsearchLabel = .ok element) :
    ∃ url, Endpoint.readUrl store.output.url = .ok url ∧ (stores element).length = 2 ∧
      ∀ part ∈ stores element, ∀ port,
        HasPort port part ↔ port = url.port?.getD defaultElasticsearchPort := by
  obtain ⟨url, isRead, same⟩ := exists_of_bind_eq_ok made
  cases same
  rw [stores_elasticsearch]
  refine ⟨url, mapError_eq_ok_iff.mp isRead, rfl, fun part member port => ?_⟩
  have isStore : ∃ tags id retryTag, part = store.elasticsearchStore url tags id retryTag := by
    rcases List.mem_pair.mp member with isRetry | isMain
    · exact ⟨_, _, _, isRetry.trans (Element.field_create _ _ _ _ _ _ (by decide) (by decide))⟩
    · exact ⟨_, _, _, isMain.trans (Element.field_create _ _ _ _ _ _ (by decide) (by decide))⟩
  obtain ⟨tags, id, retryTag, rfl⟩ := isStore
  exact store.hasPort_elasticsearchStore_iff url tags id retryTag port

end Store

end Fluentd

/-! ### Ports of addresses -/

namespace Endpoint

/-- The schemes of web servers. -/
def webSchemes : List String := ["http", "https"]

theorem isPlainScheme_of_mem_webSchemes {scheme : String} (isWeb : scheme ∈ webSchemes) :
    IsPlainScheme scheme := by
  rcases List.mem_pair.mp isWeb with rfl | rfl
  all_goals exact ⟨by decide, by decide, by decide, by decide⟩

/-- An address has the port that it names, unless it is the usual one of its scheme. -/
theorem port?_of_readUrl {scheme : String} (isWeb : scheme ∈ webSchemes) {host : String}
    (isHost : Url.IsHostText host.toList) {port : Nat} (within : port ≤ Url.maxPort) {url : Url}
    (isRead : readUrl (scheme ++ "://" ++ (HostPort.mk host (some port)).text) = .ok url) :
    url.port? = if some port = Url.usualPort? scheme then none else some port := by
  obtain ⟨found, _, rfl⟩ := (readUrl_withScheme_iff (isPlainScheme_of_mem_webSchemes isWeb)
    isHost.filter (by rintro _ ⟨⟩; exact within) (Url.kept_append_portChars _ _) url).mp isRead
  rfl

/-- The usual port of a scheme of web servers is not the default of a store. -/
theorem usualPort?_ne_default {scheme : String} (isWeb : scheme ∈ webSchemes) :
    Url.usualPort? scheme ≠ some Fluentd.Store.defaultElasticsearchPort := by
  rcases List.mem_pair.mp isWeb with rfl | rfl <;> decide

end Endpoint

namespace Spec

/--
Both stores of an elasticsearch output have the port that the address of the output names, exactly
if it is not the usual port of the scheme; and every spec without problems has its stores.
-/
theorem hasPort_iff_ne_usualPort (spec : Spec) (secrets : SecretStore) (options : Options)
    (noDebug : options.debug = false) :
    (spec.problems secrets options .fluentd = [] →
        ∃ arena, Fluentd.build spec.normalize secrets options = .ok arena) ∧
      ∀ arena, Fluentd.build spec.normalize secrets options = .ok arena →
        ∀ output ∈ spec.normalize.routedOutputs, output.type = .elasticsearch →
          ∃ element ∈ arena.elements, element.id = Name.label output.name ∧
            (Fluentd.stores element).length = 2 ∧
            ∀ scheme ∈ Endpoint.webSchemes, ∀ host port, Url.IsHostText host.toList →
              port ≤ Url.maxPort →
              output.url = scheme ++ "://" ++ (HostPort.mk host (some port)).text →
                ∀ part ∈ Fluentd.stores element,
                  Fluentd.HasPort port part ↔ Url.usualPort? scheme ≠ some port := by
  refine ⟨exists_fluentd_build, fun arena built output routed type => ?_⟩
  obtain ⟨element, member, isLabel, made⟩ := Fluentd.exists_label_of_routed noDebug built routed
  have isElasticsearch : (Fluentd.Store.ofOutput spec.normalize secrets options output).outputLabel =
      (Fluentd.Store.ofOutput spec.normalize secrets options output).elasticsearchLabel := by
    unfold Fluentd.Store.outputLabel
    rw [show (Fluentd.Store.ofOutput spec.normalize secrets options output).output.type =
      .elasticsearch from type]
  rw [isElasticsearch] at made
  obtain ⟨url, isRead, two, ports⟩ := Fluentd.Store.hasPort_of_elasticsearchLabel _ made
  refine ⟨element, member, isLabel, two, ?_⟩
  intro scheme isWeb host port isHost within isUrl part isPart
  replace isRead : Endpoint.readUrl output.url = .ok url := isRead
  rw [isUrl] at isRead
  rw [ports part isPart, Endpoint.port?_of_readUrl isWeb isHost within isRead]
  have other := Endpoint.usualPort?_ne_default isWeb
  by_cases usual : some port = Url.usualPort? scheme
  · rw [if_pos usual, ← usual]
    refine iff_of_false ?_ (fun different => different rfl)
    rintro rfl
    exact other usual.symm
  · rw [if_neg usual, Option.getD_some]
    exact iff_of_true rfl (Ne.symm usual)

/-- Audit records on their way to an elasticsearch server at some address. -/
def toIndex (url : String) : Spec where
  inputs := []
  outputs := [{ Output.bare "index" .elasticsearch with url? := some url }]
  pipelines := [⟨some "all", ["audit"], ["index"], ∅, none⟩]
  tuning := none

/-- A port that is not the usual one reaches both stores. -/
theorem hasPort_unusual :
    (toIndex "https://[::1]:80").problems ∅ .standard .fluentd = [] ∧
      ∃ arena, Fluentd.build (toIndex "https://[::1]:80").normalize ∅ .standard = .ok arena ∧
        ∃ element ∈ arena.elements, (Fluentd.stores element).length = 2 ∧
          ∀ part ∈ Fluentd.stores element, Fluentd.HasPort 80 part := by
  have clean : (toIndex "https://[::1]:80").problems ∅ .standard .fluentd = [] := by decide
  obtain ⟨exists_build, ports⟩ :=
    hasPort_iff_ne_usualPort (toIndex "https://[::1]:80") ∅ .standard rfl
  obtain ⟨arena, built⟩ := exists_build clean
  have routed : { Output.bare "index" .elasticsearch with url? := some "https://[::1]:80" } ∈
      (toIndex "https://[::1]:80").normalize.routedOutputs := by
    decide
  obtain ⟨element, member, _, two, each⟩ := ports arena built _ routed rfl
  refine ⟨clean, arena, built, element, member, two, fun part isPart => ?_⟩
  exact (each "https" (by decide) "[::1]" 80 ⟨by decide, by decide⟩ (by decide) (by decide) part
    isPart).mpr (by decide)

/-- A proper address may name the usual port of its scheme, and both stores use another one. -/
theorem exists_not_hasPort :
    (toIndex "https://[::1]:443").problems ∅ .standard .fluentd = [] ∧
      ∃ arena, Fluentd.build (toIndex "https://[::1]:443").normalize ∅ .standard = .ok arena ∧
        ∃ element ∈ arena.elements, (Fluentd.stores element).length = 2 ∧
          ∀ part ∈ Fluentd.stores element,
            Fluentd.HasPort 9200 part ∧ ¬Fluentd.HasPort 443 part := by
  have clean : (toIndex "https://[::1]:443").problems ∅ .standard .fluentd = [] := by decide
  obtain ⟨arena, built⟩ := exists_fluentd_build clean
  have routed : { Output.bare "index" .elasticsearch with url? := some "https://[::1]:443" } ∈
      (toIndex "https://[::1]:443").normalize.routedOutputs := by
    decide
  obtain ⟨element, member, _, made⟩ := Fluentd.exists_label_of_routed rfl built routed
  obtain ⟨url, isRead, two, ports⟩ := Fluentd.Store.hasPort_of_elasticsearchLabel _ made
  have noPort : url.port? = none := by
    have evaluated : (Endpoint.readUrl "https://[::1]:443").toOption.map (·.port?) = some none := by
      decide
    rw [show Endpoint.readUrl "https://[::1]:443" = .ok url from isRead] at evaluated
    exact Option.some.inj evaluated
  refine ⟨clean, arena, built, element, member, two, fun part isPart => ?_⟩
  rw [ports part isPart, ports part isPart, noPort]
  decide

end Spec

end LogForwarder
