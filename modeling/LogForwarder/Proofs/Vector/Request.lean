/-
This file finds out which settings of requests get into a configuration. A time limit and the
durations of retries are numbers of seconds, and the line of each is written if its value is
present. Zero counts as absent, so a setting of zero has no line: neither a time limit of zero nor a
duration of less than a second, although the table is there that the line would stand in.
-/

import LogForwarder.Proofs.Quantity
import LogForwarder.Proofs.Vector.Block
import LogForwarder.Proofs.Vector.Compile
import LogForwarder.Proofs.Vector.Routing

namespace LogForwarder

namespace Vector

/-! ### Settings -/

/-- A number that sinks can be told about requests. -/
inductive RequestSetting
  | timeout
  | initialBackoff
  | maxDuration
  deriving DecidableEq

namespace RequestSetting

/-- The key of a setting in its table. -/
def key : RequestSetting → String
  | .timeout => "timeout_secs"
  | .initialBackoff => "retry_initial_backoff_secs"
  | .maxDuration => "retry_max_duration_secs"

/-- The line of a setting. -/
def line (setting : RequestSetting) (value : Nat) : String :=
  setting.key ++ " = " ++ toString value

theorem toList_line (setting : RequestSetting) (value : Nat) :
    (setting.line value).toList =
      setting.key.toList ++ ' ' :: '=' :: ' ' :: Nat.toDigits 10 value := by
  unfold line
  rw [String.toList_append, String.toList_append, Text.toList_toString, List.append_assoc]
  rfl

/-- Lines begin with a letter, and are told apart by their keys and their numbers. -/
theorem line_inj {first second : RequestSetting} {value other : Nat}
    (same : first.line value = second.line other) : first = second ∧ value = other := by
  have chars := congrArg String.toList same
  rw [toList_line, toList_line] at chars
  have number (digits : Nat.toDigits 10 value = Nat.toDigits 10 other) : value = other := by
    rw [← Text.digitsValue_toDigits value, digits, Text.digitsValue_toDigits]
  cases first <;> cases second <;> simp [key] at chars ⊢ <;> exact number chars

end RequestSetting

namespace Request

/-- The number of a request at a setting, if there is one. -/
def setting? (request : Request) : RequestSetting → Option Nat
  | .timeout => request.timeout
  | .initialBackoff => request.initialBackoff
  | .maxDuration => request.maxDuration

/-- The line of a setting, unless its number is zero. -/
def line? (request : Request) (setting : RequestSetting) : Option String :=
  ((request.setting? setting).filter (· ≠ 0)).map setting.line

/-- The line of the headers, if there are any. -/
def headersLine? (request : Request) : Option String :=
  if request.headers.isEmpty then none else some ("headers = " ++ inlineTable request.headers)

/-- The lines of a request below the header of its table. -/
def lines (request : Request) : List String :=
  [request.line? .timeout, request.line? .initialBackoff, request.line? .maxDuration,
    request.headersLine?].filterMap id

/-- The block of a request. -/
def block (request : Request) (table : String) : String :=
  "\n".intercalate (("[" ++ table ++ ".request]") :: request.lines)

theorem mem_lines_iff (request : Request) (line : String) :
    line ∈ request.lines ↔
      (∃ setting, request.line? setting = some line) ∨ request.headersLine? = some line := by
  unfold lines
  simp only [List.mem_filterMap, List.mem_cons, List.not_mem_nil, or_false, id]
  refine ⟨?_, ?_⟩
  · rintro ⟨_, rfl | rfl | rfl | rfl, isLine⟩
    · exact .inl ⟨.timeout, isLine⟩
    · exact .inl ⟨.initialBackoff, isLine⟩
    · exact .inl ⟨.maxDuration, isLine⟩
    · exact .inr isLine
  · rintro (⟨setting, isLine⟩ | isLine)
    · cases setting <;> simp [isLine]
    · simp [isLine]

theorem line?_eq_some_iff (request : Request) (setting : RequestSetting) (line : String) :
    request.line? setting = some line ↔
      ∃ value, request.setting? setting = some value ∧ value ≠ 0 ∧ setting.line value = line := by
  unfold line?
  simp only [Option.map_eq_some_iff, Option.filter_eq_some_iff, decide_eq_true_eq, and_assoc]

/-- A setting has its line exactly if it has a number other than zero. -/
theorem line_mem_lines_iff (request : Request) (setting : RequestSetting) (value : Nat) :
    setting.line value ∈ request.lines ↔ request.setting? setting = some value ∧ value ≠ 0 := by
  have notHeaders : request.headersLine? ≠ some (setting.line value) := by
    unfold headersLine?
    intro isHeaders
    obtain ⟨_, same⟩ := Option.ite_none_left_eq_some.mp isHeaders
    have chars := congrArg String.toList (Option.some.inj same)
    rw [String.toList_append, RequestSetting.toList_line] at chars
    cases setting <;> simp [RequestSetting.key] at chars
  rw [mem_lines_iff, or_iff_left notHeaders]
  refine ⟨?_, fun ⟨found, notZero⟩ =>
    ⟨setting, (request.line?_eq_some_iff _ _).mpr ⟨value, found, notZero, rfl⟩⟩⟩
  rintro ⟨other, isLine⟩
  obtain ⟨number, found, notZero, same⟩ := (request.line?_eq_some_iff _ _).mp isLine
  obtain ⟨rfl, rfl⟩ := RequestSetting.line_inj same
  exact ⟨found, notZero⟩

/-! ### Lines of a block -/

theorem isBlockLine_line (setting : RequestSetting) (value : Nat) :
    IsBlockLine (setting.line value) := by
  obtain ⟨digits, c, split⟩ :=
    (List.eq_nil_or_concat' (Nat.toDigits 10 value)).resolve_left (Text.toDigits_ne_nil value)
  have isLast : c ∈ Nat.toDigits 10 value := by simp [split]
  have endsInDigit : EndsVisibly (toString value) :=
    ⟨digits, c, by rw [Text.toList_toString, split],
      Text.isBlank_of_isDigit (Text.isDigit_of_mem_toDigits isLast)⟩
  exact IsBlockLine.append ⟨oneLine_toString value, endsInDigit⟩ (by cases setting <;> decide)

theorem isBlockLine_inlineTable (entries : Dictionary String) :
    IsBlockLine (inlineTable entries) := by
  refine ⟨?_, EndsVisibly.append ⟨[], '\x7d', rfl, by decide⟩ _⟩
  unfold inlineTable
  rw [oneLine_append_iff, oneLine_append_iff]
  refine ⟨⟨by decide, oneLine_intercalate (by decide) fun pair member => ?_⟩, by decide⟩
  obtain ⟨entry, _, rfl⟩ := List.mem_map.mp member
  show OneLine (Value.textLiteral entry.1 ++ " = " ++ Value.textLiteral entry.2)
  rw [oneLine_append_iff, oneLine_append_iff]
  exact ⟨⟨Json.notMem_textLiteral _, by decide⟩, Json.notMem_textLiteral _⟩

theorem isBlockLine_of_mem_lines (request : Request) {line : String}
    (member : line ∈ request.lines) : IsBlockLine line := by
  rcases (request.mem_lines_iff line).mp member with ⟨setting, isLine⟩ | isHeaders
  · obtain ⟨value, _, _, rfl⟩ := (request.line?_eq_some_iff _ _).mp isLine
    exact isBlockLine_line setting value
  · unfold headersLine? at isHeaders
    obtain ⟨_, same⟩ := Option.ite_none_left_eq_some.mp isHeaders
    exact Option.some.inj same ▸ (isBlockLine_inlineTable _).append (by decide)

/-- A block has a line for its header and one for each setting. -/
theorem linesOfText_block (request : Request) {table : String} (onLine : OneLine table) :
    linesOfText (request.block table) = ("[" ++ table ++ ".request]") :: request.lines := by
  have header : OneLine ("[" ++ table ++ ".request]") := by
    rw [oneLine_append_iff, oneLine_append_iff]
    exact ⟨⟨by decide, onLine⟩, by decide⟩
  exact linesOfText_blockLines (List.forall_mem_cons.mpr
    ⟨header, fun _ member => (request.isBlockLine_of_mem_lines member).oneLine⟩)

/-- A block has the line of a setting exactly if the setting has a number other than zero. -/
theorem line_mem_block_iff (request : Request) {table : String} (onLine : OneLine table)
    (setting : RequestSetting) (value : Nat) :
    setting.line value ∈ linesOfText (request.block table) ↔
      request.setting? setting = some value ∧ value ≠ 0 := by
  have notHeader : setting.line value ≠ "[" ++ table ++ ".request]" := by
    intro same
    have chars := congrArg String.toList same
    rw [RequestSetting.toList_line, String.toList_append, String.toList_append] at chars
    cases setting <;> simp [RequestSetting.key] at chars
  rw [request.linesOfText_block onLine, List.mem_cons, or_iff_right notHeader, line_mem_lines_iff]

/-! ### Rendering of a block -/

theorem exists_toList_block (request : Request) (table : String) :
    ∃ rest, (request.block table).toList = '[' :: rest := by
  refine opens_intercalate "\n" ?_ request.lines
  rw [String.toList_append, String.toList_append]
  exact ⟨_, rfl⟩

theorem endsVisibly_block (request : Request) (table : String) :
    EndsVisibly (request.block table) := by
  have header : EndsVisibly ("[" ++ table ++ ".request]") :=
    EndsVisibly.append ⟨".request".toList, ']', rfl, by decide⟩ _
  exact endsVisibly_intercalate "\n" _ (List.forall_mem_cons.mpr
    ⟨header, fun _ member => (request.isBlockLine_of_mem_lines member).endsVisibly⟩)

end Request

/-! ### The template of requests -/

open Template

/-- The nodes of a setting, which are rendered if its value is present. -/
def settingNode (key : String) : Node :=
  .within [.mk (.dot [key]) []] [.text (key ++ " = "), .action [.mk (.dot []) []], .text "\n"] []

/-- The nodes of the template of requests. -/
def requestNodes : List Node :=
  [.text "[", .action [.mk (.dot ["table"]) []], .text ".request]\n",
    settingNode RequestSetting.timeout.key, settingNode RequestSetting.initialBackoff.key,
    settingNode RequestSetting.maxDuration.key, settingNode "headers"]

set_option maxRecDepth 20000 in
theorem read_request : read Templates.request.text = .ok requestNodes :=
  read_braced (by decide +kernel)

section

variable {includer : Includer} {entries : List (String × Value)} {root : Value}

theorem render_setting (key : String) :
    (settingNode key).render ⟨includer, .object entries, root⟩ =
      .ok (if ((Value.object entries).field key).isPresent then
        key ++ " = " ++ (((Value.object entries).field key).plainText ++ "\n") else "") := by
  unfold settingNode
  rw [render_within]
  split
  · exact renderNodes_cons (render_text _ _) (renderNodes_cons (render_dot _)
      (renderNodes_one (render_text _ _)))
  · rfl

/-- A number is rendered on a line unless it is missing or zero. -/
theorem render_number {request : Request} {setting : RequestSetting}
    (isNumber : (Value.object entries).field setting.key =
      numberValue (request.setting? setting)) :
    (settingNode setting.key).render ⟨includer, .object entries, root⟩ =
      .ok (brokenLine (request.line? setting)) := by
  rw [render_setting, isNumber, Request.line?]
  cases request.setting? setting with
  | none => rfl
  | some value =>
    by_cases isZero : value = 0
    · subst isZero
      rfl
    · have present : (numberValue (some value)).isPresent = true :=
        decide_eq_true fun zero => isZero (Int.ofNat.inj zero)
      rw [if_pos present, Option.filter_some, decide_eq_true isZero, ← String.append_assoc]
      rfl

theorem render_headers {request : Request}
    (isHeaders : (Value.object entries).field "headers" =
      .ofText? (if request.headers.isEmpty then none else some (inlineTable request.headers))) :
    (settingNode "headers").render ⟨includer, .object entries, root⟩ =
      .ok (brokenLine request.headersLine?) := by
  rw [render_setting, isHeaders, Request.headersLine?]
  split
  · rfl
  · have present : (Value.text (inlineTable request.headers)).isPresent = true := by
      obtain ⟨before, c, split, _⟩ := (Request.isBlockLine_inlineTable request.headers).endsVisibly
      have nonempty : inlineTable request.headers ≠ "" := by
        rintro empty
        rw [empty] at split
        exact List.append_ne_nil_of_right_ne_nil before (List.cons_ne_nil c []) split.symm
      simpa [Value.isPresent] using nonempty
    exact congrArg Except.ok ((if_pos present).trans String.append_assoc.symm)

/-- The template of requests is rendered as the block of a request, with a line break behind it. -/
theorem renderNodes_request (request : Request) (table : String)
    (isTable : (Value.object entries).field "table" = .text table)
    (isNumber : ∀ setting : RequestSetting, (Value.object entries).field setting.key =
      numberValue (request.setting? setting))
    (isHeaders : (Value.object entries).field "headers" =
      .ofText? (if request.headers.isEmpty then none else some (inlineTable request.headers))) :
    renderNodes ⟨includer, .object entries, root⟩ requestNodes =
      .ok (request.block table ++ "\n") := by
  have renderNumber (setting : RequestSetting) :
      (settingNode setting.key).render ⟨includer, .object entries, root⟩ =
        .ok (brokenLine (request.line? setting)) := render_number (isNumber setting)
  have rendered := renderNodes_cons (render_text _ "[") (renderNodes_cons (render_field isTable)
    (renderNodes_cons (render_text _ ".request]\n")
      (renderNodes_cons (renderNumber .timeout)
        (renderNodes_cons (renderNumber .initialBackoff)
          (renderNodes_cons (renderNumber .maxDuration)
            (renderNodes_one (render_headers isHeaders)))))))
  refine rendered.trans (congrArg Except.ok ?_)
  have header : ".request]\n" = ".request]" ++ "\n" := by decide
  rw [header, Request.block, ← join_map_append_break, List.map_cons, String.join_cons,
    Request.lines, ← join_brokenLine]
  simp only [List.map_cons, List.map_nil, String.join_cons, String.join_nil, String.append_empty,
    String.append_assoc]

end

/-! ### Requests of sinks -/

theorem renderBlock_request {engine : Engine} (made : Templates.engine = .ok engine)
    (owner id table : String) {request : Request} {params : Params}
    (told : request.params? table = some params) :
    renderBlock engine owner Templates.request.name
        (withParam "id" (.text id) (sortedParams params)) =
      .ok (request.block table) := by
  obtain ⟨_, same⟩ := Option.ite_none_left_eq_some.mp told
  obtain rfl := Option.some.inj same
  refine (renderBlock_eq made (by simp [Templates.all]) read_request (renderNodes_request request
    table ?isTable (fun setting => ?isNumber) ?isHeaders) owner).trans ?trimmed
  case isTable =>
    rw [field_withParam, if_neg (by decide), field_sortedParams]
    rfl
  case isNumber =>
    rw [field_withParam, if_neg (by cases setting <;> decide), field_sortedParams]
    cases setting <;> rfl
  case isHeaders =>
    rw [field_withParam, if_neg (by decide), field_sortedParams]
    rfl
  case trimmed =>
    rw [trim_block (request.exists_toList_block table) (request.endsVisibly_block table)]

/-- The parts of an element that are about requests. -/
def requestParts (element : Element) : List Part :=
  element.parts.filter (·.template = Templates.request.name)

/-- Whether an element has the line of a setting in a block about requests. -/
def HasRequestLine (engine : Engine) (element : Element) (setting : RequestSetting)
    (value : Nat) : Prop :=
  ∃ part ∈ requestParts element, ∃ block,
    renderBlock engine element.id part.template part.params = .ok block ∧
      setting.line value ∈ linesOfText block

/-- What is said about requests: in one block at most, and with the lines of some numbers. -/
structure TellsRequests (engine : Engine) (element : Element)
    (number? : RequestSetting → Option Nat) : Prop where
  atMostOne : (requestParts element).length ≤ 1
  renders : ∀ part ∈ requestParts element, ∃ block,
    renderBlock engine element.id part.template part.params = .ok block
  hasLine_iff : ∀ setting value,
    HasRequestLine engine element setting value ↔ number? setting = some value ∧ value ≠ 0

/-- A request that nothing is said about has no settings. -/
theorem Request.setting?_of_params?_eq_none {request : Request} {table : String}
    (silent : request.params? table = none) (setting : RequestSetting) :
    request.setting? setting = none := by
  have isSilent : request.isSilent = true := by
    by_contra speaks
    rw [params?, if_neg speaks] at silent
    cases silent
  simp only [Request.isSilent, Bool.and_eq_true, Option.isNone_iff_eq_none] at isSilent
  cases setting
  · exact isSilent.1.1.1
  · exact isSilent.1.1.2
  · exact isSilent.1.2

/-- An element with the part of a request, if there is one, tells the numbers of the request. -/
theorem tellsRequests_of_parts {engine : Engine} (made : Templates.engine = .ok engine)
    {element : Element} {request : Request} {table : String} (onLine : OneLine table)
    (parts : requestParts element =
      Sink.addedParts element.id Templates.request.name (request.params? table)) :
    TellsRequests engine element request.setting? := by
  cases told : request.params? table with
  | none =>
    have noParts : requestParts element = [] := by
      rw [parts, told]
      rfl
    refine ⟨by rw [noParts]; exact Nat.zero_le 1, by rw [noParts]; exact nofun, fun setting value =>
      iff_of_false (fun ⟨part, member, _⟩ => ?_) fun ⟨found, _⟩ => ?_⟩
    · rw [noParts] at member
      exact List.not_mem_nil member
    · rw [Request.setting?_of_params?_eq_none told] at found
      cases found
  | some params =>
    have onePart : requestParts element =
        [⟨Templates.request.name, withParam "id" (.text element.id) (sortedParams params)⟩] := by
      rw [parts, told]
      rfl
    have rendered := renderBlock_request made element.id element.id table told
    refine ⟨by rw [onePart]; exact le_rfl, ?_, fun setting value => ?_⟩
    · rw [onePart]
      exact List.forall_mem_singleton.mpr ⟨_, rendered⟩
    · rw [← request.line_mem_block_iff onLine, HasRequestLine, onePart]
      simp only [List.mem_singleton, exists_eq_left, rendered, Except.ok.injEq, exists_eq_left']

namespace Sink

variable {sink : Sink} {extras : Extras} {element : Element}

theorem requestParts_finish (unfinished : sink.IsUnfinished extras element) :
    requestParts (sink.finish extras element) =
      addedParts element.id Templates.request.name sink.requestPart? := by
  have isShared : (Templates.request.name, extras.request) ∈ sink.shared extras :=
    List.mem_of_mem_drop (i := 2) List.mem_cons_self
  rw [requestParts, filter_parts_finish unfinished.unshared isShared, unfinished.request]

theorem oneLine_connectionTable (onLine : OneLine sink.id) : OneLine sink.connectionTable := by
  have table : OneLine sink.table :=
    (oneLine_append_iff "sinks." sink.id).mpr ⟨by decide, onLine⟩
  unfold connectionTable
  split
  · exact (oneLine_append_iff sink.table ".protocol").mpr ⟨table, by decide⟩
  · exact table

/-- A sink that is told about requests tells their numbers. -/
theorem IsUnfinished.tellsRequests (unfinished : sink.IsUnfinished extras element)
    {engine : Engine} (made : Templates.engine = .ok engine) (onLine : OneLine sink.id)
    (hasRequests : sink.output.type.hasRequests) :
    TellsRequests engine (sink.finish extras element) sink.request.setting? := by
  refine tellsRequests_of_parts made (oneLine_connectionTable onLine) ?_
  rw [requestParts_finish unfinished, (sink.finish_keeps extras element).1, requestPart?,
    if_pos hasRequests]

end Sink

end Vector

/-! ### Settings of outputs -/

namespace Output

/-- The number that an output gives for a setting of requests. -/
def requestSetting? (output : Output) : Vector.RequestSetting → Option Nat
  | .timeout => output.requestTimeout?
  | .initialBackoff => (output.tuning.bind (·.minRetryDuration)).map (·.seconds)
  | .maxDuration => (output.tuning.bind (·.maxRetryDuration)).map (·.seconds)

theorem setting?_request (sink : Vector.Sink) :
    sink.request.setting? = sink.output.requestSetting? := by
  funext setting
  cases setting <;> rfl

end Output

theorem Name.oneLine_componentId (name : String) : OneLine (componentId name) :=
  notMem_componentId name (by decide)

namespace Spec

/-- The sink of an output that pipelines lead to tells the numbers that the output gives. -/
theorem exists_sink_tellsRequests {spec : Spec} {secrets : SecretStore} {options : Options}
    {arena : Arena} (noDebug : options.debug = false)
    (built : Vector.build spec secrets options = .ok arena) {engine : Template.Engine}
    (made : Vector.Templates.engine = .ok engine) {output : Output}
    (routed : output ∈ spec.routedOutputs) (hasRequests : output.type.hasRequests) :
    ∃ sink, arena.get? (Name.componentId output.name) = some sink ∧ sink.stage = .sink ∧
      Vector.TellsRequests engine sink output.requestSetting? := by
  obtain ⟨extras, element, member, unfinished⟩ :=
    Vector.Sink.exists_finish_mem_elements noDebug built routed
  obtain ⟨id, stage, _⟩ :=
    (Vector.Sink.ofOutput spec secrets options output).finish_keeps extras element
  refine ⟨_, ?_, stage.trans unfinished.stage, ?_⟩
  · rw [← arena.get?_of_mem member, id, unfinished.id]
    rfl
  · have tells := unfinished.tellsRequests made (Name.oneLine_componentId output.name) hasRequests
    rwa [Output.setting?_request] at tells

/--
Configurations of specs without problems tell a number that an output gives for a setting of
requests exactly if it is not zero. That holds for all outputs that pipelines lead to and that have
requests, whenever there is a configuration.
-/
theorem tellsRequests_of_build (spec : Spec) (secrets : SecretStore) (options : Options)
    (clean : spec.problems secrets options .vector = []) (noDebug : options.debug = false) :
    ((∃ arena, Vector.build spec.normalize secrets options = .ok arena) ↔
      Vector.HasFreshIds spec.normalize secrets options ∧
        Vector.HasReadableKeys spec.normalize secrets options) ∧
    ∀ arena, Vector.build spec.normalize secrets options = .ok arena →
      ∃ engine, Vector.Templates.engine = .ok engine ∧
        ∀ output ∈ spec.normalize.outputs, spec.normalize.Routes output.name →
          output.type.hasRequests →
            ∃ sink, arena.get? (Name.componentId output.name) = some sink ∧ sink.stage = .sink ∧
              Vector.TellsRequests engine sink output.requestSetting? := by
  have ready := spec.isReady_normalize clean
  refine ⟨Vector.exists_build_iff ready (hasSoundOutputs_of_normalProblems_eq_nil clean)
    fun output declared => type_ne_lokistack clean declared, fun arena built => ?_⟩
  obtain ⟨engine, made, _⟩ := Vector.exists_engine
  refine ⟨engine, made, fun output declared routed hasRequests => ?_⟩
  have isRouted := (spec.normalize.mem_routedOutputs ready.clean.outputsDistinct output).mpr
    ⟨declared, routed⟩
  exact exists_sink_tellsRequests noDebug built made isRouted hasRequests

/-- An output to a web server with a time limit in seconds and some durations of retries. -/
def tunedOutput (timeout : Nat) (minRetry maxRetry : Duration) : Output :=
  { Output.bare "web" .http with
    url? := some "https://[::1]"
    http := some { (default : HttpSection) with timeout := some timeout }
    tuning := some { (default : OutputTuning) with
      minRetryDuration := some minRetry
      maxRetryDuration := some maxRetry } }

/-- Audit records on their way to an output. -/
def auditsTo (output : Output) : Spec where
  inputs := []
  outputs := [output]
  pipelines := [⟨some "all", ["audit"], [output.name], ∅, none⟩]
  tuning := none

/-- All settings are told of an output that asks for half a minute, and for seconds of retries. -/
theorem tellsRequests_tunedOutput :
    let output := tunedOutput 30 (.ofMilliseconds 2000) (.ofMilliseconds 90500)
    (auditsTo output).problems ∅ .standard .vector = [] ∧
      ∃ arena engine sink,
        Vector.build (auditsTo output).normalize ∅ .standard = .ok arena ∧
        Vector.Templates.engine = .ok engine ∧
        arena.get? (Name.componentId output.name) = some sink ∧
        Vector.HasRequestLine engine sink .timeout 30 ∧
        Vector.HasRequestLine engine sink .initialBackoff 2 ∧
        Vector.HasRequestLine engine sink .maxDuration 90 := by
  intro output
  have clean : (auditsTo output).problems ∅ .standard .vector = [] := by decide
  obtain ⟨exists_iff, tells⟩ := tellsRequests_of_build (auditsTo output) ∅ .standard clean rfl
  obtain ⟨arena, built⟩ := exists_iff.mpr ⟨by decide, by decide⟩
  obtain ⟨engine, made, ofOutputs⟩ := tells arena built
  obtain ⟨sink, found, _, told⟩ := ofOutputs output (by decide) (by decide) rfl
  exact ⟨clean, arena, engine, sink, built, made, found,
    (told.hasLine_iff .timeout 30).mpr (by decide),
    (told.hasLine_iff .initialBackoff 2).mpr (by decide),
    (told.hasLine_iff .maxDuration 90).mpr (by decide)⟩

/--
An output may give a time limit of zero and retries after half a second. Neither is told of it,
although its block about requests is there.
-/
theorem exists_not_hasRequestLine :
    let output := tunedOutput 0 (.ofMilliseconds 500) (.ofMilliseconds 1000)
    (auditsTo output).problems ∅ .standard .vector = [] ∧
      output.requestSetting? .timeout = some 0 ∧
      output.requestSetting? .initialBackoff = some 0 ∧
      ∃ arena engine sink,
        Vector.build (auditsTo output).normalize ∅ .standard = .ok arena ∧
        Vector.Templates.engine = .ok engine ∧
        arena.get? (Name.componentId output.name) = some sink ∧
        Vector.HasRequestLine engine sink .maxDuration 1 ∧
        ¬Vector.HasRequestLine engine sink .timeout 0 ∧
        ¬Vector.HasRequestLine engine sink .initialBackoff 0 := by
  intro output
  have clean : (auditsTo output).problems ∅ .standard .vector = [] := by decide
  have exists_iff := Vector.exists_build_iff ((auditsTo output).isReady_normalize clean)
    (hasSoundOutputs_of_normalProblems_eq_nil clean)
    fun output declared => type_ne_lokistack clean declared
  obtain ⟨arena, built⟩ := exists_iff.mpr ⟨by decide, by decide⟩
  obtain ⟨engine, made, _⟩ := Vector.exists_engine
  have routed : output ∈ (auditsTo output).normalize.routedOutputs := by decide
  obtain ⟨sink, found, _, told⟩ := exists_sink_tellsRequests rfl built made routed rfl
  exact ⟨clean, rfl, rfl, arena, engine, sink, built, made, found,
    (told.hasLine_iff .maxDuration 1).mpr (by decide),
    fun hasLine => ((told.hasLine_iff .timeout 0).mp hasLine).2 rfl,
    fun hasLine => ((told.hasLine_iff .initialBackoff 0).mp hasLine).2 rfl⟩

end Spec

end LogForwarder
