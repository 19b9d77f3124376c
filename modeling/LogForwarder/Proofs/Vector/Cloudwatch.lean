/-
This file finds out which credentials get into the sink of a Cloudwatch output. What is checked is
whether the secret has the keys, and any bytes will do; what is written is the text at a key, which
bytes that are no UTF-8, or nothing but blanks, do not have. The lines of an access key are written
if its id has a text, the line of a role if the role has one. So a secret that has all of its keys
may leave the sink without any credentials, or with an access key whose secret half is empty.
-/

import LogForwarder.Proofs.Credentials
import LogForwarder.Proofs.Json.Compact
import LogForwarder.Proofs.Vector.Block
import LogForwarder.Proofs.Vector.Compile
import LogForwarder.Proofs.Vector.Request

namespace LogForwarder

theorem Value.textLiteral_injective : Function.Injective Value.textLiteral := by
  intro first second equal
  have read := congrArg Json.read equal
  rw [Json.read_textLiteral, Json.read_textLiteral] at read
  simpa using read

namespace Vector

open Template

/-! ### Credentials -/

/-- What a sink to Cloudwatch can carry to prove who it is. -/
inductive AwsCredential
  | accessKeyId
  | secretAccessKey
  | role
  deriving DecidableEq

namespace AwsCredential

/-- The key of a credential in a sink. -/
def key : AwsCredential → String
  | .accessKeyId => "auth.access_key_id"
  | .secretAccessKey => "auth.secret_access_key"
  | .role => "auth.assume_role"

/-- The key of a credential in a secret. -/
def secretKey : AwsCredential → String
  | .accessKeyId => Secret.awsAccessKeyId
  | .secretAccessKey => Secret.awsSecretAccessKey
  | .role => Secret.awsRole

/-- The line of a credential. -/
def line (credential : AwsCredential) (value : String) : String :=
  credential.key ++ " = " ++ Value.textLiteral value

theorem toList_line (credential : AwsCredential) (value : String) :
    (credential.line value).toList =
      credential.key.toList ++ ' ' :: '=' :: ' ' :: (Value.textLiteral value).toList := by
  unfold line
  rw [String.toList_append, String.toList_append, List.append_assoc]
  rfl

theorem line_inj {first second : AwsCredential} {value other : String} :
    first.line value = second.line other ↔ first = second ∧ value = other := by
  refine ⟨fun same => ?_, fun ⟨sameCredential, sameValue⟩ => by rw [sameCredential, sameValue]⟩
  have chars := congrArg String.toList same
  rw [toList_line, toList_line] at chars
  have values (literals : (Value.textLiteral value).toList = (Value.textLiteral other).toList) :
      value = other := Value.textLiteral_injective (String.toList_inj.mp literals)
  cases first <;> cases second <;> simp [key] at chars ⊢ <;> exact values chars

theorem isBlockLine_line (credential : AwsCredential) (value : String) :
    IsBlockLine (credential.line value) :=
  (isBlockLine_textLiteral value).append (by cases credential <;> decide)

end AwsCredential

/-- The lines of an access key and of a role, where there are texts for them. -/
def credentialLines (text? : AwsCredential → Option String) : List String :=
  (text? .accessKeyId).toList.flatMap (fun accessKeyId =>
      [AwsCredential.accessKeyId.line accessKeyId,
        AwsCredential.secretAccessKey.line ((text? .secretAccessKey).getD "")]) ++
    (text? .role).toList.map AwsCredential.role.line

/-- What the line of a credential says: the secret half of an access key may be empty. -/
def AwsCredential.written? (text? : AwsCredential → Option String) :
    AwsCredential → Option String
  | .accessKeyId => text? .accessKeyId
  | .secretAccessKey => (text? .accessKeyId).map fun _ => (text? .secretAccessKey).getD ""
  | .role => text? .role

theorem line_mem_credentialLines_iff (text? : AwsCredential → Option String)
    (credential : AwsCredential) (value : String) :
    credential.line value ∈ credentialLines text? ↔ credential.written? text? = some value := by
  unfold credentialLines
  simp only [List.mem_append, List.mem_flatMap, List.mem_map, Option.mem_toList, List.mem_cons,
    List.not_mem_nil, or_false, AwsCredential.line_inj]
  cases credential <;> simp [AwsCredential.written?, eq_comm]

theorem isBlockLine_of_mem_credentialLines {text? : AwsCredential → Option String} {line : String}
    (member : line ∈ credentialLines text?) : IsBlockLine line := by
  unfold credentialLines at member
  rcases List.mem_append.mp member with ofKey | ofRole
  · obtain ⟨accessKeyId, _, isLine⟩ := List.mem_flatMap.mp ofKey
    rcases List.mem_cons.mp isLine with rfl | isSecond
    · exact AwsCredential.isBlockLine_line _ _
    · exact List.mem_singleton.mp isSecond ▸ AwsCredential.isBlockLine_line _ _
  · obtain ⟨role, _, rfl⟩ := List.mem_map.mp ofRole
    exact AwsCredential.isBlockLine_line _ _

/-! ### The template of sinks to Cloudwatch -/

/-- The nodes of the template. -/
def cloudwatchNodes : List Node :=
  [.text "[sinks.", .action [.mk (.dot ["id"]) []],
    .text "]\ntype = \"aws_cloudwatch_logs\"\ninputs = ",
    .action [.mk (.function "quoteList") [.dot ["inputs"]]],
    .text "\nregion = ", .action [.mk (.function "quote") [.dot ["region"]]],
    .text "\ncompression = ", .action [.mk (.function "quote") [.dot ["compression"]]],
    .text "\ngroup_name = ", .action [.mk (.function "quote") [.dot ["group_name"]]],
    .text "\nstream_name = ", .action [.mk (.function "quote") [.dot ["stream_name"]]], .text "\n",
    .within [.mk (.dot ["access_key_id"]) []]
      [.text "auth.access_key_id = ", .action [.mk (.function "quote") [.dot []]],
        .text "\nauth.secret_access_key = ",
        .action [.mk (.function "quote") [.root ["secret_access_key"]]], .text "\n"] [],
    .within [.mk (.dot ["assume_role"]) []]
      [.text "auth.assume_role = ", .action [.mk (.function "quote") [.dot []]], .text "\n"] [],
    .text "encoding.codec = \"json\"\nhealthcheck.enabled = false\n",
    .within [.mk (.dot ["endpoint"]) []]
      [.text "endpoint = ", .action [.mk (.function "quote") [.dot []]], .text "\n"] []]

set_option maxRecDepth 20000 in
theorem read_cloudwatch : read Templates.cloudwatch.text = .ok cloudwatchNodes :=
  read_braced (by decide +kernel)

/-- What a sink to Cloudwatch is told, apart from its credentials. -/
structure CloudwatchBlock where
  id : String
  inputs : List String
  region : String
  compression : String
  groupName : String
  streamName : String
  endpoint? : Option String

namespace CloudwatchBlock

/-- The header of the sink's table. -/
def header (block : CloudwatchBlock) : String := "[sinks." ++ block.id ++ "]"

/-- The lines in front of the credentials. -/
def before (block : CloudwatchBlock) : List String :=
  ["type = \"aws_cloudwatch_logs\"", "inputs = " ++ quoteList block.inputs,
    "region = " ++ Value.textLiteral block.region,
    "compression = " ++ Value.textLiteral block.compression,
    "group_name = " ++ Value.textLiteral block.groupName,
    "stream_name = " ++ Value.textLiteral block.streamName]

/-- The lines behind the credentials. -/
def after (block : CloudwatchBlock) : List String :=
  ["encoding.codec = \"json\"", "healthcheck.enabled = false"] ++
    block.endpoint?.toList.map ("endpoint = " ++ Value.textLiteral ·)

/-- The lines behind the header. -/
def lines (block : CloudwatchBlock) (text? : AwsCredential → Option String) : List String :=
  block.before ++ (credentialLines text? ++ block.after)

/-- Only the lines of credentials begin as they do. -/
theorem line_mem_lines_iff (block : CloudwatchBlock) (text? : AwsCredential → Option String)
    (credential : AwsCredential) (value : String) :
    credential.line value ∈ block.header :: block.lines text? ↔
      credential.written? text? = some value := by
  have first : (credential.line value).toList.head? = some 'a' := by
    rw [AwsCredential.toList_line]
    cases credential <;> rfl
  have notHeader : credential.line value ≠ block.header := by
    intro same
    rw [same] at first
    simp [header] at first
  have notBefore : credential.line value ∉ block.before := by
    intro member
    unfold before at member
    simp only [List.mem_cons, List.not_mem_nil, or_false] at member
    rcases member with same | same | same | same | same | same <;> rw [same] at first <;>
      simp at first
  have notAfter : credential.line value ∉ block.after := by
    intro member
    unfold after at member
    simp only [List.mem_append, List.mem_cons, List.not_mem_nil, or_false, List.mem_map] at member
    rcases member with (same | same) | ⟨endpoint, _, same⟩
    · rw [same] at first
      simp at first
    · rw [same] at first
      simp at first
    · rw [← same] at first
      simp at first
  rw [List.mem_cons, or_iff_right notHeader, lines, List.mem_append, or_iff_right notBefore,
    List.mem_append, or_iff_left notAfter, line_mem_credentialLines_iff]

theorem isBlockLine_of_mem (block : CloudwatchBlock) (onLine : OneLine block.id)
    (text? : AwsCredential → Option String) :
    ∀ line ∈ block.header :: block.lines text?, IsBlockLine line := by
  have endsWith {text : String} (last : Char) (isLast : text.toList.getLast? = some last)
      (visible : Text.isBlank last = false) : EndsVisibly text := by
    obtain ⟨others, split⟩ := List.getLast?_eq_some_iff.mp isLast
    exact ⟨others, last, split, visible⟩
  refine List.forall_mem_cons.mpr ⟨?_, List.forall_mem_append.mpr ⟨?_,
    List.forall_mem_append.mpr ⟨fun line => isBlockLine_of_mem_credentialLines, ?_⟩⟩⟩
  · refine ⟨?_, EndsVisibly.append ⟨[], ']', rfl, by decide⟩ _⟩
    rw [header, oneLine_append_iff, oneLine_append_iff]
    exact ⟨⟨by decide, onLine⟩, by decide⟩
  · unfold before
    simp only [List.forall_mem_cons, List.not_mem_nil, false_imp_iff, implies_true, and_true]
    exact ⟨⟨by decide, endsWith '"' (by decide) (by decide)⟩,
      (isBlockLine_quoteList _).append (by decide), (isBlockLine_textLiteral _).append (by decide),
      (isBlockLine_textLiteral _).append (by decide),
      (isBlockLine_textLiteral _).append (by decide),
      (isBlockLine_textLiteral _).append (by decide)⟩
  · unfold after
    simp only [List.forall_mem_append, List.forall_mem_cons, List.not_mem_nil, false_imp_iff,
      implies_true, and_true, List.forall_mem_map]
    exact ⟨⟨⟨by decide, endsWith '"' (by decide) (by decide)⟩,
      ⟨by decide, endsWith 'e' (by decide) (by decide)⟩⟩,
      fun endpoint _ => (isBlockLine_textLiteral _).append (by decide)⟩

/-- Whether parameters tell what a block says, and the texts of credentials. -/
structure IsToldBy (block : CloudwatchBlock) (text? : AwsCredential → Option String)
    (entries : List (String × Value)) : Prop where
  id : (Value.object entries).field "id" = .text block.id
  inputs : (Value.object entries).field "inputs" = .ofTexts block.inputs
  region : (Value.object entries).field "region" = .text block.region
  compression : (Value.object entries).field "compression" = .text block.compression
  groupName : (Value.object entries).field "group_name" = .text block.groupName
  streamName : (Value.object entries).field "stream_name" = .text block.streamName
  accessKeyId : (Value.object entries).field "access_key_id" = .ofText? (text? .accessKeyId)
  secretAccessKey :
    (Value.object entries).field "secret_access_key" = .ofText? (text? .secretAccessKey)
  role : (Value.object entries).field "assume_role" = .ofText? (text? .role)
  endpoint : (Value.object entries).field "endpoint" = .ofText? block.endpoint?

end CloudwatchBlock

section

variable {entries : List (String × Value)} (includer : Includer)

/-- What stands inside of a text that may be missing is rendered if it is there. -/
theorem render_withinText (root : Value) {key : String} {text? : Option String}
    (isText : (Value.object entries).field key = .ofText? text?) (nonempty : text? ≠ some "")
    {body : List Node} {rendered : String → String}
    (inside : ∀ text, renderNodes ⟨includer, .text text, root⟩ body = .ok (rendered text)) :
    (Node.within [.mk (.dot [key]) []] body []).render ⟨includer, .object entries, root⟩ =
      .ok (String.join (text?.toList.map rendered)) := by
  rw [render_within, isText]
  cases text? with
  | none => rfl
  | some text =>
    have present : (Value.text text).isPresent = true :=
      (not_isEmpty_iff text).mpr fun empty => nonempty (congrArg some empty)
    exact (if_pos present).trans ((inside text).trans (by simp))

theorem render_quotedLine (root : Value) {key : String} {text? : Option String} (start : String)
    (isText : (Value.object entries).field key = .ofText? text?) (nonempty : text? ≠ some "") :
    (Node.within [.mk (.dot [key]) []]
      [.text start, .action [.mk (.function "quote") [.dot []]], .text "\n"] []).render
        ⟨includer, .object entries, root⟩ =
      .ok (String.join (text?.toList.map fun text =>
        start ++ (Value.textLiteral text ++ "\n"))) :=
  render_withinText includer root isText nonempty fun text => renderNodes_cons (render_text _ start)
    (renderNodes_cons (render_quoteDot (.text text)) (renderNodes_one (render_text _ "\n")))

/-- The template is rendered as the lines of a block. -/
theorem renderNodes_cloudwatch {block : CloudwatchBlock} {text? : AwsCredential → Option String}
    (told : block.IsToldBy text? entries) (nonempty : ∀ credential, text? credential ≠ some "")
    (somewhere : block.endpoint? ≠ some "") :
    renderNodes ⟨includer, .object entries, .object entries⟩ cloudwatchNodes =
      .ok (String.join ((block.header :: block.lines text?).map (· ++ "\n"))) := by
  have quoted {key text : String} (isText : (Value.object entries).field key = .text text) :
      (Node.action [.mk (.function "quote") [.dot [key]]]).render
        ⟨includer, .object entries, .object entries⟩ = .ok (Value.textLiteral text) := by
    rw [render_quoteField, isText]
    rfl
  have secretHalf (value : Value) :
      (Node.action [.mk (.function "quote") [.root ["secret_access_key"]]]).render
        ⟨includer, value, .object entries⟩ =
          .ok (Value.textLiteral ((text? .secretAccessKey).getD "")) := by
    rw [render_quote (by rw [Operand.evaluate, followPath_one]), told.secretAccessKey]
    cases text? .secretAccessKey <;> rfl
  have accessKey := render_withinText includer (.object entries) told.accessKeyId
    (nonempty _) fun text =>
      renderNodes_cons (render_text _ "auth.access_key_id = ")
        (renderNodes_cons (render_quoteDot (.text text))
          (renderNodes_cons (render_text _ "\nauth.secret_access_key = ")
            (renderNodes_cons (secretHalf (.text text)) (renderNodes_one (render_text _ "\n")))))
  have role := render_quotedLine includer (.object entries) "auth.assume_role = " told.role
    (nonempty _)
  have endpoint := render_quotedLine includer (.object entries) "endpoint = " told.endpoint
    somewhere
  refine (renderNodes_cons (render_text _ _) (renderNodes_cons (render_field told.id)
    (renderNodes_cons (render_text _ _) (renderNodes_cons (render_quoteList told.inputs)
    (renderNodes_cons (render_text _ _) (renderNodes_cons (quoted told.region)
    (renderNodes_cons (render_text _ _) (renderNodes_cons (quoted told.compression)
    (renderNodes_cons (render_text _ _) (renderNodes_cons (quoted told.groupName)
    (renderNodes_cons (render_text _ _) (renderNodes_cons (quoted told.streamName)
    (renderNodes_cons (render_text _ _) (renderNodes_cons accessKey (renderNodes_cons role
    (renderNodes_cons (render_text _ _) (renderNodes_one endpoint))))))))))))))))).trans ?_
  refine congrArg Except.ok (String.toList_inj.mp ?_)
  unfold CloudwatchBlock.lines CloudwatchBlock.header CloudwatchBlock.before CloudwatchBlock.after
    credentialLines AwsCredential.line
  cases text? .accessKeyId <;> cases text? .role <;> cases block.endpoint? <;>
    simp [AwsCredential.key, Value.plainText]

end

/-! ### Sinks to Cloudwatch -/

/-- Whether an element has the line of a credential in its own block. -/
def HasCredentialLine (engine : Engine) (element : Element) (credential : AwsCredential)
    (value : String) : Prop :=
  ∃ block, renderBlock engine element.id element.template element.params = .ok block ∧
    credential.line value ∈ linesOfText block

/-- Whether an element carries an access key or a role, neither of which is empty. -/
def CarriesCredentials (engine : Engine) (element : Element) : Prop :=
  (∃ accessKeyId secretAccessKey, accessKeyId ≠ "" ∧ secretAccessKey ≠ "" ∧
      HasCredentialLine engine element .accessKeyId accessKeyId ∧
      HasCredentialLine engine element .secretAccessKey secretAccessKey) ∨
    ∃ role, role ≠ "" ∧ HasCredentialLine engine element .role role

/-- Credentials are carried if the texts that they are written from are there. -/
theorem carriesCredentials_iff {engine : Engine} {element : Element}
    {text? : AwsCredential → Option String} (nonempty : ∀ credential, text? credential ≠ some "")
    (lines : ∀ credential value, HasCredentialLine engine element credential value ↔
      credential.written? text? = some value) :
    CarriesCredentials engine element ↔
      (text? .accessKeyId).isSome ∧ (text? .secretAccessKey).isSome ∨ (text? .role).isSome := by
  unfold CarriesCredentials
  simp only [lines, AwsCredential.written?, Option.isSome_iff_exists]
  constructor
  · rintro (⟨accessKeyId, secretAccessKey, _, visible, isId, isSecret⟩ | ⟨role, _, isRole⟩)
    · refine .inl ⟨⟨accessKeyId, isId⟩, ?_⟩
      rw [isId, Option.map_some, Option.some.injEq] at isSecret
      cases found : text? .secretAccessKey with
      | some secret => exact ⟨secret, rfl⟩
      | none =>
        rw [found] at isSecret
        exact absurd isSecret.symm visible
    · exact .inr ⟨role, isRole⟩
  · rintro (⟨⟨accessKeyId, isId⟩, secretAccessKey, isSecret⟩ | ⟨role, isRole⟩)
    · refine .inl ⟨accessKeyId, secretAccessKey, fun empty => nonempty _ (empty ▸ isId),
        fun empty => nonempty _ (empty ▸ isSecret), isId, ?_⟩
      rw [isId, isSecret]
      rfl
    · exact .inr ⟨role, fun empty => nonempty _ (empty ▸ isRole), isRole⟩

namespace Sink

variable (sink : Sink)

/-- What the sink of an output to Cloudwatch is told in a region. -/
def cloudwatchBlock (region : String) : CloudwatchBlock where
  id := sink.id
  inputs := [sink.child "normalize_group_and_streams"]
  region := region
  compression := sink.compression?.getD "none"
  groupName := "\x7b\x7b group_name \x7d\x7d"
  streamName := "\x7b\x7b stream_name \x7d\x7d"
  endpoint? := sink.output.url?.filter (!·.isEmpty)

/-- The text of a credential in the secret of the output. -/
def credentialText? (credential : AwsCredential) : Option String :=
  sink.output.secretText? sink.secrets credential.secretKey

theorem tail_of_cloudwatch {sink : Sink} (type : sink.output.type = .cloudwatch) :
    sink.tail = sink.cloudwatchChain := by
  unfold tail
  rw [type]

theorem exists_element_of_cloudwatchChain {elements : List Element}
    (made : sink.cloudwatchChain = .ok elements) :
    ∃ element ∈ elements, ∃ region, element.id = sink.id ∧ element.stage = .sink ∧
      element.template = Templates.cloudwatch.name ∧
      (sink.cloudwatchBlock region).IsToldBy sink.credentialText? element.params := by
  unfold cloudwatchChain at made
  obtain ⟨region, _, made⟩ := exists_of_bind_eq_ok made
  cases made
  refine ⟨_, List.mem_cons_of_mem _ (List.mem_singleton_self _), region,
    (sink.finish_keeps _ _).1, (sink.finish_keeps _ _).2.1, sink.template_finish _ _, ?_⟩
  rw [params_finish]
  exact
    { id := field_id_create _ _ _ _ _
      inputs := Element.field_inputs_create _ _ _ _ _
      region := Element.field_create _ _ _ _ _ _ (by decide) (by decide)
      compression := Element.field_create _ _ _ _ _ _ (by decide) (by decide)
      groupName := Element.field_create _ _ _ _ _ _ (by decide) (by decide)
      streamName := Element.field_create _ _ _ _ _ _ (by decide) (by decide)
      accessKeyId := Element.field_create _ _ _ _ _ _ (by decide) (by decide)
      secretAccessKey := Element.field_create _ _ _ _ _ _ (by decide) (by decide)
      role := Element.field_create _ _ _ _ _ _ (by decide) (by decide)
      endpoint := Element.field_create _ _ _ _ _ _ (by decide) (by decide) }

/-- A line of a credential is written from the texts in the secret of the output. -/
theorem hasCredentialLine_iff_of_isToldBy {engine : Engine} (made : Templates.engine = .ok engine)
    (onLine : OneLine sink.id) {element : Element} {region : String}
    (template : element.template = Templates.cloudwatch.name)
    (told : (sink.cloudwatchBlock region).IsToldBy sink.credentialText? element.params)
    (credential : AwsCredential) (value : String) :
    HasCredentialLine engine element credential value ↔
      credential.written? sink.credentialText? = some value := by
  have nonempty (credential : AwsCredential) : sink.credentialText? credential ≠ some "" :=
    fun found => Output.secretText?_ne_empty found rfl
  have somewhere : (sink.cloudwatchBlock region).endpoint? ≠ some "" := by
    intro empty
    exact absurd (Option.filter_eq_some_iff.mp empty).2 (by decide)
  obtain ⟨block, rendered, lines⟩ := exists_renderBlock_of_lines made
    (show Templates.cloudwatch ∈ Templates.all by simp [Templates.all]) read_cloudwatch
    (renderNodes_cloudwatch engine.render told nonempty somewhere)
    ⟨_, by rw [CloudwatchBlock.header, String.toList_append, String.toList_append]; rfl⟩
    ((sink.cloudwatchBlock region).isBlockLine_of_mem onLine sink.credentialText?) element.id
  rw [HasCredentialLine, template, rendered]
  simp only [Except.ok.injEq, exists_eq_left', lines, CloudwatchBlock.line_mem_lines_iff]

end Sink

end Vector

/-! ### Cloudwatch outputs -/

namespace Spec

/-- The text of a credential in the secret of an output. -/
def credentialText? (secrets : SecretStore) (output : Output) (credential : Vector.AwsCredential) :
    Option String :=
  output.secretText? secrets credential.secretKey

/-- The sink of an output to Cloudwatch has the lines of the texts in the secret of the output. -/
theorem exists_sink_hasCredentialLine_iff {spec : Spec} {secrets : SecretStore} {options : Options}
    {arena : Arena} (noDebug : options.debug = false)
    (built : Vector.build spec secrets options = .ok arena) {engine : Template.Engine}
    (made : Vector.Templates.engine = .ok engine) {output : Output}
    (routed : output ∈ spec.routedOutputs) (type : output.type = .cloudwatch) :
    ∃ sink, arena.get? (Name.componentId output.name) = some sink ∧ sink.stage = .sink ∧
      ∀ credential value, Vector.HasCredentialLine engine sink credential value ↔
        credential.written? (credentialText? secrets output) = some value := by
  obtain ⟨tail, tailMade, subset⟩ := Vector.Sink.exists_tail_subset_elements noDebug built routed
  rw [Vector.Sink.tail_of_cloudwatch type] at tailMade
  obtain ⟨element, member, region, id, stage, template, told⟩ :=
    Vector.Sink.exists_element_of_cloudwatchChain _ tailMade
  have found : arena.get? (Name.componentId output.name) = some element := by
    rw [← arena.get?_of_mem (subset member), id, Vector.Sink.ofOutput]
  have onLine : OneLine (Vector.Sink.ofOutput spec secrets options output).id :=
    Name.oneLine_componentId output.name
  exact ⟨element, found, stage,
    Vector.Sink.hasCredentialLine_iff_of_isToldBy _ made onLine template told⟩

/--
Configurations of specs without problems have credentials for Cloudwatch exactly if these can be
read: the sink of an output carries both halves of an access key, or a role, if the secret of the
output has texts for both halves, or for the role. The line of each credential has the text of its
key, but for the secret half of an access key, whose line is there with the other half, and empty if
there is no text for it. That holds for all outputs that pipelines lead to, whenever there is a
configuration.
-/
theorem carriesCredentials_iff_secretTexts (spec : Spec) (secrets : SecretStore) (options : Options)
    (clean : spec.problems secrets options .vector = []) (noDebug : options.debug = false) :
    ((∃ arena, Vector.build spec.normalize secrets options = .ok arena) ↔
      Vector.HasFreshIds spec.normalize secrets options ∧
        Vector.HasReadableKeys spec.normalize secrets options) ∧
    ∀ arena, Vector.build spec.normalize secrets options = .ok arena →
      ∃ engine, Vector.Templates.engine = .ok engine ∧
        ∀ output ∈ spec.normalize.outputs, spec.normalize.Routes output.name →
          output.type = .cloudwatch →
            ∃ sink, arena.get? (Name.componentId output.name) = some sink ∧ sink.stage = .sink ∧
              (∀ credential value, Vector.HasCredentialLine engine sink credential value ↔
                credential.written? (credentialText? secrets output) = some value) ∧
              (Vector.CarriesCredentials engine sink ↔
                (output.secretText? secrets Secret.awsAccessKeyId).isSome ∧
                    (output.secretText? secrets Secret.awsSecretAccessKey).isSome ∨
                  (output.secretText? secrets Secret.awsRole).isSome) := by
  have ready := spec.isReady_normalize clean
  refine ⟨exists_vector_build_iff clean, fun arena built => ?_⟩
  obtain ⟨engine, made, _⟩ := Vector.exists_engine
  refine ⟨engine, made, fun output declared routed type => ?_⟩
  have isRouted := (spec.normalize.mem_routedOutputs ready.clean.outputsDistinct output).mpr
    ⟨declared, routed⟩
  obtain ⟨sink, found, stage, lines⟩ :=
    exists_sink_hasCredentialLine_iff noDebug built made isRouted type
  exact ⟨sink, found, stage, lines, Vector.carriesCredentials_iff
    (fun credential empty => Output.secretText?_ne_empty empty rfl) lines⟩

/-- An output to Cloudwatch in a region, with a secret. -/
def cloudOutput : Output :=
  { Output.bare "cloud" .cloudwatch with
    cloudwatch := some { (default : CloudwatchSection) with region := some "us-east-1" }
    secretName := some "aws" }

/-- A secret with some texts at its keys. -/
def awsSecret (entries : List (String × String)) : SecretStore :=
  .ofTexts (.ofList [("aws", .ofList entries)])

/-- An access key that can be read is carried by the sink. -/
theorem carriesCredentials_cloudOutput :
    let secrets := awsSecret [(Secret.awsAccessKeyId, "AKIA"), (Secret.awsSecretAccessKey, "key")]
    (auditsTo cloudOutput).problems secrets .standard .vector = [] ∧
      ∃ arena engine sink,
        Vector.build (auditsTo cloudOutput).normalize secrets .standard = .ok arena ∧
        Vector.Templates.engine = .ok engine ∧
        arena.get? (Name.componentId cloudOutput.name) = some sink ∧
        Vector.CarriesCredentials engine sink := by
  intro secrets
  have clean : (auditsTo cloudOutput).problems secrets .standard .vector = [] := by decide +kernel
  obtain ⟨exists_iff, carries⟩ :=
    carriesCredentials_iff_secretTexts (auditsTo cloudOutput) secrets .standard clean rfl
  obtain ⟨arena, built⟩ := exists_iff.mpr ⟨by decide +kernel, by decide +kernel⟩
  obtain ⟨engine, made, ofOutputs⟩ := carries arena built
  obtain ⟨sink, found, _, _, carries_iff⟩ :=
    ofOutputs cloudOutput (by decide +kernel) (by decide +kernel) rfl
  exact ⟨clean, arena, engine, sink, built, made, found,
    carries_iff.mpr (.inl ⟨by decide +kernel, by decide +kernel⟩)⟩

/--
A spec without problems may have a secret with nothing but blanks at the keys of both halves. No
credentials get into its configuration.
-/
theorem exists_not_carriesCredentials :
    let secrets := awsSecret [(Secret.awsAccessKeyId, " "), (Secret.awsSecretAccessKey, " ")]
    (auditsTo cloudOutput).problems secrets .standard .vector = [] ∧
      ∃ arena engine sink,
        Vector.build (auditsTo cloudOutput).normalize secrets .standard = .ok arena ∧
        Vector.Templates.engine = .ok engine ∧
        arena.get? (Name.componentId cloudOutput.name) = some sink ∧
        ¬Vector.CarriesCredentials engine sink ∧
        ∀ credential value, ¬Vector.HasCredentialLine engine sink credential value := by
  intro secrets
  have clean : (auditsTo cloudOutput).problems secrets .standard .vector = [] := by decide +kernel
  obtain ⟨arena, built⟩ :=
    (exists_vector_build_iff clean).mpr ⟨by decide +kernel, by decide +kernel⟩
  obtain ⟨engine, made, _⟩ := Vector.exists_engine
  have routed : cloudOutput ∈ (auditsTo cloudOutput).normalize.routedOutputs := by decide +kernel
  obtain ⟨sink, found, _, lines⟩ := exists_sink_hasCredentialLine_iff rfl built made routed rfl
  have noText : ∀ credential : Vector.AwsCredential,
      credentialText? secrets cloudOutput credential = none := by
    intro credential
    cases credential <;> decide +kernel
  have noLine (credential : Vector.AwsCredential) (value : String) :
      ¬Vector.HasCredentialLine engine sink credential value := by
    rw [lines]
    cases credential <;> simp [Vector.AwsCredential.written?, noText]
  refine ⟨clean, arena, engine, sink, built, made, found, ?_, noLine⟩
  rintro (⟨accessKeyId, _, _, _, hasLine, _⟩ | ⟨role, _, hasLine⟩)
  · exact noLine _ _ hasLine
  · exact noLine _ _ hasLine

end Spec

end LogForwarder
