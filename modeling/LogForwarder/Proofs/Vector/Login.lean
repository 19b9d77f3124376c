/-
This file finds out which sinks of the vector dialect get a login: settings of a name and of a
password. They stand in a block of their own, which is written from the credentials of an output
alone: a name and a password lead to these settings, and a token leads to another one.
-/

import LogForwarder.Proofs.Credentials
import LogForwarder.Proofs.Vector.Block
import LogForwarder.Proofs.Vector.Compile
import LogForwarder.Proofs.Vector.Request

namespace LogForwarder

namespace Vector

open Template

/-! ### Blocks about credentials -/

/-- The text of a field between quotes. -/
def quotedNode (key : String) : Node := .action [.mk (.function "quote") [.dot [key]]]

/-- The settings of a name and of a password. -/
def loginNodes : List Node :=
  [.text "user = ", quotedNode "user", .text "\npassword = ", quotedNode "password", .text "\n"]

/-- The setting of a token. -/
def tokenNodes : List Node := [.text "token = ", quotedNode "token", .text "\n"]

/-- The nodes of the template. -/
def authNodes : List Node :=
  [.text "[", .action [.mk (.dot ["table"]) []], .text ".auth]\nstrategy = ", quotedNode "strategy",
    .text "\n", .branch [.mk (.function "eq") [.dot ["strategy"], .text "basic"]] loginNodes
      tokenNodes]

set_option maxRecDepth 20000 in
theorem read_auth : read Templates.auth.text = .ok authNodes := read_braced (by decide +kernel)

/-- The header of a block about credentials. -/
def authHeader (table : String) : String := "[" ++ table ++ ".auth]"

/-- The settings behind the header. -/
def authSettings (credentials : Credentials) : List (String × String) :=
  ("strategy", credentials.strategy) ::
    match credentials with
    | .basic username password => [("user", username), ("password", password)]
    | .bearer token _ => [("token", token)]
    | .serviceAccount token => [("token", token)]
    | .none => []

/-- The line of a setting. -/
def authLine (setting : String × String) : String :=
  setting.1 ++ " = " ++ Value.textLiteral setting.2

/-- All lines of a block about credentials. -/
def authLines (credentials : Credentials) (table : String) : List String :=
  authHeader table :: (authSettings credentials).map authLine

/-- The template is rendered as the lines of the settings. -/
theorem renderNodes_auth (includer : Includer) {credentials : Credentials} {table : String}
    {params : Params} (told : authParams? credentials table = some params) (id : String) :
    renderNodes ⟨includer, .object (withParam "id" (.text id) (sortedParams params)),
        .object (withParam "id" (.text id) (sortedParams params))⟩ authNodes =
      .ok (String.join ((authLines credentials table).map (· ++ "\n"))) := by
  have field {key : String} {value : Value} (other : key ≠ "id")
      (given : params.reverse.lookup key = some value) :
      (Value.object (withParam "id" (.text id) (sortedParams params))).field key = value := by
    rw [field_withParam, if_neg other, field_sortedParams, given]
    rfl
  generalize withParam "id" (.text id) (sortedParams params) = entries at field
  have quoted {key text : String} (isText : (Value.object entries).field key = .text text) :
      (quotedNode key).render ⟨includer, .object entries, .object entries⟩ =
        .ok (Value.textLiteral text) := by
    rw [quotedNode, render_quoteField, isText]
    rfl
  have whole {rest : String} (isTable : params.reverse.lookup "table" = some (.text table))
      (isStrategy : params.reverse.lookup "strategy" = some (.text credentials.strategy))
      (rendered : renderNodes ⟨includer, .object entries, .object entries⟩
        (if credentials.strategy = "basic" then loginNodes else tokenNodes) = .ok rest) :=
    renderNodes_cons (render_text _ "[") (renderNodes_cons
      (render_field (field (by decide) isTable))
      (renderNodes_cons (render_text _ ".auth]\nstrategy = ")
        (renderNodes_cons (quoted (field (by decide) isStrategy))
          (renderNodes_cons (render_text _ "\n") (renderNodes_one
            ((render_branchEq (field (by decide) isStrategy) _ _ _).trans rendered))))))
  have token {text : String} (isToken : params.reverse.lookup "token" = some (.text text)) :
      renderNodes ⟨includer, .object entries, .object entries⟩ tokenNodes = _ :=
    renderNodes_cons (render_text _ "token = ") (renderNodes_cons
      (quoted (field (by decide) isToken)) (renderNodes_one (render_text _ "\n")))
  have login {username password : String}
      (isUser : params.reverse.lookup "user" = some (.text username))
      (isPassword : params.reverse.lookup "password" = some (.text password)) :
      renderNodes ⟨includer, .object entries, .object entries⟩ loginNodes = _ :=
    renderNodes_cons (render_text _ "user = ") (renderNodes_cons
      (quoted (field (by decide) isUser)) (renderNodes_cons (render_text _ "\npassword = ")
        (renderNodes_cons (quoted (field (by decide) isPassword))
          (renderNodes_one (render_text _ "\n")))))
  cases credentials with
  | none => cases told
  | basic username password =>
    cases told
    refine (whole rfl rfl (login rfl rfl)).trans (congrArg Except.ok (String.toList_inj.mp ?_))
    simp [authLines, authHeader, authSettings, authLine]
  | bearer text file =>
    cases told
    refine (whole rfl rfl (token rfl)).trans (congrArg Except.ok (String.toList_inj.mp ?_))
    simp [authLines, authHeader, authSettings, authLine]
  | serviceAccount text =>
    cases told
    refine (whole rfl rfl (token rfl)).trans (congrArg Except.ok (String.toList_inj.mp ?_))
    simp [authLines, authHeader, authSettings, authLine]

theorem isBlockLine_of_mem_authLines {credentials : Credentials} {table line : String}
    (onLine : OneLine table) (member : line ∈ authLines credentials table) : IsBlockLine line := by
  rcases List.mem_cons.mp member with rfl | isSetting
  · refine ⟨?_, EndsVisibly.append ⟨".auth".toList, ']', rfl, by decide⟩ _⟩
    rw [authHeader, oneLine_append_iff, oneLine_append_iff]
    exact ⟨⟨by decide, onLine⟩, by decide⟩
  · obtain ⟨setting, given, rfl⟩ := List.mem_map.mp isSetting
    refine (isBlockLine_textLiteral setting.2).append ?_
    have onLines : ∀ setting ∈ authSettings credentials, OneLine (setting.1 ++ " = ") := by
      cases credentials <;>
        simp only [authSettings, List.forall_mem_cons, List.not_mem_nil, false_imp_iff,
          implies_true, and_true] <;> decide
    exact onLines setting given

/-! ### Logins -/

/-- Whether a line is the setting of a name or of a password. -/
def IsLoginLine (line : String) : Prop :=
  ∃ value, line = "user = " ++ value ∨ line = "password = " ++ value

theorem head?_of_isLoginLine {line : String} (isLogin : IsLoginLine line) :
    line.toList.head? = some 'u' ∨ line.toList.head? = some 'p' := by
  rcases isLogin with ⟨value, rfl | rfl⟩
  · rw [String.toList_append]
    exact .inl rfl
  · rw [String.toList_append]
    exact .inr rfl

/-- A block about credentials has the setting of a name or of a password if these are there. -/
theorem exists_isLoginLine_iff (credentials : Credentials) (table : String) :
    (∃ line ∈ authLines credentials table, IsLoginLine line) ↔
      credentials.IsLogin := by
  have noLogin (key : String) {first : Char} (isFirst : key.toList.head? = some first)
      (other : first ≠ 'u' ∧ first ≠ 'p') (value : String) :
      ¬IsLoginLine (key ++ value) := by
    intro isLogin
    have head : (key ++ value).toList.head? = some first := by
      rw [String.toList_append, List.head?_append, isFirst]
      rfl
    rcases head?_of_isLoginLine isLogin with isU | isP
    · exact other.1 (Option.some.inj (head.symm.trans isU))
    · exact other.2 (Option.some.inj (head.symm.trans isP))
  have header : ¬IsLoginLine (authHeader table) := by
    rw [authHeader, String.append_assoc]
    exact noLogin _ rfl (by decide) _
  have strategy (text : String) : ¬IsLoginLine (authLine ("strategy", text)) :=
    noLogin ("strategy" ++ " = ") rfl (by decide) _
  have token (text : String) : ¬IsLoginLine (authLine ("token", text)) :=
    noLogin ("token" ++ " = ") rfl (by decide) _
  cases credentials with
  | basic username password =>
    exact iff_of_true ⟨authLine ("user", username), by simp [authLines, authSettings],
      Value.textLiteral username, .inl rfl⟩ ⟨username, password, rfl⟩
  | none | bearer | serviceAccount =>
    refine iff_of_false ?_ nofun
    simp [authLines, authSettings, header, strategy, token]

/-- The parts of an element that are about credentials. -/
def authParts (element : Element) : List Part :=
  element.parts.filter (·.template = Templates.auth.name)

/-- Whether an element has the setting of a name or of a password in a block about credentials. -/
def HasLogin (engine : Engine) (element : Element) : Prop :=
  ∃ part ∈ authParts element, ∃ block,
    renderBlock engine element.id part.template part.params = .ok block ∧
      ∃ line ∈ linesOfText block, IsLoginLine line

theorem not_hasLogin_of_parts {engine : Engine} {element : Element} (noParts : element.parts = []) :
    ¬HasLogin engine element := by
  rintro ⟨part, member, _⟩
  rw [authParts, noParts] at member
  exact List.not_mem_nil member

/-- An element with the part of some credentials, if there is one, has the login that they are. -/
theorem hasLogin_iff_of_parts {engine : Engine} (made : Templates.engine = .ok engine)
    {element : Element} {credentials : Credentials} {table : String} (onLine : OneLine table)
    (parts : authParts element =
      Sink.addedParts element.id Templates.auth.name (authParams? credentials table)) :
    HasLogin engine element ↔ credentials.IsLogin := by
  rw [HasLogin, parts]
  cases told : authParams? credentials table with
  | none =>
    refine iff_of_false (fun ⟨_, member, _⟩ => List.not_mem_nil member) ?_
    rintro ⟨username, password, rfl⟩
    cases told
  | some params =>
    rw [← exists_isLoginLine_iff credentials table]
    obtain ⟨block, rendered, lines⟩ := exists_renderBlock_of_lines made
      (show Templates.auth ∈ Templates.all by simp [Templates.all]) read_auth
      (renderNodes_auth engine.render told element.id)
      ⟨_, by rw [authHeader, String.toList_append, String.toList_append]; rfl⟩
      (fun line => isBlockLine_of_mem_authLines onLine) element.id
    simp only [Sink.addedParts, Option.toList_some, List.map_cons, List.map_nil,
      List.mem_singleton, exists_eq_left, rendered, Except.ok.injEq, exists_eq_left', lines,
      authLines]

namespace Sink

variable {sink : Sink} {extras : Extras} {element : Element}

theorem authParts_finish (unfinished : sink.IsUnfinished extras element) :
    authParts (sink.finish extras element) =
      addedParts element.id Templates.auth.name sink.authPart? := by
  have isShared : (Templates.auth.name, extras.auth) ∈ sink.shared extras :=
    List.mem_of_mem_drop (i := 4) List.mem_cons_self
  rw [authParts, filter_parts_finish unfinished.unshared isShared, unfinished.auth]

/-- A block about credentials has the login of the output, if that is one of four types. -/
theorem isLogin_blockCredentials (takes : sink.output.type.takesTokens) :
    sink.blockCredentials.IsLogin ↔ sink.credentials.IsLogin := by
  unfold blockCredentials
  cases type : sink.output.type <;> rw [type] at takes <;> try cases takes
  cases sink.credentials <;> simp [Credentials.IsLogin]

theorem IsUnfinished.hasLogin_iff (unfinished : sink.IsUnfinished extras element)
    {engine : Engine} (made : Templates.engine = .ok engine) (onLine : OneLine sink.id)
    (takes : sink.output.type.takesTokens) :
    HasLogin engine (sink.finish extras element) ↔ sink.credentials.IsLogin := by
  rw [← isLogin_blockCredentials takes]
  refine hasLogin_iff_of_parts made (oneLine_connectionTable onLine) ?_
  rw [authParts_finish unfinished, (sink.finish_keeps extras element).1, authPart?]

end Sink

variable {spec : Spec} {secrets : SecretStore} {options : Options} {arena : Arena}

/-- The sink of an output has a login if the credentials of the output are a name and a password. -/
theorem exists_sink_hasLogin_iff (noDebug : options.debug = false)
    (built : build spec secrets options = .ok arena) {engine : Engine}
    (made : Templates.engine = .ok engine) {output : Output} (routed : output ∈ spec.routedOutputs)
    (takes : output.type.takesTokens) {credentials : Credentials}
    (resolved : output.credentials secrets options = .ok credentials) :
    ∃ sink, arena.get? (Name.componentId output.name) = some sink ∧ sink.stage = .sink ∧
      (HasLogin engine sink ↔ credentials.IsLogin) := by
  obtain ⟨extras, element, member, unfinished⟩ :=
    Sink.exists_finish_mem_elements noDebug built routed
  obtain ⟨id, stage, _⟩ := (Sink.ofOutput spec secrets options output).finish_keeps extras element
  have isResolved : (Sink.ofOutput spec secrets options output).credentials = credentials := by
    rw [Sink.credentials, Sink.ofOutput, resolved]
  refine ⟨_, ?_, stage.trans unfinished.stage, ?_⟩
  · rw [← arena.get?_of_mem member, id, unfinished.id]
    rfl
  · rw [← isResolved]
    exact unfinished.hasLogin_iff made (Name.oneLine_componentId output.name) takes

/-- When debugging, nothing has a login. -/
theorem not_hasLogin_of_debug (debug : options.debug = true)
    (built : build spec secrets options = .ok arena) {engine : Engine} :
    ∀ element ∈ arena.elements, ¬HasLogin engine element := by
  intro element member
  refine not_hasLogin_of_parts ?_
  rw [elements_of_build_debug debug built, List.mem_append] at member
  rcases member with early | isConsole
  · exact parts_of_mem_upToPipelines early
  · obtain ⟨pipeline, _, rfl⟩ := List.mem_map.mp isConsole
    rfl

end Vector

end LogForwarder
