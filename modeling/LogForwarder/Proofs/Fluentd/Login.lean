/-
This file finds out which stores of the fluentd dialect get a login: a name and a password, which
are among their settings, or for web servers in a section. The two are read from the files of the
secret when the collector starts, so that settings are there if the secret has the keys for them.
-/

import LogForwarder.Proofs.Credentials
import LogForwarder.Proofs.Fluentd.Profile

namespace LogForwarder

namespace Fluentd

/-! ### Settings of stores -/

/-- Whether a key is that of a name or of a password. -/
def isLoginKey (key : String) : Bool := ["user", "username", "password"].contains key

/-- The names and passwords among the settings of a store. -/
def logins (part : Value) : List String :=
  (part.field "settings").items.filterMap (valueUnder? isLoginKey)

/-- Whether an element has a store with a name or a password, or with a section about these. -/
def HasLogin (element : Element) : Prop :=
  ∃ part ∈ stores element, logins part ≠ [] ∨ part.field "auth" ≠ .null

namespace Store

variable {store : Store}

/-- What settings say about a name and a password. -/
def loginValues (store : Store) : List String :=
  match store.credentials with
  | .basic _ _ =>
    ((store.secretExpression? Secret.username).filter (· ≠ "")).toList ++
      ((store.secretExpression? Secret.password).filter (· ≠ "")).toList
  | _ => []

theorem valuesUnder_elasticsearchSettings (scheme : String) :
    Setting.valuesUnder isLoginKey (store.elasticsearchSettings scheme) = store.loginValues := by
  unfold elasticsearchSettings loginValues
  by_cases inCluster : store.output.isClusterStore <;> cases store.credentials <;>
    simp (disch := decide) [inCluster, Setting.valuesUnder_line?_of_true]

theorem valuesUnder_lokiSettings (scheme : String) :
    Setting.valuesUnder isLoginKey (store.lokiSettings scheme) = store.loginValues := by
  unfold lokiSettings loginValues
  by_cases secure : scheme = "https" <;> by_cases inCluster : store.output.isClusterStore <;>
    cases store.credentials <;>
      simp (disch := decide) [secure, inCluster, Setting.valuesUnder_line?_of_true]

theorem valuesUnder_httpSettings : Setting.valuesUnder isLoginKey store.httpSettings = [] := by
  unfold httpSettings
  split <;> simp (disch := decide)

/-- An expression that reads a file is never empty. -/
theorem readFile_ne_empty (path : String) : readFile path ≠ "" := by
  intro empty
  have chars := congrArg String.toList empty
  unfold readFile evaluated at chars
  rw [String.append_assoc, String.toList_append] at chars
  cases chars

/-- A key with a text is read from its file. -/
theorem secretExpression?_of_secretText? {key text : String}
    (found : store.output.secretText? store.secrets key = some text) :
    ∃ path, store.secretExpression? key = some (readFile path) := by
  obtain ⟨name, isSecret, isText⟩ := Option.bind_eq_some_iff.mp found
  refine ⟨Secret.mountPath name key, ?_⟩
  rw [secretExpression?, secretFile?, isSecret, Option.bind_some,
    if_pos (SecretStore.hasKey_of_value? isText), Option.map_some]

/-- Of the stores of outputs that can send tokens, only those to web servers have a section. -/
theorem field_auth_of_mem_stores {element : Element} (made : store.outputLabel = .ok element)
    (takes : store.output.type.takesTokens) :
    ∀ part ∈ stores element, part.field "auth" =
      if store.output.type = .http then store.httpAuthParam else .null := by
  intro part member
  unfold outputLabel at made
  cases type : store.output.type <;> rw [type] at takes made <;> try cases takes
  case elasticsearch =>
    obtain ⟨url, rfl⟩ := exists_of_label_made made
    rw [stores_elasticsearch, List.mem_cons, List.mem_singleton] at member
    rcases member with rfl | rfl <;>
      simp [label, Element.field_create, elasticsearchStore, List.lookup_cons]
  case loki =>
    obtain ⟨url, rfl⟩ := exists_of_label_made made
    rw [stores_label (by decide), List.mem_singleton] at member
    rw [member]
    simp [label, Element.field_create, List.lookup_cons]
  case http =>
    cases made
    rw [httpLabel, stores_label (by decide), List.mem_singleton] at member
    rw [member]
    simp [label, Element.field_create, List.lookup_cons]
  case otlp => cases made

theorem loginValues_of_not_isLogin (noLogin : ¬store.credentials.IsLogin) :
    store.loginValues = [] := by
  unfold loginValues
  split
  · next username password isLogin => exact absurd ⟨username, password, isLogin⟩ noLogin
  · rfl

/-- What is read from files is written if there are such files. -/
theorem loginValues_ne_nil (isLogin : store.credentials.IsLogin)
    (carries : store.output.CarriesLogin store.secrets) : store.loginValues ≠ [] := by
  obtain ⟨username, password, isLogin⟩ := isLogin
  obtain ⟨text, isText⟩ := Option.isSome_iff_exists.mp carries.1
  obtain ⟨path, isPath⟩ := secretExpression?_of_secretText? isText
  rw [loginValues, isLogin, isPath, Option.filter_some,
    if_pos (decide_eq_true (readFile_ne_empty path))]
  exact List.cons_ne_nil _ _

theorem httpAuthParam_ne_null_iff (carries : store.credentials.IsLogin →
    store.output.CarriesLogin store.secrets) :
    store.httpAuthParam ≠ .null ↔ store.credentials.IsLogin := by
  unfold httpAuthParam
  split
  · next username password name isLogin isSecret =>
    exact iff_of_true nofun ⟨username, password, isLogin⟩
  · next noLogin =>
    refine iff_of_false (absurd rfl) fun isLogin => ?_
    obtain ⟨text, isText⟩ := Option.isSome_iff_exists.mp (carries isLogin).1
    obtain ⟨name, isSecret, _⟩ := Option.bind_eq_some_iff.mp isText
    obtain ⟨username, password, isLogin⟩ := isLogin
    exact noLogin username password name isLogin isSecret

/-- A label has a login if the credentials of the output are one. -/
theorem hasLogin_iff {element : Element} (made : store.outputLabel = .ok element)
    (takes : store.output.type.takesTokens)
    (carries : store.credentials.IsLogin → store.output.CarriesLogin store.secrets) :
    HasLogin element ↔ store.credentials.IsLogin := by
  have settings := hasSettings_outputLabel made
  have auth := field_auth_of_mem_stores made takes
  have written : store.loginValues ≠ [] ↔ store.credentials.IsLogin :=
    ⟨fun someValue => by_contra fun noLogin => someValue (loginValues_of_not_isLogin noLogin),
      fun isLogin => loginValues_ne_nil isLogin (carries isLogin)⟩
  have each : ∀ part ∈ stores element,
      (logins part ≠ [] ∨ part.field "auth" ≠ .null ↔ store.credentials.IsLogin) := by
    intro part member
    rw [logins, settings.each part member, filterMap_valueUnder?_params, auth part member,
      Store.settings]
    cases type : store.output.type <;> rw [type] at takes <;> try cases takes
    case elasticsearch => simp [valuesUnder_elasticsearchSettings, written]
    case loki => simp [valuesUnder_lokiSettings, written]
    case http => simp [valuesUnder_httpSettings, httpAuthParam_ne_null_iff carries]
    case otlp =>
      unfold outputLabel at made
      rw [type] at made
      cases made
  constructor
  · rintro ⟨part, member, hasLogin⟩
    exact (each part member).mp hasLogin
  · intro isLogin
    obtain ⟨part, member⟩ := List.exists_mem_of_ne_nil _ settings.some
    exact ⟨part, member, (each part member).mpr isLogin⟩

end Store

variable {spec : Spec} {secrets : SecretStore} {options : Options} {arena : Arena}

/-- The label of an output has a login if the credentials of the output are one. -/
theorem exists_label_hasLogin_iff (noDebug : options.debug = false)
    (built : build spec secrets options = .ok arena) {output : Output}
    (routed : output ∈ spec.routedOutputs) (takes : output.type.takesTokens)
    {credentials : Credentials} (resolved : output.credentials secrets options = .ok credentials)
    (carries : credentials.IsLogin → output.CarriesLogin secrets) :
    ∃ label, arena.get? (Name.label output.name) = some label ∧ label.stage = .sink ∧
      (HasLogin label ↔ credentials.IsLogin) := by
  obtain ⟨label, member, isLabel, made⟩ := exists_label_of_routed noDebug built routed
  have isResolved : (Store.ofOutput spec secrets options output).credentials = credentials := by
    rw [Store.credentials, Store.ofOutput, resolved]
  refine ⟨label, isLabel ▸ arena.get?_of_mem member, (Store.isFinal_outputLabel made).stage, ?_⟩
  rw [← isResolved] at carries ⊢
  exact Store.hasLogin_iff made takes carries

/-- When debugging, nothing has a login. -/
theorem not_hasLogin_of_debug (debug : options.debug = true)
    (built : build spec secrets options = .ok arena) :
    ∀ element ∈ arena.elements, ¬HasLogin element := by
  intro element member
  have noStores : stores element = [] := by
    refine stores_of_mem_plainTemplates ?_
    rcases mem_cases_of_build built member with early | ⟨output, isShown, _⟩ | legacy
    · exact template_of_mem_upToPipelines early
    · rw [Spec.shownOutputs, if_pos debug] at isShown
      exact absurd isShown List.not_mem_nil
    · exact template_of_mem_legacyElements legacy
  rintro ⟨part, isStore, _⟩
  rw [noStores] at isStore
  exact List.not_mem_nil isStore

end Fluentd

end LogForwarder
