/-
This file finds out which outputs get a login. Outputs of four types can send tokens, and in either
dialect what is written for them follows from their credentials alone: the settings of a name and of
a password are there if these are the credentials, and for a token they are not. So an output that
chooses a token has a login exactly if its choice gives way to the name and the password in its
secret.
-/

import LogForwarder.Proofs.Fluentd.Login
import LogForwarder.Proofs.Vector.Login

namespace LogForwarder

/-! ### Logins in both dialects -/

/-- Whether an element of a configuration has a login. -/
def Dialect.HasLogin : Dialect → Element → Prop
  | .fluentd, element => Fluentd.HasLogin element
  | .vector, element =>
    ∃ engine, Vector.Templates.engine = .ok engine ∧ Vector.HasLogin engine element

namespace Spec

/-- The element of an output has a login if the credentials of the output are one. -/
theorem exists_element_hasLogin_iff {spec : Spec} {secrets : SecretStore} {options : Options}
    {dialect : Dialect} {arena : Arena} (noDebug : options.debug = false)
    (built : dialect.build spec secrets options = .ok arena) {output : Output}
    (routed : output ∈ spec.routedOutputs) (takes : output.type.takesTokens)
    {credentials : Credentials} (resolved : output.credentials secrets options = .ok credentials)
    (carries : credentials.IsLogin → output.CarriesLogin secrets) :
    ∃ element, arena.get? (dialect.idOf output.name) = some element ∧ element.stage = .sink ∧
      (dialect.HasLogin element ↔ credentials.IsLogin) := by
  cases dialect with
  | fluentd => exact Fluentd.exists_label_hasLogin_iff noDebug built routed takes resolved carries
  | vector =>
    obtain ⟨engine, made, _⟩ := Vector.exists_engine
    obtain ⟨sink, found, stage, hasLogin_iff⟩ :=
      Vector.exists_sink_hasLogin_iff noDebug built made routed takes resolved
    refine ⟨sink, found, stage, Iff.trans ?_ hasLogin_iff⟩
    exact ⟨fun ⟨other, isOther, has⟩ => Except.ok.inj (isOther.symm.trans made) ▸ has,
      fun has => ⟨engine, made, has⟩⟩

theorem not_hasLogin_of_debug {spec : Spec} {secrets : SecretStore} {options : Options}
    {dialect : Dialect} {arena : Arena} (debug : options.debug = true)
    (built : dialect.build spec secrets options = .ok arena) :
    ∀ element ∈ arena.elements, ¬dialect.HasLogin element := by
  cases dialect with
  | fluentd => exact Fluentd.not_hasLogin_of_debug debug built
  | vector =>
    intro element member ⟨_, _, hasLogin⟩
    exact Vector.not_hasLogin_of_debug debug built element member hasLogin

/-- When there are configurations of specs without problems. -/
theorem exists_build_iff {spec : Spec} {secrets : SecretStore} {options : Options}
    {dialect : Dialect} (clean : spec.problems secrets options dialect = []) :
    (∃ arena, dialect.build spec.normalize secrets options = .ok arena) ↔
      (dialect = .vector → Vector.HasFreshIds spec.normalize secrets options ∧
        Vector.HasReadableKeys spec.normalize secrets options) := by
  cases dialect with
  | fluentd => exact iff_of_true (exists_fluentd_build clean) nofun
  | vector => exact (exists_vector_build_iff clean).trans ⟨fun both _ => both, fun both => both rfl⟩

/--
An output of a spec without problems that chooses a source of tokens sends the token of that source,
and nothing in its element is a name or a password, unless the source is its own secret and this
also has texts for a name and for a password: then it sends these, and its element has the settings.
When debugging, no element of a configuration has such settings.
-/
theorem sendsTokenOf_iff_not_prefersLogin (spec : Spec) (secrets : SecretStore) (options : Options)
    (dialect : Dialect) (clean : spec.problems secrets options dialect = []) :
    ((∃ arena, dialect.build spec.normalize secrets options = .ok arena) ↔
      (dialect = .vector → Vector.HasFreshIds spec.normalize secrets options ∧
        Vector.HasReadableKeys spec.normalize secrets options)) ∧
    ∀ output ∈ spec.normalize.outputs, spec.normalize.Routes output.name →
      output.type.takesTokens → ∀ source, output.tokenSource? = some source →
        (output.SendsTokenOf secrets options source ↔ ¬output.PrefersLogin secrets source) ∧
        (output.SendsLogin secrets options ↔ output.PrefersLogin secrets source) ∧
        ∀ arena, dialect.build spec.normalize secrets options = .ok arena →
          (options.debug = false → ∃ element, arena.get? (dialect.idOf output.name) = some element ∧
            element.stage = .sink ∧
            (dialect.HasLogin element ↔ output.PrefersLogin secrets source)) ∧
          (options.debug = true → ∀ element ∈ arena.elements, ¬dialect.HasLogin element) := by
  refine ⟨exists_build_iff clean, fun output declared routed takes source chosen => ?_⟩
  have isRouted := (spec.normalize.mem_routedOutputs
    (spec.isReady_normalize clean).clean.outputsDistinct output).mpr ⟨declared, routed⟩
  obtain ⟨credentials, resolved⟩ :=
    ((hasSoundOutputs_of_normalProblems_eq_nil clean).wellFormed output declared).authenticated
  have chooses := Output.choosesCredentials resolved chosen
  refine ⟨chooses.sendsTokenOf_iff resolved, chooses.sendsLogin_iff resolved, fun arena built =>
    ⟨fun noDebug => ?_, fun debug => not_hasLogin_of_debug debug built⟩⟩
  rw [← chooses.isLogin_iff]
  exact exists_element_hasLogin_iff noDebug built isRouted takes resolved
    fun isLogin => (chooses.isLogin_iff.mp isLogin).2

/-- An output to Loki that chooses the token of its secret. -/
def tokenOutput : Output :=
  { Output.bare "logs" .loki with
    url? := some "https://[::1]:3100"
    secretName := some "own"
    authentication := some ⟨some .secret⟩ }

/-- The secret of the output, with some texts at its keys. -/
def ownSecret (entries : List (String × String)) : SecretStore :=
  .ofTexts (.ofList [("own", .ofList entries)])

/-- The token of a secret without a name and a password is sent in either dialect. -/
theorem sendsTokenOf_tokenOutput :
    let secrets := ownSecret [(Secret.token, "t")]
    ∀ dialect, (auditsTo tokenOutput).problems secrets .standard dialect = [] ∧
      tokenOutput.SendsTokenOf secrets .standard .secret ∧
      ∃ arena element,
        dialect.build (auditsTo tokenOutput).normalize secrets .standard = .ok arena ∧
        arena.get? (dialect.idOf tokenOutput.name) = some element ∧ ¬dialect.HasLogin element := by
  intro secrets dialect
  have clean : (auditsTo tokenOutput).problems secrets .standard dialect = [] := by
    cases dialect <;> decide +kernel
  obtain ⟨exists_iff, ofOutputs⟩ :=
    sendsTokenOf_iff_not_prefersLogin (auditsTo tokenOutput) secrets .standard dialect clean
  obtain ⟨arena, built⟩ := exists_iff.mpr fun _ => ⟨by decide +kernel, by decide +kernel⟩
  have noLogin : ¬tokenOutput.PrefersLogin secrets .secret := by decide +kernel
  obtain ⟨sends, _, written⟩ := ofOutputs tokenOutput (by decide +kernel) (by decide +kernel) rfl
    .secret rfl
  obtain ⟨element, found, _, hasLogin_iff⟩ := (written arena built).1 rfl
  exact ⟨clean, sends.mpr noLogin, arena, element, built, found, mt hasLogin_iff.mp noLogin⟩

/--
A spec without problems may have an output that chooses the token of its secret and does not send
it, because there are a name and a password in the secret as well. Either dialect has settings of
these, although the token could be sent.
-/
theorem exists_not_sendsTokenOf :
    let secrets := ownSecret
      [(Secret.username, "u"), (Secret.password, "p"), (Secret.token, "t")]
    tokenOutput.tokenSource? = some .secret ∧
      tokenOutput.tokenIn? secrets .standard .secret = some "t" ∧
      tokenOutput.credentials secrets .standard = .ok (.basic "u" "p") ∧
      ∀ dialect, (auditsTo tokenOutput).problems secrets .standard dialect = [] ∧
        ∃ arena element,
          dialect.build (auditsTo tokenOutput).normalize secrets .standard = .ok arena ∧
          arena.get? (dialect.idOf tokenOutput.name) = some element ∧ dialect.HasLogin element := by
  intro secrets
  have resolved : tokenOutput.credentials secrets .standard = .ok (.basic "u" "p") := by
    decide +kernel
  refine ⟨rfl, by decide +kernel, resolved, fun dialect => ?_⟩
  have clean : (auditsTo tokenOutput).problems secrets .standard dialect = [] := by
    cases dialect <;> decide +kernel
  obtain ⟨arena, built⟩ := (exists_build_iff clean).mpr fun _ =>
    ⟨by decide +kernel, by decide +kernel⟩
  have routed : tokenOutput ∈ (auditsTo tokenOutput).normalize.routedOutputs := by decide +kernel
  have carries : tokenOutput.CarriesLogin secrets := by decide +kernel
  obtain ⟨element, found, _, hasLogin_iff⟩ :=
    exists_element_hasLogin_iff rfl built routed rfl resolved fun _ => carries
  exact ⟨clean, arena, element, built, found, hasLogin_iff.mpr ⟨"u", "p", rfl⟩⟩

end Spec

end LogForwarder
