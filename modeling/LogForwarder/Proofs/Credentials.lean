/-
This file finds out what becomes of the choice of a token. An output that chooses the token of the
collector's service account sends that one, whatever there is in its own secret. One that chooses
the token of its secret sends that one as well, unless the secret also has texts for a name and for
a password: these come first.
-/

import LogForwarder.Proofs.Normal
import LogForwarder.Proofs.SecretStore
import LogForwarder.Secret.Credentials

namespace LogForwarder

/-- Whether credentials are a login: a name and a password. -/
def Credentials.IsLogin (credentials : Credentials) : Prop :=
  ∃ username password, credentials = .basic username password

/-- Whether outputs of a type can send tokens. -/
def OutputType.takesTokens : OutputType → Bool
  | .loki | .elasticsearch | .http | .otlp => true
  | _ => false

/-! ### Texts of secrets -/

/-- The text at a key of an output's secret. -/
def Output.secretText? (output : Output) (secrets : SecretStore) (key : String) : Option String :=
  output.secretName.bind (secrets.value? · key)

namespace Output

variable {output : Output} {secrets : SecretStore} {options : Options}

theorem secretText?_ne_empty {key text : String}
    (found : output.secretText? secrets key = some text) : text ≠ "" := by
  obtain ⟨_, _, isText⟩ := Option.bind_eq_some_iff.mp found
  exact SecretStore.value?_ne_empty isText

/-! ### Choices of tokens -/

/-- The token that there is in a source of tokens. -/
def tokenIn? (output : Output) (secrets : SecretStore) (options : Options) :
    TokenSource → Option String
  | .secret => output.secretText? secrets Secret.token
  | .serviceAccount => secrets.value? options.serviceAccountTokenSecret Secret.token

/-- Whether an output sends the token of a source. -/
def SendsTokenOf (output : Output) (secrets : SecretStore) (options : Options)
    (source : TokenSource) : Prop :=
  ∃ credentials token, output.credentials secrets options = .ok credentials ∧
    output.tokenIn? secrets options source = some token ∧ credentials.token? = some token

/-- Whether an output sends the name and the password of its secret. -/
def SendsLogin (output : Output) (secrets : SecretStore) (options : Options) : Prop :=
  ∃ username password, output.secretText? secrets Secret.username = some username ∧
    output.secretText? secrets Secret.password = some password ∧
    output.credentials secrets options = .ok (.basic username password)

/-- Whether the secret of an output has texts for a name and for a password. -/
def CarriesLogin (output : Output) (secrets : SecretStore) : Prop :=
  (output.secretText? secrets Secret.username).isSome ∧
    (output.secretText? secrets Secret.password).isSome

/-- Whether the choice of a source of tokens gives way to a name and a password. -/
def PrefersLogin (output : Output) (secrets : SecretStore) (source : TokenSource) : Prop :=
  source = .secret ∧ output.CarriesLogin secrets

instance (output : Output) (secrets : SecretStore) : Decidable (output.CarriesLogin secrets) :=
  inferInstanceAs (Decidable (_ ∧ _))

instance (output : Output) (secrets : SecretStore) (source : TokenSource) :
    Decidable (output.PrefersLogin secrets source) :=
  inferInstanceAs (Decidable (_ ∧ _))

/-- What the credentials of an output are that chooses a source of tokens. -/
inductive ChoosesCredentials (output : Output) (secrets : SecretStore) (options : Options) :
    TokenSource → Credentials → Prop
  | serviceAccount (token : String)
      (found : output.tokenIn? secrets options .serviceAccount = some token) :
      output.ChoosesCredentials secrets options .serviceAccount (.serviceAccount token)
  | secret (token file : String) (found : output.tokenIn? secrets options .secret = some token)
      (noLogin : ¬output.CarriesLogin secrets) :
      output.ChoosesCredentials secrets options .secret (.bearer token file)
  | login (username password : String)
      (hasUsername : output.secretText? secrets Secret.username = some username)
      (hasPassword : output.secretText? secrets Secret.password = some password) :
      output.ChoosesCredentials secrets options .secret (.basic username password)

/-- Credentials of a secret that a token is wanted of are a name and a password, or the token. -/
theorem choosesCredentials_of_secret {name : String} (isSecret : output.secretName = some name)
    {credentials : Credentials}
    (resolved : credentialsOfSecret secrets name true = .ok credentials) :
    output.ChoosesCredentials secrets options .secret credentials := by
  have textAt (key : String) : output.secretText? secrets key = secrets.value? name key := by
    rw [secretText?, isSecret, Option.bind_some]
  unfold credentialsOfSecret at resolved
  split at resolved
  case h_1 username password hasUsername hasPassword =>
    cases resolved
    exact .login username password ((textAt _).trans hasUsername) ((textAt _).trans hasPassword)
  case h_2 => cases resolved
  case h_3 => cases resolved
  case h_4 noUsername noPassword =>
    have noLogin : ¬output.CarriesLogin secrets := by
      rw [CarriesLogin, textAt, noUsername]
      exact fun ⟨isUsername, _⟩ => absurd isUsername (by decide)
    split at resolved
    · next token found =>
      cases resolved
      exact .secret token _ ((textAt _).trans found) noLogin
    · cases resolved

/-- Credentials follow from what an output chooses and from what is in its secret. -/
theorem choosesCredentials {credentials : Credentials}
    (resolved : output.credentials secrets options = .ok credentials) {source : TokenSource}
    (chosen : output.tokenSource? = some source) :
    output.ChoosesCredentials secrets options source credentials := by
  unfold Output.credentials at resolved
  rw [chosen] at resolved
  cases source with
  | serviceAccount =>
    simp only [if_true] at resolved
    split at resolved
    · next token found =>
      cases resolved
      exact .serviceAccount token found
    · cases resolved
  | secret =>
    rw [if_neg (by decide)] at resolved
    split at resolved
    · next name isSecret => exact choosesCredentials_of_secret isSecret resolved
    · cases resolved

namespace ChoosesCredentials

variable {source : TokenSource} {credentials : Credentials}
  (chooses : output.ChoosesCredentials secrets options source credentials)

include chooses

/-- The credentials are a login if the choice gives way to one. -/
theorem isLogin_iff : credentials.IsLogin ↔ output.PrefersLogin secrets source := by
  cases chooses with
  | serviceAccount token found => exact iff_of_false nofun nofun
  | secret token file found noLogin => exact iff_of_false nofun fun prefers => noLogin prefers.2
  | login username password hasUsername hasPassword =>
    refine iff_of_true ⟨username, password, rfl⟩ ⟨rfl, ?_, ?_⟩
    · rw [hasUsername]
      rfl
    · rw [hasPassword]
      rfl

/-- The token that is chosen is sent unless the choice gives way to a name and a password. -/
theorem sendsTokenOf_iff (resolved : output.credentials secrets options = .ok credentials) :
    output.SendsTokenOf secrets options source ↔ ¬output.PrefersLogin secrets source := by
  rw [← chooses.isLogin_iff]
  constructor
  · rintro ⟨sent, token, isSent, _, isToken⟩ ⟨username, password, rfl⟩
    cases resolved.symm.trans isSent
    cases isToken
  · intro noLogin
    cases chooses with
    | serviceAccount token found => exact ⟨_, token, resolved, found, rfl⟩
    | secret token file found => exact ⟨_, token, resolved, found, rfl⟩
    | login username password => exact absurd ⟨username, password, rfl⟩ noLogin

theorem sendsLogin_iff (resolved : output.credentials secrets options = .ok credentials) :
    output.SendsLogin secrets options ↔ output.PrefersLogin secrets source := by
  rw [← chooses.isLogin_iff]
  constructor
  · rintro ⟨username, password, _, _, isSent⟩
    exact ⟨username, password, Except.ok.inj (resolved.symm.trans isSent)⟩
  · rintro ⟨username, password, rfl⟩
    cases chooses with
    | login _ _ hasUsername hasPassword =>
      exact ⟨username, password, hasUsername, hasPassword, resolved⟩

end ChoosesCredentials

end Output

end LogForwarder
