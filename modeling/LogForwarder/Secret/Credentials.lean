/-
Credentials: how an output proves who it is. They follow from the output's own choice of a token and
from the keys of its secret.
-/

import LogForwarder.Options
import LogForwarder.Secret.Store
import LogForwarder.Spec.Output

namespace LogForwarder

/-- What an output sends to prove who it is. -/
inductive Credentials
  | none
  | basic (username password : String)
  /-- A token of the output's secret, which the collector finds in a file. -/
  | bearer (token tokenFile : String)
  /-- The token of the collector's service account. -/
  | serviceAccount (token : String)
  deriving DecidableEq

/-- Why an output cannot prove who it is. -/
inductive CredentialsError
  | noServiceAccountToken (secret : String)
  | noSecret
  | usernameAlone (secret : String)
  | passwordAlone (secret : String)
  | noToken (secret : String)
  deriving DecidableEq

namespace CredentialsError

/-- The text that reports why there are no credentials. -/
def message : CredentialsError → String
  | .noServiceAccountToken secret =>
    s!"service account token secret `{secret}` has no `{Secret.token}` key"
  | .noSecret => "bearer token from secret requires `secret`"
  | .usernameAlone secret =>
    s!"secret `{secret}` carries `{Secret.username}` without `{Secret.password}`"
  | .passwordAlone secret =>
    s!"secret `{secret}` carries `{Secret.password}` without `{Secret.username}`"
  | .noToken secret => s!"secret `{secret}` has no `{Secret.token}` key"

end CredentialsError

namespace Credentials

/-- The file with the token of the collector's service account. -/
def serviceAccountTokenFile : String := "/var/run/secrets/kubernetes.io/serviceaccount/token"

/-- The name of the way of authentication. -/
def strategy : Credentials → String
  | .none => "none"
  | .basic _ _ => "basic"
  | .bearer _ _ => "bearer"
  | .serviceAccount _ => "bearer"

/-- The token, if there is one. -/
def token? : Credentials → Option String
  | .bearer token _ => some token
  | .serviceAccount token => some token
  | _ => Option.none

/-- The file with the token, if there is one. -/
def tokenFile? : Credentials → Option String
  | .bearer _ tokenFile => some tokenFile
  | .serviceAccount _ => some serviceAccountTokenFile
  | _ => Option.none

end Credentials

/-- The source of tokens that an output chooses. -/
def Output.tokenSource? (output : Output) : Option TokenSource :=
  output.authentication.bind (·.tokenSource)

/-- The credentials of an output that has the secret `name`. -/
def credentialsOfSecret (secrets : SecretStore) (name : String) (wantsToken : Bool) :
    Except CredentialsError Credentials :=
  match secrets.value? name Secret.username, secrets.value? name Secret.password with
  | some username, some password => .ok (.basic username password)
  | some _, none => .error (.usernameAlone name)
  | none, some _ => .error (.passwordAlone name)
  | none, none =>
    match secrets.value? name Secret.token with
    | some token => .ok (.bearer token (Secret.mountPath name Secret.token))
    | none => if wantsToken then .error (.noToken name) else .ok .none

/-- The credentials of an output. -/
def Output.credentials (output : Output) (secrets : SecretStore) (options : Options) :
    Except CredentialsError Credentials :=
  if output.tokenSource? = some .serviceAccount then
    let secret := options.serviceAccountTokenSecret
    match secrets.value? secret Secret.token with
    | some token => .ok (.serviceAccount token)
    | none => .error (.noServiceAccountToken secret)
  else
    let wantsToken := output.tokenSource? = some .secret
    match output.secretName with
    | some name => credentialsOfSecret secrets name wantsToken
    | none => if wantsToken then .error .noSecret else .ok .none

end LogForwarder
