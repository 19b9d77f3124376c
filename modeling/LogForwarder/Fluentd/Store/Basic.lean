/-
Stores of the fluentd dialect: what the label of every output is made from. Keys of secrets are only
asked whether they are there; the collector reads them from files.
-/

import LogForwarder.Compile.Error
import LogForwarder.Fluentd.Store.Setting
import LogForwarder.Fluentd.Templates
import LogForwarder.Fluentd.TlsVersion

namespace LogForwarder.Fluentd

/-- The certificates that are trusted by outputs to the store inside the cluster. -/
def serviceCaPath : String := "/var/run/secrets/kubernetes.io/serviceaccount/service-ca.crt"

/-- What the label of an output is made from. -/
structure Store where
  output : Output
  /-- The label of the output. -/
  id : String
  /-- The id of the store, which is also the name of the directory of its buffer. -/
  storeId : String
  /-- The labels of the pipelines that flow to the output. -/
  inputs : List String
  secrets : SecretStore
  options : Options
  tuning : Option Tuning

namespace Store

/-- The credentials of the output. One whose credentials are at fault has none. -/
def credentials (store : Store) : Credentials :=
  match store.output.credentials store.secrets store.options with
  | .ok credentials => credentials
  | .error _ => .none

/-- The error of an address of the output. -/
def endpointError (store : Store) (error : EndpointError) : CompileError :=
  .endpoint store.output.name error

/-- The text at a key of the output's secret. -/
def secretValue? (store : Store) (key : String) : Option String :=
  store.output.secretName.bind (store.secrets.value? · key)

/-- The file with a key of the output's secret, if the key has any bytes. -/
def secretFile? (store : Store) (key : String) : Option String :=
  store.output.secretName.bind fun name =>
    if store.secrets.hasKey name key then some (Secret.mountPath name key) else none

/-- An expression for a key of the output's secret, if the key has any bytes. -/
def secretExpression? (store : Store) (key : String) : Option String :=
  (store.secretFile? key).map readFile

/-- The file with a key of the output's secret between single quotes. -/
def quotedSecretFile? (store : Store) (key : String) : Option String :=
  (store.secretFile? key).map singleQuoted

/-- The buffer of the store. -/
def buffer (store : Store) (defaultInterval : String) (keys : List String) : Buffer :=
  .ofTuning store.storeId store.tuning defaultInterval keys

/-- The label of the output. -/
def label (store : Store) (template : Template.Source) (params : Params) : Element :=
  .create .sink store.id store.inputs template.name
    (params ++ [("store_id", .text store.storeId)])

end Store

end LogForwarder.Fluentd
