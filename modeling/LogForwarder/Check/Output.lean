/-
Checks of outputs: names, types, addresses, the fields and secret keys that a type needs, and
credentials.
-/

import LogForwarder.Check.Problem
import LogForwarder.Spec.Basic

namespace LogForwarder

/-- Whether outputs of a type need an address. -/
def OutputType.needsUrl (type : OutputType) : Bool :=
  type ∈ [.elasticsearch, .fluentForward, .syslog, .loki, .http, .splunk, .otlp]

/-- What is wrong if something cannot be read or found out. -/
def Cause.ofResult {ε α : Type} (cause : ε → Cause) : Except ε α → List Cause
  | .ok _ => []
  | .error error => [cause error]

namespace Output

/-- Whether the secret of an output has any bytes at a key. -/
def hasSecretKey (output : Output) (secrets : SecretStore) (key : String) : Bool :=
  output.secretName.any fun name => secrets.hasKey name key

/-- What is wrong with the reference of an output to its secret. -/
def secretCauses (output : Output) (secrets : SecretStore) : List Cause :=
  match output.secretName with
  | some name => if secrets.contains name then [] else [.secretNotFound name]
  | none => []

/-- What is wrong with the address of an output. -/
def urlCauses (output : Output) : List Cause :=
  match output.url?.filter (!·.isEmpty) with
  | none => if output.type.needsUrl then [.urlRequired output.type] else []
  | some address =>
    if output.type = .syslog then Cause.ofResult .endpoint (Endpoint.hostPort address)
    else Cause.ofResult .endpoint (Endpoint.readUrl address)

/-- A field that an output needs, if it is missing or empty. -/
def missingText (output : Output) (field : String) (value : Option String) : List Cause :=
  if value.any (!·.isEmpty) then [] else [.fieldRequired field output.type]

/-- A key that the secret of an output needs, if it is missing or empty. -/
def missingKey (output : Output) (secrets : SecretStore) (key : String) : List Cause :=
  if output.hasSecretKey secrets key then [] else [.fieldRequired s!"secret key {key}" output.type]

/-- What is wrong with the AWS credentials of an output. -/
def awsCauses (output : Output) (secrets : SecretStore) : List Cause :=
  if output.secretName.isNone then [.fieldRequired "secret" output.type]
  else
    match output.hasSecretKey secrets Secret.awsAccessKeyId,
      output.hasSecretKey secrets Secret.awsSecretAccessKey with
    | true, true => []
    | false, false => if output.hasSecretKey secrets Secret.awsRole then [] else [.noAwsCredentials]
    | _, _ => [.halfAwsAccessKey]

/-- What is wrong with the fields and secret keys that the type of an output needs. -/
def typeCauses (output : Output) (secrets : SecretStore) : List Cause :=
  match output.type with
  | .cloudwatch =>
    output.missingText "cloudwatch.region" (output.cloudwatch.bind (·.region)) ++
      output.awsCauses secrets
  | .kafka => Cause.ofResult .endpoint output.kafkaBrokers
  | .azureMonitor =>
    output.missingText "azureMonitor.customerId" (output.azureMonitor.bind (·.customerId)) ++
      output.missingText "azureMonitor.logType" (output.azureMonitor.bind (·.logType)) ++
      output.missingKey secrets Secret.sharedKey
  | .googleCloudLogging =>
    let destinations := (output.googleCloudLogging.map (·.destinations)).getD []
    (if destinations.length = 1 then [] else [.notOneDestination]) ++
      output.missingText "googleCloudLogging.logId" (output.googleCloudLogging.bind (·.logId)) ++
      output.missingKey secrets Secret.googleCredentials
  | .splunk => output.missingKey secrets Secret.splunkToken
  | .lokistack =>
    output.missingText "lokistack.target.name" (output.lokistack.map (·.target.name)) ++
      output.missingText "lokistack.target.namespace"
        (output.lokistack.map (·.target.namespaceName))
  | _ => []

/-- What is wrong with the credentials of an output. -/
def credentialsCauses (output : Output) (secrets : SecretStore) (options : Options) : List Cause :=
  Cause.ofResult .credentials (output.credentials secrets options)

/-- What is wrong with an output, some of whose name's bearers come before it. -/
def causes (output : Output) (secrets : SecretStore) (options : Options) (isRepeated : Bool) :
    List Cause :=
  if output.name.isEmpty then [.emptyOutputName]
  else
    (if isRepeated then [.duplicateOutputName] else []) ++
      if output.type.isKnown then
        output.secretCauses secrets ++ output.urlCauses ++ output.typeCauses secrets ++
          output.credentialsCauses secrets options
      else
        [.unknownType output.type.name]

end Output

end LogForwarder
