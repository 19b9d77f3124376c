/-
Outputs: where records go. An output has a type, an address, a secret with credentials, and a
section with the settings of its type; sections of other types are kept but never looked at.
-/

import LogForwarder.Spec.OutputSection
import LogForwarder.Spec.Tuning

namespace LogForwarder

/-! ### Types of outputs -/

/--
The type of an output. A name that is no type is kept, so that it can be reported with other faults.
-/
inductive OutputType
  | elasticsearch
  | fluentForward
  | syslog
  | kafka
  | loki
  | lokistack
  | cloudwatch
  | otlp
  | http
  | splunk
  | azureMonitor
  | googleCloudLogging
  | unknown (name : String)
  deriving DecidableEq

namespace OutputType

/-- The types that there are. -/
def allKnown : List OutputType :=
  [.elasticsearch, .fluentForward, .syslog, .kafka, .loki, .lokistack, .cloudwatch, .otlp, .http,
    .splunk, .azureMonitor, .googleCloudLogging]

/-- The name of a type. -/
def name : OutputType → String
  | .elasticsearch => "elasticsearch"
  | .fluentForward => "fluentForward"
  | .syslog => "syslog"
  | .kafka => "kafka"
  | .loki => "loki"
  | .lokistack => "lokistack"
  | .cloudwatch => "cloudwatch"
  | .otlp => "otlp"
  | .http => "http"
  | .splunk => "splunk"
  | .azureMonitor => "azureMonitor"
  | .googleCloudLogging => "googleCloudLogging"
  | .unknown name => name

/-- Whether a type is one that there is. -/
def isKnown : OutputType → Bool
  | .unknown _ => false
  | _ => true

/-- The type of a name. -/
def ofName (name : String) : OutputType :=
  (allKnown.find? (·.name = name)).getD (.unknown name)

/-- Types are written by name, and every name is read. -/
def codec : Codec OutputType :=
  ⟨fun type => .text type.name, fun medium document => return ofName (← decodeText medium document)⟩

end OutputType

/-! ### Parts of an output -/

/-- Transport security of an output. -/
structure OutputTls where
  insecureSkipVerify : Bool
  deriving DecidableEq, Inhabited

/-- Where a bearer token comes from. -/
inductive TokenSource
  /-- The output's own secret. -/
  | secret
  /-- The service account of the collector. -/
  | serviceAccount
  deriving DecidableEq

/-- How an output proves who it is, if that is not left to its secret. -/
structure Authentication where
  tokenSource : Option TokenSource
  deriving DecidableEq, Inhabited

/-- An output. -/
structure Output where
  name : String
  type : OutputType
  url? : Option String
  secretName : Option String
  tls : Option OutputTls
  authentication : Option Authentication
  tuning : Option OutputTuning
  elasticsearch : Option ElasticsearchSection
  syslog : Option SyslogSection
  kafka : Option KafkaSection
  loki : Option LokiSection
  lokistack : Option LokiStackSection
  cloudwatch : Option CloudwatchSection
  http : Option HttpSection
  splunk : Option SplunkSection
  azureMonitor : Option AzureMonitorSection
  googleCloudLogging : Option GoogleCloudLoggingSection
  deriving DecidableEq

namespace Output

/-- An output of which nothing but its name and type is given. -/
def bare (name : String) (type : OutputType) : Output where
  name := name
  type := type
  url? := none
  secretName := none
  tls := none
  authentication := none
  tuning := none
  elasticsearch := none
  syslog := none
  kafka := none
  loki := none
  lokistack := none
  cloudwatch := none
  http := none
  splunk := none
  azureMonitor := none
  googleCloudLogging := none

instance : Inhabited Output := ⟨bare "" .http⟩

/-- What the names of outputs to the store inside the cluster start with. -/
def clusterStoreMark : String := "default-"

/-- Whether an output goes to the store inside the cluster. -/
def isClusterStore (output : Output) : Bool := output.name.startsWith clusterStoreMark

/-- The address of an output, which is empty if none is given. -/
def url (output : Output) : String := output.url?.getD ""

/-- Whether the certificate of the other side is taken unseen. -/
def skipsVerification (output : Output) : Bool := output.tls.any (·.insecureSkipVerify)

end Output

/-! ### Written form -/

/-- Names of secrets, each in a record of its own. -/
def secretNameCodec : Codec String :=
  .record "OutputSecretSpec" (.cons (.required "name" .text) .nil)
    (fun name => (name, ())) (fun (name, ()) => name)

/-- Transport security. -/
def OutputTls.codec : Codec OutputTls :=
  .record "OutputTls" (.cons (.defaulted "insecureSkipVerify" .boolean false) .nil)
    (fun tls => (tls.insecureSkipVerify, ())) (fun (insecureSkipVerify, ()) => ⟨insecureSkipVerify⟩)

/-- The name of a source of tokens. -/
def TokenSource.name : TokenSource → String
  | .secret => "secret"
  | .serviceAccount => "serviceAccount"

/-- Sources of tokens, each in a record of its own. -/
def TokenSource.codec : Codec TokenSource :=
  .record "BearerTokenSpec"
    (.cons (.required "from" (.choiceOf TokenSource.name [.secret, .serviceAccount])) .nil)
    (fun source => (source, ())) (fun (source, ()) => source)

/-- Ways of authentication. -/
def Authentication.codec : Codec Authentication :=
  .record "Authentication" (.cons (.optional "token" TokenSource.codec) .nil)
    (fun authentication => (authentication.tokenSource, ()))
    (fun (tokenSource, ()) => ⟨tokenSource⟩)

/-- Outputs. -/
def Output.codec : Codec Output :=
  .record "OutputSpec"
    (.cons (.required "name" .text) <|
      .cons (.required "type" OutputType.codec) <|
      .cons (.optional "url" .text) <|
      .cons (.optional "secret" secretNameCodec) <|
      .cons (.optional "tls" OutputTls.codec) <|
      .cons (.optional "authentication" Authentication.codec) <|
      .cons (.optional "tuning" OutputTuning.codec) <|
      .cons (.optional "elasticsearch" ElasticsearchSection.codec) <|
      .cons (.optional "syslog" SyslogSection.codec) <|
      .cons (.optional "kafka" KafkaSection.codec) <|
      .cons (.optional "loki" LokiSection.codec) <|
      .cons (.optional "lokistack" LokiStackSection.codec) <|
      .cons (.optional "cloudwatch" CloudwatchSection.codec) <|
      .cons (.optional "http" HttpSection.codec) <|
      .cons (.optional "splunk" SplunkSection.codec) <|
      .cons (.optional "azureMonitor" AzureMonitorSection.codec) <|
      .cons (.optional "googleCloudLogging" GoogleCloudLoggingSection.codec) .nil)
    (fun output =>
      (output.name, output.type, output.url?, output.secretName, output.tls, output.authentication,
        output.tuning, output.elasticsearch, output.syslog, output.kafka, output.loki,
        output.lokistack, output.cloudwatch, output.http, output.splunk, output.azureMonitor,
        output.googleCloudLogging, ()))
    (fun (name, type, url?, secretName, tls, authentication, tuning, elasticsearch, syslog, kafka,
        loki, lokistack, cloudwatch, http, splunk, azureMonitor, googleCloudLogging, ()) =>
      { name, type, url?, secretName, tls, authentication, tuning, elasticsearch, syslog, kafka,
        loki, lokistack, cloudwatch, http, splunk, azureMonitor, googleCloudLogging })

end LogForwarder
