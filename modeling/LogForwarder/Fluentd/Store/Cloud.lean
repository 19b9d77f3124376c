/-
Outputs of the fluentd dialect to Loki and to Cloudwatch, which both group records by what stands in
them: Loki by labels, Cloudwatch by names of groups and streams.
-/

import LogForwarder.Fluentd.Section
import LogForwarder.Fluentd.Store.Basic
import LogForwarder.LabelKey

namespace LogForwarder.Fluentd.Store

/-! ### Loki -/

/-- The steps of a text between dots. -/
def stepsOf : List Char → List (List Char)
  | [] => [[]]
  | '.' :: rest => [] :: stepsOf rest
  | c :: rest =>
    match stepsOf rest with
    | [] => [[c]]
    | step :: others => (c :: step) :: others

/--
The steps to the value of a label's key in a record. Label names have neither dots nor slashes by
then.
-/
def recordSteps (key : String) : List String :=
  let quoted? := LabelKey.quotedPrefixes.findSome? fun start =>
    (Text.afterStart? start key).map fun rest =>
      ((stepsOf start.toList).dropLast.map String.ofList) ++
        [String.ofList (rest.toList.map LabelKey.stepChar)]
  quoted?.getD ((stepsOf key.toList).map String.ofList)

/-- An expression for the value of a label's key in a record. The node is known to the collector. -/
def recordAccessor (key : String) : String :=
  if key = LabelKey.host then evaluated "ENV['NODE_NAME']"
  else
    let steps := (recordSteps key).map fun step => "\"" ++ step ++ "\""
    "$\x7brecord.dig(" ++ ",".intercalate steps ++ ")\x7d"

/-- A label as a parameter. -/
def streamLabelParam (key : String) : Value :=
  .ofEntries [("name", .text (LabelKey.name key)), ("record", .text (recordAccessor key))]

/-- The settings of a loki store for an address of some scheme. -/
def lokiSettings (store : Store) (scheme : String) : List Setting :=
  (match store.credentials with
  | .basic _ _ =>
    Setting.line? "username" (store.secretExpression? Secret.username) ++
      Setting.line? "password" (store.secretExpression? Secret.password)
  | credentials => Setting.line? "bearer_token_file" credentials.tokenFile?) ++
    (if scheme = "https" then
      (if store.output.isClusterStore then Setting.line "ca_cert" serviceCaPath
      else
        Setting.line? "ca_cert" (store.secretFile? Secret.caBundle) ++
          Setting.line? "cert" (store.secretFile? Secret.clientCertificate) ++
          Setting.line? "key" (store.secretFile? Secret.clientKey)) ++
        Setting.lineIf store.output.skipsVerification "insecure_tls" "true" ++
        Setting.line? "ciphers" (cipherList? store.options)
    else [])

/-- The field of a record that names its tenant, if the spec says so. -/
def tenantPath? (options : Option LokiSection) : Option String :=
  ((options.bind (·.tenantKey)).filter (!·.isEmpty)).map fun key => s!"$.{key}"

/-- The label of a loki output. Records of different tenants are kept apart in its buffer. -/
def lokiLabel (store : Store) : Except CompileError Element := do
  let url ← (Endpoint.readUrl store.output.url).mapError store.endpointError
  let options := store.output.loki
  let tenant := tenantPath? options
  let address := String.ofList (Text.dropWhileEnd (· = '/') store.output.url.toList)
  return store.label Templates.loki
    [("url", .text address),
      ("tenant", .ofText? (tenant.map fun path => "$\x7b" ++ path ++ "\x7d")),
      ("labels", .list ((LabelKey.ofLoki options).map streamLabelParam)),
      ("settings", Setting.params (store.lokiSettings url.scheme)),
      ("buffer", (store.buffer "1s" tenant.toList).param)]

/-! ### Cloudwatch -/

/-- The name of the group of an application record. -/
def applicationGroup : GroupBy → String
  | .logType => "application"
  | .namespaceName => "$\x7brecord['kubernetes']['namespace_name']\x7d"
  | .namespaceUuid => "$\x7brecord['kubernetes']['namespace_id']\x7d"

/-- The name of the stream of a record that does not come from an application. -/
def nodeStream : String := "$\x7brecord['hostname']\x7d.$\x7btag\x7d"

/-- A group: the tags of its records, its name, and the name of a record's stream. -/
def groupParam (tags group stream : String) : Value :=
  .ofEntries [("tags", .text tags), ("group", .text group), ("stream", .text stream)]

/-- What the names of all groups start with. -/
def groupStart (options : CloudwatchSection) : String :=
  match options.groupPrefix.filter (!·.isEmpty) with
  | some start => s!"{start}."
  | none => ""

/--
The groups of records. A later one overrides those before it, so infrastructure comes after
applications.
-/
def groupParams (options : CloudwatchSection) : Value :=
  .list [groupParam (tagsOf .application) (groupStart options ++ applicationGroup options.groupBy)
      "$\x7btag\x7d",
    groupParam (tagsOf .infrastructure) (groupStart options ++ "infrastructure") nodeStream,
    groupParam (tagsOf .audit) (groupStart options ++ "audit") nodeStream]

/-- The settings of a cloudwatch store. -/
def cloudwatchSettings (store : Store) : List Setting :=
  Setting.line? "aws_key_id" ((store.secretFile? Secret.awsAccessKeyId).map readStripped) ++
    Setting.line? "aws_sec_key" ((store.secretFile? Secret.awsSecretAccessKey).map readStripped) ++
    Setting.line "endpoint" store.output.url ++
    Setting.lineIf store.output.skipsVerification "ssl_verify_peer" "false"

/-- The role that a cloudwatch store takes on, which it does unless it has an access key. -/
def awsRole? (store : Store) : Option String :=
  if (store.secretFile? Secret.awsAccessKeyId).isSome then none
  else store.secretValue? Secret.awsRole

/-- The label of a cloudwatch output. -/
def cloudwatchLabel (store : Store) : Except CompileError Element := do
  let options := store.output.cloudwatch.getD default
  match options.region with
  | none => throw (.missingField store.output.name "cloudwatch.region")
  | some region =>
    return store.label Templates.cloudwatch
      [("region", .text region), ("groups", groupParams options),
        ("settings", Setting.params store.cloudwatchSettings),
        ("role_arn", .ofText? store.awsRole?),
        ("token_file", .text Credentials.serviceAccountTokenFile)]

end LogForwarder.Fluentd.Store
