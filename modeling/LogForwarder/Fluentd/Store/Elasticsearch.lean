/-
Elasticsearch outputs of the fluentd dialect. Each has two stores: the main one hands records that
could not be written to the other one, which tries again.
-/

import LogForwarder.Fluentd.Section
import LogForwarder.Fluentd.Store.Basic

namespace LogForwarder.Fluentd.Store

/-- The port of an elasticsearch output whose address names none. -/
def defaultElasticsearchPort : Nat := 9200

/-- The settings of both stores. -/
def elasticsearchSettings (store : Store) (scheme : String) : List Setting :=
  Setting.line "scheme" scheme ++
    Setting.lineIf (scheme = "https") "ssl_version" (sslVersion store.options) ++
    Setting.lineIf store.output.skipsVerification "ssl_verify_peer" "false" ++
    (match store.credentials with
    | .basic _ _ =>
      Setting.line? "user" (store.secretExpression? Secret.username) ++
        Setting.line? "password" (store.secretExpression? Secret.password)
    | .bearer token _ => Setting.line "custom_headers" (authorizationHeader token)
    | .serviceAccount token => Setting.line "custom_headers" (authorizationHeader token)
    | .none => []) ++
    (if store.output.isClusterStore then Setting.line "ca_file" serviceCaPath
    else
      Setting.line? "client_key" (store.secretFile? Secret.clientKey) ++
        Setting.line? "client_cert" (store.secretFile? Secret.clientCertificate) ++
        Setting.line? "ca_file" (store.secretFile? Secret.caBundle))
where
  /-- The headers that carry a token. -/
  authorizationHeader (token : String) : String :=
    "\x7b\"Authorization\":\"Bearer " ++ token ++ "\"\x7d"

/--
One of the two stores: for records of some tags, under an id, and with the tag of those to try
again.
-/
def elasticsearchStore (store : Store) (url : Url) (tags id : String) (retryTag : Option String) :
    Value :=
  let options := store.output.elasticsearch.getD default
  .ofEntries [("tags", .text tags), ("store_id", .text id),
    ("host", .text (url.hostText?.getD "")),
    ("port", .integer (url.port?.getD defaultElasticsearchPort)),
    ("settings", Setting.params (store.elasticsearchSettings url.scheme)),
    ("suppress_type_name", .boolean options.suppressesTypeName),
    ("retry_tag", .ofText? retryTag),
    ("buffer", (Buffer.ofTuning id store.tuning "1s" []).param)]

/-- The id of the store that tries again, which is also the tag of its records. -/
def retryId (store : Store) : String := s!"retry_{store.storeId}"

/-- The label of an elasticsearch output. -/
def elasticsearchLabel (store : Store) : Except CompileError Element := do
  let url ← (Endpoint.readUrl store.output.url).mapError store.endpointError
  let options := store.output.elasticsearch.getD default
  return store.label Templates.elasticsearch
    [("infra_tags", .text (tagsOf .infrastructure)), ("audit_tags", .text (tagsOf .audit)),
      ("structured", .boolean options.hasStructuredIndex),
      ("structured_type_key", .ofText? options.structuredTypeKey),
      ("structured_type_name", .ofText? options.structuredTypeName),
      ("retry", store.elasticsearchStore url store.retryId store.retryId none),
      ("main", store.elasticsearchStore url "**" store.storeId (some store.retryId))]

end LogForwarder.Fluentd.Store
