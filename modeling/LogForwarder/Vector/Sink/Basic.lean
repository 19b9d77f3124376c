/-
Sinks of the vector dialect: what every sink is made from, and the parts that all of them share. The
chain of an output leads from the pipelines that flow to it through a few transforms to its sink.
-/

import LogForwarder.Compile.Error
import LogForwarder.Vector.Part
import LogForwarder.Vector.Transform

namespace LogForwarder.Vector

/-- What the chain of an output is made from. -/
structure Sink where
  output : Output
  /-- The id of the sink. Ids of the transforms before it start with it. -/
  id : String
  /-- The pipelines that flow to the output. -/
  inputs : List String
  /-- The kinds of records that flow to the output. -/
  kinds : List LogKind
  secrets : SecretStore
  options : Options

namespace Sink

/-- The id of a transform in the chain of a sink. -/
def child (sink : Sink) (suffix : String) : String := s!"{sink.id}-{suffix}"

/-- The path of the table of a sink. -/
def table (sink : Sink) : String := s!"sinks.{sink.id}"

/-- The text at a key of the output's secret. -/
def secretValue? (sink : Sink) (key : String) : Option String :=
  sink.output.secretName.bind (sink.secrets.value? · key)

/-- The credentials of the output. One whose credentials are at fault has none. -/
def credentials (sink : Sink) : Credentials :=
  match sink.output.credentials sink.secrets sink.options with
  | .ok credentials => credentials
  | .error _ => .none

/-- How records are compressed, if the output says so. -/
def compression? (sink : Sink) : Option String := sink.output.tuning.bind (·.compression)

/-- A setting that a sink cannot do without. -/
def require (sink : Sink) (field : String) : Option String → Except CompileError String
  | some value => .ok value
  | none => .error (.missingField sink.output.name field)

/-- The error of an address of the output. -/
def endpointError (sink : Sink) (error : EndpointError) : CompileError :=
  .endpoint sink.output.name error

/-! ### The head of a chain -/

/-- Numbers a record, and renames its labels so that they hold neither dots nor slashes. -/
def dedotProgram : String := Template.withBraces
  r#".openshift.sequence = to_unix_timestamp(now(), unit: "nanoseconds")
if exists(.kubernetes.namespace_labels) ⦃
  for_each(object!(.kubernetes.namespace_labels)) -> |key,value| ⦃
    newkey = replace(key, r'[\./]', "_")
    .kubernetes.namespace_labels = set!(.kubernetes.namespace_labels,[newkey],value)
    if newkey != key ⦃
      .kubernetes.namespace_labels = remove!(.kubernetes.namespace_labels,[key],true)
    ⦄
  ⦄
⦄
if exists(.kubernetes.labels) ⦃
  for_each(object!(.kubernetes.labels)) -> |key,value| ⦃
    newkey = replace(key, r'[\./]', "_")
    .kubernetes.labels = set!(.kubernetes.labels,[newkey],value)
    if newkey != key ⦃
      .kubernetes.labels = remove!(.kubernetes.labels,[key],true)
    ⦄
  ⦄
⦄"#

/-- The transforms that every chain starts with. -/
def head (sink : Sink) : List Element :=
  [remap (sink.child "remap") sink.inputs "del(.tag)",
    remap (sink.child "dedot") [sink.child "remap"] dedotProgram]

/-- The last of the transforms that every chain starts with. -/
def intake (sink : Sink) : List String := [sink.child "dedot"]

/-! ### Parts -/

/-- What the sink is told about transport security in some table. -/
def tlsParams? (sink : Sink) (table : String) (isSecure enabled : Bool) : Option Params :=
  (Tls.ofOutput? sink.output sink.secrets sink.options isSecure enabled).map (·.params table)

/-- What the sink is told about requests in some table. -/
def requestParams? (sink : Sink) (table : String) (timeout : Option Nat)
    (headers : Dictionary String) : Option Params :=
  (Request.ofTuning sink.output.tuning timeout headers).params? table

/-- What the sink is told about requests in its own table, without a time limit. -/
def plainRequest? (sink : Sink) : Option Params := sink.requestParams? sink.table none ∅

/-- An element with the form of the records that it sends. -/
def withEncoding (sink : Sink) (element : Element) (more : Params) : Element :=
  element.withPart Templates.encoding.name
    ([("table", .text sink.table), ("codec", .text "json")] ++ more)

/-- The parts that are different for every type of output. -/
structure Extras where
  request : Option Params
  tls : Option Params
  auth : Option Params

/-- The element of a sink with the parts that all sinks share. -/
def finish (sink : Sink) (extras : Extras) (element : Element) : Element :=
  element.withPart? Templates.buffer.name (bufferParams? sink.output.tuning sink.table)
    |>.withPart? Templates.batch.name (batchParams? sink.output.tuning sink.table)
    |>.withPart? Templates.request.name extras.request
    |>.withPart? Templates.tls.name extras.tls
    |>.withPart? Templates.auth.name extras.auth

end Sink

end LogForwarder.Vector
