/-
This file proves that the chain of an output is a line. Whatever the type of the output, its chain
starts with the two transforms that every chain has, goes through the transforms of its type one
after the other, and ends in the one sink of the output; nothing branches off that does not come
together again, and nothing from outside comes in behind the start. The sink of OpenTelemetry
records is the only one behind a router, and reads all of its branches.

The sink has parts of its own, to which the parts that all sinks share are added: about buffers,
batches, requests, transport security and credentials. The type of the output has no other say in
these than whether there are requests and a secure connection, in which table they are told of, how
long a request may take and what goes with it.
-/
import LogForwarder.Proofs.Arena
import LogForwarder.Proofs.Order
import LogForwarder.Vector.Build

namespace LogForwarder

/-! ### Ids without dots -/

theorem Element.withPart?_keeps (element : Element) (template : String) (params : Option Params) :
    (element.withPart? template params).id = element.id ∧
      (element.withPart? template params).stage = element.stage ∧
      (element.withPart? template params).inputs = element.inputs := by
  cases params with
  | none => exact ⟨rfl, rfl, rfl⟩
  | some params => exact ⟨rfl, rfl, rfl⟩

theorem Name.componentChar_idempotent (c : Char) :
    componentChar (componentChar c) = componentChar c := by
  by_cases allowed : c.isAlphanum || c = '_' || c = '-'
  · have same : componentChar c = c := if_pos allowed
    rw [same, same]
  · have replaced : componentChar c = '_' := if_neg allowed
    rw [replaced]
    decide

/-- A character that is replaced in names does not stand in the ids of components. -/
theorem Name.notMem_componentId (name : String) {c : Char} (replaced : componentChar c ≠ c) :
    c ∉ (componentId name).toList := by
  unfold componentId
  rw [String.toList_ofList]
  intro member
  obtain ⟨original, _, rfl⟩ := List.mem_map.mp member
  exact replaced (componentChar_idempotent original)

theorem Name.dot_notMem_componentId (name : String) : '.' ∉ (componentId name).toList :=
  notMem_componentId name (by decide)

namespace Vector.Sink

variable {sink : Sink}

theorem toList_child (sink : Sink) (suffix : String) :
    (sink.child suffix).toList = sink.id.toList ++ '-' :: suffix.toList := by
  show (sink.id ++ "-" ++ suffix).toList = _
  rw [String.toList_append, String.toList_append, List.append_assoc]
  rfl

theorem dot_notMem_child (plain : '.' ∉ sink.id.toList) {suffix : String}
    (plainSuffix : '.' ∉ suffix.toList) : '.' ∉ (sink.child suffix).toList := by
  rw [toList_child, List.mem_append, List.mem_cons, not_or, not_or]
  exact ⟨plain, by decide, plainSuffix⟩

/-! ### Lines that end in a sink -/

/-- What a line of transforms is that ends in the one sink of an output. -/
structure IsLine (sink : Sink) (feeders : List String) (transforms : List Element)
    (last : Element) : Prop where
  linked : Arena.Linked feeders (transforms ++ [last])
  ids : ∀ element ∈ transforms, ∃ suffix, element.id = sink.child suffix
  stages : ∀ element ∈ transforms, element.stage = .transform
  lastId : last.id = sink.id
  lastStage : last.stage = .sink

theorem finish_keeps (sink : Sink) (extras : Extras) (element : Element) :
    (sink.finish extras element).id = element.id ∧
      (sink.finish extras element).stage = element.stage ∧
      (sink.finish extras element).inputs = element.inputs := by
  unfold finish
  simp only [Element.withPart?_keeps, and_self]

theorem template_withPart? (element : Element) (template : String) (params : Option Params) :
    (element.withPart? template params).template = element.template := by
  cases params <;> rfl

theorem template_finish (sink : Sink) (extras : Extras) (element : Element) :
    (sink.finish extras element).template = element.template := by
  unfold finish
  simp only [template_withPart?]

theorem params_withPart? (element : Element) (template : String) (params : Option Params) :
    (element.withPart? template params).params = element.params := by
  cases params <;> rfl

theorem params_finish (sink : Sink) (extras : Extras) (element : Element) :
    (sink.finish extras element).params = element.params := by
  unfold finish
  simp only [params_withPart?]

/-- A sink that reads from one element is a line of its own. -/
theorem isLine_finish (sink : Sink) (extras : Extras) (element : Element) (previous : String)
    (plain : '.' ∉ previous.toList) (id : element.id = sink.id) (stage : element.stage = .sink)
    (inputs : element.inputs = [previous]) :
    sink.IsLine [previous] [] (sink.finish extras element) where
  linked := by
    refine ⟨fun feeder => ?_, trivial⟩
    show feeder ∈ (sink.finish extras element).inputs.map Element.component ↔ _
    rw [(sink.finish_keeps extras element).2.2, inputs, List.map_singleton,
      Element.component_eq_self plain]
  ids := fun element member => absurd member List.not_mem_nil
  stages := fun element member => absurd member List.not_mem_nil
  lastId := (sink.finish_keeps extras element).1.trans id
  lastStage := (sink.finish_keeps extras element).2.1.trans stage

/-- A transform before a line makes it longer. -/
theorem isLine_cons (transform : Element) (suffix : String) (feeders : List String)
    (id : transform.id = sink.child suffix) (stage : transform.stage = .transform)
    (reads : ∀ feeder, feeder ∈ transform.feeders ↔ feeder ∈ feeders)
    {transforms : List Element} {last : Element}
    (line : sink.IsLine [transform.id] transforms last) :
    sink.IsLine feeders (transform :: transforms) last where
  linked := ⟨reads, line.linked⟩
  ids := by
    intro element member
    rcases List.mem_cons.mp member with rfl | later
    · exact ⟨suffix, id⟩
    · exact line.ids element later
  stages := by
    intro element member
    rcases List.mem_cons.mp member with rfl | later
    · exact stage
    · exact line.stages element later
  lastId := line.lastId
  lastStage := line.lastStage

/-- What the part of a chain is that depends on the type: a line behind the common transforms. -/
def IsTail (sink : Sink) (elements : List Element) : Prop :=
  ∃ transforms last, elements = transforms ++ [last] ∧ sink.IsLine sink.intake transforms last

/-- The router in front of a sink of OpenTelemetry records, which has a branch for each kind. -/
def rerouter (sink : Sink) : Element :=
  route (sink.child "reroute") sink.intake (sink.kinds.map (otlpBranch sink.options))

@[simp]
theorem name_otlpBranch (options : Options) (kind : LogKind) :
    (otlpBranch options kind).name = kind.name := by
  unfold otlpBranch
  split <;> rfl

/-- The inputs that read all branches of this router. -/
def branchInputs (sink : Sink) : List String :=
  (sink.kinds.map (otlpBranch sink.options)).map fun branch =>
    branchOf (sink.child "reroute") branch.name

section Tails

variable (plain : '.' ∉ sink.id.toList)

include plain

/-- A sink alone is a tail if it reads from the last common transform. -/
theorem isTail_finish (extras : Extras) (element : Element) (id : element.id = sink.id)
    (stage : element.stage = .sink) (inputs : element.inputs = sink.intake) :
    sink.IsTail [sink.finish extras element] :=
  ⟨[], _, rfl, sink.isLine_finish extras element _ (dot_notMem_child plain (by decide)) id stage
    inputs⟩

/-- What reads from the last common transform is fed by that transform alone. -/
theorem mem_feeders_iff {element : Element} (inputs : element.inputs = sink.intake)
    (feeder : String) : feeder ∈ element.feeders ↔ feeder ∈ sink.intake := by
  unfold Element.feeders
  rw [inputs]
  show feeder ∈ [Element.component (sink.child "dedot")] ↔ feeder ∈ [sink.child "dedot"]
  rw [Element.component_eq_self (dot_notMem_child plain (by decide))]

/-- A transform and a sink that reads from it are a tail. -/
theorem isTail_remap (suffix program : String) (plainSuffix : '.' ∉ suffix.toList)
    (extras : Extras) (element : Element) (id : element.id = sink.id)
    (stage : element.stage = .sink) (inputs : element.inputs = [sink.child suffix]) :
    sink.IsTail [remap (sink.child suffix) sink.intake program, sink.finish extras element] :=
  ⟨[remap (sink.child suffix) sink.intake program], _, rfl,
    isLine_cons _ suffix _ rfl rfl (mem_feeders_iff plain rfl)
      (sink.isLine_finish extras element _ (dot_notMem_child plain plainSuffix) id stage inputs)⟩

/-- A router, a transform that reads all of its branches, and a sink behind it are a tail. -/
theorem isTail_router (kinds : sink.kinds ≠ []) (program : String) (extras : Extras)
    (element : Element) (id : element.id = sink.id) (stage : element.stage = .sink)
    (inputs : element.inputs = [sink.child "resource_logs"]) :
    sink.IsTail
      [sink.rerouter, remap (sink.child "resource_logs") sink.branchInputs program,
        sink.finish extras element] := by
  have plainRouter : '.' ∉ (sink.child "reroute").toList := dot_notMem_child plain (by decide)
  have branches (feeder : String) :
      feeder ∈ (remap (sink.child "resource_logs") sink.branchInputs program).feeders ↔
        feeder ∈ [sink.child "reroute"] := by
    show feeder ∈ List.map Element.component (List.map _ (List.map _ sink.kinds)) ↔ _
    rw [List.map_map, List.map_map, List.mem_map, List.mem_singleton]
    refine ⟨?_, ?_⟩
    · rintro ⟨kind, _, rfl⟩
      exact Element.component_branchOf _ plainRouter
    · rintro rfl
      obtain ⟨kind, member⟩ := List.exists_mem_of_ne_nil _ kinds
      exact ⟨kind, member, Element.component_branchOf _ plainRouter⟩
  refine ⟨[_, _], _, rfl, isLine_cons _ "reroute" _ rfl rfl (mem_feeders_iff plain rfl) ?_⟩
  refine isLine_cons _ "resource_logs" _ rfl rfl branches ?_
  exact sink.isLine_finish extras element _ (dot_notMem_child plain (by decide)) id stage inputs

end Tails

/-! ### Shapes of tails -/

/-- What the ids of the transforms end in that a chain has for the type of its output. -/
def tailSuffixes (sink : Sink) : List String :=
  match sink.output.type with
  | .loki => ["remap_label"]
  | .elasticsearch => ["add_es_index"]
  | .kafka => if hasFieldGroup sink.output.kafkaTopic then ["topic"] else []
  | .syslog => ["parse_encoding"]
  | .cloudwatch => ["normalize_group_and_streams"]
  | .http => ["normalize_http"]
  | .splunk => ["splunk_metadata"]
  | .otlp => ["reroute", "resource_logs"]
  | _ => []

/--
The shapes that the part of a chain has that depends on the type: the sink alone, the sink behind
one transform, and the sink behind a router.
-/
inductive TailShape (sink : Sink) : List String → List Element → Prop
  | alone (extras : Extras) (element : Element) (id : element.id = sink.id)
      (stage : element.stage = .sink) (inputs : element.inputs = sink.intake) :
      TailShape sink [] [sink.finish extras element]
  | behindRemap (suffix program : String) (plainSuffix : '.' ∉ suffix.toList) (extras : Extras)
      (element : Element) (id : element.id = sink.id) (stage : element.stage = .sink)
      (inputs : element.inputs = [sink.child suffix]) :
      TailShape sink [suffix]
        [remap (sink.child suffix) sink.intake program, sink.finish extras element]
  | behindRouter (program : String) (extras : Extras) (element : Element)
      (id : element.id = sink.id) (stage : element.stage = .sink)
      (inputs : element.inputs = [sink.child "resource_logs"]) :
      TailShape sink ["reroute", "resource_logs"]
        [sink.rerouter, remap (sink.child "resource_logs") sink.branchInputs program,
          sink.finish extras element]

theorem shape_kafkaChain {elements : List Element} (made : sink.kafkaChain = .ok elements) :
    sink.TailShape (if hasFieldGroup sink.output.kafkaTopic then ["topic"] else []) elements := by
  unfold kafkaChain at made
  obtain ⟨brokers, _, made⟩ := exists_of_bind_eq_ok made
  cases made
  have keeps := Element.withPart?_keeps
  cases fields : hasFieldGroup sink.output.kafkaTopic with
  | true =>
    have oneTransform : sink.topicRemap sink.output.kafkaTopic =
        [remap (sink.child "topic") sink.intake
          s!"._internal.topic = {fieldExpression sink.output.kafkaTopic}"] := by
      unfold topicRemap
      exact if_pos fields
    rw [oneTransform]
    exact .behindRemap "topic" _ (by decide) _ _ (keeps _ _ _).1 (keeps _ _ _).2.1
      (keeps _ _ _).2.2
  | false =>
    have noTransform : sink.topicRemap sink.output.kafkaTopic = [] := by
      unfold topicRemap
      rw [fields]
      rfl
    rw [noTransform]
    exact .alone _ _ (keeps _ _ _).1 (keeps _ _ _).2.1 (keeps _ _ _).2.2

/-- The part of a chain that depends on the type has one of these shapes, whatever the type. -/
theorem shape_tail {elements : List Element} (made : sink.tail = .ok elements) :
    sink.TailShape sink.tailSuffixes elements := by
  unfold tail at made
  unfold tailSuffixes
  cases type : sink.output.type <;> simp only [type] at made
  case loki =>
    cases made
    exact .behindRemap "remap_label" _ (by decide) _ _ rfl rfl rfl
  case elasticsearch =>
    cases made
    exact .behindRemap "add_es_index" _ (by decide) _ _ rfl rfl rfl
  case kafka => exact shape_kafkaChain made
  case syslog =>
    unfold syslogChain at made
    obtain ⟨address, _, made⟩ := exists_of_bind_eq_ok made
    cases made
    exact .behindRemap "parse_encoding" _ (by decide) _ _ rfl rfl rfl
  case cloudwatch =>
    unfold cloudwatchChain at made
    obtain ⟨region, _, made⟩ := exists_of_bind_eq_ok made
    cases made
    exact .behindRemap "normalize_group_and_streams" _ (by decide) _ _ rfl rfl rfl
  case http =>
    cases made
    exact .behindRemap "normalize_http" _ (by decide) _ _ rfl rfl rfl
  case splunk =>
    unfold splunkChain at made
    obtain ⟨token, _, made⟩ := exists_of_bind_eq_ok made
    cases made
    exact .behindRemap "splunk_metadata" _ (by decide) _ _ rfl rfl rfl
  case azureMonitor =>
    unfold azureMonitorChain at made
    obtain ⟨customerId, _, made⟩ := exists_of_bind_eq_ok made
    obtain ⟨logType, _, made⟩ := exists_of_bind_eq_ok made
    obtain ⟨sharedKey, _, made⟩ := exists_of_bind_eq_ok made
    cases made
    exact .alone _ _ rfl rfl rfl
  case googleCloudLogging =>
    unfold googleCloudChain at made
    obtain ⟨destination, _, made⟩ := exists_of_bind_eq_ok made
    obtain ⟨secret, _, made⟩ := exists_of_bind_eq_ok made
    obtain ⟨logId, _, made⟩ := exists_of_bind_eq_ok made
    cases made
    exact .alone _ _ rfl rfl rfl
  case otlp =>
    cases made
    exact .behindRouter resourceProgram _ _ rfl rfl rfl
  all_goals cases made

/-- Whatever its shape, the part of a chain that depends on the type is a tail. -/
theorem TailShape.isTail (plain : '.' ∉ sink.id.toList) (kinds : sink.kinds ≠ [])
    {suffixes : List String} {elements : List Element} (shape : sink.TailShape suffixes elements) :
    sink.IsTail elements := by
  cases shape with
  | alone extras element id stage inputs => exact isTail_finish plain extras element id stage inputs
  | behindRemap suffix program plainSuffix extras element id stage inputs =>
    exact isTail_remap plain suffix program plainSuffix extras element id stage inputs
  | behindRouter program extras element id stage inputs =>
    exact isTail_router plain kinds program extras element id stage inputs

/-- The chain of an output is a line from the pipelines that flow to it to its sink. -/
theorem isLine_chain (plain : '.' ∉ sink.id.toList) (kinds : sink.kinds ≠ [])
    {elements : List Element} (made : sink.chain = .ok elements) :
    ∃ transforms last, elements = transforms ++ [last] ∧
      sink.IsLine (sink.inputs.map Element.component) transforms last := by
  unfold chain at made
  obtain ⟨tail, tailMade, made⟩ := exists_of_bind_eq_ok made
  cases made
  obtain ⟨transforms, last, rfl, line⟩ := (shape_tail tailMade).isTail plain kinds
  refine ⟨sink.head ++ transforms, last, (List.append_assoc _ _ _).symm, ?_⟩
  refine isLine_cons (remap (sink.child "remap") sink.inputs "del(.tag)") "remap" _ rfl rfl
    (fun _ => Iff.rfl) ?_
  refine isLine_cons (remap (sink.child "dedot") [sink.child "remap"] dedotProgram) "dedot" _ rfl
    rfl ?_ line
  intro feeder
  show feeder ∈ [Element.component (sink.child "remap")] ↔ feeder ∈ [sink.child "remap"]
  rw [Element.component_eq_self (dot_notMem_child plain (by decide))]

end Vector.Sink

/-! ### What the type of an output decides -/

/-- Whether sinks of a type are told about requests. -/
def OutputType.hasRequests : OutputType → Bool
  | .kafka | .syslog => false
  | _ => true

namespace Output

/-- Whether the connection of an output is secure, which is for its type to decide. -/
def isSecured (output : Output) : Bool :=
  match output.type with
  | .kafka => output.kafkaUsesTls
  | .syslog => decide (SyslogTransport.ofAddress output.url = .tls)
  | .azureMonitor | .googleCloudLogging => true
  -- Without an address of its own the output goes to the provider.
  | .cloudwatch => (output.url?.filter (!·.isEmpty)).all Endpoint.isSecure
  | _ => Endpoint.isSecure output.url

/-- Whether the sink of an output says that its connection is secure, as few types of sinks do. -/
def saysSecured (output : Output) : Bool :=
  decide (output.type = .kafka ∨ output.type = .syslog) && output.isSecured

/-- How long a request of an output may take, in seconds, if anything is said about that. -/
def requestTimeout? (output : Output) : Option Nat :=
  match output.type with
  | .http => some ((output.http.getD default).timeout.getD Vector.Sink.defaultHttpTimeout)
  | .elasticsearch => some Vector.Sink.elasticsearchTimeout
  | _ => none

end Output

namespace Vector.Sink

/-- The table that a sink is told about its connection in. -/
def connectionTable (sink : Sink) : String :=
  match sink.output.type with
  | .otlp => s!"{sink.table}.protocol"
  | _ => sink.table

/-- What goes with every request of a sink. -/
def requestHeaders (sink : Sink) : Dictionary String :=
  match sink.output.type with
  | .http => (sink.output.http.getD default).headers
  | .elasticsearch =>
    match sink.credentials.token? with
    | some token => .ofList [("Authorization", s!"Bearer {token}")]
    | none => ∅
  | _ => ∅

/-- The requests of a sink. -/
def request (sink : Sink) : Request :=
  .ofTuning sink.output.tuning sink.output.requestTimeout? sink.requestHeaders

/-- What a sink is told about its requests, if it has any. -/
def requestPart? (sink : Sink) : Option Params :=
  if sink.output.type.hasRequests then sink.request.params? sink.connectionTable else none

/-- What a sink is told about the security of its connection. -/
def tlsPart? (sink : Sink) : Option Params :=
  sink.tlsParams? sink.connectionTable sink.output.isSecured sink.output.saysSecured

/--
The credentials that stand in a block of their own. Tokens for Elasticsearch do not: they go with
the requests.
-/
def blockCredentials (sink : Sink) : Credentials :=
  match sink.output.type, sink.credentials with
  | .loki, credentials => credentials
  | .http, credentials => credentials
  | .otlp, credentials => credentials
  | .elasticsearch, .basic username password => .basic username password
  | _, _ => .none

/-- What a sink is told about credentials in a block of their own. -/
def authPart? (sink : Sink) : Option Params :=
  authParams? sink.blockCredentials sink.connectionTable

/-! ### Shared parts -/

/-- The templates of the parts that all sinks share. -/
def sharedTemplates : List String :=
  [Templates.buffer.name, Templates.batch.name, Templates.request.name, Templates.tls.name,
    Templates.auth.name]

/-- A part of the element with an id, if there are parameters for it. -/
def addedParts (id template : String) (params : Option Params) : List Part :=
  params.toList.map fun params => ⟨template, withParam "id" (.text id) (sortedParams params)⟩

theorem template_of_mem_addedParts {id template : String} {params : Option Params} {part : Part}
    (member : part ∈ addedParts id template params) : part.template = template := by
  obtain ⟨_, _, rfl⟩ := List.mem_map.mp member
  rfl

theorem parts_withPart? (element : Element) (template : String) (params : Option Params) :
    (element.withPart? template params).parts =
      element.parts ++ addedParts element.id template params := by
  cases params with
  | none => exact (List.append_nil _).symm
  | some params => rfl

/-- What the parts that all sinks share are made from, if there is anything to say in them. -/
def shared (sink : Sink) (extras : Extras) : List (String × Option Params) :=
  [(Templates.buffer.name, bufferParams? sink.output.tuning sink.table),
    (Templates.batch.name, batchParams? sink.output.tuning sink.table),
    (Templates.request.name, extras.request), (Templates.tls.name, extras.tls),
    (Templates.auth.name, extras.auth)]

/-- The parts that all sinks share come after those that a sink has already. -/
theorem parts_finish (sink : Sink) (extras : Extras) (element : Element) :
    (sink.finish extras element).parts = element.parts ++
      (sink.shared extras).flatMap fun part => addedParts element.id part.1 part.2 := by
  unfold finish
  simp only [parts_withPart?, Element.withPart?_keeps, List.append_assoc]
  simp only [shared, List.flatMap_cons, List.flatMap_nil, List.append_nil]

theorem exists_parts_finish (sink : Sink) (extras : Extras) (element : Element) :
    ∃ added, (sink.finish extras element).parts = element.parts ++ added ∧
      ∀ part ∈ added, part.template ∈ sharedTemplates := by
  refine ⟨_, sink.parts_finish extras element, fun part member => ?_⟩
  obtain ⟨⟨template, params⟩, isShared, isAdded⟩ := List.mem_flatMap.mp member
  have named : template ∈ (sink.shared extras).map Prod.fst := List.mem_map_of_mem isShared
  rwa [template_of_mem_addedParts isAdded]

/-- Whether an element has none of the parts that all sinks share. -/
def IsUnshared (element : Element) : Prop := ∀ part ∈ element.parts, part.template ∉ sharedTemplates

theorem isUnshared_create {stage : Stage} {id : String} {inputs : List String} {template : String}
    {params : Params} : IsUnshared (.create stage id inputs template params) := nofun

theorem IsUnshared.withPart? {element : Element} (unshared : IsUnshared element) {template : String}
    (other : template ∉ sharedTemplates) (params : Option Params) :
    IsUnshared (element.withPart? template params) := by
  unfold IsUnshared
  rw [parts_withPart?]
  refine List.forall_mem_append.mpr ⟨unshared, fun part member => ?_⟩
  rwa [template_of_mem_addedParts member]

theorem IsUnshared.withPart {element : Element} (unshared : IsUnshared element) {template : String}
    (other : template ∉ sharedTemplates) (params : Params) :
    IsUnshared (element.withPart template params) :=
  unshared.withPart? other (some params)

theorem IsUnshared.withEncoding {element : Element} (unshared : IsUnshared element) (sink : Sink)
    (more : Params) : IsUnshared (sink.withEncoding element more) :=
  unshared.withPart (by decide) _

/-- Among the parts of a sink, those of a shared template are the one that is added, if it is. -/
theorem filter_parts_finish {sink : Sink} {extras : Extras} {element : Element}
    (unshared : IsUnshared element) {template : String} {params : Option Params}
    (isShared : (template, params) ∈ sink.shared extras) :
    (sink.finish extras element).parts.filter (·.template = template) =
      addedParts element.id template params := by
  have own : element.parts.filter (·.template = template) = [] :=
    List.filter_eq_nil_iff.mpr fun part member same =>
      unshared part member (of_decide_eq_true same ▸ List.mem_map_of_mem (f := Prod.fst) isShared)
  have same (template : String) (params : Option Params) :
      (addedParts element.id template params).filter (·.template = template) =
        addedParts element.id template params :=
    List.filter_eq_self.mpr fun part member => decide_eq_true (template_of_mem_addedParts member)
  have others {other template : String} (different : other ≠ template) (params : Option Params) :
      (addedParts element.id other params).filter (·.template = template) = [] :=
    List.filter_eq_nil_iff.mpr fun part member isOther =>
      different ((template_of_mem_addedParts member).symm.trans (of_decide_eq_true isOther))
  rw [parts_finish, List.filter_append, own, List.nil_append]
  simp only [shared, List.mem_cons, Prod.mk.injEq, List.not_mem_nil, or_false] at isShared
  simp only [shared, List.flatMap_cons, List.flatMap_nil, List.append_nil, List.filter_append]
  rcases isShared with ⟨rfl, rfl⟩ | ⟨rfl, rfl⟩ | ⟨rfl, rfl⟩ | ⟨rfl, rfl⟩ | ⟨rfl, rfl⟩ <;>
    simp (disch := decide) only [same, others, List.nil_append, List.append_nil]

/-! ### Ends of chains -/

/-- Whether an element becomes the sink of an output with some parts, which its type decides. -/
structure IsUnfinished (sink : Sink) (extras : Extras) (element : Element) : Prop where
  id : element.id = sink.id
  stage : element.stage = .sink
  unshared : IsUnshared element
  request : extras.request = sink.requestPart?
  tls : extras.tls = sink.tlsPart?
  auth : extras.auth = sink.authPart?

/-- Whether elements end in the sink of an output, and none before it has any parts. -/
def EndsFinished (sink : Sink) (elements : List Element) : Prop :=
  ∃ transforms extras element, elements = transforms ++ [sink.finish extras element] ∧
    (∀ transform ∈ transforms, transform.parts = []) ∧ sink.IsUnfinished extras element

variable {sink : Sink}

theorem endsFinished_finish {transforms : List Element}
    (noParts : ∀ transform ∈ transforms, transform.parts = []) (extras : Extras) {element : Element}
    (unshared : IsUnshared element) (id : element.id = sink.id) (stage : element.stage = .sink)
    (request : extras.request = sink.requestPart?) (tls : extras.tls = sink.tlsPart?)
    (auth : extras.auth = sink.authPart?) :
    sink.EndsFinished (transforms ++ [sink.finish extras element]) :=
  ⟨transforms, extras, element, rfl, noParts, ⟨id, stage, unshared, request, tls, auth⟩⟩

/-- The part of a chain that depends on the type ends in the sink of the output. -/
theorem endsFinished_tail {elements : List Element} (made : sink.tail = .ok elements) :
    sink.EndsFinished elements := by
  have noParts (id : String) (inputs : List String) (program : String) :
      ∀ element ∈ [remap id inputs program], element.parts = [] :=
    List.forall_mem_singleton.mpr rfl
  have finishes {transforms : List Element} := @endsFinished_finish sink transforms
  unfold tail at made
  cases type : sink.output.type <;> simp only [type] at made <;>
    simp only [requestPart?, tlsPart?, authPart?, blockCredentials, connectionTable, request,
      requestHeaders,
      OutputType.hasRequests, Output.requestTimeout?, Output.isSecured, Output.saysSecured,
      type] at finishes
  case loki =>
    cases made
    exact finishes (noParts _ _ _) _ ((isUnshared_create.withEncoding _ _).withPart (by decide) _)
      rfl rfl rfl rfl rfl
  case elasticsearch =>
    cases made
    refine finishes (noParts _ _ _) _ isUnshared_create rfl rfl rfl rfl ?_
    cases sink.credentials <;> rfl
  case kafka =>
    unfold kafkaChain at made
    obtain ⟨brokers, _, made⟩ := exists_of_bind_eq_ok made
    cases made
    have keeps := Element.withPart?_keeps
    refine finishes ?_ _ ((isUnshared_create.withEncoding _ _).withPart? (by decide) _)
      (keeps _ _ _).1 (keeps _ _ _).2.1 rfl rfl rfl
    intro element member
    unfold topicRemap at member
    rw [List.mem_ite_nil_right, List.mem_singleton] at member
    rw [member.2]
    rfl
  case syslog =>
    unfold syslogChain at made
    obtain ⟨address, _, made⟩ := exists_of_bind_eq_ok made
    cases made
    exact finishes (noParts _ _ _) _ (isUnshared_create.withPart (by decide) _) rfl rfl rfl rfl rfl
  case cloudwatch =>
    unfold cloudwatchChain at made
    obtain ⟨region, _, made⟩ := exists_of_bind_eq_ok made
    cases made
    exact finishes (noParts _ _ _) _ isUnshared_create rfl rfl rfl rfl rfl
  case http =>
    cases made
    exact finishes (noParts _ _ _) _ (isUnshared_create.withEncoding _ _) rfl rfl rfl rfl rfl
  case splunk =>
    unfold splunkChain at made
    obtain ⟨token, _, made⟩ := exists_of_bind_eq_ok made
    cases made
    exact finishes (noParts _ _ _) _ (isUnshared_create.withEncoding _ _) rfl rfl rfl rfl rfl
  case azureMonitor =>
    unfold azureMonitorChain at made
    obtain ⟨customerId, _, made⟩ := exists_of_bind_eq_ok made
    obtain ⟨logType, _, made⟩ := exists_of_bind_eq_ok made
    obtain ⟨sharedKey, _, made⟩ := exists_of_bind_eq_ok made
    cases made
    exact finishes (List.forall_mem_nil _) _ isUnshared_create rfl rfl rfl rfl rfl
  case googleCloudLogging =>
    unfold googleCloudChain at made
    obtain ⟨destination, _, made⟩ := exists_of_bind_eq_ok made
    obtain ⟨secret, _, made⟩ := exists_of_bind_eq_ok made
    obtain ⟨logId, _, made⟩ := exists_of_bind_eq_ok made
    cases made
    exact finishes (List.forall_mem_nil _) _ (isUnshared_create.withPart (by decide) _)
      rfl rfl rfl rfl rfl
  case otlp =>
    cases made
    exact finishes (List.forall_mem_cons.mpr ⟨rfl, noParts _ _ _⟩) _
      (isUnshared_create.withPart (by decide) _) rfl rfl rfl rfl rfl
  all_goals cases made

/-- The chain of an output ends in its sink. -/
theorem endsFinished_chain {elements : List Element} (made : sink.chain = .ok elements) :
    sink.EndsFinished elements := by
  unfold chain at made
  obtain ⟨tail, tailMade, made⟩ := exists_of_bind_eq_ok made
  cases made
  obtain ⟨transforms, extras, element, rfl, noParts, unfinished⟩ := endsFinished_tail tailMade
  refine ⟨sink.head ++ transforms, extras, element, (List.append_assoc _ _ _).symm, ?_, unfinished⟩
  refine List.forall_mem_append.mpr ⟨?_, noParts⟩
  exact List.forall_mem_cons.mpr ⟨rfl, List.forall_mem_singleton.mpr rfl⟩

end Vector.Sink

end LogForwarder
