/-
This file proves what sinks of the vector dialect are told about transport security. Every sink is
finished in the same way, and the type of its output says no more than where the block stands and
whether the connection is secure; so there is at most one block, and all of it follows from the
output, its secret and the options. Blocks are read back from the parts of an element, under the
names that their template looks at. For an output to the store inside the cluster the block always
names the certificates of the service, and neither the address of the output nor its secret have a
say in it.

So a configuration says all there is to say about transport security and nothing else: one block at
most for each output, in which all files are those of its own secret unless it is an output to the
store inside the cluster, and everywhere the version of TLS and the cipher suites that the options
ask for.
-/
import LogForwarder.Proofs.Agreement
import LogForwarder.Proofs.Lookup
import LogForwarder.Proofs.Vector.Routing

namespace LogForwarder

/-! ### What an output asks for -/

namespace Output

/-- The file with a key of the secret of an output, if the key has any bytes. -/
def secretFile? (output : Output) (secrets : SecretStore) (key : String) : Option String :=
  output.secretName.bind fun name => Vector.Tls.secretFile? secrets name key

/-- The passphrase in the secret of an output. -/
def passphrase? (output : Output) (secrets : SecretStore) : Option String :=
  output.secretName.bind fun name => secrets.value? name Secret.passphrase

/-- Whether there is anything to say about a connection that is secure. -/
def hasTlsSetting (output : Output) (secrets : SecretStore) (options : Options) : Bool :=
  output.saysSecured || output.skipsVerification || options.hasTlsProfile ||
    [Secret.clientKey, Secret.clientCertificate, Secret.caBundle].any
      (output.hasSecretKey secrets) ||
    (output.passphrase? secrets).isSome

/-- Whether a file is where a key is mounted that the secret of an output holds. -/
def IsSecretFile (output : Output) (secrets : SecretStore) (key file : String) : Prop :=
  ∃ name, output.secretName = some name ∧ secrets.hasKey name key ∧
    file = Secret.mountPath name key

theorem secretFile?_eq_some_iff (output : Output) (secrets : SecretStore) (key file : String) :
    output.secretFile? secrets key = some file ↔ output.IsSecretFile secrets key file := by
  unfold secretFile? Vector.Tls.secretFile?
  rw [Option.bind_eq_some_iff]
  refine exists_congr fun name => and_congr_right fun _ => ?_
  rw [Option.ite_none_right_eq_some, Option.some.injEq, eq_comm (a := file)]

theorem isNone_secretFile? (output : Output) (secrets : SecretStore) (key : String) :
    (output.secretFile? secrets key).isNone = !output.hasSecretKey secrets key := by
  unfold secretFile? hasSecretKey Vector.Tls.secretFile?
  cases output.secretName with
  | none => rfl
  | some name => cases held : secrets.hasKey name key <;> simp [held]

end Output

namespace Vector

/-! ### Blocks about transport security -/

namespace Tls

/-- The block of an output to the store inside the cluster, which trusts the service. -/
def ofService (output : Output) (options : Options) (enabled : Bool) : Tls :=
  { ofOptions options enabled with
    insecure := output.skipsVerification
    caFile := some serviceCaPath }

/-- The block of an output with files of its own secret. -/
def ofSecret (output : Output) (secrets : SecretStore) (options : Options) (enabled : Bool) : Tls :=
  { ofOptions options enabled with
    insecure := output.skipsVerification
    keyFile := output.secretFile? secrets Secret.clientKey
    certificateFile := output.secretFile? secrets Secret.clientCertificate
    caFile := output.secretFile? secrets Secret.caBundle
    passphrase := output.passphrase? secrets }

variable {output : Output} (secrets : SecretStore) (options : Options)

theorem ofOutput?_of_isClusterStore (inCluster : output.isClusterStore) (isSecure enabled : Bool) :
    ofOutput? output secrets options isSecure enabled = some (ofService output options enabled) := by
  simp only [ofOutput?, inCluster, if_true]
  refine Option.filter_eq_some_iff.mpr ⟨rfl, ?_⟩
  simp [isSilent, ofService]

theorem ofOutput?_of_not_secure (elsewhere : ¬output.isClusterStore) (enabled : Bool) :
    ofOutput? output secrets options false enabled = none := by
  simp [ofOutput?, elsewhere]

theorem ofOutput?_of_secure (elsewhere : ¬output.isClusterStore) (enabled : Bool) :
    ofOutput? output secrets options true enabled =
      (some (ofSecret output secrets options enabled)).filter (!·.isSilent) := by
  simp only [ofOutput?, ofSecret, Output.secretFile?, Output.passphrase?, elsewhere]
  cases output.secretName <;> rfl

/-- Whatever the output, its block asks for the version and the cipher suites of the options. -/
theorem profile_of_ofOutput? {isSecure enabled : Bool} {tls : Tls}
    (isBlock : ofOutput? output secrets options isSecure enabled = some tls) :
    tls.minVersion = options.minTlsVersion ∧ tls.ciphersuites = options.joinedCiphers? := by
  by_cases inCluster : output.isClusterStore
  · rw [ofOutput?_of_isClusterStore _ _ inCluster] at isBlock
    cases isBlock
    exact ⟨rfl, rfl⟩
  · cases isSecure with
    | false =>
      rw [ofOutput?_of_not_secure _ _ inCluster] at isBlock
      cases isBlock
    | true =>
      rw [ofOutput?_of_secure _ _ inCluster] at isBlock
      cases (Option.filter_eq_some_iff.mp isBlock).1
      exact ⟨rfl, rfl⟩

/-- The block of an output says nothing exactly if no setting applies to the output. -/
theorem isSilent_ofSecret (output : Output) :
    (ofSecret output secrets options output.saysSecured).isSilent =
      !output.hasTlsSetting secrets options := by
  have profile : (options.minTlsVersion.isNone && options.joinedCiphers?.isNone) =
      !options.hasTlsProfile := by
    unfold Options.hasTlsProfile Options.joinedCiphers?
    cases options.ciphers <;> cases options.minTlsVersion <;> rfl
  show (!output.saysSecured && !output.skipsVerification && options.minTlsVersion.isNone &&
    options.joinedCiphers?.isNone && (output.secretFile? secrets _).isNone &&
    (output.secretFile? secrets _).isNone && (output.secretFile? secrets _).isNone &&
    (output.passphrase? secrets).isNone) = _
  simp only [Output.isNone_secretFile?, Bool.and_assoc]
  rw [← Bool.and_assoc options.minTlsVersion.isNone, profile]
  simp [Output.hasTlsSetting, Bool.and_assoc]

end Tls

/-! ### Blocks of elements -/

/-- Whether a value is the truth value that says yes. -/
def isYes : Value → Bool
  | .boolean value => value
  | _ => false

/-- What a part says about transport security, if it is about that. -/
def Part.tls? (part : Part) : Option Tls :=
  let told := Value.object part.params
  if part.template = Templates.tls.name then
    some
      { enabled := isYes (told.field "enabled")
        insecure := isYes (told.field "insecure")
        minVersion := (told.field "min_tls_version").text?
        ciphersuites := (told.field "ciphersuites").text?
        keyFile := (told.field "key_file").text?
        certificateFile := (told.field "crt_file").text?
        caFile := (told.field "ca_file").text?
        passphrase := (told.field "key_pass").text? }
  else none

/-- What an element says about transport security, block by block. -/
def tlsBlocks (element : Element) : List Tls := element.parts.filterMap Part.tls?

/-- Nothing but the parts of its own template says anything about transport security. -/
theorem tlsBlocks_eq_filterMap_filter (element : Element) :
    tlsBlocks element =
      (element.parts.filter (·.template = Templates.tls.name)).filterMap Part.tls? := by
  rw [List.filterMap_filter]
  refine List.filterMap_congr fun part _ => ?_
  by_cases isTls : part.template = Templates.tls.name
  · rw [if_pos (decide_eq_true isTls)]
  · rw [if_neg (by simpa using isTls)]
    exact if_neg isTls

/-- A block is read back as it was written. -/
theorem tls?_params (tls : Tls) (table id : String) :
    Part.tls? ⟨Templates.tls.name, withParam "id" (.text id) (sortedParams (tls.params table))⟩ =
      some tls := by
  simp [Part.tls?, isYes, field_withParam, field_sortedParams, Tls.params, List.lookup_cons]

namespace Sink

variable {sink : Sink}

/-- The block that the sink of an output has, if it has one. -/
def tls? (sink : Sink) : Option Tls :=
  Tls.ofOutput? sink.output sink.secrets sink.options sink.output.isSecured sink.output.saysSecured

/-- The block of a sink is all that it says about transport security. -/
theorem tlsBlocks_finish {extras : Extras} {element : Element}
    (unfinished : sink.IsUnfinished extras element) :
    tlsBlocks (sink.finish extras element) = sink.tls?.toList := by
  have isShared : (Templates.tls.name, extras.tls) ∈ sink.shared extras :=
    List.mem_of_mem_drop (i := 3) List.mem_cons_self
  rw [tlsBlocks_eq_filterMap_filter, filter_parts_finish unfinished.unshared isShared,
    unfinished.tls]
  unfold tlsPart? tlsParams? tls?
  cases Tls.ofOutput? sink.output sink.secrets sink.options sink.output.isSecured
      sink.output.saysSecured with
  | none => rfl
  | some tls => exact List.filterMap_cons_some (tls?_params tls sink.connectionTable element.id)

/-- Whether an element is the sink of the output, with the block that the output asks for. -/
structure IsSinkWithTls (sink : Sink) (element : Element) : Prop where
  id : element.id = sink.id
  stage : element.stage = .sink
  blocks : tlsBlocks element = sink.tls?.toList

theorem IsUnfinished.isSinkWithTls {extras : Extras} {element : Element}
    (unfinished : sink.IsUnfinished extras element) :
    sink.IsSinkWithTls (sink.finish extras element) where
  id := (sink.finish_keeps extras element).1.trans unfinished.id
  stage := (sink.finish_keeps extras element).2.1.trans unfinished.stage
  blocks := tlsBlocks_finish unfinished

end Sink

/-! ### Configurations -/

variable {spec : Spec} {secrets : SecretStore} {options : Options} {arena : Arena}

theorem tlsBlocks_of_mem_upToPipelines {element : Element}
    (member : element ∈ upToPipelines spec) : tlsBlocks element = [] := by
  rw [tlsBlocks, parts_of_mem_upToPipelines member]
  rfl

/-- The sink of the collector's own metrics. -/
def metricsSink (options : Options) : Element :=
  (Element.create .sink Id.prometheusOutput [Id.addNodename] Templates.prometheus.name
    [("address", .text metricsAddress)]).withPart Templates.tls.name
      ((metricsTls options).params s!"sinks.{Id.prometheusOutput}")

theorem tlsBlocks_metricsSink : tlsBlocks (metricsSink options) = [metricsTls options] :=
  List.filterMap_cons_some (tls?_params _ _ _)

/-- The sink of an output that pipelines lead to has the block that the output asks for. -/
theorem exists_sinkWithTls (noDebug : options.debug = false)
    (built : build spec secrets options = .ok arena) {output : Output}
    (routed : output ∈ spec.routedOutputs) :
    ∃ element ∈ arena.elements,
      (Sink.ofOutput spec secrets options output).IsSinkWithTls element := by
  obtain ⟨extras, element, member, unfinished⟩ :=
    Sink.exists_finish_mem_elements noDebug built routed
  exact ⟨_, member, unfinished.isSinkWithTls⟩

/-- Every block in a configuration is that of an output, or that of the metrics. -/
theorem tls_of_build (noDebug : options.debug = false)
    (built : build spec secrets options = .ok arena) :
    ∀ element ∈ arena.elements, ∀ tls ∈ tlsBlocks element,
      (∃ output, (Sink.ofOutput spec secrets options output).tls? = some tls) ∨
        tls = metricsTls options := by
  intro element member tls block
  rcases mem_cases_of_build built member with
    early | ⟨debug, _⟩ | ⟨_, ⟨output, _, chain, made, inChain⟩ | isMetrics⟩
  · rw [tlsBlocks_of_mem_upToPipelines early] at block
    exact absurd block List.not_mem_nil
  · rw [noDebug] at debug
    cases debug
  · obtain ⟨transforms, extras, unfinished, rfl, noParts, isSink⟩ := Sink.endsFinished_chain made
    rcases List.mem_append.mp inChain with transform | isLast
    · rw [tlsBlocks, noParts element transform] at block
      exact absurd block List.not_mem_nil
    · rw [List.mem_singleton.mp isLast, Sink.tlsBlocks_finish isSink] at block
      exact .inl ⟨output, Option.mem_toList.mp block⟩
  · have inMetrics : tls ∈ (metrics options).flatMap tlsBlocks :=
      List.mem_flatMap.mpr ⟨element, isMetrics, block⟩
    have oneBlock : (metrics options).flatMap tlsBlocks = [metricsTls options] :=
      tlsBlocks_metricsSink
    rw [oneBlock] at inMetrics
    exact .inr (List.mem_singleton.mp inMetrics)

end Vector

/-! ### Blocks of outputs -/

namespace Output

/-- What the blocks of the sink of an output are. -/
structure HasTlsBlocks (output : Output) (secrets : SecretStore) (options : Options)
    (blocks : List Vector.Tls) : Prop where
  atMostOne : blocks.length ≤ 1
  inCluster : output.isClusterStore → ∃ tls, blocks = [tls] ∧
    tls.caFile = some Vector.serviceCaPath ∧ tls.keyFile = none ∧ tls.certificateFile = none ∧
      tls.passphrase = none
  unsecured : ¬output.isClusterStore → ¬output.isSecured → blocks = []
  secured : ¬output.isClusterStore → output.isSecured →
    (blocks ≠ [] ↔ output.hasTlsSetting secrets options)
  files : ¬output.isClusterStore → ∀ tls ∈ blocks, ∀ file,
    (tls.keyFile = some file ↔ output.IsSecretFile secrets Secret.clientKey file) ∧
      (tls.certificateFile = some file ↔
        output.IsSecretFile secrets Secret.clientCertificate file) ∧
      (tls.caFile = some file ↔ output.IsSecretFile secrets Secret.caBundle file)

end Output

namespace Vector.Sink

/-- The block of a sink is the one that its output asks for. -/
theorem hasTlsBlocks_tls? (sink : Sink) :
    sink.output.HasTlsBlocks sink.secrets sink.options sink.tls?.toList := by
  unfold tls?
  by_cases inCluster : sink.output.isClusterStore
  · rw [Tls.ofOutput?_of_isClusterStore _ _ inCluster]
    exact
      { atMostOne := le_rfl
        inCluster := fun _ => ⟨_, rfl, rfl, rfl, rfl, rfl⟩
        unsecured := absurd inCluster
        secured := absurd inCluster
        files := absurd inCluster }
  · cases secured : sink.output.isSecured with
    | false =>
      rw [Tls.ofOutput?_of_not_secure _ _ inCluster]
      exact
        { atMostOne := Nat.zero_le 1
          inCluster := (absurd · inCluster)
          unsecured := fun _ _ => rfl
          secured := fun _ isSecured => absurd (secured.symm.trans isSecured) Bool.false_ne_true
          files := fun _ tls block => absurd block List.not_mem_nil }
    | true =>
      rw [Tls.ofOutput?_of_secure _ _ inCluster]
      have present := Tls.isSilent_ofSecret sink.secrets sink.options sink.output
      refine
        { atMostOne := Option.length_toList_le
          inCluster := (absurd · inCluster)
          unsecured := fun _ unsecured => absurd secured unsecured
          secured := fun _ _ => ?_
          files := fun _ tls block file => ?_ }
      · rw [Ne, Option.toList_eq_nil_iff, Option.filter_some, present]
        cases sink.output.hasTlsSetting sink.secrets sink.options <;> simp
      · obtain ⟨isBlock, _⟩ := Option.filter_eq_some_iff.mp (Option.mem_toList.mp block)
        cases isBlock
        exact ⟨sink.output.secretFile?_eq_some_iff _ _ _, sink.output.secretFile?_eq_some_iff _ _ _,
          sink.output.secretFile?_eq_some_iff _ _ _⟩

end Vector.Sink

namespace Vector

/-! ### Files with trusted certificates -/

/-- The file with trusted certificates that a part names, if it is about transport security. -/
def caFile? (part : Part) : Option String :=
  if part.template = Templates.tls.name then ((Value.object part.params).field "ca_file").text?
  else none

/-- The files with trusted certificates that an element names. -/
def caFiles (element : Element) : List String := element.parts.filterMap caFile?

/-- The files that an element names are those of its blocks about transport security. -/
theorem caFiles_eq (element : Element) :
    caFiles element = (tlsBlocks element).filterMap (·.caFile) := by
  unfold caFiles tlsBlocks
  rw [List.filterMap_filterMap]
  congr
  funext part
  unfold caFile? Part.tls?
  split <;> rfl

/-- In a configuration the sink of an output to the store inside the cluster trusts the service. -/
theorem exists_trusting_sink {spec : Spec} {secrets : SecretStore} {options : Options}
    {arena : Arena} (noDebug : options.debug = false)
    (built : build spec secrets options = .ok arena) {output : Output}
    (routed : output ∈ spec.routedOutputs) (inCluster : output.isClusterStore) :
    ∃ element ∈ arena.elements, element.id = Name.componentId output.name ∧
      caFiles element = [serviceCaPath] := by
  obtain ⟨element, member, isSink⟩ := exists_sinkWithTls noDebug built routed
  refine ⟨element, member, isSink.id, ?_⟩
  rw [caFiles_eq, isSink.blocks, Sink.tls?]
  show (Tls.ofOutput? output secrets options _ _).toList.filterMap _ = _
  rw [Tls.ofOutput?_of_isClusterStore secrets options inCluster]
  rfl

end Vector

namespace Spec

/--
In a configuration the sink of every output that pipelines lead to has the block about transport
security that the output asks for, and no other. All blocks ask for the version of TLS and for the
cipher suites that the options name, also that of the collector's own metrics.
-/
theorem hasTlsBlocks_of_build (spec : Spec) (secrets : SecretStore) (options : Options) {arena : Arena}
    (clean : spec.problems secrets options .vector = []) (noDebug : options.debug = false)
    (built : Vector.build spec.normalize secrets options = .ok arena) :
    (∀ output ∈ spec.normalize.outputs, spec.normalize.Routes output.name →
      ∃ sink, arena.get? (Name.componentId output.name) = some sink ∧ sink.stage = .sink ∧
        output.HasTlsBlocks secrets options (Vector.tlsBlocks sink)) ∧
      (∃ sink, arena.get? Vector.Id.prometheusOutput = some sink ∧
        (Vector.tlsBlocks sink).length = 1) ∧
      ∀ element ∈ arena.elements, ∀ tls ∈ Vector.tlsBlocks element,
        tls.minVersion = options.minTlsVersion ∧ tls.ciphersuites = options.joinedCiphers? := by
  refine ⟨?_, ?_, ?_⟩
  · intro output declared routed
    have isRouted : output ∈ spec.normalize.routedOutputs :=
      (spec.normalize.mem_routedOutputs (spec.isReady_normalize clean).clean.outputsDistinct
        output).mpr ⟨declared, routed⟩
    obtain ⟨sink, member, isSink⟩ := Vector.exists_sinkWithTls noDebug built isRouted
    refine ⟨sink, ?_, isSink.stage, ?_⟩
    · rw [← arena.get?_of_mem member, isSink.id]
      rfl
    · rw [isSink.blocks]
      exact (Vector.Sink.ofOutput spec.normalize secrets options output).hasTlsBlocks_tls?
  · refine ⟨Vector.metricsSink options, ?_, ?_⟩
    · show arena.get? (Vector.metricsSink options).id = _
      refine arena.get?_of_mem ?_
      obtain ⟨chains, _, elements⟩ := Vector.elements_of_build noDebug built
      rw [elements]
      exact List.mem_append_right _ (List.mem_cons_of_mem _ (List.mem_cons_of_mem _
        (List.mem_singleton_self _)))
    · rw [Vector.tlsBlocks_metricsSink, List.length_singleton]
  · intro element member tls block
    rcases Vector.tls_of_build noDebug built element member tls block with ⟨output, isBlock⟩ | rfl
    · exact Vector.Tls.profile_of_ofOutput? _ _ isBlock
    · exact ⟨rfl, rfl⟩

/-- Outputs whose sinks have blocks for different reasons, and some whose sinks have none. -/
def securedSpec : Spec where
  inputs := []
  outputs :=
    [{ Output.bare "default-web" .http with
        url? := some "http://[::1]"
        secretName := some "own" },
      { Output.bare "queue" .kafka with
        url? := some "tls://[::1]:9093"
        secretName := some "own" },
      { Output.bare "collector" .otlp with
        url? := some "https://[::1]:4318"
        secretName := some "own" },
      { Output.bare "silent" .loki with url? := some "https://[::1]:3100" },
      { Output.bare "plain" .http with
        url? := some "http://[::1]:8080"
        secretName := some "own" }]
  pipelines := [⟨some "all", ["audit"], ["default-web", "queue", "collector", "silent", "plain"],
    ∅, none⟩]
  tuning := none

/-- A secret with certificates and the key of a client, and with nothing else. -/
def certificateSecret : SecretStore :=
  .ofList [("own", .ofList [(Secret.caBundle, "ca".toUTF8), (Secret.clientKey, "key".toUTF8)])]

/-- Two of these sinks have no block, and those of the others name different files. -/
theorem tlsBlocks_securedSpec :
    securedSpec.problems certificateSecret .standard .vector = [] ∧
      ∃ arena, Vector.build securedSpec.normalize certificateSecret .standard = .ok arena ∧
        ∀ output ∈ securedSpec.normalize.outputs,
          ∃ sink, arena.get? (Name.componentId output.name) = some sink ∧
            output.HasTlsBlocks certificateSecret .standard (Vector.tlsBlocks sink) ∧
            (Vector.tlsBlocks sink ≠ [] ↔
              output.name ∈ ["default-web", "queue", "collector"]) := by
  have clean : securedSpec.problems certificateSecret .standard .vector = [] := by
    decide
  have succeeds : (Vector.build securedSpec.normalize certificateSecret .standard).isOk := by
    decide +kernel
  obtain ⟨arena, built⟩ := exists_of_isOk succeeds
  refine ⟨clean, arena, built, fun output declared => ?_⟩
  have facts : ∀ output ∈ securedSpec.normalize.outputs,
      securedSpec.normalize.Routes output.name ∧
        (output.name ∈ ["default-web", "queue", "collector"] ↔ output.isClusterStore ∨
          output.isSecured ∧ output.hasTlsSetting certificateSecret .standard) := by
    decide +kernel
  obtain ⟨routed, named⟩ := facts output declared
  obtain ⟨sink, found, _, blocks⟩ :=
    (hasTlsBlocks_of_build securedSpec certificateSecret .standard clean rfl built).1 output
      declared routed
  refine ⟨sink, found, blocks, ?_⟩
  rw [named]
  by_cases inCluster : output.isClusterStore
  · obtain ⟨tls, oneBlock, _⟩ := blocks.inCluster inCluster
    rw [oneBlock]
    exact iff_of_true (List.cons_ne_nil _ _) (.inl inCluster)
  · by_cases secured : output.isSecured
    · rw [blocks.secured inCluster secured]
      exact ⟨fun setting => .inr ⟨secured, setting⟩,
        fun asks => (asks.resolve_left inCluster).2⟩
    · rw [blocks.unsecured inCluster secured]
      exact iff_of_false (absurd rfl) fun asks => secured (asks.resolve_left inCluster).1

end Spec

end LogForwarder
