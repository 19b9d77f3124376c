/-
This file finds out which stores of the fluentd dialect ask for the version of TLS and for the cipher
suites that the options name. Stores to web servers and to another fluentd ask for both, if they see
that their address is one of a secure connection. Those of elasticsearch outputs ask for a version
only and those of loki outputs for cipher suites only, and stores to Kafka and to syslog servers ask
for neither, however secure the connection is.
-/

import LogForwarder.Proofs.Agreement
import LogForwarder.Proofs.Fluentd.Compile
import LogForwarder.Proofs.Fluentd.Stores
import LogForwarder.Proofs.Fluentd.Trust
import LogForwarder.Proofs.Scheme

namespace LogForwarder

namespace Fluentd

/-! ### What stores ask for -/

/-- Whether a key ends in a word, as all keys of settings of one meaning do. -/
def endsIn (word key : String) : Bool := word.toList.isSuffixOf key.toList

/-- The versions of TLS that the settings of a store name. -/
def versions (part : Value) : List String :=
  (part.field "settings").items.filterMap (valueUnder? (endsIn "version"))

/-- The lists of cipher suites that the settings of a store name. -/
def cipherLists (part : Value) : List String :=
  (part.field "settings").items.filterMap (valueUnder? (endsIn "ciphers"))

/-- Whether a store asks for a version of TLS, which may stand between single quotes. -/
def AsksForVersion (version : String) (part : Value) : Prop :=
  version ∈ versions part ∨ singleQuoted version ∈ versions part

/-- Whether a store asks for some cipher suites. -/
def AsksForCiphers (ciphers : List String) (part : Value) : Prop :=
  ":".intercalate ciphers ∈ cipherLists part

/-- Whether a store asks for a version of TLS and for some cipher suites. -/
structure HasProfile (version : String) (ciphers : List String) (part : Value) : Prop where
  version : AsksForVersion version part
  ciphers : AsksForCiphers ciphers part

instance (version : String) (part : Value) : Decidable (AsksForVersion version part) :=
  inferInstanceAs (Decidable (_ ∨ _))

instance (ciphers : List String) (part : Value) : Decidable (AsksForCiphers ciphers part) :=
  inferInstanceAs (Decidable (_ ∈ _))

variable {options : Options}

/-- The version of TLS of a store is the one that the options name, if it is a version. -/
theorem sslVersion_of_tlsMinor? {minor : String}
    (recognised : options.minTlsVersion.bind tlsMinor? = some minor) :
    sslVersion options = "TLSv1_" ++ minor := by
  unfold sslVersion minTlsVersion?
  rw [recognised]
  rfl

/-- The cipher suites that settings may list: none if there is nothing to write. -/
def writtenCiphers (options : Options) : List String :=
  ((cipherList? options).filter (· ≠ "")).toList

/-- A list of cipher suites has a text, unless it is that of one suite without a name. -/
theorem intercalate_ne_empty_iff {ciphers : List String} (listed : ciphers ≠ []) :
    ":".intercalate ciphers ≠ "" ↔ ciphers ≠ [""] := by
  obtain ⟨first, others, rfl⟩ := List.exists_cons_of_ne_nil listed
  cases others with
  | nil =>
    rw [String.intercalate_singleton]
    simp
  | cons second rest =>
    refine iff_of_true (fun empty => ?_) (by simp)
    -- Between two suites there is a colon.
    have chars := congrArg String.toList empty
    rw [String.toList_intercalate, List.map_cons, List.map_cons, List.intercalate_cons_cons] at chars
    simp at chars

theorem mem_writtenCiphers_iff (listed : options.ciphers ≠ []) :
    ":".intercalate options.ciphers ∈ writtenCiphers options ↔ options.ciphers ≠ [""] := by
  unfold writtenCiphers cipherList?
  rw [if_neg (by simpa using listed), ← intercalate_ne_empty_iff listed]
  simp

theorem valuesUnder_line_sslVersion {keep : String → Bool} {key : String}
    (kept : keep key = true) :
    Setting.valuesUnder keep (Setting.line key (sslVersion options)) = [sslVersion options] :=
  Setting.valuesUnder_line_of_true kept (sslVersion_ne_empty options)

theorem valuesUnder_line_singleQuoted {keep : String → Bool} {key : String}
    (kept : keep key = true) (text : String) :
    Setting.valuesUnder keep (Setting.line key (singleQuoted text)) = [singleQuoted text] := by
  refine Setting.valuesUnder_line_of_true kept fun empty => ?_
  have chars := congrArg String.toList empty
  rw [toList_singleQuoted] at chars
  exact List.cons_ne_nil _ _ chars

namespace Store

variable {store : Store}

/-! ### Settings of outputs of each type -/

theorem asks_elasticsearch {scheme : String} (secure : scheme = "https") :
    Setting.valuesUnder (endsIn "version") (store.elasticsearchSettings scheme) =
        [sslVersion store.options] ∧
      Setting.valuesUnder (endsIn "ciphers") (store.elasticsearchSettings scheme) = [] := by
  unfold elasticsearchSettings
  rw [secure]
  constructor <;> split <;> split <;> simp (disch := decide) [valuesUnder_line_sslVersion]

theorem asks_loki {scheme : String} (secure : scheme = "https") :
    Setting.valuesUnder (endsIn "version") (store.lokiSettings scheme) = [] ∧
      Setting.valuesUnder (endsIn "ciphers") (store.lokiSettings scheme) =
        writtenCiphers store.options := by
  unfold lokiSettings
  rw [if_pos secure]
  constructor <;> split <;> split <;>
    simp (disch := decide) [Setting.valuesUnder_line?_of_true, writtenCiphers]

theorem asks_kafka :
    Setting.valuesUnder (endsIn "version") store.kafkaSettings = [] ∧
      Setting.valuesUnder (endsIn "ciphers") store.kafkaSettings = [] := by
  simp only [kafkaSettings, Setting.valuesUnder_append]
  constructor <;> split <;> split <;> simp (disch := decide)

theorem asks_syslog (transport : SyslogTransport) :
    Setting.valuesUnder (endsIn "version") (store.syslogSettings transport) = [] ∧
      Setting.valuesUnder (endsIn "ciphers") (store.syslogSettings transport) = [] := by
  unfold syslogSettings
  constructor <;> split <;> simp (disch := decide)

theorem asks_http :
    Setting.valuesUnder (endsIn "version") store.httpSettings =
        (if store.output.url.startsWith "https://" then [sslVersion store.options] else []) ∧
      Setting.valuesUnder (endsIn "ciphers") store.httpSettings =
        if store.output.url.startsWith "https://" then writtenCiphers store.options else [] := by
  unfold httpSettings
  constructor <;> split <;>
    simp (disch := decide) [valuesUnder_line_sslVersion, Setting.valuesUnder_line?_of_true,
      writtenCiphers]

theorem asks_forward :
    Setting.valuesUnder (endsIn "version") store.forwardSettings =
        (if store.output.url.startsWith "tls://" || store.output.url.startsWith "https://" then
          [singleQuoted (sslVersion store.options)] else []) ∧
      Setting.valuesUnder (endsIn "ciphers") store.forwardSettings =
        if store.output.url.startsWith "tls://" || store.output.url.startsWith "https://" then
          writtenCiphers store.options else [] := by
  simp only [forwardSettings]
  constructor <;> split <;> try split
  all_goals
    simp (disch := decide) [valuesUnder_line_singleQuoted, Setting.valuesUnder_line?_of_true,
      writtenCiphers]

end Store

end Fluentd

/-! ### Secure connections -/

namespace Output

/-- Whether an output is reached over a connection that TLS secures. -/
def UsesTls (output : Output) : Prop :=
  match output.type with
  | .elasticsearch => output.urlScheme? = some "https"
  | .loki => output.urlScheme? = some "https"
  | .http => output.urlScheme? = some "https"
  | .fluentForward => output.urlScheme? ∈ [some "tls", some "https"]
  | .kafka => output.kafkaUsesTls
  | .syslog => SyslogTransport.ofAddress output.url = .tls
  | _ => False

instance (output : Output) : Decidable output.UsesTls := by
  unfold UsesTls
  split <;> infer_instance

/--
Whether the store of an output takes its security from how its address begins, and finds there that
the connection is a secure one.
-/
def BeginsSecurely (output : Output) : Prop :=
  match output.type with
  | .http => output.url.startsWith "https://"
  | .fluentForward => output.url.startsWith "tls://" || output.url.startsWith "https://"
  | _ => False

instance (output : Output) : Decidable output.BeginsSecurely := by
  unfold BeginsSecurely
  split <;> infer_instance

end Output

namespace Fluentd.Store

variable {store : Store}

section Asks

variable {element : Element} (made : store.outputLabel = .ok element)
  (secure : store.output.UsesTls) {minor : String}
  (recognised : store.options.minTlsVersion.bind tlsMinor? = some minor)
  (listed : store.options.ciphers ≠ []) {part : Value} (member : part ∈ stores element)

include made secure recognised listed member

/--
What a store asks for over a secure connection. Those that find the connection secure by how its
address begins ask for a version and for cipher suites, and of the others two types ask for one of
these.
-/
theorem asks_iff :
    (AsksForVersion ("TLSv1_" ++ minor) part ↔
      store.output.type = .elasticsearch ∨ store.output.BeginsSecurely) ∧
    (AsksForCiphers store.options.ciphers part ↔
      (store.output.type = .loki ∨ store.output.BeginsSecurely) ∧
        store.options.ciphers ≠ [""]) := by
  have settings := (hasSettings_outputLabel made).each part member
  have isVersion := sslVersion_of_tlsMinor? recognised
  have isWritten := mem_writtenCiphers_iff listed
  unfold AsksForVersion AsksForCiphers versions cipherLists
  rw [settings, filterMap_valueUnder?_params, filterMap_valueUnder?_params, Store.settings,
    Output.BeginsSecurely]
  cases type : store.output.type <;> simp only [Output.UsesTls, type] at secure ⊢
  case elasticsearch =>
    have isHttps : store.scheme = "https" := by
      rw [Store.scheme, secure]
      rfl
    obtain ⟨version, ciphers⟩ := store.asks_elasticsearch isHttps
    rw [version, ciphers, isVersion]
    simp
  case loki =>
    have isHttps : store.scheme = "https" := by
      rw [Store.scheme, secure]
      rfl
    obtain ⟨version, ciphers⟩ := store.asks_loki isHttps
    rw [version, ciphers, isWritten]
    simp
  case kafka =>
    rw [asks_kafka.1, asks_kafka.2]
    simp
  case syslog =>
    obtain ⟨version, ciphers⟩ := store.asks_syslog (SyslogTransport.ofAddress store.output.url)
    rw [version, ciphers]
    simp
  case http =>
    rw [asks_http.1, asks_http.2, isVersion]
    split
    · next begins => simp [begins, isWritten]
    · next begins => simp [begins]
  case fluentForward =>
    rw [asks_forward.1, asks_forward.2, isVersion]
    split
    · next begins => simp [begins, isWritten]
    · next begins => simp [begins]

/-- A store asks for both exactly if it finds its connection secure by how the address begins. -/
theorem hasProfile_iff :
    HasProfile ("TLSv1_" ++ minor) store.options.ciphers part ↔
      store.output.BeginsSecurely ∧ store.options.ciphers ≠ [""] := by
  obtain ⟨version, ciphers⟩ := asks_iff made secure recognised listed member
  refine ⟨fun profile => ?_, fun ⟨begins, written⟩ =>
    ⟨version.mpr (.inr begins), ciphers.mpr ⟨.inr begins, written⟩⟩⟩
  obtain ⟨lokiOrBegins, written⟩ := ciphers.mp profile.ciphers
  refine ⟨?_, written⟩
  rcases version.mp profile.version with elasticsearch | begins
  · exact lokiOrBegins.resolve_left fun loki => nomatch elasticsearch.symm.trans loki
  · exact begins

end Asks

end Fluentd.Store

namespace Spec

/-! ### Configurations -/

/--
The TLS profile of the options reaches exactly those stores that find their connection secure by how
the address begins: of all outputs that are reached over TLS, in a configuration from any spec
without problems, those to web servers and to another fluentd, unless their address is written in
such a way that only the reader of addresses sees its scheme.
-/
theorem hasProfile_iff_beginsSecurely (spec : Spec) (secrets : SecretStore) (options : Options)
    (clean : spec.problems secrets options .fluentd = []) (noDebug : options.debug = false)
    {minor : String} (recognised : options.minTlsVersion.bind Fluentd.tlsMinor? = some minor)
    (listed : options.ciphers ≠ []) :
    ∃ arena, Fluentd.build spec.normalize secrets options = .ok arena ∧
      ∀ output ∈ spec.normalize.outputs, spec.normalize.Routes output.name → output.UsesTls →
        ∃ element ∈ arena.elements, element.id = Name.label output.name ∧
          Fluentd.stores element ≠ [] ∧ ∀ part ∈ Fluentd.stores element,
            Fluentd.HasProfile ("TLSv1_" ++ minor) options.ciphers part ↔
              output.BeginsSecurely ∧ options.ciphers ≠ [""] := by
  obtain ⟨arena, built⟩ := exists_fluentd_build clean
  refine ⟨arena, built, fun output declared routed secure => ?_⟩
  have isRouted : output ∈ spec.normalize.routedOutputs :=
    (spec.normalize.mem_routedOutputs (spec.isReady_normalize clean).clean.outputsDistinct
      output).mpr ⟨declared, routed⟩
  obtain ⟨label, member, isLabel, made⟩ := Fluentd.exists_label_of_routed noDebug built isRouted
  exact ⟨label, member, isLabel, (Fluentd.Store.hasSettings_outputLabel made).some,
    fun part => Fluentd.Store.hasProfile_iff made secure recognised listed⟩

/-- Outputs of many types, all of them over secure connections. -/
def securedOutputs : Spec where
  inputs := []
  outputs :=
    [{ Output.bare "web" .http with url? := some "https://[::1]" },
      { Output.bare "collector" .fluentForward with url? := some "tls://[::1]:24224" },
      { Output.bare "loud" .http with url? := some "HTTPS://[::1]:8443" },
      { Output.bare "index" .elasticsearch with url? := some "https://[::1]:9200" },
      { Output.bare "streams" .loki with url? := some "https://[::1]:3100" },
      { Output.bare "queue" .kafka with url? := some "tls://[::1]:9093" },
      { Output.bare "server" .syslog with url? := some "tls://[::1]:6514" }]
  pipelines :=
    [⟨some "all", ["audit"], ["web", "collector", "loud", "index", "streams", "queue", "server"],
      ∅, none⟩]
  tuning := none

/-- Options that ask for a version of TLS and for two cipher suites. -/
def profiled : Options :=
  { Options.standard with
    minTlsVersion := some "VersionTLS13"
    ciphers := ["TLS_AES_128_GCM_SHA256", "TLS_AES_256_GCM_SHA384"] }

theorem clean_securedOutputs : securedOutputs.problems ∅ profiled .fluentd = [] := by
  decide

/-- The profile reaches two of these stores. -/
theorem hasProfile_securedOutputs :
    securedOutputs.problems ∅ profiled .fluentd = [] ∧
      ∃ arena, Fluentd.build securedOutputs.normalize ∅ profiled = .ok arena ∧
        ∀ output ∈ securedOutputs.normalize.outputs, output.UsesTls ∧
          ∃ element ∈ arena.elements, element.id = Name.label output.name ∧
            ∀ part ∈ Fluentd.stores element,
              Fluentd.HasProfile "TLSv1_3" profiled.ciphers part ↔
                output.name ∈ ["web", "collector"] := by
  obtain ⟨arena, built, profiles⟩ :=
    hasProfile_iff_beginsSecurely securedOutputs ∅ profiled clean_securedOutputs rfl rfl (by decide)
  refine ⟨clean_securedOutputs, arena, built, fun output declared => ?_⟩
  have facts : ∀ output ∈ securedOutputs.normalize.outputs,
      securedOutputs.normalize.Routes output.name ∧ output.UsesTls ∧
        (output.BeginsSecurely ↔ output.name ∈ ["web", "collector"]) := by
    decide +kernel
  obtain ⟨routed, secure, begins⟩ := facts output declared
  obtain ⟨element, member, isLabel, _, profile⟩ := profiles output declared routed secure
  refine ⟨secure, element, member, isLabel, fun part isPart => ?_⟩
  rw [← begins]
  exact (profile part isPart).trans (and_iff_left (by decide))

/-- Five of the types of outputs have a store that does not ask for all that the options name. -/
theorem exists_not_hasProfile :
    securedOutputs.problems ∅ profiled .fluentd = [] ∧
      ∃ arena, Fluentd.build securedOutputs.normalize ∅ profiled = .ok arena ∧
        ∀ output ∈ securedOutputs.normalize.outputs, output.name ∉ ["web", "collector"] →
          output.UsesTls ∧ securedOutputs.normalize.Routes output.name ∧
            ∃ element ∈ arena.elements, element.id = Name.label output.name ∧
              ∃ part ∈ Fluentd.stores element,
                ¬Fluentd.HasProfile "TLSv1_3" profiled.ciphers part := by
  refine ⟨clean_securedOutputs, ?_⟩
  have evaluated : ((Fluentd.build securedOutputs.normalize ∅ profiled).toOption.map fun arena =>
      decide (∀ output ∈ securedOutputs.normalize.outputs, output.name ∉ ["web", "collector"] →
        output.UsesTls ∧ securedOutputs.normalize.Routes output.name ∧
          ∃ element ∈ arena.elements, element.id = Name.label output.name ∧
            ∃ part ∈ Fluentd.stores element,
              ¬(Fluentd.AsksForVersion "TLSv1_3" part ∧
                Fluentd.AsksForCiphers profiled.ciphers part))) = some true := by
    decide +kernel
  obtain ⟨arena, built, holds⟩ := exists_of_toOption_map evaluated
  refine ⟨arena, built, fun output declared other => ?_⟩
  obtain ⟨secure, routed, element, member, isLabel, part, isPart, lacks⟩ :=
    of_decide_eq_true holds output declared other
  exact ⟨secure, routed, element, member, isLabel, part, isPart,
    fun profile => lacks ⟨profile.version, profile.ciphers⟩⟩

end Spec

end LogForwarder
