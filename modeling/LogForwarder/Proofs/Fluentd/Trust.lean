/-
This file proves which certificates stores of the fluentd dialect trust. A store says that in one of
its settings, under a key that depends on its type. For an output to the store inside the cluster
most stores name the certificates of the service there. Those for web servers, Kafka and syslog
servers do not look at the name of the output: over a secure connection they trust the certificates
of its own secret, if it has any.
-/

import LogForwarder.Check.Output
import LogForwarder.Proofs.Fluentd.Stores

namespace LogForwarder

/-! ### Paths -/

namespace Secret

theorem mountPath_start (name key : String) :
    "/var/run/ocp-collector/secrets/".toList <+: (mountPath name key).toList := by
  refine ⟨(name ++ "/" ++ key).toList, ?_⟩
  show _ = ("/var/run/ocp-collector/secrets/" ++ name ++ "/" ++ key).toList
  simp only [String.toList_append, List.append_assoc]

/-- Keys of secrets are not found where the certificates of the service are. -/
theorem mountPath_ne_serviceCaPath (name key : String) :
    mountPath name key ≠ Fluentd.serviceCaPath := by
  intro same
  have start := mountPath_start name key
  rw [same] at start
  exact absurd start (by decide)

end Secret

namespace Fluentd

theorem toList_singleQuoted (text : String) :
    (singleQuoted text).toList = '\'' :: (text.toList ++ ['\'']) := by
  show ("'" ++ text ++ "'").toList = _
  rw [String.toList_append, String.toList_append, List.append_assoc]
  rfl

/-- Whether a value names a file, be it by its path or by its path between single quotes. -/
def IsPath (path value : String) : Prop := value = path ∨ value = singleQuoted path

/-- Whether a path starts at the root of the files. -/
def IsAbsolute (path : String) : Prop := path.toList.head? = some '/'

instance (path value : String) : Decidable (IsPath path value) :=
  inferInstanceAs (Decidable (_ ∨ _))

instance (path : String) : Decidable (IsAbsolute path) := inferInstanceAs (Decidable (_ = _))

theorem isAbsolute_mountPath (name key : String) : IsAbsolute (Secret.mountPath name key) := by
  obtain ⟨rest, chars⟩ := Secret.mountPath_start name key
  unfold IsAbsolute
  rw [← chars]
  rfl

theorem singleQuoted_ne {path : String} (absolute : IsAbsolute path) (text : String) :
    singleQuoted text ≠ path := by
  rintro rfl
  unfold IsAbsolute at absolute
  rw [toList_singleQuoted, List.head?_cons] at absolute
  exact absurd absolute (by decide)

theorem singleQuoted_inj {first second : String} (same : singleQuoted first = singleQuoted second) :
    first = second := by
  have chars := congrArg String.toList same
  rw [toList_singleQuoted, toList_singleQuoted] at chars
  exact String.toList_injective (List.append_cancel_right (List.cons.inj chars).2)

/-- A value names one file at most. -/
theorem IsPath.unique {first second value : String} (isFirst : IsPath first value)
    (isSecond : IsPath second value) (firstAbsolute : IsAbsolute first)
    (secondAbsolute : IsAbsolute second) : first = second := by
  rcases isFirst with rfl | rfl <;> rcases isSecond with same | same
  · exact same
  · exact absurd same.symm (singleQuoted_ne firstAbsolute second)
  · exact absurd same (singleQuoted_ne secondAbsolute first)
  · exact singleQuoted_inj same

/-! ### Settings -/

/-- The keys of the settings that say which certificates a store trusts. -/
def caKeys : List String :=
  ["ca_file", "ca_cert", "tls_cert_path", "tls_ca_cert_path", "ssl_ca_cert"]

/-- The file with trusted certificates that a setting names, if it names one. -/
def Setting.caFile? (setting : Setting) : Option String :=
  if setting.key ∈ caKeys then some setting.value else none

/-- The files with trusted certificates that some settings name. -/
def Setting.caFiles (settings : List Setting) : List String := settings.filterMap caFile?

namespace Setting

/-- The files with trusted certificates are what stands under some of the keys. -/
theorem caFiles_eq_valuesUnder (settings : List Setting) :
    caFiles settings = valuesUnder (· ∈ caKeys) settings := by
  unfold caFiles valuesUnder
  refine List.filterMap_congr fun setting _ => ?_
  simp only [caFile?, decide_eq_true_eq]

@[simp]
theorem caFiles_append (first second : List Setting) :
    caFiles (first ++ second) = caFiles first ++ caFiles second := List.filterMap_append

@[simp]
theorem caFiles_nil : caFiles [] = [] := rfl

/-- Settings under other keys name no such file. -/
@[simp]
theorem caFiles_line_of_notMem {key : String} (other : key ∉ caKeys) (value : String) :
    caFiles (line key value) = [] := by
  rw [caFiles_eq_valuesUnder, valuesUnder_line_of_false (decide_eq_false other)]

@[simp]
theorem caFiles_line?_of_notMem {key : String} (other : key ∉ caKeys) (value? : Option String) :
    caFiles (line? key value?) = [] := by
  rw [caFiles_eq_valuesUnder, valuesUnder_line?_of_false (decide_eq_false other)]

@[simp]
theorem caFiles_lineIf_of_notMem {key : String} (other : key ∉ caKeys) (condition : Bool)
    (value : String) : caFiles (lineIf condition key value) = [] := by
  rw [caFiles_eq_valuesUnder, valuesUnder_lineIf,
    valuesUnder_line_of_false (decide_eq_false other), ite_self]

@[simp]
theorem caFiles_line_of_mem {key value : String} (isCa : key ∈ caKeys) (given : value ≠ "") :
    caFiles (line key value) = [value] := by
  rw [caFiles_eq_valuesUnder, valuesUnder_line_of_true (decide_eq_true isCa) given]

theorem caFiles_line?_of_mem {key : String} (isCa : key ∈ caKeys) {value? : Option String}
    (given : ∀ value ∈ value?, value ≠ "") : caFiles (line? key value?) = value?.toList := by
  rw [caFiles_eq_valuesUnder, valuesUnder_line?_of_true (decide_eq_true isCa)]
  cases value? with
  | none => rfl
  | some value => rw [Option.filter_some, if_pos (decide_eq_true (given value rfl))]

end Setting

/-- The file with trusted certificates that a setting among the parameters of an element names. -/
def caFile? (setting : Value) : Option String :=
  if (setting.field "key").text?.any (· ∈ caKeys) then (setting.field "value").text? else none

/--
The files with trusted certificates that an element names. Only elements of some types have two
stores, each with settings of its own.
-/
def caFiles (element : Element) : List String :=
  let param := (Value.object element.params).field
  ((param "settings").items ++ ((param "retry").field "settings").items ++
    ((param "main").field "settings").items).filterMap caFile?

theorem filterMap_caFile?_params (settings : List Setting) :
    (Setting.params settings).items.filterMap caFile? = Setting.caFiles settings :=
  (filterMap_valueUnder?_params (· ∈ caKeys) settings).trans
    (Setting.caFiles_eq_valuesUnder settings).symm

namespace Store

variable {store : Store}

/-! ### Settings of stores -/

theorem secretFile?_eq_some_iff (key path : String) :
    store.secretFile? key = some path ↔
      ∃ name ∈ store.output.secretName, store.secrets.hasKey name key ∧
        Secret.mountPath name key = path := by
  simp only [secretFile?, Option.bind_eq_some_iff, Option.ite_none_right_eq_some,
    Option.some.injEq, Option.mem_def]

theorem isSome_secretFile? (key : String) :
    (store.secretFile? key).isSome = store.output.hasSecretKey store.secrets key := by
  unfold secretFile? Output.hasSecretKey
  cases store.output.secretName with
  | none => rfl
  | some name =>
    show (if store.secrets.hasKey name key then some _ else none).isSome =
      store.secrets.hasKey name key
    cases store.secrets.hasKey name key <;> rfl

theorem secretFile?_ne_empty {key : String} : ∀ path ∈ store.secretFile? key, path ≠ "" := by
  rintro path isFile rfl
  obtain ⟨name, _, _, empty⟩ := (secretFile?_eq_some_iff key "").mp isFile
  have absolute := isAbsolute_mountPath name key
  rw [empty] at absolute
  exact absurd absolute (by decide)

theorem quotedSecretFile?_ne_empty {key : String} :
    ∀ path ∈ store.quotedSecretFile? key, path ≠ "" := by
  rintro path isPath rfl
  obtain ⟨plain, _, empty⟩ := Option.map_eq_some_iff.mp isPath
  have chars := congrArg String.toList empty
  rw [toList_singleQuoted] at chars
  exact List.cons_ne_nil _ _ chars

@[simp]
theorem caFiles_secretFile? {caKey : String} (isCa : caKey ∈ caKeys) (key : String) :
    Setting.caFiles (Setting.line? caKey (store.secretFile? key)) =
      (store.secretFile? key).toList :=
  Setting.caFiles_line?_of_mem isCa secretFile?_ne_empty

@[simp]
theorem caFiles_quotedSecretFile? {caKey : String} (isCa : caKey ∈ caKeys) (key : String) :
    Setting.caFiles (Setting.line? caKey (store.quotedSecretFile? key)) =
      (store.quotedSecretFile? key).toList :=
  Setting.caFiles_line?_of_mem isCa quotedSecretFile?_ne_empty

theorem isPath_of_elasticsearch (inCluster : store.output.isClusterStore) (scheme : String) :
    ∀ file ∈ Setting.caFiles (store.elasticsearchSettings scheme), IsPath serviceCaPath file := by
  unfold elasticsearchSettings
  rw [if_pos inCluster]
  split <;> simp (disch := decide) [IsPath]

theorem isPath_of_forward (inCluster : store.output.isClusterStore) :
    ∀ file ∈ Setting.caFiles store.forwardSettings, IsPath serviceCaPath file := by
  simp only [forwardSettings, inCluster, if_true]
  split <;> simp (disch := decide) [IsPath]

theorem isPath_of_loki (inCluster : store.output.isClusterStore) (scheme : String) :
    ∀ file ∈ Setting.caFiles (store.lokiSettings scheme), IsPath serviceCaPath file := by
  unfold lokiSettings
  rw [if_pos inCluster]
  split <;> split <;> simp (disch := decide) [IsPath]

theorem caFiles_cloudwatchSettings : Setting.caFiles store.cloudwatchSettings = [] := by
  unfold cloudwatchSettings
  simp (disch := decide)

theorem caFiles_httpSettings :
    Setting.caFiles store.httpSettings =
      if store.output.url.startsWith "https://" then (store.secretFile? Secret.caBundle).toList
      else [] := by
  unfold httpSettings
  split <;> simp (disch := decide)

theorem caFiles_kafkaSettings :
    Setting.caFiles store.kafkaSettings =
      if store.output.kafkaUsesTls then (store.quotedSecretFile? Secret.caBundle).toList
      else [] := by
  simp only [kafkaSettings, Setting.caFiles_append]
  split <;> split <;> simp (disch := decide)

theorem caFiles_syslogSettings (transport : SyslogTransport) :
    Setting.caFiles (store.syslogSettings transport) =
      if transport = .tls then (store.secretFile? Secret.caBundle).toList else [] := by
  unfold syslogSettings
  split <;> simp (disch := decide)

end Store

end Fluentd

/-! ### Labels of outputs -/

/--
Whether the store of an output is one of those that do not look at the name of the output, and uses
a secure connection.
-/
def Output.takesOwnCa (output : Output) : Bool :=
  match output.type with
  | .http => output.url.startsWith "https://"
  | .kafka => output.kafkaUsesTls
  | .syslog => SyslogTransport.ofAddress output.url = .tls
  | _ => false

namespace Fluentd

namespace Store

variable {store : Store}

/--
Whether some files are those that the store of an output to the store inside the cluster trusts:
that of its own secret, if there is one, or else those of the service.
-/
def Trusts (store : Store) (files : List String) : Prop :=
  if store.output.takesOwnCa then
    files = (store.secretFile? Secret.caBundle).toList ∨
      files = (store.quotedSecretFile? Secret.caBundle).toList
  else ∀ file ∈ files, IsPath serviceCaPath file

/-- A store that only trusts its own secret when it is secure does not look at the name. -/
theorem trusts_own {secure : Prop} [Decidable secure] (takes : store.output.takesOwnCa ↔ secure)
    {own : List String} (isOwn : own = (store.secretFile? Secret.caBundle).toList ∨
      own = (store.quotedSecretFile? Secret.caBundle).toList) :
    store.Trusts (if secure then own else []) := by
  unfold Trusts
  by_cases isSecure : secure
  · rw [if_pos isSecure, if_pos (takes.mpr isSecure)]
    exact isOwn
  · rw [if_neg isSecure, if_neg (mt takes.mp isSecure)]
    intro file member
    exact absurd member List.not_mem_nil

theorem trusts_service (looks : store.output.takesOwnCa = false) {files : List String}
    (service : ∀ file ∈ files, IsPath serviceCaPath file) : store.Trusts files := by
  unfold Trusts
  rw [looks, if_neg Bool.false_ne_true]
  exact service

/-- A label with settings of its own names the files that these settings name. -/
theorem caFiles_label (template : Template.Source) {params : Params} {settings : List Setting}
    (own : params.reverse.lookup "settings" = some (Setting.params settings))
    (noRetry : params.reverse.lookup "retry" = none)
    (noMain : params.reverse.lookup "main" = none) :
    caFiles (store.label template params) = Setting.caFiles settings := by
  simp [caFiles, label, Element.field_create, own, noRetry, noMain, List.lookup_cons,
    filterMap_caFile?_params]

/-- An elasticsearch output has two stores with the same settings. -/
theorem caFiles_elasticsearchLabel {element : Element}
    (made : store.elasticsearchLabel = .ok element) :
    ∃ scheme, caFiles element = Setting.caFiles (store.elasticsearchSettings scheme) ++
      Setting.caFiles (store.elasticsearchSettings scheme) := by
  obtain ⟨url, rfl⟩ := exists_of_label_made made
  refine ⟨url.scheme, ?_⟩
  simp [caFiles, label, Element.field_create, elasticsearchStore, filterMap_caFile?_params,
    List.lookup_cons]

theorem trusts_outputLabel {element : Element} (made : store.outputLabel = .ok element)
    (inCluster : store.output.isClusterStore) : store.Trusts (caFiles element) := by
  have takes := Output.takesOwnCa.eq_def store.output
  unfold outputLabel at made
  split at made <;> rename_i type <;> simp only [type] at takes
  · obtain ⟨scheme, files⟩ := caFiles_elasticsearchLabel made
    refine trusts_service takes fun file member => ?_
    rw [files, List.mem_append, or_self] at member
    exact isPath_of_elasticsearch inCluster scheme file member
  · obtain ⟨address, rfl⟩ := exists_of_label_made made
    rw [caFiles_label _ rfl rfl rfl]
    exact trusts_service takes (isPath_of_forward inCluster)
  · obtain ⟨address, rfl⟩ := exists_of_label_made made
    rw [caFiles_label _ rfl rfl rfl, caFiles_syslogSettings]
    exact trusts_own (by rw [takes, decide_eq_true_iff]) (.inl rfl)
  · obtain ⟨brokers, rfl⟩ := exists_of_label_made made
    rw [caFiles_label _ rfl rfl rfl, caFiles_kafkaSettings]
    exact trusts_own (by rw [takes]) (.inr rfl)
  · obtain ⟨url, rfl⟩ := exists_of_label_made made
    rw [caFiles_label _ rfl rfl rfl]
    exact trusts_service takes (isPath_of_loki inCluster _)
  · simp only [cloudwatchLabel] at made
    split at made
    · cases made
    · cases made
      rw [caFiles_label _ rfl rfl rfl, caFiles_cloudwatchSettings]
      exact trusts_service takes fun file member => absurd member List.not_mem_nil
  · cases made
    rw [httpLabel, caFiles_label _ rfl rfl rfl, caFiles_httpSettings]
    exact trusts_own (by rw [takes]) (.inl rfl)
  · cases made

end Store

/-! ### Configurations -/

/-- The label of an output that pipelines lead to is in a configuration, and trusts what it may. -/
theorem exists_trusting_store {spec : Spec} {secrets : SecretStore} {options : Options}
    {arena : Arena} (noDebug : options.debug = false)
    (built : build spec secrets options = .ok arena) {output : Output}
    (routed : output ∈ spec.routedOutputs) (inCluster : output.isClusterStore) :
    ∃ element ∈ arena.elements, element.id = Name.label output.name ∧
      (Store.ofOutput spec secrets options output).Trusts (caFiles element) := by
  obtain ⟨label, member, isLabel, labelMade⟩ := exists_label_of_routed noDebug built routed
  exact ⟨label, member, isLabel, Store.trusts_outputLabel labelMade inCluster⟩

end Fluentd

end LogForwarder
