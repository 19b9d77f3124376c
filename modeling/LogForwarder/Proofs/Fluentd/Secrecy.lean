/-
This file proves that texts of the fluentd dialect show nothing of passwords and private keys. Two
stores of secrets are compared that agree on what is there, but not on what it is: checks only ask
what is there, credentials come out alike but for the name and the password, and a label writes
neither of them, as the collector reads both from files. So either the same text is generated or the
same error is reported. The few keys whose values do show are named.
-/

import LogForwarder.Compile.Spec
import LogForwarder.Proofs.Lookup

namespace LogForwarder

/-! ### Secrets that are alike -/

/-- The keys of secrets whose values show in a text. -/
def Secret.shownKeys : List String := [Secret.token, Secret.saslMechanisms, Secret.awsRole]

/-- Whether two stores of secrets agree on what is there and on the values that show. -/
structure SecretStore.Alike (first second : SecretStore) : Prop where
  names : ∀ name, first.contains name = second.contains name
  keys : ∀ name key, first.hasKey name key = second.hasKey name key
  texts : ∀ name key, (first.value? name key).isSome = (second.value? name key).isSome
  shown : ∀ name, ∀ key ∈ Secret.shownKeys, first.value? name key = second.value? name key

/-- Whether two attempts at credentials differ in nothing but a name and a password. -/
inductive AlikeCredentials :
    Except CredentialsError Credentials → Except CredentialsError Credentials → Prop
  | same (outcome : Except CredentialsError Credentials) : AlikeCredentials outcome outcome
  | basic (username password otherUsername otherPassword : String) :
      AlikeCredentials (.ok (.basic username password)) (.ok (.basic otherUsername otherPassword))

/-- Of two texts that are there or not alike either both are there or none. -/
theorem both_of_isSome_eq {first second : Option String} (same : first.isSome = second.isSome) :
    first = none ∧ second = none ∨ ∃ text other, first = some text ∧ second = some other := by
  cases first with
  | none => exact .inl ⟨rfl, Option.isNone_iff_eq_none.mp (Option.isSome_eq_false_iff.mp same.symm)⟩
  | some text =>
    obtain ⟨other, isOther⟩ := Option.isSome_iff_exists.mp same.symm
    exact .inr ⟨text, other, rfl, isOther⟩

section Alike

variable {first second : SecretStore} (alike : first.Alike second)

include alike

theorem alikeCredentials_ofSecret (name : String) (wantsToken : Bool) :
    AlikeCredentials (credentialsOfSecret first name wantsToken)
      (credentialsOfSecret second name wantsToken) := by
  unfold credentialsOfSecret
  rw [alike.shown name Secret.token (by decide)]
  rcases both_of_isSome_eq (alike.texts name Secret.username) with
    ⟨noUsername, noOther⟩ | ⟨username, otherUsername, isUsername, isOther⟩
  all_goals
    rcases both_of_isSome_eq (alike.texts name Secret.password) with
      ⟨noPassword, noOtherPassword⟩ | ⟨password, otherPassword, isPassword, isOtherPassword⟩
  · rw [noUsername, noOther, noPassword, noOtherPassword]
    exact .same _
  · rw [noUsername, noOther, isPassword, isOtherPassword]
    exact .same _
  · rw [isUsername, isOther, noPassword, noOtherPassword]
    exact .same _
  · rw [isUsername, isOther, isPassword, isOtherPassword]
    exact .basic username password otherUsername otherPassword

theorem alikeCredentials (output : Output) (options : Options) :
    AlikeCredentials (output.credentials first options) (output.credentials second options) := by
  unfold Output.credentials
  split
  · simp only [alike.shown _ Secret.token (by decide)]
    exact .same _
  · split
    · exact alikeCredentials_ofSecret alike _ _
    · exact .same _

/-! ### Checks -/

theorem Output.hasSecretKey_alike (output : Output) (key : String) :
    output.hasSecretKey first key = output.hasSecretKey second key := by
  unfold hasSecretKey
  simp only [alike.keys]

theorem Output.causes_alike (output : Output) (options : Options) (isRepeated : Bool) :
    output.causes first options isRepeated = output.causes second options isRepeated := by
  have sameSecret : output.secretCauses first = output.secretCauses second := by
    unfold secretCauses
    simp only [alike.names]
  have sameType : output.typeCauses first = output.typeCauses second := by
    unfold typeCauses awsCauses missingKey
    simp only [output.hasSecretKey_alike alike]
  have sameCredentials : output.credentialsCauses first options =
      output.credentialsCauses second options := by
    have same := alikeCredentials alike output options
    unfold credentialsCauses
    generalize output.credentials first options = outcome at same ⊢
    generalize output.credentials second options = other at same ⊢
    cases same with
    | same => rfl
    | basic => rfl
  unfold causes
  rw [sameSecret, sameType, sameCredentials]

/-- The same problems are found with secrets that are alike. -/
theorem Spec.problems_alike (spec : Spec) (options : Options) (dialect : Dialect) :
    spec.problems first options dialect = spec.problems second options dialect := by
  have sameJudge : outputProblems first options = outputProblems second options := by
    funext output isRepeated
    unfold outputProblems
    rw [output.causes_alike alike]
  unfold problems normalProblems commonProblems
  rw [sameJudge]

end Alike

/-! ### Labels of outputs -/

namespace Fluentd.Store

/-- What a label is made from, with other secrets. -/
def withSecrets (store : Store) (secrets : SecretStore) : Store := { store with secrets := secrets }

section Alike

variable {store : Store} {secrets : SecretStore} (alike : store.secrets.Alike secrets)

include alike

theorem secretFile?_withSecrets (key : String) :
    (store.withSecrets secrets).secretFile? key = store.secretFile? key := by
  unfold secretFile? withSecrets
  simp only [alike.keys]

theorem secretExpression?_withSecrets (key : String) :
    (store.withSecrets secrets).secretExpression? key = store.secretExpression? key := by
  unfold secretExpression?
  rw [secretFile?_withSecrets alike]

theorem quotedSecretFile?_withSecrets (key : String) :
    (store.withSecrets secrets).quotedSecretFile? key = store.quotedSecretFile? key := by
  unfold quotedSecretFile?
  rw [secretFile?_withSecrets alike]

theorem secretValue?_withSecrets {key : String} (shown : key ∈ Secret.shownKeys) :
    (store.withSecrets secrets).secretValue? key = store.secretValue? key := by
  unfold secretValue? withSecrets
  simp only [alike.shown _ key shown]

theorem alikeCredentials_withSecrets :
    AlikeCredentials (.ok store.credentials) (.ok (store.withSecrets secrets).credentials) := by
  have same := alikeCredentials alike store.output store.options
  unfold credentials withSecrets
  generalize store.output.credentials store.secrets store.options = outcome at same ⊢
  generalize store.output.credentials secrets store.options = other at same ⊢
  cases same with
  | same => exact .same _
  | basic => exact .basic _ _ _ _

/-- Whatever is the same for the same credentials and for any names and passwords is the same. -/
@[elab_as_elim]
theorem credentials_withSecrets {motive : Credentials → Credentials → Prop}
    (same : ∀ credentials, motive credentials credentials)
    (basic : ∀ username password otherUsername otherPassword,
      motive (.basic username password) (.basic otherUsername otherPassword)) :
    motive (store.withSecrets secrets).credentials store.credentials := by
  have isAlike := alikeCredentials_withSecrets alike
  generalize store.credentials = credentials at isAlike ⊢
  generalize (store.withSecrets secrets).credentials = other at isAlike ⊢
  cases isAlike with
  | same => exact same _
  | basic => exact basic _ _ _ _

theorem elasticsearchSettings_withSecrets (scheme : String) :
    (store.withSecrets secrets).elasticsearchSettings scheme =
      store.elasticsearchSettings scheme := by
  unfold elasticsearchSettings
  simp only [secretFile?_withSecrets alike, secretExpression?_withSecrets alike]
  exact credentials_withSecrets alike (fun _ => rfl) fun _ _ _ _ => rfl

theorem lokiSettings_withSecrets (scheme : String) :
    (store.withSecrets secrets).lokiSettings scheme = store.lokiSettings scheme := by
  unfold lokiSettings
  simp only [secretFile?_withSecrets alike, secretExpression?_withSecrets alike]
  exact credentials_withSecrets alike (fun _ => rfl) fun _ _ _ _ => rfl

theorem kafkaSettings_withSecrets :
    (store.withSecrets secrets).kafkaSettings = store.kafkaSettings := by
  have sameMechanism : (store.withSecrets secrets).scramMechanism? = store.scramMechanism? := by
    unfold scramMechanism?
    rw [secretValue?_withSecrets alike (by decide)]
  unfold kafkaSettings
  simp only [quotedSecretFile?_withSecrets alike, secretExpression?_withSecrets alike,
    sameMechanism]
  exact credentials_withSecrets alike (fun _ => rfl) fun _ _ _ _ => rfl

theorem httpHeaders_withSecrets (options : HttpSection) :
    (store.withSecrets secrets).httpHeaders options = store.httpHeaders options := by
  unfold httpHeaders
  exact credentials_withSecrets alike (fun _ => rfl) fun _ _ _ _ => rfl

theorem httpAuthParam_withSecrets :
    (store.withSecrets secrets).httpAuthParam = store.httpAuthParam := by
  have sameOutput : (store.withSecrets secrets).output = store.output := rfl
  unfold httpAuthParam
  rw [sameOutput]
  refine credentials_withSecrets alike (fun _ => rfl) fun _ _ _ _ => ?_
  cases store.output.secretName <;> rfl

theorem httpSettings_withSecrets :
    (store.withSecrets secrets).httpSettings = store.httpSettings := by
  unfold httpSettings
  simp only [secretFile?_withSecrets alike]
  rfl

theorem forwardSettings_withSecrets :
    (store.withSecrets secrets).forwardSettings = store.forwardSettings := by
  unfold forwardSettings
  simp only [quotedSecretFile?_withSecrets alike, secretExpression?_withSecrets alike]
  rfl

theorem syslogSettings_withSecrets (transport : SyslogTransport) :
    (store.withSecrets secrets).syslogSettings transport = store.syslogSettings transport := by
  unfold syslogSettings
  simp only [secretFile?_withSecrets alike, secretExpression?_withSecrets alike]
  rfl

theorem cloudwatchSettings_withSecrets :
    (store.withSecrets secrets).cloudwatchSettings = store.cloudwatchSettings := by
  unfold cloudwatchSettings
  simp only [secretFile?_withSecrets alike]
  rfl

theorem awsRole?_withSecrets : (store.withSecrets secrets).awsRole? = store.awsRole? := by
  unfold awsRole?
  rw [secretFile?_withSecrets alike, secretValue?_withSecrets alike (by decide)]

/-- Labels made with secrets that are alike are the same. -/
theorem outputLabel_withSecrets :
    (store.withSecrets secrets).outputLabel = store.outputLabel := by
  have elasticsearch :
      (store.withSecrets secrets).elasticsearchLabel = store.elasticsearchLabel := by
    unfold elasticsearchLabel elasticsearchStore
    simp only [elasticsearchSettings_withSecrets alike]
    rfl
  have forward : (store.withSecrets secrets).forwardLabel = store.forwardLabel := by
    unfold forwardLabel
    simp only [secretExpression?_withSecrets alike, forwardSettings_withSecrets alike]
    rfl
  have syslog : (store.withSecrets secrets).syslogLabel = store.syslogLabel := by
    unfold syslogLabel
    simp only [syslogSettings_withSecrets alike]
    rfl
  have kafka : (store.withSecrets secrets).kafkaLabel = store.kafkaLabel := by
    unfold kafkaLabel
    simp only [kafkaSettings_withSecrets alike]
    rfl
  have loki : (store.withSecrets secrets).lokiLabel = store.lokiLabel := by
    unfold lokiLabel
    simp only [lokiSettings_withSecrets alike]
    rfl
  have cloudwatch : (store.withSecrets secrets).cloudwatchLabel = store.cloudwatchLabel := by
    unfold cloudwatchLabel
    simp only [cloudwatchSettings_withSecrets alike, awsRole?_withSecrets alike]
    rfl
  have http : (store.withSecrets secrets).httpLabel = store.httpLabel := by
    unfold httpLabel
    simp only [httpHeaders_withSecrets alike, httpAuthParam_withSecrets alike,
      httpSettings_withSecrets alike]
    rfl
  unfold outputLabel
  rw [elasticsearch, forward, syslog, kafka, loki, cloudwatch, http]
  rfl

end Alike

end Fluentd.Store

/-! ### Texts -/

section Alike

variable {first second : SecretStore} (alike : first.Alike second)

include alike

theorem Fluentd.generate_alike (spec : Spec) (options : Options) :
    generate spec first options = generate spec second options := by
  have sameOutput : addOutput spec first options = addOutput spec second options := by
    funext arena output
    have sameLabel : ((Store.ofOutput spec first options output).withSecrets second).outputLabel =
        (Store.ofOutput spec first options output).outputLabel :=
      Store.outputLabel_withSecrets alike
    unfold addOutput
    rw [← sameLabel]
    rfl
  unfold generate build
  rw [sameOutput]

/--
A text of the fluentd dialect shows what there is in secrets, and beyond that no values but those of
a few keys: secrets that are alike give the same text, or the same error.
-/
theorem Spec.compile_fluentd_of_alike (spec : Spec) (options : Options) :
    spec.compile first options .fluentd = spec.compile second options .fluentd := by
  unfold compile
  rw [spec.problems_alike alike]
  split
  · rfl
  · exact Fluentd.generate_alike alike spec.normalize options

end Alike

/-- Secrets with a name, a token and some password. -/
def secretsOfPassword (password : String) : SecretStore :=
  .ofList [("web", .ofList [(Secret.username, "user".toUTF8), (Secret.password, password.toUTF8),
    (Secret.token, "token".toUTF8)])]

theorem bytes?_secretsOfPassword (password name key : String) :
    (secretsOfPassword password).bytes? name key =
      if name = "web" then
        if key = Secret.token then some "token".toUTF8
        else if key = Secret.password then some password.toUTF8
        else if key = Secret.username then some "user".toUTF8
        else none
      else none := by
  unfold SecretStore.bytes? secretsOfPassword
  rw [Dictionary.get?_ofList, List.reverse_singleton, lookup_cons_eq_ite]
  split
  · rw [Option.bind_some, Dictionary.get?_ofList]
    simp only [List.reverse_cons, List.reverse_nil, List.nil_append, List.cons_append,
      lookup_cons_eq_ite, List.lookup_nil]
  · rfl

theorem alike_secretsOfPassword :
    (secretsOfPassword "first").Alike (secretsOfPassword "second") := by
  refine ⟨fun name => ?_, fun name key => ?_, fun name key => ?_, fun name key shown => ?_⟩
  · unfold Dictionary.contains secretsOfPassword
    rw [Dictionary.get?_ofList, Dictionary.get?_ofList, List.reverse_singleton, lookup_cons_eq_ite,
      List.reverse_singleton, lookup_cons_eq_ite]
    split <;> rfl
  · unfold SecretStore.hasKey
    rw [bytes?_secretsOfPassword, bytes?_secretsOfPassword]
    split_ifs <;> decide
  · unfold SecretStore.value?
    rw [bytes?_secretsOfPassword, bytes?_secretsOfPassword]
    split_ifs <;> decide
  · unfold SecretStore.value?
    rw [bytes?_secretsOfPassword, bytes?_secretsOfPassword]
    have notPassword : key ≠ Secret.password := by
      rintro rfl
      revert shown
      decide
    rw [if_neg notPassword, if_neg notPassword]

/-- All records go to a web server that asks for a name and a password. -/
def withPassword : Spec where
  inputs := []
  outputs := [{ Output.bare "server" .http with
    url? := some "https://[::1]", secretName := some "web" }]
  pipelines := [⟨some "all", ["application", "audit"], ["server"], ∅, none⟩]
  tuning := none

theorem compile_fluentd_of_alike_withPassword :
    (secretsOfPassword "first").Alike (secretsOfPassword "second") ∧
      withPassword.problems (secretsOfPassword "first") .standard .fluentd = [] ∧
        withPassword.compile (secretsOfPassword "first") .standard .fluentd =
          withPassword.compile (secretsOfPassword "second") .standard .fluentd :=
  ⟨alike_secretsOfPassword, by decide,
    Spec.compile_fluentd_of_alike alike_secretsOfPassword withPassword .standard⟩

end LogForwarder
