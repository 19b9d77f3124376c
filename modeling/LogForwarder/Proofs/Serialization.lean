/-
This file proves that specs survive being written down. Every codec of a spec is faithful, from the
scalars with forms of their own (durations, sizes, types of outputs) to the spec as a whole; so a
spec that was read from any document is read again from the JSON text that it is written as, in
whatever order the keys of its objects stand there.
-/

import LogForwarder.Proofs.Codec
import LogForwarder.Proofs.Quantity
import LogForwarder.Spec.Basic

namespace LogForwarder

open Codec Field

/-! ### Scalars with forms of their own -/

theorem ByteSize.isFaithful_codec : ByteSize.codec.IsFaithful where
  restores {_ _ size} _ := by
    refine restores_of_text rfl ?_
    unfold ByteSize.codec ByteSize.decode
    simp only [ByteSize.read_display]
  refusesNull _ := nofun

theorem Duration.decode_text {medium : Medium} {text : String} {duration : Duration}
    (read : Duration.read text = .ok duration) :
    Duration.codec.decode medium (.text text) = .ok duration := by
  unfold Duration.codec
  simp only [decodeText, bind, Except.bind, read]
  rfl

theorem Duration.isFaithful_codec : Duration.codec.IsFaithful where
  restores {_ _ duration} made := by
    obtain ⟨text, _, made⟩ := exists_of_bind_eq_ok made
    split at made
    · next read =>
      cases made
      exact restores_of_text rfl (Duration.decode_text (Duration.read_display_of_read read))
    · cases made
  refusesNull _ := nofun

namespace OutputType

theorem name_ofName (name : String) : (ofName name).name = name := by
  unfold ofName
  cases found : allKnown.find? (·.name = name) with
  | none => rfl
  | some type =>
    have same := List.find?_some found
    exact of_decide_eq_true same

theorem decode_text (medium : Medium) (name : String) :
    codec.decode medium (.text name) = .ok (ofName name) := rfl

theorem isFaithful_codec : codec.IsFaithful where
  restores made := by
    obtain ⟨name, _, same⟩ := exists_of_bind_eq_ok made
    cases same
    refine restores_of_text rfl ?_
    rw [name_ofName, decode_text]
  refusesNull _ := nofun

end OutputType

/-! ### Fields that many records have -/

theorem isFaithful_optionalText (name : String) : (optional name .text).IsFaithful :=
  isFaithful_optional name isFaithful_text

theorem isFaithful_texts (name : String) : (defaulted name (.list .text) []).IsFaithful :=
  isFaithful_defaulted name (isFaithful_list isFaithful_text) (.list []) rfl

theorem isFaithful_textsByKey (name : String) :
    (defaulted name (.dictionary .text) ∅).IsFaithful :=
  isFaithful_defaulted name (isFaithful_dictionary isFaithful_text) (.table []) rfl

theorem isFaithful_flag (name : String) : (defaulted name .boolean false).IsFaithful :=
  isFaithful_defaulted name isFaithful_boolean (.boolean false) rfl

theorem isFaithful_optionalSize (name : String) : (optional name ByteSize.codec).IsFaithful :=
  isFaithful_optional name ByteSize.isFaithful_codec

theorem isFaithful_optionalDuration (name : String) : (optional name Duration.codec).IsFaithful :=
  isFaithful_optional name Duration.isFaithful_codec

/-! ### Inputs and pipelines -/

theorem LabelSelector.isFaithful_codec : LabelSelector.codec.IsFaithful :=
  isFaithful_record (.cons (isFaithful_textsByKey _) .nil) (by decide) fun _ => rfl

theorem ApplicationInput.isFaithful_codec : ApplicationInput.codec.IsFaithful :=
  isFaithful_record
    (.cons (isFaithful_texts _) <|
      .cons (isFaithful_optional _ LabelSelector.isFaithful_codec) .nil)
    (by decide) fun _ => rfl

theorem InfrastructureInput.isFaithful_codec : InfrastructureInput.codec.IsFaithful := by
  have sources : (choiceOf InfrastructureSource.name InfrastructureSource.all).IsFaithful :=
    isFaithful_choice fun source => by cases source <;> rfl
  exact isFaithful_record
    (.cons (isFaithful_defaulted _ (isFaithful_list sources) (.list []) rfl) .nil)
    (by decide) fun _ => rfl

theorem AuditInput.isFaithful_codec : AuditInput.codec.IsFaithful := by
  have sources : (choiceOf AuditSource.name AuditSource.all).IsFaithful :=
    isFaithful_choice fun source => by cases source <;> rfl
  exact isFaithful_record
    (.cons (isFaithful_defaulted _ (isFaithful_list sources) (.list []) rfl) .nil)
    (by decide) fun _ => rfl

theorem Input.isFaithful_codec : Input.codec.IsFaithful :=
  isFaithful_record
    (.cons (isFaithful_required _ isFaithful_text) <|
      .cons (isFaithful_optional _ ApplicationInput.isFaithful_codec) <|
      .cons (isFaithful_optional _ InfrastructureInput.isFaithful_codec) <|
      .cons (isFaithful_optional _ AuditInput.isFaithful_codec) .nil)
    (by decide) fun _ => rfl

theorem Pipeline.isFaithful_codec : Pipeline.codec.IsFaithful := by
  have formats : (choiceOf ParseFormat.name [.json]).IsFaithful :=
    isFaithful_choice fun format => by cases format; rfl
  exact isFaithful_record
    (.cons (isFaithful_optionalText _) <|
      .cons (isFaithful_texts _) <|
      .cons (isFaithful_texts _) <|
      .cons (isFaithful_textsByKey _) <|
      .cons (isFaithful_optional _ formats) .nil)
    (by decide) fun _ => rfl

/-! ### Tuning -/

theorem Tuning.isFaithful_codec : Tuning.codec.IsFaithful := by
  have overflowActions :
      (choiceOf OverflowAction.name [.throwException, .block, .dropOldestChunk]).IsFaithful :=
    isFaithful_choice fun action => by cases action <;> rfl
  have flushModes : (choiceOf FlushMode.name [.lazy, .interval, .immediate]).IsFaithful :=
    isFaithful_choice fun mode => by cases mode <;> rfl
  have retryTypes : (choiceOf RetryType.name [.exponentialBackoff, .periodic]).IsFaithful :=
    isFaithful_choice fun type => by cases type <;> rfl
  exact isFaithful_record
    (.cons (isFaithful_optionalSize _) <|
      .cons (isFaithful_optionalSize _) <|
      .cons (isFaithful_optional _ overflowActions) <|
      .cons (isFaithful_optional _ (isFaithful_nat (by decide))) <|
      .cons (isFaithful_optional _ flushModes) <|
      .cons (isFaithful_optionalDuration _) <|
      .cons (isFaithful_optionalDuration _) <|
      .cons (isFaithful_optional _ retryTypes) <|
      .cons (isFaithful_optionalDuration _) <|
      .cons (isFaithful_optionalDuration _) .nil)
    (by decide) fun _ => rfl

theorem OutputTuning.isFaithful_codec : OutputTuning.codec.IsFaithful := by
  have deliveryModes : (choiceOf DeliveryMode.name [.atLeastOnce, .atMostOnce]).IsFaithful :=
    isFaithful_choice fun mode => by cases mode <;> rfl
  exact isFaithful_record
    (.cons (isFaithful_optional _ deliveryModes) <|
      .cons (isFaithful_optionalText _) <|
      .cons (isFaithful_optionalSize _) <|
      .cons (isFaithful_optionalDuration _) <|
      .cons (isFaithful_optionalDuration _) .nil)
    (by decide) fun _ => rfl

/-! ### Sections of outputs -/

theorem ElasticsearchSection.isFaithful_codec : ElasticsearchSection.codec.IsFaithful :=
  isFaithful_record
    (.cons (isFaithful_optional _ (isFaithful_nat (by decide))) <|
      .cons (isFaithful_optionalText _) <|
      .cons (isFaithful_optionalText _) .nil)
    (by decide) fun _ => rfl

theorem SyslogFormat.isFaithful_codec : SyslogFormat.codec.IsFaithful :=
  isFaithful_choice fun format => by cases format <;> rfl

theorem SyslogSection.isFaithful_codec : SyslogSection.codec.IsFaithful :=
  isFaithful_record
    (.cons (isFaithful_optional _ SyslogFormat.isFaithful_codec) <|
      .cons (isFaithful_optionalText _) <|
      .cons (isFaithful_optionalText _) <|
      .cons (isFaithful_optionalText _) <|
      .cons (isFaithful_optionalText _) <|
      .cons (isFaithful_optionalText _) <|
      .cons (isFaithful_optionalText _) <|
      .cons (isFaithful_optionalText _) <|
      .cons (isFaithful_flag _) .nil)
    (by decide) fun _ => rfl

theorem KafkaSection.isFaithful_codec : KafkaSection.codec.IsFaithful :=
  isFaithful_record (.cons (isFaithful_optionalText _) <| .cons (isFaithful_texts _) .nil)
    (by decide) fun _ => rfl

theorem LokiSection.isFaithful_codec : LokiSection.codec.IsFaithful :=
  isFaithful_record (.cons (isFaithful_optionalText _) <| .cons (isFaithful_texts _) .nil)
    (by decide) fun _ => rfl

theorem LokiStackTarget.isFaithful_codec : LokiStackTarget.codec.IsFaithful := by
  have text (name : String) : (defaulted name .text "").IsFaithful :=
    isFaithful_defaulted name isFaithful_text (.text "") rfl
  exact isFaithful_record (.cons (text _) <| .cons (text _) .nil) (by decide) fun _ => rfl

theorem DataModel.isFaithful_codec : DataModel.codec.IsFaithful :=
  isFaithful_choice fun model => by cases model <;> rfl

theorem TenantLabelKeys.isFaithful_codec : TenantLabelKeys.codec.IsFaithful :=
  isFaithful_record (.cons (isFaithful_flag _) <| .cons (isFaithful_texts _) .nil)
    (by decide) fun _ => rfl

theorem LokiStackLabelKeys.isFaithful_codec : LokiStackLabelKeys.codec.IsFaithful := by
  have tenant (name : String) : (optional name TenantLabelKeys.codec).IsFaithful :=
    isFaithful_optional name TenantLabelKeys.isFaithful_codec
  exact isFaithful_record
    (.cons (isFaithful_texts _) <| .cons (tenant _) <| .cons (tenant _) <| .cons (tenant _) .nil)
    (by decide) fun _ => rfl

theorem LokiStackSection.isFaithful_codec : LokiStackSection.codec.IsFaithful :=
  isFaithful_record
    (.cons (isFaithful_defaulted _ LokiStackTarget.isFaithful_codec (.table []) rfl) <|
      .cons (isFaithful_defaulted _ DataModel.isFaithful_codec (.text "viaq") rfl) <|
      .cons (isFaithful_optional _ LokiStackLabelKeys.isFaithful_codec) .nil)
    (by decide) fun _ => rfl

theorem CloudwatchSection.isFaithful_codec : CloudwatchSection.codec.IsFaithful := by
  have groupings :
      (choiceOf GroupBy.name [.logType, .namespaceName, .namespaceUuid]).IsFaithful :=
    isFaithful_choice fun grouping => by cases grouping <;> rfl
  exact isFaithful_record
    (.cons (isFaithful_optionalText _) <|
      .cons (isFaithful_defaulted _ groupings (.text "logType") rfl) <|
      .cons (isFaithful_optionalText _) .nil)
    (by decide) fun _ => rfl

theorem HttpSection.isFaithful_codec : HttpSection.codec.IsFaithful :=
  isFaithful_record
    (.cons (isFaithful_optionalText _) <|
      .cons (isFaithful_textsByKey _) <|
      .cons (isFaithful_optional _ (isFaithful_nat (by decide))) .nil)
    (by decide) fun _ => rfl

theorem SplunkSection.isFaithful_codec : SplunkSection.codec.IsFaithful :=
  isFaithful_record (.cons (isFaithful_optionalText _) <| .cons (isFaithful_optionalText _) .nil)
    (by decide) fun _ => rfl

theorem AzureMonitorSection.isFaithful_codec : AzureMonitorSection.codec.IsFaithful :=
  isFaithful_record
    (.cons (isFaithful_optionalText _) <|
      .cons (isFaithful_optionalText _) <|
      .cons (isFaithful_optionalText _) <|
      .cons (isFaithful_optionalText _) .nil)
    (by decide) fun _ => rfl

theorem GoogleCloudLoggingSection.isFaithful_codec : GoogleCloudLoggingSection.codec.IsFaithful :=
  isFaithful_record
    (.cons (isFaithful_optionalText _) <|
      .cons (isFaithful_optionalText _) <|
      .cons (isFaithful_optionalText _) <|
      .cons (isFaithful_optionalText _) <|
      .cons (isFaithful_optionalText _) .nil)
    (by decide) fun _ => rfl

/-! ### Outputs -/

theorem isFaithful_secretNameCodec : secretNameCodec.IsFaithful :=
  isFaithful_record (.cons (isFaithful_required _ isFaithful_text) .nil) (by decide) fun _ => rfl

theorem OutputTls.isFaithful_codec : OutputTls.codec.IsFaithful :=
  isFaithful_record (.cons (isFaithful_flag _) .nil) (by decide) fun _ => rfl

theorem TokenSource.isFaithful_codec : TokenSource.codec.IsFaithful := by
  have sources : (choiceOf TokenSource.name [.secret, .serviceAccount]).IsFaithful :=
    isFaithful_choice fun source => by cases source <;> rfl
  exact isFaithful_record (.cons (isFaithful_required _ sources) .nil) (by decide) fun _ => rfl

theorem Authentication.isFaithful_codec : Authentication.codec.IsFaithful :=
  isFaithful_record (.cons (isFaithful_optional _ TokenSource.isFaithful_codec) .nil)
    (by decide) fun _ => rfl

theorem Output.isFaithful_codec : Output.codec.IsFaithful :=
  isFaithful_record
    (.cons (isFaithful_required _ isFaithful_text) <|
      .cons (isFaithful_required _ OutputType.isFaithful_codec) <|
      .cons (isFaithful_optionalText _) <|
      .cons (isFaithful_optional _ isFaithful_secretNameCodec) <|
      .cons (isFaithful_optional _ OutputTls.isFaithful_codec) <|
      .cons (isFaithful_optional _ Authentication.isFaithful_codec) <|
      .cons (isFaithful_optional _ OutputTuning.isFaithful_codec) <|
      .cons (isFaithful_optional _ ElasticsearchSection.isFaithful_codec) <|
      .cons (isFaithful_optional _ SyslogSection.isFaithful_codec) <|
      .cons (isFaithful_optional _ KafkaSection.isFaithful_codec) <|
      .cons (isFaithful_optional _ LokiSection.isFaithful_codec) <|
      .cons (isFaithful_optional _ LokiStackSection.isFaithful_codec) <|
      .cons (isFaithful_optional _ CloudwatchSection.isFaithful_codec) <|
      .cons (isFaithful_optional _ HttpSection.isFaithful_codec) <|
      .cons (isFaithful_optional _ SplunkSection.isFaithful_codec) <|
      .cons (isFaithful_optional _ AzureMonitorSection.isFaithful_codec) <|
      .cons (isFaithful_optional _ GoogleCloudLoggingSection.isFaithful_codec) .nil)
    (by decide) fun _ => rfl

/-! ### Specs -/

namespace Spec

theorem isFaithful_codec : codec.IsFaithful :=
  isFaithful_record
    (.cons (isFaithful_defaulted _ (isFaithful_list Input.isFaithful_codec) (.list []) rfl) <|
      .cons (isFaithful_defaulted _ (isFaithful_list Output.isFaithful_codec) (.list []) rfl) <|
      .cons (isFaithful_defaulted _ (isFaithful_list Pipeline.isFaithful_codec) (.list []) rfl) <|
      .cons (isFaithful_optional _ Tuning.isFaithful_codec) .nil)
    (by decide) fun _ => rfl

/-- What is read from a document of any kind is read from every text that it is written as. -/
theorem readJson_of_decode {medium : Medium} {document : Document} {spec : Spec}
    (decoded : codec.decode medium document = .ok spec) {written : Value}
    (arranges : written.Arranges (codec.encode spec)) :
    codec.readJson written.compact = .ok spec :=
  readJson_compact (isFaithful_codec.restores decoded) arranges

/-- A spec that is read from a text is decoded from some document. -/
theorem exists_decode_of_read {text : String} {spec : Spec}
    (read : codec.readJson text = .ok spec ∨ codec.readToml text = .ok spec) :
    ∃ medium document, codec.decode medium document = .ok spec := by
  rcases read with json | toml
  · obtain ⟨value, decoded, rest⟩ := exists_of_bind_eq_ok json
    split at rest
    · cases rest
      exact ⟨_, _, decoded⟩
    · cases rest
  · unfold readToml at toml
    split at toml
    · cases toml
    · next document _ =>
      cases decoded : codec.decode .toml document with
      | error fault =>
        rw [decoded] at toml
        cases toml
      | ok value =>
        rw [decoded] at toml
        cases toml
        exact ⟨_, _, decoded⟩

/--
A spec that is read from a JSON text or a TOML text is read from the JSON text that it is written
as, in whatever order the keys stand there; so it is written as the same text again.
-/
theorem readJson_written {text : String} {spec : Spec}
    (read : codec.readJson text = .ok spec ∨ codec.readToml text = .ok spec) :
    (∀ written : Value, written.Arranges (codec.encode spec) →
      codec.readJson written.compact = .ok spec) ∧
    (codec.readJson (codec.encode spec).compact).map (fun again => (codec.encode again).compact) =
      .ok (codec.encode spec).compact := by
  obtain ⟨_, _, decoded⟩ := exists_decode_of_read read
  refine ⟨fun written arranges => readJson_of_decode decoded arranges, ?_⟩
  rw [readJson_of_decode decoded (.refl _)]
  rfl

/-- A TOML document whose values are written otherwise than they are read. -/
def roundaboutText : String :=
  "[[outputs]]\nname='o'\ntype='pigeon'\n" ++
    "tuning.maxWrite='2048K'\ntuning.minRetryDuration='60s'\nsyslog.rfc='rfc3164'\n"

/-- The spec of that document. -/
def roundaboutSpec : Spec where
  inputs := []
  outputs :=
    [{ Output.bare "o" (.unknown "pigeon") with
      tuning := some
        { delivery := none
          compression := none
          maxWrite := some ⟨Nat.pow 2 21, by decide⟩
          minRetryDuration := some (.ofMilliseconds 60000)
          maxRetryDuration := none }
      syslog := some { (default : SyslogSection) with rfc := some .rfc3164 } }]
  pipelines := []
  tuning := none

theorem readJson_written_roundabout :
    codec.readToml roundaboutText = .ok roundaboutSpec ∧
    (∀ written : Value, written.Arranges (codec.encode roundaboutSpec) →
      codec.readJson written.compact = .ok roundaboutSpec) ∧
    (codec.readJson (codec.encode roundaboutSpec).compact).map
        (fun again => (codec.encode again).compact) =
      .ok (codec.encode roundaboutSpec).compact := by
  have read : codec.readToml roundaboutText = .ok roundaboutSpec := by decide +kernel
  exact ⟨read, readJson_written (.inr read)⟩

end Spec

end LogForwarder
