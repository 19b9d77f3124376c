/-
This file proves when outputs to the store inside the cluster are pinned to the certificates of the
service. In one dialect they always are. In the other one the stores for web servers, Kafka and
syslog servers take certificates from the secret of the output instead, and so a secret with
certificates of its own undoes the pin of such an output exactly if its connection is secure.
-/

import LogForwarder.Proofs.Agreement
import LogForwarder.Proofs.Fluentd.Trust
import LogForwarder.Proofs.Vector.Tls

namespace LogForwarder

/-- The files with trusted certificates that an element of a configuration names. -/
def Dialect.caFiles : Dialect → Element → List String
  | .fluentd => Fluentd.caFiles
  | .vector => Vector.caFiles

/-! ### Pins -/

namespace Output

/-- What files with trusted certificates are that pin an output to the service. -/
structure IsPinned (output : Output) (files : List String) : Prop where
  service : ∀ file ∈ files, Fluentd.IsPath Fluentd.serviceCaPath file
  /-- No file belongs to the output's own secret. -/
  notOwn : ∀ file ∈ files, ∀ name ∈ output.secretName, ∀ key,
    ¬Fluentd.IsPath (Secret.mountPath name key) file

/-- Whether the secret of an output takes the place of the certificates of the service. -/
def OverridesCa (output : Output) (secrets : SecretStore) (dialect : Dialect) : Prop :=
  dialect = .fluentd ∧ output.takesOwnCa ∧ output.hasSecretKey secrets Secret.caBundle

instance (output : Output) (secrets : SecretStore) (dialect : Dialect) :
    Decidable (output.OverridesCa secrets dialect) :=
  inferInstanceAs (Decidable (_ ∧ _))

/-- Files of the service do not belong to any secret. -/
theorem isPinned_of_service (output : Output) {files : List String}
    (service : ∀ file ∈ files, Fluentd.IsPath Fluentd.serviceCaPath file) :
    output.IsPinned files where
  service := service
  notOwn := by
    intro file member name _ key own
    refine Secret.mountPath_ne_serviceCaPath name key ?_
    exact own.unique (service file member) (Fluentd.isAbsolute_mountPath name key) (by decide)

end Output

namespace Fluentd.Store

variable {store : Store}

/-- A store is pinned unless it does not look at the name and has certificates of its own. -/
theorem Trusts.pins_iff {files : List String} (trusts : store.Trusts files) :
    store.output.IsPinned files ↔ ¬store.output.OverridesCa store.secrets .fluentd := by
  unfold Output.OverridesCa
  rw [← isSome_secretFile?]
  unfold Trusts quotedSecretFile? at trusts
  by_cases takes : store.output.takesOwnCa
  · rw [if_pos takes] at trusts
    cases isFile : store.secretFile? Secret.caBundle with
    | none =>
      have noFiles : files = [] := by
        rw [isFile] at trusts
        rcases trusts with noFile | noFile <;> exact noFile
      rw [noFiles]
      exact iff_of_true (store.output.isPinned_of_service fun _ member =>
        absurd member List.not_mem_nil) fun overrides => nomatch overrides.2.2
    | some path =>
      obtain ⟨name, isName, _, rfl⟩ := (secretFile?_eq_some_iff _ _).mp isFile
      refine iff_of_false ?_ (not_not_intro ⟨rfl, takes, rfl⟩)
      intro pinned
      rw [isFile] at trusts
      rcases trusts with rfl | rfl
      · exact pinned.notOwn _ (List.mem_singleton_self _) name isName Secret.caBundle (.inl rfl)
      · exact pinned.notOwn _ (List.mem_singleton_self _) name isName Secret.caBundle (.inr rfl)
  · rw [if_neg takes] at trusts
    exact iff_of_true (store.output.isPinned_of_service trusts) fun overrides => takes overrides.2.1

end Fluentd.Store

namespace Spec

/--
The element of an output to the store inside the cluster is pinned to the service, unless the secret
of the output takes its place.
-/
theorem isPinned_iff (spec : Spec) (secrets : SecretStore) (options : Options) (dialect : Dialect)
    {arena : Arena} (clean : spec.problems secrets options dialect = [])
    (noDebug : options.debug = false)
    (built : dialect.build spec.normalize secrets options = .ok arena) {output : Output}
    (declared : output ∈ spec.normalize.outputs) (routed : spec.normalize.Routes output.name)
    (inCluster : output.isClusterStore) :
    ∃ element ∈ arena.elements, element.id = dialect.idOf output.name ∧
      (dialect = .vector → dialect.caFiles element = [Vector.serviceCaPath]) ∧
      (output.IsPinned (dialect.caFiles element) ↔ ¬output.OverridesCa secrets dialect) := by
  have isRouted : output ∈ spec.normalize.routedOutputs :=
    (spec.normalize.mem_routedOutputs (spec.isReady_normalize clean).clean.outputsDistinct
      output).mpr ⟨declared, routed⟩
  cases dialect with
  | fluentd =>
    obtain ⟨element, member, isLabel, trusts⟩ :=
      Fluentd.exists_trusting_store noDebug built isRouted inCluster
    exact ⟨element, member, isLabel, nofun, trusts.pins_iff⟩
  | vector =>
    obtain ⟨element, member, isSink, files⟩ :=
      Vector.exists_trusting_sink noDebug built isRouted inCluster
    refine ⟨element, member, isSink, fun _ => files, iff_of_true ?_ nofun⟩
    refine output.isPinned_of_service fun file isFile => .inl ?_
    rw [show Dialect.vector.caFiles element = [Vector.serviceCaPath] from files] at isFile
    exact List.mem_singleton.mp isFile

/-- Stores inside the cluster of many types, all of them with the same secret. -/
def storesWithSecret : Spec where
  inputs := []
  outputs :=
    [{ Output.bare "default-index" .elasticsearch with
        url? := some "https://[::1]:9200"
        secretName := some "own" },
      { Output.bare "default-web" .http with
        url? := some "https://[::1]"
        secretName := some "own" },
      { Output.bare "default-queue" .kafka with
        url? := some "tls://[::1]:9093"
        secretName := some "own" },
      { Output.bare "default-syslog" .syslog with
        url? := some "tls://[::1]:6514"
        secretName := some "own" }]
  pipelines := [⟨some "all", ["audit"], ["default-index", "default-web", "default-queue",
    "default-syslog"], ∅, none⟩]
  tuning := none

/-- A secret with nothing but certificates. -/
def caSecret : SecretStore := .ofList [("own", .ofList [(Secret.caBundle, "ca".toUTF8)])]

theorem clean_storesWithSecret (dialect : Dialect) :
    storesWithSecret.problems caSecret .standard dialect = [] := by
  cases dialect <;> decide

/-- One dialect pins all of these outputs, the other one only the first. -/
theorem isPinned_storesWithSecret :
    (∃ arena, Vector.build storesWithSecret.normalize caSecret .standard = .ok arena ∧
      ∀ output ∈ storesWithSecret.normalize.outputs, ∃ element ∈ arena.elements,
        element.id = Name.componentId output.name ∧
          Vector.caFiles element = [Vector.serviceCaPath] ∧
            output.IsPinned (Vector.caFiles element)) ∧
      ∃ arena, Fluentd.build storesWithSecret.normalize caSecret .standard = .ok arena ∧
        ∀ output ∈ storesWithSecret.normalize.outputs, ∃ element ∈ arena.elements,
          element.id = Name.label output.name ∧
            (output.IsPinned (Fluentd.caFiles element) ↔ output.type = .elasticsearch) := by
  have stores : ∀ output ∈ storesWithSecret.normalize.outputs,
      storesWithSecret.normalize.Routes output.name ∧ output.isClusterStore ∧
        (¬output.OverridesCa caSecret .fluentd ↔ output.type = .elasticsearch) := by
    decide +kernel
  refine ⟨?_, ?_⟩
  · have succeeds : (Vector.build storesWithSecret.normalize caSecret .standard).isOk := by
      decide +kernel
    obtain ⟨arena, built⟩ := exists_of_isOk succeeds
    refine ⟨arena, built, fun output declared => ?_⟩
    obtain ⟨routed, inCluster, _⟩ := stores output declared
    obtain ⟨element, member, isSink, files, pinned⟩ := isPinned_iff storesWithSecret caSecret
      .standard .vector (clean_storesWithSecret .vector) rfl built declared routed inCluster
    exact ⟨element, member, isSink, files rfl, pinned.mpr nofun⟩
  · have clean := clean_storesWithSecret .fluentd
    obtain ⟨arena, built⟩ := exists_fluentd_build clean
    refine ⟨arena, built, fun output declared => ?_⟩
    obtain ⟨routed, inCluster, onlyFirst⟩ := stores output declared
    obtain ⟨element, member, isLabel, _, pinned⟩ := isPinned_iff storesWithSecret caSecret
      .standard .fluentd clean rfl built declared routed inCluster
    exact ⟨element, member, isLabel, pinned.trans onlyFirst⟩

/-- Some outputs to the store inside the cluster trust certificates of their own secret. -/
theorem exists_not_isPinned :
    storesWithSecret.problems caSecret .standard .fluentd = [] ∧
      ∃ arena, Fluentd.build storesWithSecret.normalize caSecret .standard = .ok arena ∧
        ∀ output ∈ storesWithSecret.normalize.outputs, output.type ∈ [.http, .kafka, .syslog] →
          output.isClusterStore ∧ storesWithSecret.normalize.Routes output.name ∧
            ∃ element ∈ arena.elements, element.id = Name.label output.name ∧
              ¬output.IsPinned (Fluentd.caFiles element) := by
  refine ⟨clean_storesWithSecret .fluentd, ?_⟩
  have evaluated :
      ((Fluentd.build storesWithSecret.normalize caSecret .standard).toOption.map fun arena =>
        decide (∀ output ∈ storesWithSecret.normalize.outputs,
          output.type ∈ [OutputType.http, .kafka, .syslog] →
            output.secretName = some "own" ∧ output.isClusterStore ∧
              storesWithSecret.normalize.Routes output.name ∧
                ∃ element ∈ arena.elements, element.id = Name.label output.name ∧
                  ∃ file ∈ Fluentd.caFiles element,
                    Fluentd.IsPath (Secret.mountPath "own" Secret.caBundle) file)) = some true := by
    decide +kernel
  obtain ⟨arena, built, holds⟩ := exists_of_toOption_map evaluated
  refine ⟨arena, built, fun output declared ofType => ?_⟩
  obtain ⟨isOwn, inCluster, routed, element, member, isLabel, file, isFile, own⟩ :=
    of_decide_eq_true holds output declared ofType
  exact ⟨inCluster, routed, element, member, isLabel, fun pinned =>
    pinned.notOwn file isFile "own" isOwn Secret.caBundle own⟩

end Spec

end LogForwarder
