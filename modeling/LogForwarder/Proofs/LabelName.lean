/-
This file finds out when the labels of a stream have names of their own. Keys are told apart before
they are turned into names, and a name has an underscore wherever its key has a dot, a slash, a
backslash, a dash or an underscore. So two labels have one name exactly if their keys differ in
nothing but such marks, and this is so in both dialects.
-/

import LogForwarder.Check.Spec
import LogForwarder.Fluentd.Build
import LogForwarder.Proofs.Fluentd.Label
import LogForwarder.Proofs.Lookup
import LogForwarder.Proofs.Vector.Routing
import Mathlib.Data.List.Forall2
import Mathlib.Data.List.Nodup

namespace LogForwarder

/-! ### Names of keys -/

namespace LabelKey

/-- The characters that are written as an underscore in names. -/
def marks : List Char := ['.', '/', '\\', '-', '_']

/-- Whether two characters are written alike in names. -/
def CharsAlike (first second : Char) : Prop := first = second ∨ first ∈ marks ∧ second ∈ marks

/-- Whether two keys differ in nothing but marks. -/
def Alike (first second : String) : Prop :=
  List.Forall₂ CharsAlike first.toList second.toList

/-- Whether keys that differ at all differ in more than marks. -/
def AreApart (keys : List String) : Prop :=
  ∀ first ∈ keys, ∀ second ∈ keys, Alike first second → first = second

instance : DecidableRel CharsAlike :=
  fun first second => inferInstanceAs (Decidable (first = second ∨ _))

instance : DecidableRel Alike :=
  fun first second => inferInstanceAs (Decidable (List.Forall₂ _ first.toList second.toList))

instance (keys : List String) : Decidable (AreApart keys) :=
  inferInstanceAs (Decidable (∀ first ∈ keys, _))

theorem nameChar_eq_ite (c : Char) : nameChar c = if c ∈ marks then '_' else c := by
  unfold nameChar marks
  grind

theorem nameChar_eq_iff (first second : Char) :
    nameChar first = nameChar second ↔ CharsAlike first second := by
  have underscore : '_' ∈ marks := by decide
  rw [nameChar_eq_ite, nameChar_eq_ite]
  unfold CharsAlike
  grind

theorem name_eq_iff (first second : String) : name first = name second ↔ Alike first second := by
  have alike : (fun c d => nameChar c = nameChar d) = CharsAlike :=
    funext fun c => funext fun d => propext (nameChar_eq_iff c d)
  unfold name Alike
  rw [String.ofList_inj, ← List.forall₂_eq_eq_eq, List.forall₂_map_left_iff,
    List.forall₂_map_right_iff, alike]

/-- Names are told apart exactly if the keys are apart. -/
theorem nodup_names_iff {keys : List String} (distinct : keys.Nodup) :
    (keys.map name).Nodup ↔ AreApart keys := by
  unfold AreApart
  simp only [List.nodup_map_iff_inj_on distinct, name_eq_iff]

theorem nodup_ofLoki (options : Option LokiSection) : (ofLoki options).Nodup :=
  Dictionary.nodup_keys _

end LabelKey

/-! ### Labels of stores -/

/-- The names of labels among parameters. -/
def Params.labelNames (params : Params) : List String :=
  ((Value.object params).field "labels").items.filterMap fun label => (label.field "name").text?

namespace Fluentd.Store

/-- A loki output with an address has a label. -/
theorem exists_lokiLabel {store : Store}
    (isAddress : ∃ url, Endpoint.readUrl store.output.url = .ok url) :
    ∃ element, store.lokiLabel = .ok element := by
  obtain ⟨url, isRead⟩ := isAddress
  unfold lokiLabel
  rw [isRead]
  exact ⟨_, rfl⟩

/-- The names of the labels in the section of a loki output. -/
theorem labelNames_lokiLabel {store : Store} {element : Element}
    (made : store.lokiLabel = .ok element) :
    element.params.labelNames = (LabelKey.ofLoki store.output.loki).map LabelKey.name := by
  obtain ⟨url, rfl⟩ := exists_of_label_made made
  have isNamed (key : String) :
      ((streamLabelParam key).field "name").text? = some (LabelKey.name key) := by
    simp [streamLabelParam, List.lookup_cons]
  rw [Params.labelNames, label, Element.field_create _ _ _ _ _ _ (by decide) (by decide)]
  show ((LabelKey.ofLoki store.output.loki).map streamLabelParam).filterMap _ = _
  rw [List.filterMap_map]
  exact List.filterMap_eq_map_iff_forall_eq_some.mpr fun key _ => isNamed key

end Fluentd.Store

/-! ### Labels of sinks -/

namespace Vector

/-- The names of the labels in a part, if it is about labels. -/
def Part.labelNames (part : Part) : List String :=
  if part.template = Templates.labels.name then part.params.labelNames else []

/-- The names of the labels in all parts of an element. -/
def labelNames (element : Element) : List String := element.parts.flatMap Part.labelNames

theorem labelNames_withPart (element : Element) (template : String) (params : Params) :
    labelNames (element.withPart template params) =
      labelNames element ++ Part.labelNames ⟨template, withParam "id" (.text element.id)
        (sortedParams params)⟩ := by
  show (element.parts ++ [_]).flatMap Part.labelNames = _
  rw [List.flatMap_append, List.flatMap_singleton]
  rfl

namespace Sink

theorem labelNames_finish (sink : Sink) (extras : Extras) (element : Element) :
    labelNames (sink.finish extras element) = labelNames element := by
  obtain ⟨added, parts, shared⟩ := sink.exists_parts_finish extras element
  have notShared : Templates.labels.name ∉ sharedTemplates := by decide
  have noLabels : added.flatMap Part.labelNames = [] := by
    refine List.flatMap_eq_nil_iff.mpr fun part member => ?_
    have other : part.template ≠ Templates.labels.name := fun same =>
      notShared (same ▸ shared part member)
    rw [Part.labelNames, if_neg other]
  rw [labelNames, parts, List.flatMap_append, noLabels, List.append_nil]
  rfl

/-- The names of the labels in the chain of a loki output. -/
theorem labelNames_lokiChain (sink : Sink) :
    sink.lokiChain.flatMap labelNames =
      (LabelKey.ofLoki sink.output.loki).map LabelKey.name := by
  have isNamed (label : String × String) :
      ((streamLabelParam label).field "name").text? = some label.1 := by
    simp [streamLabelParam, List.lookup_cons]
  unfold lokiChain
  show [] ++ (labelNames (sink.finish _ _) ++ []) = _
  rw [List.nil_append, List.append_nil, labelNames_finish, labelNames_withPart]
  show [] ++ Part.labelNames _ = _
  rw [List.nil_append, Part.labelNames, if_pos rfl, Params.labelNames, field_withParam,
    if_neg (by decide), field_sortedParams]
  show ((streamLabels sink.output.loki).map streamLabelParam).filterMap _ = _
  rw [streamLabels, List.filterMap_map, List.filterMap_map]
  exact List.filterMap_eq_map_iff_forall_eq_some.mpr fun key _ => isNamed _

end Sink

end Vector

/-! ### Distinct names -/

namespace Output

/--
The labels of a loki output have names of their own in either dialect exactly if keys that differ at
all differ in more than marks.
-/
theorem nodup_labelNames_iff_areApart (output : Output) (spec : Spec) (secrets : SecretStore)
    (options : Options) :
    (((Vector.Sink.ofOutput spec secrets options output).lokiChain.flatMap
        Vector.labelNames).Nodup ↔ LabelKey.AreApart (LabelKey.ofLoki output.loki)) ∧
      ∀ element, (Fluentd.Store.ofOutput spec secrets options output).lokiLabel = .ok element →
        (element.params.labelNames.Nodup ↔ LabelKey.AreApart (LabelKey.ofLoki output.loki)) := by
  have apart := LabelKey.nodup_names_iff (LabelKey.nodup_ofLoki output.loki)
  constructor
  · rw [(Vector.Sink.ofOutput spec secrets options output).labelNames_lokiChain]
    exact apart
  · intro element made
    rw [Fluentd.Store.labelNames_lokiLabel made]
    exact apart

/-- An output to Loki whose labels have some keys. -/
def withStreamKeys (keys : List String) : Output :=
  { Output.bare "streams" .loki with url? := some "https://[::1]", loki := some ⟨none, keys⟩ }

end Output

/-- Application records on their way to Loki, with some keys. -/
def Spec.toStreams (keys : List String) : Spec where
  inputs := []
  outputs := [.withStreamKeys keys]
  pipelines := [⟨some "all", ["application"], ["streams"], ∅, none⟩]
  tuning := none

namespace Output

/-- Keys may have many marks, as long as these are not all that tells them apart. -/
theorem nodup_labelNames_marked :
    let keys := ["kubernetes.labels.app/name", "kubernetes.labels.app-version"]
    let sink := Vector.Sink.ofOutput (.toStreams keys) ∅ .standard (.withStreamKeys keys)
    let store := Fluentd.Store.ofOutput (.toStreams keys) ∅ .standard (.withStreamKeys keys)
    ∃ element, store.lokiLabel = .ok element ∧
      LabelKey.AreApart (LabelKey.ofLoki (withStreamKeys keys).loki) ∧
      (sink.lokiChain.flatMap Vector.labelNames).Nodup ∧ element.params.labelNames.Nodup := by
  intro keys sink store
  have apart : LabelKey.AreApart (LabelKey.ofLoki (withStreamKeys keys).loki) := by decide
  have isAddress : ∃ url, Endpoint.readUrl "https://[::1]" = .ok url := ⟨_, rfl⟩
  obtain ⟨element, made⟩ := store.exists_lokiLabel isAddress
  obtain ⟨inVector, inFluentd⟩ :=
    nodup_labelNames_iff_areApart (withStreamKeys keys) (.toStreams keys) ∅ .standard
  exact ⟨element, made, apart, inVector.mpr apart, (inFluentd element made).mpr apart⟩

/-- Two keys of a proper spec that differ in a mark are written as one label, in both dialects. -/
theorem not_nodup_labelNames_colliding :
    let keys := ["a.b", "a_b"]
    let sink := Vector.Sink.ofOutput (.toStreams keys) ∅ .standard (.withStreamKeys keys)
    let store := Fluentd.Store.ofOutput (.toStreams keys) ∅ .standard (.withStreamKeys keys)
    (∀ dialect, (Spec.toStreams keys).problems ∅ .standard dialect = []) ∧
    ¬ (sink.lokiChain.flatMap Vector.labelNames).Nodup ∧
    ∃ element, store.lokiLabel = .ok element ∧ ¬ element.params.labelNames.Nodup := by
  intro keys sink store
  have twice : ¬ ((LabelKey.ofLoki (withStreamKeys keys).loki).map LabelKey.name).Nodup := by decide
  have isAddress : ∃ url, Endpoint.readUrl "https://[::1]" = .ok url := ⟨_, rfl⟩
  obtain ⟨element, made⟩ := store.exists_lokiLabel isAddress
  refine ⟨fun dialect => ?_, ?_, element, made, ?_⟩
  · cases dialect <;> decide
  · rw [sink.labelNames_lokiChain]
    exact twice
  · rw [Fluentd.Store.labelNames_lokiLabel made]
    exact twice

end Output

end LogForwarder
