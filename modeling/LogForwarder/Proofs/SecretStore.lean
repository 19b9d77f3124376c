/-
This file proves that a store of secrets has what it was given last. A secret that is put into the
store takes the place of the one before, whose other keys are gone; stores that are merged keep the
keys of both. So what is found at a key of a secret is decided by one step, the last one that says
anything about the key, however many steps there are on other keys and other secrets.

Whoever asks for a value is given text: bytes that are no text, and texts of blanks, are no values.
Whoever asks whether a key is there is answered by its bytes alone. A value is never without a key.
-/

import LogForwarder.Proofs.Lookup
import LogForwarder.Secret.Store

namespace LogForwarder

/-! ### Texts of bytes -/

theorem fromUTF8?_eq_some_iff (bytes : ByteArray) (text : String) :
    String.fromUTF8? bytes = some text ↔ text.toUTF8 = bytes := by
  unfold String.fromUTF8?
  constructor
  · intro decoded
    split at decoded
    · cases decoded
      rfl
    · cases decoded
  · rintro rfl
    exact dif_pos text.isValidUTF8

/-- The text of bytes is the text that they encode, without blanks around it, if it is more. -/
theorem Secret.textOf?_eq_some_iff (bytes : ByteArray) (text : String) :
    textOf? bytes = some text ↔
      ∃ content : String, content.toUTF8 = bytes ∧ Text.trim content = text ∧ text ≠ "" := by
  unfold textOf?
  simp only [Option.filter_eq_some_iff, Option.map_eq_some_iff, fromUTF8?_eq_some_iff]
  constructor
  · rintro ⟨⟨content, encodes, trims⟩, nonempty⟩
    exact ⟨content, encodes, trims, by simpa using nonempty⟩
  · rintro ⟨content, encodes, trims, nonempty⟩
    exact ⟨⟨content, encodes, trims⟩, by simpa using nonempty⟩

namespace SecretStore

variable {secrets : SecretStore} {name key : String}

theorem value?_eq_some_iff (text : String) :
    secrets.value? name key = some text ↔
      ∃ content : String, secrets.bytes? name key = some content.toUTF8 ∧
        Text.trim content = text ∧ text ≠ "" := by
  unfold value?
  rw [Option.bind_eq_some_iff]
  simp only [Secret.textOf?_eq_some_iff]
  constructor
  · rintro ⟨_, isBytes, content, rfl, trims⟩
    exact ⟨content, isBytes, trims⟩
  · rintro ⟨content, isBytes, trims⟩
    exact ⟨_, isBytes, content, rfl, trims⟩

theorem hasKey_iff :
    secrets.hasKey name key ↔
      ∃ bytes, secrets.bytes? name key = some bytes ∧ bytes ≠ ByteArray.empty := by
  unfold hasKey
  rw [Option.any_eq_true]
  refine exists_congr fun bytes => and_congr_right fun _ => ?_
  rw [Bool.not_eq_true', ← Bool.not_eq_true, ByteArray.isEmpty, beq_iff_eq, Ne,
    ByteArray.size_eq_zero_iff]

/-- The text at a key is never empty. -/
theorem value?_ne_empty {text : String} (found : secrets.value? name key = some text) :
    text ≠ "" := by
  obtain ⟨_, _, _, nonempty⟩ := (value?_eq_some_iff text).mp found
  exact nonempty

/-- A key with a text has bytes. -/
theorem hasKey_of_value? {text : String} (found : secrets.value? name key = some text) :
    secrets.hasKey name key = true := by
  obtain ⟨content, isBytes, rfl, nonempty⟩ := (value?_eq_some_iff _).mp found
  refine hasKey_iff.mpr ⟨_, isBytes, fun noBytes => nonempty ?_⟩
  -- No bytes at all are the empty text.
  have empty : content = "" := String.toByteArray_inj.mp noBytes
  rw [empty]
  rfl

/-! ### Steps -/

/-- What may be done to a store. -/
inductive Step
  /-- A secret takes the place of the one of its name. -/
  | insert (name : String) (secret : Secret)
  /-- The keys of another store take the places of those that the store has. -/
  | merge (incoming : SecretStore)

/-- A store after a step. -/
def Step.apply (secrets : SecretStore) : Step → SecretStore
  | .insert name secret => Dictionary.insert secrets name secret
  | .merge incoming => secrets.merge incoming

/-- The store after some steps, which was empty before them. -/
def run (steps : List Step) : SecretStore := steps.foldl Step.apply ∅

/-- Whether a step decides what is found at a key of a secret, and what that is. -/
inductive Step.Defines (name key : String) : Step → Option ByteArray → Prop
  /-- A secret that is put into the store has no keys but its own. -/
  | insert (secret : Secret) : Defines name key (.insert name secret) (secret.get? key)
  /-- A store that is merged into another one only counts for the keys that it has. -/
  | merge {incoming : SecretStore} {bytes : ByteArray}
      (found : incoming.bytes? name key = some bytes) :
      Defines name key (.merge incoming) (some bytes)

theorem bytes?_insert (secrets : SecretStore) (other : String) (secret : Secret)
    (name key : String) :
    bytes? (Dictionary.insert secrets other secret) name key =
      if name = other then secret.get? key else secrets.bytes? name key := by
  unfold bytes?
  rw [Dictionary.get?_insert]
  split <;> rfl

/-- Secrets of different names are united one by one with those that a store has. -/
theorem bytes?_foldl_union (entries : List (String × Secret))
    (distinct : (entries.map (·.1)).Nodup) (secrets : SecretStore) (name key : String) :
    bytes? (entries.foldl (fun merged entry => Dictionary.insert merged entry.1
        (((Dictionary.get? merged entry.1).getD ∅).union entry.2)) secrets) name key =
      ((entries.lookup name).bind (·.get? key)).or (secrets.bytes? name key) := by
  induction entries generalizing secrets with
  | nil => rfl
  | cons head rest inductionHypothesis =>
    obtain ⟨fresh, restDistinct⟩ := List.nodup_cons.mp distinct
    rw [List.foldl_cons, inductionHypothesis restDistinct, bytes?_insert, lookup_cons_eq_ite]
    by_cases same : name = head.1
    -- The names differ, so nothing that comes later touches the secret that is united here.
    · have notLater : rest.lookup name = none :=
        List.lookup_eq_none_iff.mpr fun entry member => by
          rw [bne_iff_ne]
          intro equal
          refine fresh (List.mem_map.mpr ⟨entry, member, ?_⟩)
          rw [← equal, same]
      have oldSecret : ((Dictionary.get? secrets name).getD ∅).get? key =
          secrets.bytes? name key := by
        unfold bytes?
        cases Dictionary.get? secrets name <;> rfl
      rw [notLater, if_pos same, if_pos same, ← same, Dictionary.get?_union, oldSecret]
      rfl
    · rw [if_neg same, if_neg same]

/-- Where two stores that are merged have the same key of a secret, the second one counts. -/
theorem bytes?_merge (first second : SecretStore) (name key : String) :
    (first.merge second).bytes? name key =
      (second.bytes? name key).or (first.bytes? name key) :=
  bytes?_foldl_union second.entries second.nodup_keys first name key

/-- What a step decides is found after it. -/
theorem Step.Defines.bytes?_apply {step : Step} {found : Option ByteArray}
    (defines : step.Defines name key found) (secrets : SecretStore) :
    (step.apply secrets).bytes? name key = found := by
  cases defines with
  | insert secret => exact (bytes?_insert secrets name secret name key).trans (if_pos rfl)
  | merge has => exact (bytes?_merge secrets _ name key).trans (by rw [has, Option.some_or])

/-- What a step does not decide is found as before. -/
theorem Step.bytes?_apply_of_not_defines {step : Step}
    (undefined : ∀ found, ¬step.Defines name key found) (secrets : SecretStore) :
    (step.apply secrets).bytes? name key = secrets.bytes? name key := by
  cases step with
  | insert other secret =>
    have different : name ≠ other := by
      rintro rfl
      exact undefined _ (.insert secret)
    exact (bytes?_insert secrets other secret name key).trans (if_neg different)
  | merge incoming =>
    have nothing : incoming.bytes? name key = none := by
      by_contra something
      obtain ⟨bytes, found⟩ := Option.ne_none_iff_exists'.mp something
      exact undefined _ (.merge found)
    exact (bytes?_merge secrets incoming name key).trans (by rw [nothing, Option.none_or])

/-! ### Runs -/

/-- What the last step that decides about a key of a secret has decided: nothing if there is none. -/
inductive IsLastDefined (name key : String) (steps : List Step) : Option ByteArray → Prop
  | never (undefined : ∀ step ∈ steps, ∀ found, ¬step.Defines name key found) :
      IsLastDefined name key steps none
  | last (before : List Step) {step : Step} {after : List Step} {found : Option ByteArray}
      (isAmong : steps = before ++ step :: after) (defines : step.Defines name key found)
      (undefined : ∀ later ∈ after, ∀ other, ¬later.Defines name key other) :
      IsLastDefined name key steps found

theorem bytes?_foldl_of_not_defines {steps : List Step}
    (undefined : ∀ step ∈ steps, ∀ found, ¬step.Defines name key found) (secrets : SecretStore) :
    (steps.foldl Step.apply secrets).bytes? name key = secrets.bytes? name key := by
  induction steps generalizing secrets with
  | nil => rfl
  | cons step rest inductionHypothesis =>
    obtain ⟨here, later⟩ := List.forall_mem_cons.mp undefined
    rw [List.foldl_cons, inductionHypothesis later, Step.bytes?_apply_of_not_defines here]

theorem IsLastDefined.bytes?_run {steps : List Step} {found : Option ByteArray}
    (isLast : IsLastDefined name key steps found) : (run steps).bytes? name key = found := by
  cases isLast with
  | never undefined => exact bytes?_foldl_of_not_defines undefined ∅
  | last before isAmong defines undefined =>
    rw [run, isAmong, List.foldl_append, List.foldl_cons, bytes?_foldl_of_not_defines undefined,
      defines.bytes?_apply]

/-- In every run some step is the last one that decides about a key, or none does. -/
theorem exists_isLastDefined (name key : String) (steps : List Step) :
    ∃ found, IsLastDefined name key steps found := by
  induction steps with
  | nil => exact ⟨none, .never fun _ absent => absurd absent List.not_mem_nil⟩
  | cons step rest inductionHypothesis =>
    obtain ⟨found, isLast⟩ := inductionHypothesis
    cases isLast with
    | last before isAmong defines undefined =>
      exact ⟨found, .last (step :: before) (congrArg (step :: ·) isAmong) defines undefined⟩
    | never undefined =>
      -- No later step decides, so this one is the last if it decides at all.
      by_cases defined : ∃ other, step.Defines name key other
      · obtain ⟨other, defines⟩ := defined
        exact ⟨other, .last [] rfl defines undefined⟩
      · exact ⟨none, .never (List.forall_mem_cons.mpr ⟨not_exists.mp defined, undefined⟩)⟩

/--
The bytes at a key of a secret are those of the last step that decides about the key, in every run
of steps on an empty store. The value is their text without blanks around it, if they are one and it
has more; the key is there if there are any bytes; and it is there wherever there is a value.
-/
theorem bytes?_run_eq_iff_isLastDefined (steps : List Step) (name key : String) :
    (∀ found, (run steps).bytes? name key = found ↔ IsLastDefined name key steps found) ∧
      (∀ text, (run steps).value? name key = some text ↔
        ∃ content : String, (run steps).bytes? name key = some content.toUTF8 ∧
          Text.trim content = text ∧ text ≠ "") ∧
      ((run steps).hasKey name key ↔
        ∃ bytes, (run steps).bytes? name key = some bytes ∧ bytes ≠ ByteArray.empty) ∧
      ((run steps).value? name key ≠ none → (run steps).hasKey name key) := by
  refine ⟨fun found => ⟨?_, IsLastDefined.bytes?_run⟩, value?_eq_some_iff, hasKey_iff, ?_⟩
  · rintro rfl
    obtain ⟨found, isLast⟩ := exists_isLastDefined name key steps
    exact isLast.bytes?_run ▸ isLast
  · intro hasValue
    obtain ⟨text, found⟩ := Option.ne_none_iff_exists'.mp hasValue
    exact hasKey_of_value? found

end SecretStore

end LogForwarder
