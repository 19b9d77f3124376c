/-
This file proves what it means that a configuration can be loaded. Its spec is the one that is
written in its own section, or the one in the file that the section names. A section that names a
file may not say itself what flows where, and it may say how records are buffered; but nothing of
that reaches the spec, which has the tuning of its file and no other. So what is written in the
section is kept if it names no file or has no tuning, and otherwise its tuning is lost.

Programs are followed in memory, where a run that succeeds comes apart into runs of its parts.
-/

import LogForwarder.Cli.Transcript
import LogForwarder.Proofs.Outcome

namespace LogForwarder

/-! ### Runs in memory -/

/-- Programs whose streams are a transcript and whose files are a tree. -/
abbrev InMemory : Type → Type := StateT Cli.Transcript (StateM FileTree)

/-- What a run in memory starts from, and what it leaves behind. -/
abbrev Memory : Type := Cli.Transcript × FileTree

namespace InMemory

variable {ε δ α β : Type}

/-- A run of a program in memory, with what it leaves behind. -/
def execute (program : InMemory α) (before : Memory) : α × Memory :=
  let ((value, transcript), files) := (program.run before.1).run before.2
  (value, transcript, files)

/-- Whether a program that succeeds comes to a value of some sort. -/
def ComesTo (program : ExceptT ε InMemory α) (sort : α → Prop) : Prop :=
  ∀ before value after, execute program.run before = (.ok value, after) → sort value

theorem exists_execute_eq {program : InMemory α} {before : Memory} {value : α}
    (comes : (execute program before).1 = value) :
    ∃ after, execute program before = (value, after) := ⟨_, Prod.ext comes rfl⟩

/-- A run that succeeds comes apart like its program. -/
theorem exists_of_execute_bind {program : ExceptT ε InMemory α}
    {rest : α → ExceptT ε InMemory β} {before after : Memory} {value : β}
    (succeeds : execute (program >>= rest).run before = (.ok value, after)) :
    ∃ first between, execute program.run before = (.ok first, between) ∧
      execute (rest first).run between = (.ok value, after) := by
  have apart : execute (program >>= rest).run before =
      execute (ExceptT.bindCont rest (execute program.run before).1)
        (execute program.run before).2 := rfl
  rcases outcome : execute program.run before with ⟨result, between⟩
  rw [apart, outcome] at succeeds
  cases result with
  | ok first => exact ⟨first, between, rfl, succeeds⟩
  | error error => cases congrArg Prod.fst succeeds

theorem execute_eq_of_adapt {program : ExceptT ε InMemory α} {wrap : ε → δ}
    {before after : Memory} {value : α}
    (succeeds : execute (program.adapt wrap).run before = (.ok value, after)) :
    execute program.run before = (.ok value, after) := by
  have adapted : execute (program.adapt wrap).run before =
      ((execute program.run before).1.mapError wrap, (execute program.run before).2) := rfl
  rw [adapted] at succeeds
  obtain ⟨comes, leaves⟩ := Prod.mk.inj succeeds
  exact Prod.ext (mapError_eq_ok_iff.mp comes) leaves

variable {sort : β → Prop}

/-- What the first part of a program comes to, the rest of it may rely on. -/
theorem ComesTo.bind {program : ExceptT ε InMemory α} {known : α → Prop}
    (first : ComesTo program known) {rest : α → ExceptT ε InMemory β}
    (second : ∀ value, known value → ComesTo (rest value) sort) :
    ComesTo (program >>= rest) sort := by
  intro before value after succeeds
  obtain ⟨middle, between, run, later⟩ := exists_of_execute_bind succeeds
  exact second middle (first before middle between run) between value after later

theorem comesTo_anything (program : ExceptT ε InMemory α) :
    ComesTo program fun _ => True := fun _ _ _ _ => trivial

theorem comesTo_pure {value : β} (isSort : sort value) :
    ComesTo (pure value : ExceptT ε InMemory β) sort := by
  intro before other after succeeds
  cases succeeds
  exact isSort

theorem comesTo_throw (error : ε) :
    ComesTo (throw error : ExceptT ε InMemory β) sort :=
  fun _ _ _ succeeds => nomatch congrArg Prod.fst succeeds

/-- A program that fails at its start comes to nothing. -/
theorem comesTo_throw_bind (error : ε) (rest : α → ExceptT ε InMemory β) :
    ComesTo (throw error >>= rest) sort := by
  have nothing : ComesTo (throw error : ExceptT ε InMemory α) fun _ => False :=
    comesTo_throw error
  exact nothing.bind fun _ never => never.elim

/-- A program that is run on a value if there is one comes to what it comes to on that value. -/
theorem comesTo_mapM {program : α → ExceptT ε InMemory β} {relates : β → α → Prop}
    (each : ∀ value, ComesTo (program value) (relates · value)) (value? : Option α) :
    ComesTo (value?.mapM program) (Option.Rel relates · value?) := by
  cases value? with
  | none => exact comesTo_pure .none
  | some value => exact (each value).bind fun result related => comesTo_pure (.some related)

end InMemory

open InMemory

/-! ### Files -/

/-- Whether a file of a tree has some text. -/
def FileTree.HasText (tree : FileTree) (path : FilePath) (text : String) : Prop :=
  ∃ bytes, tree.read path = .ok bytes ∧ String.fromUTF8? bytes = some text

/-- What is read from a file that is needed is its text. -/
theorem FileTree.hasText_of_readNeeded {before after : Memory} {path : FilePath} {text : String}
    (reads : execute (readNeeded path : ExceptT ConfigError InMemory String).run before =
      (.ok text, after)) : before.2.HasText path text := by
  have succeeds := execute_eq_of_adapt reads
  unfold Files.readText at succeeds
  obtain ⟨bytes, between, isRead, later⟩ := exists_of_execute_bind succeeds
  refine ⟨bytes, congrArg Prod.fst isRead, ?_⟩
  cases isText : String.fromUTF8? bytes with
  | none =>
    rw [isText] at later
    cases congrArg Prod.fst later
  | some other =>
    rw [isText] at later
    exact congrArg some (Except.ok.inj (congrArg Prod.fst later))

/-! ### Parts of configurations -/

section

variable {m : Type → Type} [Monad m] [Files m]

/-- The spec that a section stands for. -/
def ForwarderSection.load (base : FilePath) (forwarder : ForwarderSection) :
    ExceptT ConfigError m Spec :=
  match forwarder.specPath? with
  | none => pure forwarder.spec
  | some path => if forwarder.hasSpec then throw .twoSpecs else Spec.load (base.join path)

/-- The secrets that a section stands for. -/
def SecretsSection.load (base : FilePath) (secrets : SecretsSection) :
    ExceptT ConfigError m SecretStore :=
  match secrets.directory? with
  | none => pure (SecretStore.merge ∅ (.ofTexts secrets.inline))
  | some directory => do
    return (← SecretStore.load (base.join directory)).merge (.ofTexts secrets.inline)

/-- The configuration of a text, with the spec and the secrets that it refers to. -/
def ConfigText.resolved (written : ConfigText) (base : FilePath) (spec : Spec)
    (secrets : SecretStore) : Config where
  dialect := written.collector.dialect
  output? := written.collector.output?.map base.join
  spec := spec
  specPath? := written.forwarder.specPath?.map base.join
  secrets := secrets
  options := written.options
  logging := { written.logging with file? := written.logging.file?.map base.join }
  base := base

/-- A configuration is read section by section. -/
theorem Config.ofText_eq [LawfulMonad m] (base : FilePath) (text : String) :
    (ofText base text : ExceptT ConfigError m Config) =
      (do
        let written ← ExceptT.mk (pure ((ConfigText.codec.readToml text).mapError .unreadable))
        let spec ← written.forwarder.load base
        let secrets ← written.secrets.load base
        checked (written.resolved base spec secrets)) := by
  unfold ofText
  refine bind_congr fun written => ?_
  unfold ForwarderSection.load SecretsSection.load
  cases names : written.forwarder.specPath? with
  | none => cases written.secrets.directory? <;> simp [ConfigText.resolved, names]
  | some path =>
    cases written.forwarder.hasSpec with
    | true => simp
    | false => cases written.secrets.directory? <;> simp [ConfigText.resolved, names]

end

/-! ### Specs of configurations -/

theorem Spec.exists_of_load {before after : Memory} {path : FilePath} {spec : Spec}
    (loads : execute (load path : ExceptT ConfigError InMemory Spec).run before =
      (.ok spec, after)) :
    ∃ text, before.2.HasText path text ∧ ofText path text = .ok spec := by
  unfold load at loads
  obtain ⟨text, between, reads, later⟩ := exists_of_execute_bind loads
  exact ⟨text, FileTree.hasText_of_readNeeded reads, congrArg Prod.fst later⟩

namespace ForwarderSection

variable {forwarder : ForwarderSection} {base : FilePath}

/-- The spec that a section gives: its own, or that of the file that it names. -/
inductive Gives (forwarder : ForwarderSection) (base : FilePath) (files : FileTree) : Spec → Prop
  | inline (noPath : forwarder.specPath? = none) : forwarder.Gives base files forwarder.spec
  | ofFile {path : FilePath} {text : String} {spec : Spec}
      (names : forwarder.specPath? = some path) (noSpec : ¬forwarder.hasSpec)
      (isText : files.HasText (base.join path) text)
      (reads : Spec.ofText (base.join path) text = .ok spec) : forwarder.Gives base files spec

/-- Whether a section that names a file says nothing else about its spec. -/
def SaysOnce (forwarder : ForwarderSection) : Prop :=
  forwarder.specPath? = none ∨ forwarder.spec = .empty

theorem gives_of_load {before after : Memory} {spec : Spec}
    (loads : execute (forwarder.load base : ExceptT ConfigError InMemory Spec).run before =
      (.ok spec, after)) : forwarder.Gives base before.2 spec := by
  unfold load at loads
  split at loads
  · next noPath =>
    cases loads
    exact .inline noPath
  · next path names =>
    split at loads
    · cases congrArg Prod.fst loads
    · next noSpec =>
      obtain ⟨text, isText, reads⟩ := Spec.exists_of_load loads
      exact .ofFile names noSpec isText reads

/-- A section without inputs, outputs and pipelines has a tuning, or nothing at all. -/
theorem eq_empty_iff_of_not_hasSpec (noSpec : ¬forwarder.hasSpec) :
    forwarder.spec = .empty ↔ forwarder.spec.tuning = none := by
  have nothing : (forwarder.spec.inputs = [] ∧ forwarder.spec.outputs = []) ∧
      forwarder.spec.pipelines = [] := by
    simpa [hasSpec] using noSpec
  obtain ⟨⟨noInputs, noOutputs⟩, noPipelines⟩ := nothing
  constructor
  · intro isEmpty
    rw [isEmpty]
    rfl
  · intro noTuning
    show Spec.mk forwarder.spec.inputs forwarder.spec.outputs forwarder.spec.pipelines
      forwarder.spec.tuning = .empty
    rw [noInputs, noOutputs, noPipelines, noTuning]
    rfl

/-- A section that gives a spec says nothing else if it names no file or has no tuning. -/
theorem Gives.saysOnce_iff {files : FileTree} {spec : Spec}
    (gives : forwarder.Gives base files spec) :
    forwarder.SaysOnce ↔ forwarder.specPath? = none ∨ forwarder.spec.tuning = none := by
  unfold SaysOnce
  cases gives with
  | inline noPath => exact iff_of_true (.inl noPath) (.inl noPath)
  | ofFile names noSpec => rw [eq_empty_iff_of_not_hasSpec noSpec]

end ForwarderSection

/-! ### Configurations -/

namespace Config

theorem comesTo_checked (config : Config) :
    ComesTo (checked config : ExceptT ConfigError InMemory Config) (· = config) := by
  unfold checked
  dsimp only
  split
  · exact comesTo_throw_bind _ _
  · split
    · refine (comesTo_anything _).bind fun isDirectory _ => ?_
      split
      · exact comesTo_throw_bind _ _
      · split
        · exact comesTo_throw_bind _ _
        · exact comesTo_pure rfl
    · split
      · exact comesTo_throw_bind _ _
      · exact comesTo_pure rfl

/-- A configuration that can be read has the spec that its section gives. -/
theorem exists_of_ofText {base : FilePath} {text : String} {before after : Memory}
    {config : Config}
    (reads : execute (ofText base text : ExceptT ConfigError InMemory Config).run before =
      (.ok config, after)) :
    ∃ written spec secrets, ConfigText.codec.readToml text = .ok written ∧
      written.forwarder.Gives base before.2 spec ∧
      config = written.resolved base spec secrets := by
  rw [ofText_eq] at reads
  obtain ⟨written, _, isWritten, later⟩ := exists_of_execute_bind reads
  -- The text is read without a look at the files, so the spec is read from those there were before.
  obtain ⟨isRead, rfl⟩ := Prod.mk.inj isWritten
  obtain ⟨spec, _, isSpec, later⟩ := exists_of_execute_bind later
  obtain ⟨secrets, _, _, later⟩ := exists_of_execute_bind later
  exact ⟨written, spec, secrets, mapError_eq_ok_iff.mp isRead,
    ForwarderSection.gives_of_load isSpec, comesTo_checked _ _ _ _ later⟩

/-- A configuration is refused that names the file of its spec and says itself what flows where. -/
theorem execute_ofText_of_hasSpec {base : FilePath} {text : String} {written : ConfigText}
    (isRead : ConfigText.codec.readToml text = .ok written) {path : FilePath}
    (names : written.forwarder.specPath? = some path) (hasSpec : written.forwarder.hasSpec)
    (before : Memory) :
    execute (ofText base text : ExceptT ConfigError InMemory Config).run before =
      (.error .twoSpecs, before) := by
  rw [ofText_eq, isRead]
  have refused : (written.forwarder.load base : ExceptT ConfigError InMemory Spec) =
      throw .twoSpecs := by
    unfold ForwarderSection.load
    rw [names]
    exact if_pos hasSpec
  show execute ((written.forwarder.load base : ExceptT ConfigError InMemory Spec) >>= _).run
    before = _
  rw [refused]
  rfl

/--
A configuration that can be read has the spec that is written in its section if this names no file,
and otherwise the one of the file, in which case the section says nothing about what flows where.
The section says nothing else at all, so that nothing of it is lost, if it has no tuning either.
-/
theorem ofText_saysOnce_iff {base : FilePath} {text : String} {before after : Memory}
    {config : Config}
    (reads : execute (ofText base text : ExceptT ConfigError InMemory Config).run before =
      (.ok config, after)) :
    ∃ written, ConfigText.codec.readToml text = .ok written ∧
      written.forwarder.Gives base before.2 config.spec ∧
      (written.forwarder.SaysOnce ↔
        written.forwarder.specPath? = none ∨ written.forwarder.spec.tuning = none) := by
  obtain ⟨written, spec, secrets, isRead, gives, rfl⟩ := exists_of_ofText reads
  exact ⟨written, isRead, gives, gives.saysOnce_iff⟩

/-- A configuration that names the file of its spec. -/
def namingConfig : String :=
  "[collector]\ndialect = \"vector\"\n[forwarder]\nspec = \"spec.toml\"\n"

/-- A configuration that names the file of its spec, and that has a tuning beside it. -/
def tuningConfig : String := namingConfig ++ "[forwarder.tuning]\nflushThreadCount = 2\n"

/-- What a run starts from, with a spec of one pipeline in a file. -/
def specMemory : Memory :=
  (.blank "", FileTree.empty.put ["spec.toml"] (.file
    "[[pipelines]]\ninputRefs = [\"audit\"]\noutputRefs = [\"web\"]\n".toUTF8))

/-- A configuration that only names a file has the spec of the file, and nothing of it is lost. -/
theorem namingConfig_saysOnce :
    ∃ config after,
      execute (ofText .here namingConfig : ExceptT ConfigError InMemory Config).run specMemory =
        (.ok config, after) ∧
      ∃ written, ConfigText.codec.readToml namingConfig = .ok written ∧
        written.forwarder.specPath? = some ⟨"spec.toml"⟩ ∧
        written.forwarder.Gives .here specMemory.2 config.spec ∧ written.forwarder.SaysOnce := by
  have loaded : (execute (ofText .here namingConfig : ExceptT ConfigError InMemory Config).run
      specMemory).1.isOk := by
    decide +kernel
  have parsed : (ConfigText.codec.readToml namingConfig).toOption.map (fun written =>
      (written.forwarder.specPath?, written.forwarder.spec.tuning)) =
      some (some ⟨"spec.toml"⟩, none) := by
    decide +kernel
  obtain ⟨config, isLoaded⟩ := exists_of_isOk loaded
  obtain ⟨after, reads⟩ := exists_execute_eq isLoaded
  obtain ⟨written, isRead, gives, saysOnce⟩ := ofText_saysOnce_iff reads
  rw [isRead] at parsed
  obtain ⟨names, noTuning⟩ := Prod.mk.inj (Option.some.inj parsed)
  exact ⟨config, after, reads, written, isRead, names, gives, saysOnce.mpr (.inr noTuning)⟩

/-- With a tuning beside the name of the file, the tuning is lost. -/
theorem exists_not_saysOnce :
    ∃ config after written,
      execute (ofText .here tuningConfig : ExceptT ConfigError InMemory Config).run specMemory =
        (.ok config, after) ∧
      ConfigText.codec.readToml tuningConfig = .ok written ∧
      written.forwarder.specPath? = some ⟨"spec.toml"⟩ ∧
      written.forwarder.spec.tuning.bind (·.flushThreadCount) = some 2 ∧
      config.spec.tuning = none ∧ ¬written.forwarder.SaysOnce := by
  have loaded : (execute (ofText .here tuningConfig : ExceptT ConfigError InMemory Config).run
      specMemory).1.toOption.map (·.spec.tuning) = some none := by
    decide +kernel
  have parsed : (ConfigText.codec.readToml tuningConfig).toOption.map (fun written =>
      (written.forwarder.specPath?,
        written.forwarder.spec.tuning.bind (·.flushThreadCount))) =
      some (some ⟨"spec.toml"⟩, some 2) := by
    decide +kernel
  obtain ⟨config, isLoaded, noTuning⟩ := exists_of_toOption_map loaded
  obtain ⟨after, reads⟩ := exists_execute_eq isLoaded
  obtain ⟨written, isRead, found⟩ := exists_of_toOption_map parsed
  obtain ⟨names, tunes⟩ := Prod.mk.inj found
  refine ⟨config, after, written, reads, isRead, names, tunes, noTuning, ?_⟩
  rintro (noPath | isEmpty)
  · exact nomatch names.symm.trans noPath
  · rw [isEmpty] at tunes
    cases tunes

end Config

end LogForwarder
