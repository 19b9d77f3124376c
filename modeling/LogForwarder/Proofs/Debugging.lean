/-
This file proves that a configuration for debugging shows nothing of outputs and secrets. When
debugging, the console takes the place of all outputs, so that a configuration is what it would be
if the spec had no outputs, no tuning and no secrets at all. Two specs that collect the same records
in the same pipelines thus give the same text, whatever they differ in beyond that.
-/

import LogForwarder.Compile.Spec
import LogForwarder.Proofs.Vector.Order
import LogForwarder.Proofs.Vector.Routing

namespace LogForwarder

/-- A spec that collects the same records, and sends them nowhere. -/
def Spec.withoutOutputs (spec : Spec) : Spec := { spec with outputs := [], tuning := none }

/-- Specs with the same inputs and the same pipelines collect the same records. -/
theorem Spec.withoutOutputs_eq {first second : Spec} (sameInputs : first.inputs = second.inputs)
    (samePipelines : first.pipelines = second.pipelines) :
    first.withoutOutputs = second.withoutOutputs := by
  unfold withoutOutputs
  rw [sameInputs, samePipelines]

section Debugging

variable {options : Options} (debug : options.debug = true) (spec : Spec) (secrets : SecretStore)

include debug

/-! ### Without outputs -/

theorem Vector.build_withoutOutputs :
    build spec.withoutOutputs ∅ options = build spec secrets options := by
  -- What comes before the outputs is made of inputs and pipelines, by definition.
  have upToPipelines : upToPipelines spec.withoutOutputs = upToPipelines spec := rfl
  have consoles : debugSinks spec.withoutOutputs = debugSinks spec := rfl
  unfold build
  simp only [upToPipelines, consoles, debug, if_true]

theorem Fluentd.build_withoutOutputs :
    build spec.withoutOutputs ∅ options = build spec secrets options := by
  -- Labels are taken from names in references: whether an output has that name is not asked.
  have upToPipelines : upToPipelines spec.withoutOutputs options = upToPipelines spec options := rfl
  have routing : Routing.ofSpec spec.withoutOutputs options = Routing.ofSpec spec options := rfl
  unfold build
  simp only [upToPipelines, routing, debug, if_true, List.foldlM_nil]

theorem Dialect.generate_withoutOutputs (dialect : Dialect) :
    dialect.generate spec.withoutOutputs ∅ options = dialect.generate spec secrets options := by
  cases dialect with
  | vector =>
    show Vector.generate _ _ _ = Vector.generate _ _ _
    unfold Vector.generate
    rw [Vector.build_withoutOutputs debug spec secrets]
  | fluentd =>
    show Fluentd.generate _ _ _ = Fluentd.generate _ _ _
    unfold Fluentd.generate
    rw [Fluentd.build_withoutOutputs debug spec secrets]

end Debugging

/-! ### Consoles -/

/-- Whether an element is a console that shows the records of a pipeline. -/
structure Vector.IsConsoleOf (pipeline : Pipeline) (element : Element) : Prop where
  id : element.id = Name.componentId pipeline.name ++ "_debug"
  /-- The pipeline is the only thing that is read. -/
  inputs : element.inputs = [Name.componentId pipeline.name]
  template : element.template = Templates.console.name

theorem Vector.isConsoleOf_debugSink (pipeline : Pipeline) :
    IsConsoleOf pipeline (debugSink pipeline) where
  id := rfl
  inputs := rfl
  template := rfl

/-- When debugging, the sinks of a configuration are the consoles of its pipelines. -/
theorem Vector.sinks_of_build_debug {spec : Spec} {secrets : SecretStore} {options : Options}
    {arena : Arena} (debug : options.debug = true)
    (built : build spec secrets options = .ok arena) : arena.ofStage .sink = debugSinks spec := by
  have noSink : (upToPipelines spec).filter (·.stage = .sink) = [] :=
    List.filter_eq_nil_iff.mpr fun element member isSink =>
      stage_ne_sink_of_mem_upToPipelines member (of_decide_eq_true isSink)
  have allSinks : (debugSinks spec).filter (·.stage = .sink) = debugSinks spec := by
    refine List.filter_eq_self.mpr fun element member => ?_
    obtain ⟨pipeline, _, rfl⟩ := List.mem_map.mp member
    rfl
  unfold Arena.ofStage
  rw [elements_of_build_debug debug built, List.filter_append, noSink, allSinks, List.nil_append]

namespace Spec

/-! ### Texts -/

/--
When debugging, specs that collect the same records in the same pipelines give the same text, or
the same error, and the only sinks are the consoles of the pipelines.
-/
theorem compile_eq_of_debug (options : Options) (debug : options.debug = true) :
    (∀ (dialect : Dialect) (first second : Spec) (firstSecrets secondSecrets : SecretStore),
      first.problems firstSecrets options dialect = [] →
      second.problems secondSecrets options dialect = [] →
      first.normalize.inputs = second.normalize.inputs →
      first.normalize.pipelines = second.normalize.pipelines →
        first.compile firstSecrets options dialect =
          second.compile secondSecrets options dialect) ∧
      ∀ (spec : Spec) (secrets : SecretStore) (arena : Arena),
        Vector.build spec.normalize secrets options = .ok arena →
          List.Forall₂ Vector.IsConsoleOf spec.normalize.pipelines (arena.ofStage .sink) := by
  refine ⟨?_, ?_⟩
  · intro dialect first second firstSecrets secondSecrets firstClean secondClean sameInputs
      samePipelines
    have alike := withoutOutputs_eq sameInputs samePipelines
    unfold compile
    rw [firstClean, secondClean]
    calc dialect.generate first.normalize firstSecrets options
        = dialect.generate first.normalize.withoutOutputs ∅ options :=
          (Dialect.generate_withoutOutputs debug _ _ dialect).symm
      _ = dialect.generate second.normalize.withoutOutputs ∅ options := by rw [alike]
      _ = dialect.generate second.normalize secondSecrets options :=
          Dialect.generate_withoutOutputs debug _ _ dialect
  · intro spec secrets arena built
    rw [Vector.sinks_of_build_debug debug built, Vector.debugSinks, List.forall₂_map_right_iff]
    exact List.forall₂_same.mpr fun pipeline _ => Vector.isConsoleOf_debugSink pipeline

/-- Records of people and of audits, on their way to some output. -/
def toOutput (output : Output) (tuning : Option Tuning) : Spec where
  inputs := [⟨"people", some ⟨["shop"], none⟩, none, none⟩]
  outputs := [output]
  pipelines := [⟨some "all", ["people", "audit"], ["out"], ∅, none⟩]
  tuning := tuning

/-- Records on their way to a web server that asks for a password. -/
def toWebServer : Spec :=
  toOutput { Output.bare "out" .http with url? := some "https://[::1]", secretName := some "web" }
    none

/-- The name and the password for the web server. -/
def webSecret : SecretStore :=
  .ofList [("web", .ofList [(Secret.username, "user".toUTF8), (Secret.password, "secret".toUTF8)])]

/-- The same records on their way to a queue, in large pieces. -/
def toQueue : Spec :=
  toOutput { Output.bare "out" .kafka with url? := some "tls://[::1]:9093" }
    (some { (default : Tuning) with flushThreadCount := some 8 })

/-- Options for debugging. -/
def debugging : Options := { Options.standard with debug := true }

/-- Nobody can tell from a configuration for debugging where the records are to go. -/
theorem compile_eq_of_debug_toWebServer :
    (∀ dialect : Dialect,
      toWebServer.problems webSecret debugging dialect = [] ∧
      toQueue.problems ∅ debugging dialect = [] ∧
      toWebServer.compile webSecret debugging dialect = toQueue.compile ∅ debugging dialect) ∧
      ∃ arena, Vector.build toWebServer.normalize webSecret debugging = .ok arena ∧
        List.Forall₂ Vector.IsConsoleOf toWebServer.normalize.pipelines (arena.ofStage .sink) := by
  obtain ⟨sameTexts, consoles⟩ := compile_eq_of_debug debugging rfl
  refine ⟨fun dialect => ?_, ?_⟩
  · have clean : toWebServer.problems webSecret debugging dialect = [] ∧
        toQueue.problems ∅ debugging dialect = [] := by
      cases dialect <;> decide
    exact ⟨clean.1, clean.2, sameTexts dialect _ _ _ _ clean.1 clean.2 (by decide)
      (by decide)⟩
  · have succeeds : (Vector.build toWebServer.normalize webSecret debugging).isOk := by
      decide
    obtain ⟨arena, built⟩ := exists_of_isOk succeeds
    exact ⟨arena, built, consoles _ _ _ built⟩

end Spec

end LogForwarder
