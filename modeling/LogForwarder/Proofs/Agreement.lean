/-
This file proves that both dialects route records alike. In one, elements read from each other by
their inputs; in the other, labels hand records on to each other by their parameters. Whichever way
one walks, one comes from a kind to an output exactly if the plan of the spec says that the kind
flows there, and so what a spec means does not depend on the dialect that it is written out in.

It also proves that a configuration refers to nothing that is not there. In either dialect the
inputs of an element name elements before it, and branches that a router before it has; so no input
dangles, and no element reads from itself by a detour. In the dialect that hands records on by
labels, all labels that templates are given belong to elements. None of this needs more than that no
problems were reported for the spec, and it holds when debugging as well.
-/

import LogForwarder.Proofs.Fluentd.Compile
import LogForwarder.Proofs.Fluentd.Order
import LogForwarder.Proofs.Fluentd.Routing
import LogForwarder.Proofs.Vector.Order
import LogForwarder.Proofs.Vector.Routing

namespace LogForwarder

/-- Whether an arena joins kinds with the outputs that pipelines lead to just as a plan has it. -/
def Arena.Realizes (arena : Arena) (spec : Spec) (edge : String → String → Prop)
    (idOfKind : LogKind → String) (idOfOutput : String → String) : Prop :=
  ∀ kind, ∀ output ∈ spec.outputs, spec.Routes output.name →
    (arena.Joins edge (idOfKind kind) (idOfOutput output.name) ↔
      kind ∈ spec.routes.kindsFor spec output.name)

/-- An arena that realizes a plan joins a kind with an output of a name as the plan has it. -/
theorem Arena.Realizes.joins_iff {arena : Arena} {spec : Spec} {edge : String → String → Prop}
    {idOfKind : LogKind → String} {idOfOutput : String → String}
    (realizes : arena.Realizes spec edge idOfKind idOfOutput) (kind : LogKind) (name : String)
    (declared : ∃ output ∈ spec.outputs, output.name = name) (routed : spec.Routes name) :
    arena.Joins edge (idOfKind kind) (idOfOutput name) ↔
      kind ∈ spec.routes.kindsFor spec name := by
  obtain ⟨output, isOutput, rfl⟩ := declared
  exact realizes kind output isOutput routed

namespace Spec

/--
Both dialects route records as the plan of a clean spec says. The sinks of the vector dialect are
those of the outputs that pipelines lead to, one each, and that of the collector's own metrics.
-/
theorem realizes_of_build (spec : Spec) (secrets : SecretStore) (options : Options)
    (noDebug : options.debug = false) :
    (∀ arena, spec.problems secrets options .vector = [] →
      Vector.build spec.normalize secrets options = .ok arena →
        arena.Realizes spec.normalize arena.Feeds LogKind.name Name.componentId ∧
          (arena.ofStage .sink).map (·.id) =
            (spec.normalize.outputs.filter (spec.normalize.Routes ·.name)).map
              (fun output => Name.componentId output.name) ++ [Vector.Id.prometheusOutput] ∧
          ((arena.ofStage .sink).map (·.id)).Nodup) ∧
      ∀ arena, spec.problems secrets options .fluentd = [] →
        Fluentd.build spec.normalize secrets options = .ok arena →
          arena.Realizes spec.normalize arena.Hands Fluentd.Label.ofKind Name.label := by
  refine ⟨?_, ?_⟩
  · intro arena clean built
    have ready := spec.isReady_normalize clean
    refine ⟨?_, ?_, ?_⟩
    · intro kind output declared routed
      rw [mem_kindsFor]
      exact Vector.joins_output_iff ready noDebug built declared routed kind
    · rw [Vector.sinks_of_build ready.clean noDebug built,
        spec.normalize.routedOutputs_eq ready.clean.outputsDistinct]
    · exact arena.distinct.sublist (List.filter_sublist.map _)
  · intro arena clean built kind output declared routed
    rw [mem_kindsFor]
    exact Fluentd.joins_output_iff (spec.isReady_normalize clean) noDebug built declared routed kind

/-- Records of one namespace go to a collector, and all application and audit records to a stack. -/
def collectorAndStack : Spec where
  inputs := [⟨"web", some ⟨["shop"], none⟩, none, none⟩]
  outputs :=
    [{ Output.bare "ls" .lokistack with
        lokistack := some { (default : LokiStackSection) with target := ⟨"[::1]/", "ns"⟩ } },
      { Output.bare "collector" .http with url? := some "http://[::1]" }]
  pipelines :=
    [⟨some "shop", ["web"], ["collector"], ∅, none⟩,
      ⟨some "rest", ["application", "audit"], ["ls"], ∅, none⟩]
  tuning := none

theorem clean_collectorAndStack (dialect : Dialect) :
    collectorAndStack.problems ∅ .standard dialect = [] := by
  cases dialect <;> decide

theorem exists_vector_build_collectorAndStack :
    ∃ arena, Vector.build collectorAndStack.normalize ∅ .standard = .ok arena :=
  exists_of_isOk (by decide +kernel)

/--
Application records go to the collector and to their tenant, but not to that of audit records.
-/
theorem realizes_collectorAndStack :
    (∃ arena, Vector.build collectorAndStack.normalize ∅ .standard = .ok arena ∧
      arena.Joins arena.Feeds LogKind.application.name (Name.componentId "collector") ∧
      arena.Joins arena.Feeds LogKind.application.name (Name.componentId "ls-application") ∧
      ¬arena.Joins arena.Feeds LogKind.application.name (Name.componentId "ls-audit") ∧
      (arena.ofStage .sink).map (·.id) =
        ["collector", "ls-application", "ls-audit", "prometheus_output"]) ∧
      ∃ arena, Fluentd.build collectorAndStack.normalize ∅ .standard = .ok arena ∧
        arena.Joins arena.Hands (Fluentd.Label.ofKind .application) (Name.label "collector") ∧
        arena.Joins arena.Hands (Fluentd.Label.ofKind .application)
          (Name.label "ls-application") ∧
        ¬arena.Joins arena.Hands (Fluentd.Label.ofKind .application) (Name.label "ls-audit") := by
  obtain ⟨vector, fluentd⟩ := realizes_of_build collectorAndStack ∅ .standard rfl
  have names : ∀ name ∈ ["collector", "ls-application", "ls-audit"],
      (∃ output ∈ collectorAndStack.normalize.outputs, output.name = name) ∧
        collectorAndStack.normalize.Routes name := by
    decide
  have planned : ∀ name ∈ ["collector", "ls-application"], .application ∈
      collectorAndStack.normalize.routes.kindsFor collectorAndStack.normalize name := by
    decide
  have apart : .application ∉ collectorAndStack.normalize.routes.kindsFor
      collectorAndStack.normalize "ls-audit" := by
    decide
  refine ⟨?_, ?_⟩
  · obtain ⟨arena, built⟩ := exists_vector_build_collectorAndStack
    obtain ⟨realizes, sinks, _⟩ := vector arena (clean_collectorAndStack .vector) built
    have joins (name : String) (isName : name ∈ ["collector", "ls-application", "ls-audit"]) :=
      realizes.joins_iff .application name (names name isName).1 (names name isName).2
    refine ⟨arena, built, (joins _ (by decide)).mpr (planned _ (by decide)),
      (joins _ (by decide)).mpr (planned _ (by decide)), (joins _ (by decide)).not.mpr apart, ?_⟩
    rw [sinks]
    decide
  · have clean := clean_collectorAndStack .fluentd
    obtain ⟨arena, built⟩ := exists_fluentd_build clean
    have realizes := fluentd arena clean built
    have joins (name : String) (isName : name ∈ ["collector", "ls-application", "ls-audit"]) :=
      realizes.joins_iff .application name (names name isName).1 (names name isName).2
    exact ⟨arena, built, (joins _ (by decide)).mpr (planned _ (by decide)),
      (joins _ (by decide)).mpr (planned _ (by decide)), (joins _ (by decide)).not.mpr apart⟩

/-! ### References -/

/-- Inputs and labels of a configuration that is built from a spec without problems are all there. -/
theorem isResolved_of_build (spec : Spec) (secrets : SecretStore) (options : Options)
    (dialect : Dialect) {arena : Arena} (clean : spec.problems secrets options dialect = [])
    (built : dialect.build spec.normalize secrets options = .ok arena) :
    arena.IsResolved ∧
      (dialect = .fluentd → ∀ element ∈ arena.elements, element.namedLabels ⊆ arena.ids) := by
  have isClean := (spec.isReady_normalize clean).clean
  cases dialect with
  | fluentd =>
    refine ⟨arena.isResolved_of_inOrder (Fluentd.inOrder_of_build built), ?_⟩
    intro _ element member
    exact Fluentd.namedLabels_subset_ids isClean built member
  | vector =>
    refine ⟨arena.isResolved_of_inOrder (Vector.inOrder_of_build isClean built), ?_⟩
    intro isFluentd
    cases isFluentd

/-- Both configurations of a spec with a selector and a stack are resolved. -/
theorem isResolved_collectorAndStack :
    (∃ arena, Vector.build collectorAndStack.normalize ∅ .standard = .ok arena ∧
      arena.IsResolved) ∧
      ∃ arena, Fluentd.build collectorAndStack.normalize ∅ .standard = .ok arena ∧
        arena.IsResolved ∧ ∀ element ∈ arena.elements, element.namedLabels ⊆ arena.ids := by
  refine ⟨?_, ?_⟩
  · obtain ⟨arena, built⟩ := exists_vector_build_collectorAndStack
    have resolved := isResolved_of_build collectorAndStack ∅ .standard .vector
      (clean_collectorAndStack .vector) built
    exact ⟨arena, built, resolved.1⟩
  · have clean := clean_collectorAndStack .fluentd
    obtain ⟨arena, built⟩ := exists_fluentd_build clean
    have resolved := isResolved_of_build collectorAndStack ∅ .standard .fluentd clean built
    exact ⟨arena, built, resolved.1, resolved.2 rfl⟩

end Spec

end LogForwarder
