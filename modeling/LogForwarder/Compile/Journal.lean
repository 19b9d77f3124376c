/-
The journal of a compilation: all its milestones, up to the text or to the first failure. Each
dialect has milestones of its own while a configuration is built.
-/

import LogForwarder.Compile.Milestone
import LogForwarder.Compile.Spec

namespace LogForwarder.Fluentd

/-- The milestones of the kinds that go anywhere. -/
def kindMilestones (spec : Spec) (options : Options) : List Milestone :=
  (Routing.ofSpec spec options).map fun route =>
    .kindRouted route.kind route.direct.length route.selected.length

/--
The milestones of one output. That of a syslog store comes only after its address has been read.
-/
def outputMilestonesOf (spec : Spec) (secrets : SecretStore) (options : Options) (output : Output) :
    List Milestone :=
  let stored : List Milestone :=
    match output.type, (Store.ofOutput spec secrets options output).outputLabel with
    | .syslog, .ok _ =>
      [.syslogStored output.name (SyslogTransport.ofAddress output.url).protocol
        options.useOldRemoteSyslogPlugin]
    | _, _ => []
  .outputReached .fluentd output.name (output.strategy secrets options) :: stored

/-- The milestones of building the elements of a spec in normal form. -/
def buildMilestones (spec : Spec) (secrets : SecretStore) (options : Options) : List Milestone :=
  kindMilestones spec options ++
    match Arena.empty.extended (upToPipelines spec options) with
    | .error _ => []
    | .ok arena =>
      (if options.debug then [.outputsSkipped .fluentd spec.routedOutputs.length]
        else
          (reached (addOutput spec secrets options) arena spec.routedOutputs).flatMap
            (outputMilestonesOf spec secrets options)) ++
        match build spec secrets options with
        | .ok built => [.built .fluentd built.elements.length]
        | .error _ => []

end LogForwarder.Fluentd

namespace LogForwarder.Vector

/-- The milestones of the outputs, when `arena` has the elements that come before them. -/
def outputMilestones (spec : Spec) (secrets : SecretStore) (options : Options) (arena : Arena) :
    List Milestone :=
  (reached (addChain spec secrets options) arena spec.routedOutputs).map fun output =>
    .outputReached .vector output.name (output.strategy secrets options)

/-- The milestones of building the elements of a spec in normal form. -/
def buildMilestones (spec : Spec) (secrets : SecretStore) (options : Options) : List Milestone :=
  match Arena.empty.extended (upToPipelines spec) with
  | .error _ => []
  | .ok arena =>
    if options.debug then [.outputsSkipped .vector spec.routedOutputs.length]
    else
      outputMilestones spec secrets options arena ++
        match build spec secrets options with
        | .ok built => [.built .vector built.elements.length]
        | .error _ => []

end LogForwarder.Vector

namespace LogForwarder

namespace Dialect

/-- The engine with the templates of a dialect. -/
def engine : Dialect → Except Template.RegisterError Template.Engine
  | .fluentd => Fluentd.Templates.engine
  | .vector => Vector.Templates.engine

/-- The milestones of building the elements of a spec in normal form. -/
def buildMilestones (dialect : Dialect) (spec : Spec) (secrets : SecretStore) (options : Options) :
    List Milestone :=
  match dialect with
  | .fluentd => Fluentd.buildMilestones spec secrets options
  | .vector => Vector.buildMilestones spec secrets options

/-- The milestone of an engine whose templates are all in place, for elements that are all built. -/
def engineMilestones (dialect : Dialect) (spec : Spec) (secrets : SecretStore) (options : Options) :
    List Milestone :=
  match dialect.build spec secrets options, dialect.engine with
  | .ok _, .ok engine => [.templatesReady engine.names.length]
  | _, _ => []

end Dialect

namespace Spec

/-- The milestone of the routes of a spec in normal form. -/
def routeMilestone (spec : Spec) : Milestone :=
  .routed spec.pipelines.length spec.routes.orderedOutputs.length

/-- The journal of the compilation of a spec in normal form that has no problems. -/
def generateJournal (spec : Spec) (secrets : SecretStore) (options : Options) (dialect : Dialect) :
    List Milestone :=
  [spec.routeMilestone,
    .started dialect spec.pipelines.length spec.routes.orderedOutputs.length options.debug] ++
    dialect.buildMilestones spec secrets options ++
    dialect.engineMilestones spec secrets options ++
    match dialect.generate spec secrets options with
    | .ok text => [.compiled dialect text.utf8ByteSize]
    | .error _ => []

/-- The journal of the compilation of a spec. -/
def journal (spec : Spec) (secrets : SecretStore) (options : Options) (dialect : Dialect) :
    List Milestone :=
  match spec.problems secrets options dialect with
  | [] => spec.normalize.generateJournal secrets options dialect
  | problems => [.rejected dialect problems.length]

end Spec

end LogForwarder
