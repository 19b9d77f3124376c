/-
Milestones as events: in which module each milestone of a compilation happens, how much it matters
and what is told about it.
-/

import LogForwarder.Compile.Milestone
import LogForwarder.Log.Event

namespace LogForwarder

/-- The module that makes the text of a dialect. -/
def Dialect.moduleName (dialect : Dialect) : String := s!"clf_lang::{dialect.name}"

/-- What the console sinks of a dialect are called. -/
def Dialect.consoleWord : Dialect → String
  | .fluentd => "stdout"
  | .vector => "console sinks"

/-- What the elements of an output are called in a dialect. -/
def Dialect.outputWord : Dialect → String
  | .fluentd => "store label"
  | .vector => "sink chain"

/-- The event of a milestone. -/
def Milestone.event : Milestone → LogEvent
  | .rejected dialect problems =>
    ⟨.debug, "clf_lang::compiler", none, "spec rejected",
      [("dialect", .plain dialect.name), ("errors", .count problems)]⟩
  | .routed pipelines outputs =>
    ⟨.trace, "clf_lang::routes", none, "routes planned",
      [("pipelines", .count pipelines), ("outputs", .count outputs)]⟩
  | .started dialect pipelines outputs debug =>
    ⟨.debug, "clf_lang::compiler", none, "compiling forwarder",
      [("dialect", .plain dialect.name), ("pipelines", .count pipelines),
        ("outputs", .count outputs), ("debug", .flag debug)]⟩
  | .kindRouted kind direct selected =>
    ⟨.trace, "clf_lang::fluentd::routing", none, "kind label",
      [("kind", .plain kind.name), ("direct", .count direct), ("selected", .count selected)]⟩
  | .outputsSkipped dialect outputs =>
    ⟨.debug, dialect.moduleName, none, s!"debug mode: outputs replaced by {dialect.consoleWord}",
      [("skipped", .count outputs)]⟩
  | .outputReached dialect output strategy =>
    ⟨.debug, dialect.moduleName, none, dialect.outputWord,
      [("output", .plain output), ("strategy", .quoted strategy)]⟩
  | .syslogStored output protocol usesOldPlugin =>
    ⟨.trace, "clf_lang::fluentd::stores::syslog", none, "syslog store",
      [("output", .plain output), ("protocol", .quoted protocol),
        ("old_plugin", .flag usesOldPlugin)]⟩
  | .built dialect elements =>
    ⟨.debug, dialect.moduleName, none, s!"{dialect.name} elements built",
      [("elements", .count elements)]⟩
  | .templatesReady templates =>
    ⟨.trace, "clf_lang::template", none, "template engine ready", [("templates", .count templates)]⟩
  | .compiled dialect bytes =>
    ⟨.debug, "clf_lang::compiler", none, "forwarder compiled",
      [("dialect", .plain dialect.name), ("bytes", .count bytes)]⟩

end LogForwarder
