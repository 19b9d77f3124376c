/-
Milestones: what a compilation gets done on its way to a text, in the order in which it happens. One
that fails has the milestones up to its failure.
-/

import LogForwarder.Dialect
import LogForwarder.Secret.Credentials
import LogForwarder.Spec.Basic

namespace LogForwarder

/-- Something that a compilation gets done. -/
inductive Milestone
  | rejected (dialect : Dialect) (problems : Nat)
  | routed (pipelines outputs : Nat)
  | started (dialect : Dialect) (pipelines outputs : Nat) (debug : Bool)
  /--
  A kind has its label, with the numbers of pipelines that read all of it and of those that select
  from it.
  -/
  | kindRouted (kind : LogKind) (direct selected : Nat)
  /-- All outputs are left out, for debugging. -/
  | outputsSkipped (dialect : Dialect) (outputs : Nat)
  | outputReached (dialect : Dialect) (output strategy : String)
  | syslogStored (output protocol : String) (usesOldPlugin : Bool)
  | built (dialect : Dialect) (elements : Nat)
  | templatesReady (templates : Nat)
  | compiled (dialect : Dialect) (bytes : Nat)
  deriving DecidableEq

/-- The name of the way in which an output proves who it is, even if it cannot. -/
def Output.strategy (output : Output) (secrets : SecretStore) (options : Options) : String :=
  match output.credentials secrets options with
  | .ok credentials => credentials.strategy
  | .error _ => "error"

/-- The items that a fold gets to: all of them, or those up to the first one that it fails at. -/
def reached {α β ε : Type} (step : β → α → Except ε β) (state : β) : List α → List α
  | [] => []
  | item :: rest =>
    item ::
      match step state item with
      | .ok next => reached step next rest
      | .error _ => []

end LogForwarder
