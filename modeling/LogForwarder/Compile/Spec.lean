/-
Compilation: from a spec to the text of a configuration. The spec is brought into normal form and
checked; one with problems is rejected with all of them, any other is handed to its dialect.
-/

import LogForwarder.Check.Spec
import LogForwarder.Fluentd.Build
import LogForwarder.Vector.Build

namespace LogForwarder

/-- The elements of a spec in normal form. -/
def Dialect.build (dialect : Dialect) (spec : Spec) (secrets : SecretStore) (options : Options) :
    Except CompileError Arena :=
  match dialect with
  | .fluentd => Fluentd.build spec secrets options
  | .vector => Vector.build spec secrets options

/-- The text of a spec in normal form that has no problems. -/
def Dialect.generate (dialect : Dialect) (spec : Spec) (secrets : SecretStore) (options : Options) :
    Except CompileError String :=
  match dialect with
  | .fluentd => Fluentd.generate spec secrets options
  | .vector => Vector.generate spec secrets options

/-- The text of a spec. -/
def Spec.compile (spec : Spec) (secrets : SecretStore) (options : Options) (dialect : Dialect) :
    Except CompileError String :=
  match spec.problems secrets options dialect with
  | first :: others => .error (.rejected first others)
  | [] => dialect.generate spec.normalize secrets options

end LogForwarder
