/-
Versions of TLS. The options name them in one way, and the settings of the fluentd dialect in
another with a word of their own in front.
-/

import LogForwarder.Options

namespace LogForwarder.Fluentd

/-- The minor number of a version of TLS that an option names. -/
def tlsMinor? (version : String) : Option String :=
  match version with
  | "VersionTLS10" => some "0"
  | "VersionTLS11" => some "1"
  | "VersionTLS12" => some "2"
  | "VersionTLS13" => some "3"
  | _ => none

/--
The lowest version of TLS that the options ask for, after a word. A name that is no version counts
as none.
-/
def minTlsVersion? (options : Options) (word : String) : Option String :=
  (options.minTlsVersion.bind tlsMinor?).map fun minor => s!"{word}1_{minor}"

/-- The version of TLS of a store. -/
def sslVersion (options : Options) : String := (minTlsVersion? options "TLSv").getD "TLSv1_2"

/-- The cipher suites of a store, if the options name any. -/
def cipherList? (options : Options) : Option String :=
  if options.ciphers.isEmpty then none else some (":".intercalate options.ciphers)

end LogForwarder.Fluentd
