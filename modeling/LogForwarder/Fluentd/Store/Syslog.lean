/-
Syslog outputs of the fluentd dialect. The parts of a message's head may depend on the record: such
a part is written as a placeholder, and the buffer then has to keep records apart by what stands in
it.
-/

import LogForwarder.Fluentd.Store.Basic
import LogForwarder.Text.Property

namespace LogForwarder.Fluentd

/-! ### Parts of the head -/

/-- What a part of the head of a message takes its value from. -/
inductive HeadPart
  /-- A field of the record. -/
  | field (path : String)
  /-- The tag of the record. -/
  | tag
  /-- A text with one step of the record's tag in it. -/
  | withTagStep (text : String)
  | plain (text : String)
  deriving DecidableEq

namespace HeadPart

/-- Whether a character may stand in the path of a field. -/
def isPathChar (c : Char) : Bool := Text.isAlphanumeric c || c = '_' || c = '.'

/-- Whether a text is the path of a field, such as `$.kubernetes.host`. -/
def isPath (chars : List Char) : Bool :=
  match chars with
  | '$' :: '.' :: rest => rest.all isPathChar
  | _ => false

/--
Whether some characters start with a number, which may be negative, and the end of a placeholder.
-/
def startsWithStep (chars : List Char) : Bool :=
  let unsigned := match chars with
    | '-' :: rest => rest
    | chars => chars
  !(unsigned.takeWhile Char.isDigit).isEmpty &&
    "]\x7d".toList.isPrefixOf (unsigned.dropWhile Char.isDigit)

/-- The start of a placeholder for one step of a tag. -/
def stepStart : List Char := "$\x7btag[".toList

/-- Whether there is a placeholder for one step of the record's tag in a text. -/
def hasTagStep : List Char → Bool
  | [] => false
  | c :: rest =>
    (stepStart.isPrefixOf (c :: rest) && startsWithStep ((c :: rest).drop stepStart.length)) ||
      hasTagStep rest

/-- What a text in the spec stands for. -/
def ofText (text : String) : HeadPart :=
  if isPath text.toList then .field text
  else if text = "tag" then .tag
  else if hasTagStep text.toList then .withTagStep text
  else .plain text

/-- What a text in the spec stands for, if there is one and it is not empty. -/
def ofText? (text? : Option String) : Option HeadPart := (text?.filter (!·.isEmpty)).map ofText

/-- A placeholder. -/
def placeholder (content : String) : String := "$\x7b" ++ content ++ "\x7d"

/-- A part of the head as it is written. -/
def text : HeadPart → String
  | .field path => placeholder path
  | .tag => placeholder "tag"
  | .withTagStep text => text
  | .plain text => text

/-- What the buffer has to keep records apart by for a part of the head. -/
def key? : HeadPart → Option String
  | .field path => some path
  | .tag => some "tag"
  | .withTagStep _ => some "tag"
  | .plain _ => none

end HeadPart

/-! ### Labels -/

namespace Store

/-- The port of a syslog server whose address names none. -/
def defaultSyslogPort : Nat := 514

/-- The settings of a syslog store. Only transport security needs any. -/
def syslogSettings (store : Store) (transport : SyslogTransport) : List Setting :=
  if transport = .tls then
    Setting.line "tls" "true" ++
      Setting.line? "ca_file" (store.secretFile? Secret.caBundle) ++
      Setting.line? "client_cert_path" (store.secretFile? Secret.clientCertificate) ++
      Setting.line? "private_key_path" (store.secretFile? Secret.clientKey) ++
      Setting.line? "private_key_passphrase" (store.secretExpression? Secret.passphrase) ++
      Setting.lineIf store.output.skipsVerification "verify_mode" "0"
  else []

/-- What the buffer of a syslog store keeps records apart by. -/
def syslogKeys (options : SyslogSection) : List String :=
  let texts :=
    [options.appName, options.msgId, options.procId, options.tag, options.facility,
      options.severity]
  ((texts.filterMap HeadPart.ofText?).filterMap (·.key?)).eraseDups

/-- A part of the head of a syslog message, if the spec has it. -/
def headText? (text? : Option String) : Option String := (HeadPart.ofText? text?).map (·.text)

/-- The label of a syslog output. -/
def syslogLabel (store : Store) : Except CompileError Element := do
  let address ← (Endpoint.hostPort store.output.url).mapError store.endpointError
  let transport := SyslogTransport.ofAddress store.output.url
  let options := store.output.syslog.getD default
  let oldPlugin := if store.options.useOldRemoteSyslogPlugin then some transport.oldPlugin else none
  return store.label Templates.syslog
    [("host", .text address.host), ("port", .integer (address.port?.getD defaultSyslogPort)),
      ("add_log_source", .boolean options.addLogSource), ("old_plugin", .ofText? oldPlugin),
      ("rfc", .text (options.rfc.getD .rfc5424).lowerName),
      ("facility", .text ((headText? options.facility).getD "user")),
      ("severity", .text ((headText? options.severity).getD "debug")),
      ("appname", .ofText? (headText? options.appName)),
      ("msgid", .ofText? (headText? options.msgId)),
      ("procid", .ofText? (headText? options.procId)),
      ("program", .ofText? (headText? options.tag)), ("protocol", .text transport.protocol),
      ("payload_key", .ofText? options.payloadKey),
      ("settings", Setting.params (store.syslogSettings transport)),
      ("buffer", (store.buffer "1s" (syslogKeys options)).param)]

end Store

end LogForwarder.Fluentd
