/-
Endpoints of outputs: the addresses that outputs of all types are given by, the brokers and the
topic of kafka outputs, and the transport of syslog outputs.
-/

import LogForwarder.Spec.Output
import LogForwarder.Url.Basic

namespace LogForwarder

/-! ### Addresses -/

/-- Why a text is not the address of an endpoint. -/
inductive EndpointError
  | noScheme (address : String)
  | invalidUrl (address : String) (error : Url.UrlError)
  | noHost (address : String)
  | invalidPort (address : String)
  | missingHost (address : String)
  | emptyAddress
  | noBrokers
  deriving DecidableEq

/-- The text that reports why a text is not the address of an endpoint. -/
def EndpointError.message : EndpointError → String
  | .noScheme address => s!"url {Text.quoted address} has no scheme"
  | .invalidUrl address error => s!"invalid url {Text.quoted address}: {error.message}"
  | .noHost address => s!"url {Text.quoted address} has no host"
  | .invalidPort address => s!"invalid port in {Text.quoted address}"
  | .missingHost address => s!"missing host in {Text.quoted address}"
  | .emptyAddress => "empty address"
  | .noBrokers => "kafka requires brokers or url"

/-- A host, and a port if it is known. -/
structure HostPort where
  host : String
  port? : Option Nat
  deriving DecidableEq

namespace Endpoint

/-- The characters before and after the mark between a scheme and a host, if there is one. -/
def splitScheme? : List Char → Option (List Char × List Char)
  | [] => none
  | ':' :: '/' :: '/' :: rest => some ([], rest)
  | c :: rest => (splitScheme? rest).map fun (before, after) => (c :: before, after)

/--
The scheme in front of an address in lower case, as far as one can see without reading the address.
-/
def scheme? (address : String) : Option String :=
  (splitScheme? address.toList).map fun (scheme, _) => String.ofList (scheme.map Char.toLower)

/-- The address with a scheme and a host that a text stands for. -/
def readUrl (address : String) : Except EndpointError Url :=
  if (scheme? address).isNone then .error (.noScheme address)
  else
    match Url.read address with
    | .error error => .error (.invalidUrl address error)
    | .ok url => if url.host?.isNone then .error (.noHost address) else .ok url

/-- The port that a text stands for; a plus sign in front of the digits is allowed. -/
def readPort? (chars : List Char) : Option Nat :=
  match chars with
  | '+' :: digits => Text.numeral? Url.maxPort digits
  | digits => Text.numeral? Url.maxPort digits

/-- The host and port of an address without a scheme. -/
def readPlain (address : String) : Except EndpointError HostPort :=
  let chars := Text.dropWhileEnd (· = '/') address.toList
  match chars.reverse.dropWhile (· ≠ ':') with
  | [] => if chars.isEmpty then .error .emptyAddress else .ok ⟨String.ofList chars, none⟩
  | _ :: host =>
    if host.isEmpty then .error (.missingHost address)
    else
      match readPort? (chars.reverse.takeWhile (· ≠ ':')).reverse with
      | some port => .ok ⟨String.ofList host.reverse, some port⟩
      | none => .error (.invalidPort address)

/-- The host and port of an address, which may have a scheme. -/
def hostPort (address : String) : Except EndpointError HostPort :=
  if (scheme? address).isSome then do
    let url ← readUrl address
    return ⟨url.hostText?.getD "", url.portOrUsual?⟩
  else
    readPlain address

/-- Whether an address asks for transport security by its scheme. -/
def isSecure (address : String) : Bool :=
  match scheme? address with
  | some scheme => scheme ∈ ["https", "tls", "ssl", "wss"]
  | none => false

end Endpoint

/-- The text of a host and a port. -/
def HostPort.text (address : HostPort) : String :=
  match address.port? with
  | some port => s!"{address.host}:{port}"
  | none => address.host

/-! ### Kafka -/

namespace Output

/-- The brokers that a kafka output lists. -/
def listedBrokers (output : Output) : List String := (output.kafka.map (·.brokers)).getD []

/-- The addresses of the brokers of a kafka output: the listed ones, else the output's own. -/
def brokerAddresses (output : Output) : List String :=
  if output.listedBrokers.isEmpty then output.url?.toList else output.listedBrokers

/-- The brokers of a kafka output as hosts and ports. -/
def kafkaBrokers (output : Output) : Except EndpointError (List String) :=
  if output.brokerAddresses.isEmpty then .error .noBrokers
  else output.brokerAddresses.mapM fun address => HostPort.text <$> Endpoint.hostPort address

/-- The topic of a kafka output that names none. -/
def defaultTopic : String := "topic"

/-- The path of an address without slashes at its ends, if anything is left of it. -/
def topicOfUrl? (address : String) : Option String :=
  match Url.read address with
  | .error _ => none
  | .ok url =>
    let path := Text.dropWhileEnd (· = '/') (url.path.toList.dropWhile (· = '/'))
    if path.isEmpty then none else some (String.ofList path)

/-- The topic of a kafka output: the one that is named, else the path of the output's address. -/
def kafkaTopic (output : Output) : String :=
  match (output.kafka.bind (·.topic)).filter (!·.isEmpty) with
  | some topic => topic
  | none => (output.url?.bind topicOfUrl?).getD defaultTopic

/-- Whether an address of a broker asks for transport security. -/
def brokerUsesTls (address : String) : Bool :=
  address.startsWith "tls://" || address.startsWith "ssl://"

/-- Whether a kafka output asks for transport security at any of its addresses. -/
def kafkaUsesTls (output : Output) : Bool :=
  (output.listedBrokers ++ output.url?.toList).any brokerUsesTls

end Output

/-! ### Syslog -/

/-- How records reach a syslog server. -/
inductive SyslogTransport
  | udp
  | tcp
  | tls
  deriving DecidableEq

namespace SyslogTransport

/-- The transport that an address asks for by its scheme. -/
def ofAddress (address : String) : SyslogTransport :=
  match Endpoint.scheme? address with
  | some "udp" => .udp
  | some "tls" => .tls
  | _ => .tcp

/-- The protocol below a transport. -/
def protocol : SyslogTransport → String
  | .udp => "udp"
  | .tcp => "tcp"
  | .tls => "tcp"

/-- The store of a transport among those that came before the present one. -/
def oldPlugin : SyslogTransport → String
  | .udp => "syslog"
  | .tcp => "syslog_buffered"
  | .tls => "syslog_buffered"

end SyslogTransport

end LogForwarder
