import SocksGateway.Service
import SocksGateway.Socks.Code
import SocksGateway.Stream
import SocksGateway.Text.Join

/-!
# Errors

Every failure is named by its cause; the wording stands in one function for
each type.  A connection error also has the reply code that tells the client of
it, and the property of being worth another attempt.
-/

namespace SocksGateway

/-- Which port of a command-line specification is meant. -/
inductive PortRole where
  | listening
  | localSide
  | remoteSide
  | relay
deriving DecidableEq, Repr

def PortRole.label : PortRole → String
  | .listening => "port"
  | .localSide => "local port"
  | .remoteSide => "remote port"
  | .relay => "SOCKS port"

/-- Why a configuration is invalid. -/
inductive ConfigFault where
  | badPort (role : PortRole) (text : String)
  | badBind (text : String)
  | forwardShape (text : String)
  | forwardWithoutHost (text : String)
  | tunnelShape (text : String)
  | tunnelWithoutName (text : String)
  | reservedName (name : String)
  | duplicateName (name : String)
  | tunnelWithoutPort (name : String)
  | badNetwork (text : String)
  | noServices
  | serviceWithoutPort (service : ServiceSpec)
  | forwardIncomplete (service : ServiceSpec)
  | noAttempts
  | noBuffer
  | noResolverUrl
  | stated (text : String)
deriving DecidableEq, Repr

def ConfigFault.message : ConfigFault → String
  | .badPort role text => s!"invalid {role.label} '{text}'"
  | .badBind text => s!"invalid bind address '{text}'"
  | .forwardShape text => s!"port forward '{text}' is not [bind:]lport:rhost:rport"
  | .forwardWithoutHost text => s!"port forward '{text}' has no remote host"
  | .tunnelShape text => s!"tunnel '{text}' is not name:socksport:command"
  | .tunnelWithoutName text => s!"tunnel '{text}' has no name"
  | .reservedName name => s!"tunnel name '{name}' is reserved"
  | .duplicateName name => s!"duplicate tunnel name '{name}'"
  | .tunnelWithoutPort name => s!"tunnel '{name}' has no SOCKS port"
  | .badNetwork text => s!"invalid network '{text}'"
  | .noServices => "no services configured"
  | .serviceWithoutPort service => s!"service {service.fieldText} has port 0"
  | .forwardIncomplete service => s!"port forward {service.fieldText} needs a remote host and port"
  | .noAttempts => "connect.max_attempts must be at least 1"
  | .noBuffer => "relay.buffer_size must be positive"
  | .noResolverUrl => "dns.resolver is doh but no doh_url given"
  | .stated text => text

/-- Why a rule line is refused. -/
inductive RuleFault where
  | needsValue (keyword : String)
  | unknownKeyword (keyword : String)
  | badPort (text : String)
  | badNetwork (fault : ConfigFault)
  | unknownTunnel (name : String)
  | noTunnels
  | stated (text : String)
deriving DecidableEq, Repr

def RuleFault.message : RuleFault → String
  | .needsValue keyword => s!"'{keyword}' needs a value"
  | .unknownKeyword keyword => s!"unknown keyword '{keyword}'"
  | .badPort text => s!"invalid port '{text}'"
  | .badNetwork fault => s!"invalid configuration: {fault.message}"
  | .unknownTunnel name => s!"unknown tunnel '{name}'"
  | .noTunnels => "'via' lists no tunnels"
  | .stated text => text

/-- Where a rule was written. -/
structure Provenance where
  file : String
  line : Nat
deriving DecidableEq, Repr

def Provenance.text (p : Provenance) : String := s!"{p.file}:{p.line}"

/-- Why a file could not be read. -/
inductive FileFault where
  | notFound
  | isDirectory
  | notADirectory
  | invalidData
  /-- The path holds the character that ends paths. -/
  | nulInPath
  | nameTooLong
  | other (name : String)
deriving DecidableEq, Repr

/-- Why the program does not start. -/
inductive ConfigError where
  | unreadable (path : String) (fault : FileFault)
  | unparsable (path : String)
  | invalid (fault : ConfigFault)
  | rule (place : Provenance) (fault : RuleFault)
deriving DecidableEq, Repr

def ConfigError.message : ConfigError → String
  | .unreadable path _ => s!"cannot read {path}"
  | .unparsable path => s!"cannot parse {path}"
  | .invalid fault => s!"invalid configuration: {fault.message}"
  | .rule place fault => s!"{place.text}: {fault.message}"

/-- Why a name has no address. -/
inductive DnsError where
  | noHostname
  | noAddresses (name : String)
  | lookup (host : String)
  | doh (host : String)
deriving DecidableEq, Repr

def DnsError.message : DnsError → String
  | .noHostname => "destination has no hostname to resolve"
  | .noAddresses name => s!"no addresses found for {name}"
  | .lookup host => s!"resolving {host} failed"
  | .doh host => s!"DNS-over-HTTPS query for {host} failed"

/-- The parts of a SOCKS request, as a truncated one is reported. -/
inductive Field where
  | version
  | v4Command
  | port
  | v4Address
  | userId
  | methodCount
  | methodList
  | requestHeader
  | ipv4Address
  | domainLength
  | domainName
  | ipv6Address
deriving DecidableEq, Repr

def Field.label : Field → String
  | .version => "version"
  | .v4Command => "SOCKS4 command"
  | .port => "port"
  | .v4Address => "SOCKS4 address"
  | .userId => "SOCKS4 user id"
  | .methodCount => "method count"
  | .methodList => "method list"
  | .requestHeader => "request header"
  | .ipv4Address => "IPv4 address"
  | .domainLength => "domain length"
  | .domainName => "domain name"
  | .ipv6Address => "IPv6 address"

/-- How a peer breaks the protocol, the client or a relay. -/
inductive ProtocolFault where
  | truncated (field : Field)
  | unsupportedVersion (byte : UInt8)
  | userIdTooLong
  | authenticationRequired (methods : List UInt8)
  | requestVersion (byte : UInt8)
  | unknownAddressType (byte : UInt8)
  | emptyDomain
  | domainNotUtf8
  | v4Command (byte : UInt8)
  | v5Command (byte : UInt8)
  | ipv6Destination
  | hostnameTooLong (length : Nat)
  | relayMethod (tunnel : String) (answer : List UInt8)
  | relayVersion (byte : UInt8)
  | relayAddressType (byte : UInt8)
  | stated (text : String)
deriving DecidableEq, Repr

def ProtocolFault.message : ProtocolFault → String
  | .truncated field => s!"truncated {field.label}"
  | .unsupportedVersion byte => s!"unsupported SOCKS version {Text.hexTag byte}"
  | .userIdTooLong => s!"SOCKS4 user id longer than {Socks.userIdLimit} bytes"
  | .authenticationRequired methods =>
    "client requires authentication: " ++ Text.join ", " (methods.map Socks.methodLabel)
  | .requestVersion byte => s!"request version {Text.hexTag byte} after SOCKS5 negotiation"
  | .unknownAddressType byte => s!"unknown address type {Text.hexTag byte}"
  | .emptyDomain => "empty domain name"
  | .domainNotUtf8 => "domain name is not valid UTF-8"
  | .v4Command byte => s!"SOCKS4 command {Text.hexTag byte} not supported"
  | .v5Command byte => s!"SOCKS5 command {Text.hexTag byte} not supported"
  | .ipv6Destination => "IPv6 destinations are not supported"
  | .hostnameTooLong length => s!"hostname too long: {length} bytes"
  | .relayMethod tunnel answer =>
    s!"relay {tunnel} rejected no-auth negotiation: " ++
      "[" ++ Text.join ", " (answer.map fun b => toString b.toNat) ++ "]"
  | .relayVersion byte => s!"relay replied with version {Text.hexTag byte}"
  | .relayAddressType byte => s!"relay replied with address type {Text.hexTag byte}"
  | .stated text => text

/-- A state that the program's own steps never reach. -/
inductive Inconsistency where
  | routeWithoutTunnels
  | noRoute
  | noAttempt
  | noVersion
  | stated (text : String)
deriving DecidableEq, Repr

def Inconsistency.message : Inconsistency → String
  | .routeWithoutTunnels => "route has no tunnels"
  | .noRoute => "no route assigned"
  | .noAttempt => "no connection attempt was made"
  | .noVersion => "reply requested before a SOCKS version was negotiated"
  | .stated text => text

/-- Why a connection fails. -/
inductive ConnectionError where
  | protocol (fault : ProtocolFault)
  | addressTypeNotSupported
  | connectionRefused
  | connectionReset
  | timeout
  | relayReply (code : Socks.ReplyCode)
  | inconsistency (cause : Inconsistency)
  | config (error : ConfigError)
  | dns (error : DnsError)
  | stream (fault : Stream.Fault)
deriving DecidableEq, Repr

namespace ConnectionError

def message : ConnectionError → String
  | protocol fault => s!"protocol error: {fault.message}"
  | addressTypeNotSupported => "address type not supported"
  | connectionRefused => "connection refused"
  | connectionReset => "connection reset"
  | timeout => "timed out"
  | relayReply code => s!"relay replied {code.label}"
  | inconsistency cause => s!"internal consistency failure: {cause.message}"
  | config error => error.message
  | dns error => error.message
  | stream fault => s!"io error: {fault.text}"

/-- Another attempt may turn out differently. -/
def isRecoverable : ConnectionError → Bool
  | addressTypeNotSupported => false
  | inconsistency _ => false
  | _ => true

/-- The reply that tells a client of the error. -/
def replyCode : ConnectionError → Socks.ReplyCode
  | addressTypeNotSupported => .addressTypeNotSupported
  | connectionRefused => .connectionRefused
  | connectionReset => .connectionRefused
  | timeout => .hostUnreachable
  | relayReply code => code
  | dns _ => .hostUnreachable
  | stream fault =>
    match fault.kind with
    | .connectionRefused => .connectionRefused
    | .connectionReset => .connectionRefused
    | .timedOut => .hostUnreachable
    | _ => .serverFailure
  | _ => .serverFailure

/-- The error that a failure to reach a peer stands for. -/
def ofConnect (fault : Stream.Fault) : ConnectionError :=
  match fault.kind with
  | .connectionRefused => connectionRefused
  | .connectionReset => connectionReset
  | .timedOut => timeout
  | _ => stream fault

end ConnectionError

end SocksGateway
