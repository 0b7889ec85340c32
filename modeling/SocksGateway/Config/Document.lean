import SocksGateway.Config.Settings
import SocksGateway.Json.Parser
import SocksGateway.Json.Record

/-!
# Configuration documents

A configuration is written in JSON.  Everything in it may be left out, but for
the name and port of a tunnel and for what makes up a service.

Services alone are of several types, told apart by their member `type`.  They
may hold members that their type does not have.
-/

namespace SocksGateway

open Json Json.RecordField

namespace TunnelSpec

def fields : List (RecordField TunnelSpec) :=
  [of "name" Value.string? (fun x t => { t with name := x }) true,
    of "socks_port" Value.uint16? (fun x t => { t with socksPort := x }) true,
    of "command" (Value.nullable Value.string?) fun x t => { t with command := x }]

def ofJson? : Value → Option TunnelSpec := record fields ⟨"", 0, none⟩

end TunnelSpec

namespace ServiceSpec

/-- What a document says of a service. -/
structure Entry where
  bind : IpAddress := IpAddress.loopback
  port : UInt16 := 0
  remoteHost : String := ""
  remotePort : UInt16 := 0
deriving DecidableEq, Repr

namespace Entry

def readBind (v : Value) : Option IpAddress :=
  match v with
  | .string s => IpAddress.parse? s.toList
  | _ => none

/-- The fields of every service. -/
def listening : List (RecordField Entry) :=
  [of "bind" readBind fun x e => { e with bind := x },
    of "port" Value.uint16? (fun x e => { e with port := x }) true]

/-- The fields of a port forward. -/
def forwarding : List (RecordField Entry) :=
  listening ++
    [of "remote_host" Value.string? (fun x e => { e with remoteHost := x }) true,
      of "remote_port" Value.uint16? (fun x e => { e with remotePort := x }) true]

def socks (e : Entry) : ServiceSpec := ⟨e.bind, e.port, .socks⟩

def forward (e : Entry) : ServiceSpec := ⟨e.bind, e.port, .forward e.remoteHost e.remotePort⟩

end Entry

/-- The fields of a type of service, and what they make. -/
def typed? : String → Option (List (RecordField Entry) × (Entry → ServiceSpec))
  | "socks" => some (Entry.listening, Entry.socks)
  | "port_forward" => some (Entry.forwarding, Entry.forward)
  | _ => none

/-- The member that tells the type. -/
def typeKey : String := "type"

/-- The type of a service, which one member tells. -/
def typeOf? (members : List (String × Value)) : Option String :=
  match members.filter fun m => m.1 == typeKey with
  | [(_, .string s)] => some s
  | _ => none

/-- A service from its members: those that its type does not have do not count. -/
def ofMembers? (members : List (String × Value)) : Option ServiceSpec := do
  let (fields, make) ← (typeOf? members).bind typed?
  (RecordField.ofMembers fields {} (RecordField.known fields members)).map make

/-- Reads a service: an object, or an array of its type and then its fields. -/
def ofJson? : Value → Option ServiceSpec
  | .object members => ofMembers? members
  | .array (.string type :: items) =>
    match typed? type with
    | some (fields, make) => (ofItems {} fields items).map make
    | none => none
  | _ => none

end ServiceSpec

namespace SingleCandidate

def names : List (String × SingleCandidate) := [("cycle", cycle), ("fail_fast", failFast)]

end SingleCandidate

namespace ConnectSettings

def fields : List (RecordField ConnectSettings) :=
  [of "max_attempts" Value.uint32? fun x s => { s with maxAttempts := x },
    of "backoff_ms" Value.uint64? fun x s => { s with backoffMillis := x },
    of "timeout_secs" Value.uint64? fun x s => { s with timeoutSeconds := x },
    of "single_candidate" (Value.choice SingleCandidate.names)
      fun x s => { s with singleCandidate := x }]

end ConnectSettings

namespace RelaySettings

def fields : List (RecordField RelaySettings) :=
  [of "buffer_size" Value.uint64? fun x s => { s with bufferSize := x },
    of "idle_timeout_secs" (Value.nullable Value.uint64?)
      fun x s => { s with idleTimeoutSeconds := x },
    of "handshake_timeout_secs" Value.uint64? fun x s => { s with handshakeTimeoutSeconds := x }]

end RelaySettings

namespace ResolverKind

def names : List (String × ResolverKind) := [("system", system), ("doh", doh)]

end ResolverKind

namespace DnsSettings

def fields : List (RecordField DnsSettings) :=
  [of "resolver" (Value.choice ResolverKind.names) fun x s => { s with resolver := x },
    of "doh_url" (Value.nullable Value.string?) fun x s => { s with dohUrl := x },
    of "retries" Value.uint32? fun x s => { s with retries := x }]

end DnsSettings

namespace SupervisorSettings

def fields : List (RecordField SupervisorSettings) :=
  [of "enabled" Value.bool? fun x s => { s with enabled := x },
    of "scan_interval_ms" Value.uint64? fun x s => { s with scanIntervalMillis := x },
    of "restart_delay_secs" Value.uint64? fun x s => { s with restartDelaySeconds := x }]

end SupervisorSettings

namespace Config

def fields : List (RecordField Config) :=
  [of "log_level" (Value.nullable Value.string?) fun x c => { c with logLevel := x },
    of "services" (Value.list ServiceSpec.ofJson?) fun x c => { c with services := x },
    of "tunnels" (Value.list TunnelSpec.ofJson?) fun x c => { c with tunnels := x },
    of "rules" (Value.list Value.string?) fun x c => { c with rules := x },
    of "rules_file" (Value.nullable Value.string?) fun x c => { c with rulesFile := x },
    of "connect" (record ConnectSettings.fields {}) fun x c => { c with connect := x },
    of "relay" (record RelaySettings.fields {}) fun x c => { c with relay := x },
    of "dns" (record DnsSettings.fields {}) fun x c => { c with dns := x },
    of "session_loiter_secs" Value.uint64? fun x c => { c with sessionLoiterSeconds := x },
    of "supervisor" (record SupervisorSettings.fields {}) fun x c => { c with supervisor := x }]

/-- The configuration that a document holds. -/
def ofJson? : Value → Option Config := record fields {}

/-- The configuration that a text holds. -/
def parse? (text : List Char) : Option Config := (Value.parse? text).bind ofJson?

end Config

end SocksGateway
