import SocksGateway.Json.Quote
import SocksGateway.Session
import SocksGateway.Text.Join

/-!
# The status document

One row a session, as a JSON object with its fields in a fixed order.  A row
shows what the client asked for beside what became of it: the remote address is
the one on record, the effective one is where the session goes now.
-/

namespace SocksGateway

/-- A time in whole seconds since the epoch; earlier times are zero. -/
def unixSeconds (t : Moment) : UInt64 := (t.toNat / 1000000000).toUInt64

structure StatusEntry where
  connectionId : Nat
  service : UInt32
  route : String
  socksVersion : Option UInt8
  socksCommand : Option UInt8
  remoteAddress : String
  remotePort : UInt16
  remoteAddressEffective : String
  remotePortEffective : UInt16
  status : UInt8
  statusName : String
  statusDescription : String
  bytesTx : UInt64
  bytesRx : UInt64
  sourceAddress : String
  sourcePort : UInt16
  timeStart : UInt64
  timeEnd : Option UInt64
deriving DecidableEq, Repr

namespace StatusEntry

/-- The tunnel that is taken, or else the ones that may be. -/
def routeOf (s : Session) : String :=
  match s.tunnel, s.route with
  | some t, _ => t.name
  | none, some r => Text.join "," r.tunnelNames
  | none, none => ""

/-- The row of a session. -/
def ofSession (s : Session) : StatusEntry :=
  let requested := s.destinationRequested.getD {}
  { connectionId := s.id
    service := s.service.id
    route := routeOf s
    socksVersion := s.version.map Socks.Version.number
    socksCommand := s.commandRequested.map Socks.Command.byte
    remoteAddress := requested.host
    remotePort := requested.port
    remoteAddressEffective := s.destination.host
    remotePortEffective := s.destination.port
    status := s.status.code.number
    statusName := s.status.name
    statusDescription := s.status.description
    bytesTx := s.bytesTx
    bytesRx := s.bytesRx
    sourceAddress := s.source.host
    sourcePort := s.source.port
    timeStart := unixSeconds s.startTime
    timeEnd := s.endTime.map unixSeconds }

/-- A number, or `null`. -/
def optional (n : Option Nat) : String :=
  match n with
  | some n => toString n
  | none => "null"

/-- The fields of the row in their order, written as JSON. -/
def fields (e : StatusEntry) : List (String × String) :=
  [("connectionId", toString e.connectionId),
    ("service", toString e.service.toNat),
    ("route", Json.quote e.route),
    ("socksVersion", optional (e.socksVersion.map UInt8.toNat)),
    ("socksCommand", optional (e.socksCommand.map UInt8.toNat)),
    ("remoteAddress", Json.quote e.remoteAddress),
    ("remotePort", toString e.remotePort.toNat),
    ("remoteAddressEffective", Json.quote e.remoteAddressEffective),
    ("remotePortEffective", toString e.remotePortEffective.toNat),
    ("status", toString e.status.toNat),
    ("statusName", Json.quote e.statusName),
    ("statusDescription", Json.quote e.statusDescription),
    ("bytesTx", toString e.bytesTx.toNat),
    ("bytesRx", toString e.bytesRx.toNat),
    ("sourceAddress", Json.quote e.sourceAddress),
    ("sourcePort", toString e.sourcePort.toNat),
    ("timeStart", toString e.timeStart.toNat),
    ("timeEnd", optional (e.timeEnd.map UInt64.toNat))]

/-- The row as a JSON object. -/
def text (e : StatusEntry) : String :=
  let members := e.fields.map fun (key, value) => Json.quote key ++ ":" ++ value
  "\x7b" ++ Text.join "," members ++ "\x7d"

end StatusEntry

/-- The rows of the sessions, in their order. -/
def statusRows (sessions : List Session) : List StatusEntry := sessions.map StatusEntry.ofSession

/-- The status document of the sessions. -/
def statusDocument (sessions : List Session) : String :=
  "[" ++ Text.join "," ((statusRows sessions).map StatusEntry.text) ++ "]"

end SocksGateway
