import SocksGateway.Tunnel

/-!
# Command-line specifications

Services and tunnels may be given as one word each: `[bind:]port` for a SOCKS
listener, `[bind:]lport:rhost:rport` for a port forward, and
`name:socksport:command` for a chained tunnel, whose command may hold colons
itself.
-/

namespace SocksGateway

open Text

/-- A port that is not zero. -/
def readPort (role : PortRole) (s : List Char) : Except ConfigFault UInt16 :=
  match readUInt16 s with
  | some p => if p = 0 then .error (.badPort role (String.ofList s)) else .ok p
  | none => .error (.badPort role (String.ofList s))

/-- The address that a service listens on. -/
def readBind (s : List Char) : Except ConfigFault IpAddress :=
  match IpAddress.parse? s with
  | some a => .ok a
  | none => .error (.badBind (String.ofList s))

namespace ServiceSpec

/-- Reads `[bind:]port`; the port follows the last colon. -/
def parseSocks (s : List Char) : Except ConfigFault ServiceSpec :=
  match cutLast ':' s with
  | none =>
    match readPort .listening s with
    | .ok port => .ok { port, kind := .socks }
    | .error e => .error e
  | some (bind, port) =>
    match readBind bind with
    | .error e => .error e
    | .ok bind =>
      match readPort .listening port with
      | .ok port => .ok { bind, port, kind := .socks }
      | .error e => .error e

/-- The part of a port forward behind its listening address. -/
def forwardTo (whole : List Char) (bind : IpAddress) (lport rhost rport : List Char) :
    Except ConfigFault ServiceSpec :=
  if rhost.isEmpty then .error (.forwardWithoutHost (String.ofList whole))
  else
    match readPort .localSide lport with
    | .error e => .error e
    | .ok port =>
      match readPort .remoteSide rport with
      | .error e => .error e
      | .ok remote => .ok { bind, port, kind := .forward (String.ofList rhost) remote }

/-- Reads `[bind:]lport:rhost:rport`, cut at every colon. -/
def parseForward (s : List Char) : Except ConfigFault ServiceSpec :=
  match split (· == ':') s with
  | [lport, rhost, rport] => forwardTo s IpAddress.loopback lport rhost rport
  | [bind, lport, rhost, rport] =>
    match readBind bind with
    | .ok bind => forwardTo s bind lport rhost rport
    | .error e => .error e
  | _ => .error (.forwardShape (String.ofList s))

end ServiceSpec

namespace TunnelSpec

/-- The command of a tunnel, if it is not empty. -/
def commandOf (s : List Char) : Option String :=
  if s.isEmpty then none else some (String.ofList s)

/-- Reads `name:socksport:command`; the command is optional. -/
def parse (s : List Char) : Except ConfigFault TunnelSpec :=
  match cutFirst ':' s with
  | none => .error (.tunnelShape (String.ofList s))
  | some (name, rest) =>
    if name.isEmpty then .error (.tunnelWithoutName (String.ofList s))
    else
      let (port, command) :=
        match cutFirst ':' rest with
        | none => (rest, none)
        | some (port, command) => (port, commandOf command)
      match readPort .relay port with
      | .ok p => .ok ⟨String.ofList name, p, command⟩
      | .error e => .error e

end TunnelSpec

end SocksGateway
