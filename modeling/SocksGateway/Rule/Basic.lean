import SocksGateway.Network
import SocksGateway.Text.Search
import SocksGateway.Tunnel

/-!
# Routing rules

A rule has conditions on a destination, changes to make to a destination that
meets them, and the tunnels to take.  A rule without tunnels only changes the
destination; the search for a route goes on behind it.
-/

namespace SocksGateway

structure Rule where
  is : Option String := none
  startsWith : Option String := none
  endsWith : Option String := none
  contains : Option String := none
  /-- Port zero is no condition. -/
  port : Option UInt16 := none
  network : Option Network := none
  /-- A network condition, written where a relocation follows. -/
  map : Option Network := none
  /-- The network that the destination is relocated into. -/
  target : Option Network := none
  resolveDns : Bool := false
  tunnels : List Tunnel := []
  place : Provenance
deriving DecidableEq, Repr

/-- What the conditions of a rule see of a destination. -/
structure Facts where
  name : Option String
  addressText : Option String
  ipv4 : Option Ipv4
  port : UInt16
deriving DecidableEq, Repr

def Facts.of (d : Destination) : Facts := ⟨d.hostname, d.addressText?, d.ipv4?, d.port⟩

namespace Rule

/-- The rule that sends everything through `tunnels`. -/
def via (tunnels : List Tunnel) (place : Provenance) : Rule := { tunnels, place }

/-- The route of sessions that no rule sends anywhere. -/
def fallback : Rule := via [.direct] ⟨"<default>", 0⟩

/-- The rule ends the search when its conditions hold. -/
def isTerminal (r : Rule) : Bool := !r.tunnels.isEmpty

def tunnelNames (r : Rule) : List String := r.tunnels.map Tunnel.name

/-- A property of the name or of the text of the address. -/
def anyText (f : Facts) (p : List Char → Bool) : Bool :=
  (f.name.any fun s => p s.toList) || (f.addressText.any fun s => p s.toList)

/-- A condition on texts, none given or met by the name or the address. -/
def textHolds (pattern : Option String) (p : List Char → List Char → Bool) (f : Facts) : Bool :=
  match pattern with
  | none => true
  | some s => anyText f (p s.toList)

/-- A condition on the port, none given or zero or equal. -/
def portHolds (port : Option UInt16) (f : Facts) : Bool :=
  match port with
  | none => true
  | some p => p == 0 || p == f.port

/-- A condition on the network, none given or met by an IPv4 address. -/
def networkHolds (network : Option Network) (f : Facts) : Bool :=
  match network with
  | none => true
  | some n => f.ipv4.any fun a => n.contains a.bits

/-- All conditions of the rule hold. -/
def holds (r : Rule) (f : Facts) : Bool :=
  textHolds r.is (fun p s => p == s) f
    && textHolds r.startsWith (fun p s => p.isPrefixOf s) f
    && textHolds r.endsWith (fun p s => p.isSuffixOf s) f
    && textHolds r.contains (fun p s => Text.occurs p s) f
    && portHolds r.port f
    && networkHolds r.network f
    && networkHolds r.map f

end Rule

end SocksGateway
