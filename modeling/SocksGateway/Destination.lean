import SocksGateway.Ip.Endpoint

/-!
# Destinations

Where a client wants to go, or where it comes from: a host name, an address, or
both, and a port.  The name is what the client asked for; the address is what
it stands for, once that is known.
-/

namespace SocksGateway

structure Destination where
  hostname : Option String := none
  address : Option IpAddress := none
  port : UInt16 := 0
deriving DecidableEq, Repr, Inhabited

namespace Destination

def named (name : String) (port : UInt16) : Destination := { hostname := some name, port }

def ofIpv4 (a : Ipv4) (port : UInt16) : Destination := { address := some (.v4 a), port }

def ofIpv6 (a : Ipv6) (port : UInt16) : Destination := { address := some (.v6 a), port }

def ofEndpoint (e : Endpoint) : Destination := { address := some e.address, port := e.port }

/-- A port alone leads nowhere. -/
def isAddressable (d : Destination) : Bool := d.hostname.isSome || d.address.isSome

def ipv4? (d : Destination) : Option Ipv4 := d.address.bind IpAddress.v4?

theorem ipv4?_eq_some_iff {d : Destination} {a : Ipv4} :
    d.ipv4? = some a ↔ d.address = some (.v4 a) := by
  unfold ipv4?
  rcases d.address with _ | address
  · simp
  · cases address <;> simp [IpAddress.v4?]

/-- Sends the destination to another IPv4 address; the name no longer applies. -/
def withIpv4 (d : Destination) (a : Ipv4) : Destination :=
  { d with address := some (.v4 a), hostname := none }

/-- Fills in the address of a named destination. -/
def withAddress (d : Destination) (a : IpAddress) : Destination := { d with address := some a }

def addressText? (d : Destination) : Option String := d.address.map IpAddress.text

/-- The name if there is one, else the address. -/
def host (d : Destination) : String :=
  match d.hostname, d.address with
  | some name, _ => name
  | none, some a => a.text
  | none, none => ""

/-- Host and port; an IPv6 address that stands for the host is in brackets. -/
def hostPort (d : Destination) : String :=
  match d.hostname, d.address with
  | none, some (.v6 a) => s!"[{a.text}]:{d.port.toNat}"
  | _, _ => s!"{d.host}:{d.port.toNat}"

/-- Name, port and address, each empty when unknown. -/
def text (d : Destination) : String :=
  d.hostname.getD "" ++ ":" ++ toString d.port.toNat ++ ":" ++ d.addressText?.getD ""

def endpoint? (d : Destination) : Option Endpoint := d.address.map fun a => ⟨a, d.port⟩

end Destination

end SocksGateway
