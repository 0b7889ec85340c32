import SocksGateway.Ip.V6

/-!
# IP addresses of either family
-/

namespace SocksGateway

inductive IpAddress where
  | v4 (address : Ipv4)
  | v6 (address : Ipv6)
deriving DecidableEq, Repr

namespace IpAddress

/-- The default listening address, `127.0.0.1`. -/
def loopback : IpAddress := .v4 Ipv4.loopback

def isV4 : IpAddress → Bool
  | v4 _ => true
  | v6 _ => false

def v4? : IpAddress → Option Ipv4
  | v4 a => some a
  | v6 _ => none

/-- Reads a literal of either family. -/
def parse? (s : List Char) : Option IpAddress :=
  match Ipv4.parse? s with
  | some a => some (v4 a)
  | none => (Ipv6.parse? s).map v6

def text : IpAddress → String
  | v4 a => a.text
  | v6 a => a.text

/-- The address as it stands in front of a port: IPv6 in brackets. -/
def hostText : IpAddress → String
  | v4 a => a.text
  | v6 a => "[" ++ a.text ++ "]"

/-- The address with a mapped IPv4 address taken out. -/
def unmapped : IpAddress → IpAddress
  | v4 a => v4 a
  | v6 a =>
    match a.mapped? with
    | some b => v4 b
    | none => v6 a

/-- Whoever listens on the first address hears what is sent to the second.  The
unspecified address stands for all addresses of its family, and that of IPv6 for
those of IPv4 too. -/
def covers (a b : IpAddress) : Bool :=
  a.unmapped == b.unmapped || a == v6 .unspecified ||
    (a.unmapped == v4 .unspecified && b.unmapped.isV4)

/-- Some address is heard on both. -/
def overlaps (a b : IpAddress) : Bool := a.covers b || b.covers a

end IpAddress

end SocksGateway
