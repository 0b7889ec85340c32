import SocksGateway.Ip.Address

/-!
# Endpoints

An endpoint is an address with a port.  Its text is `a.b.c.d:port` or
`[v6]:port`; a reader also takes a scope after the IPv6 address and forgets it.
-/

namespace SocksGateway

open Text

structure Endpoint where
  address : IpAddress
  port : UInt16
deriving DecidableEq, Repr

namespace Endpoint

def text (e : Endpoint) : String := s!"{e.address.hostText}:{e.port.toNat}"

/-- A port of the text form: digits only, below 2¹⁶. -/
def readPort (s : List Char) : Option UInt16 :=
  if s.isEmpty then none
  else
    match readDigits 0 s with
    | some n => if n < UInt16.size then some n.toUInt16 else none
    | none => none

/-- Skips the scope of an IPv6 address, a 32-bit number behind `%`. -/
def dropScope (s : List Char) : Option (List Char) :=
  match s with
  | '%' :: t =>
    let digits := t.takeWhile fun c => (digit? c).isSome
    match digits.isEmpty, readDigits 0 digits with
    | false, some n => if n < UInt32.size then some (t.drop digits.length) else none
    | _, _ => none
  | _ => some s

def parseV6? (s : List Char) : Option Endpoint :=
  match Ipv6.read s with
  | some (a, rest) =>
    match dropScope rest with
    | some (']' :: ':' :: port) => (readPort port).map fun p => ⟨.v6 a, p⟩
    | _ => none
  | none => none

/-- Reads the text form. -/
def parse? (s : List Char) : Option Endpoint :=
  match s with
  | '[' :: t => parseV6? t
  | _ =>
    match cutFirst ':' s with
    | some (host, port) =>
      match Ipv4.parse? host, readPort port with
      | some a, some p => some ⟨.v4 a, p⟩
      | _, _ => none
    | none => none

/-- One cannot listen on both endpoints at a time. -/
def clashes (e f : Endpoint) : Bool := e.port == f.port && e.address.overlaps f.address

/-- Listening on the endpoint is ruled out by those that are listened on.  A port
of zero asks for one that is free. -/
def isTaken (e : Endpoint) (taken : List Endpoint) : Bool :=
  e.port != 0 && taken.any e.clashes

end Endpoint

end SocksGateway
