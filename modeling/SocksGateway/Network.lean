import SocksGateway.Ip.V4
import SocksGateway.Error

/-!
# IPv4 networks

A network is an address and a mask of any shape.  It holds the addresses that
agree with it under the mask, and an address is relocated into it by putting the
network's bits in place of the masked ones.
-/

namespace SocksGateway

open Text

structure Network where
  address : UInt32
  mask : UInt32
deriving DecidableEq, Repr

namespace Network

def contains (n : Network) (a : UInt32) : Bool := a &&& n.mask == n.address &&& n.mask

/-- Puts the network's bits in place of the masked bits of `a`. -/
def relocate (n : Network) (a : UInt32) : UInt32 := (a &&& ~~~n.mask) ||| (n.address &&& n.mask)

/-- How far all ones are shifted for a mask of so many bits.  A mask of no bits
takes no shift, as it would be one by the whole width. -/
def prefixShift? (bits : UInt8) : Option UInt32 :=
  if bits = 0 then none else some (32 - bits.toUInt32)

/-- The mask whose top `bits` bits are set. -/
def prefixMask (bits : UInt8) : UInt32 :=
  match prefixShift? bits with
  | none => 0
  | some n => 0xFFFFFFFF <<< n

/-- Reads the part behind the slash: a dotted mask, or a count of bits up to 32. -/
def readMask (s : List Char) : Option UInt32 :=
  if s.contains '.' then (Ipv4.parse? s).map Ipv4.bits
  else
    match readUInt8 s with
    | some bits => if bits ≤ 32 then some (prefixMask bits) else none
    | none => none

/-- Reads `a.b.c.d`, `a.b.c.d/bits` or `a.b.c.d/m.m.m.m`; without a mask every
bit counts. -/
def parse? (s : List Char) : Option Network :=
  match cutFirst '/' s with
  | none => (Ipv4.parse? s).map fun a => ⟨a.bits, 0xFFFFFFFF⟩
  | some (a, m) =>
    match Ipv4.parse? a, readMask m with
    | some a, some m => some ⟨a.bits, m⟩
    | _, _ => none

/-- As `parse?`, with the cause of a refusal. -/
def parse (s : List Char) : Except ConfigFault Network :=
  match parse? s with
  | some n => .ok n
  | none => .error (.badNetwork (String.ofList s))

/-- The address and the mask in dotted form, with a slash between them. -/
def chars (n : Network) : List Char := Ipv4.chars ⟨n.address⟩ ++ '/' :: Ipv4.chars ⟨n.mask⟩

def text (n : Network) : String := String.ofList n.chars

end Network

end SocksGateway
