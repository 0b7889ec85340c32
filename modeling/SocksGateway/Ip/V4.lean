import SocksGateway.Text.Decimal
import SocksGateway.Text.Split

/-!
# IPv4 addresses

An address is a 32-bit word.  Its text is four decimal octets with points
between them: one to three digits each, no leading zero, at most 255.
-/

namespace SocksGateway

open Text

structure Ipv4 where
  bits : UInt32
deriving DecidableEq, Repr, Inhabited

namespace Ipv4

/-- The address with the octets `a.b.c.d`. -/
def ofOctets (a b c d : UInt8) : Ipv4 :=
  ⟨a.toUInt32 <<< 24 ||| b.toUInt32 <<< 16 ||| c.toUInt32 <<< 8 ||| d.toUInt32⟩

/-- The four octets, the most significant one first. -/
def octets (a : Ipv4) : List UInt8 :=
  [(a.bits >>> 24).toUInt8, (a.bits >>> 16).toUInt8, (a.bits >>> 8).toUInt8, a.bits.toUInt8]

/-- The address with these octets, if there are four of them. -/
def ofBytes? : List UInt8 → Option Ipv4
  | [a, b, c, d] => some (ofOctets a b c d)
  | _ => none

def unspecified : Ipv4 := ⟨0⟩

/-- The address of the machine itself, `127.0.0.1`. -/
def loopback : Ipv4 := ofOctets 127 0 0 1

/-- Reads one octet of the dotted form. -/
def readOctet (s : List Char) : Option UInt8 :=
  if s.length = 0 ∨ 3 < s.length ∨ (1 < s.length ∧ s.head? = some '0') then none
  else
    match readDigits 0 s with
    | some n => if n < UInt8.size then some n.toUInt8 else none
    | none => none

/-- Reads the dotted form. -/
def parse? (s : List Char) : Option Ipv4 :=
  match split (· == '.') s with
  | [a, b, c, d] =>
    match readOctet a, readOctet b, readOctet c, readOctet d with
    | some a, some b, some c, some d => some (ofOctets a b c d)
    | _, _, _, _ => none
  | _ => none

/-- The characters of the dotted form. -/
def chars (a : Ipv4) : List Char :=
  decimal (a.bits >>> 24).toUInt8.toNat ++ '.' :: (decimal (a.bits >>> 16).toUInt8.toNat ++
    '.' :: (decimal (a.bits >>> 8).toUInt8.toNat ++ '.' :: decimal a.bits.toUInt8.toNat))

/-- The dotted form. -/
def text (a : Ipv4) : String := String.ofList a.chars

end Ipv4

end SocksGateway
