import SocksGateway.Text.Decimal

/-!
# JSON numbers

A number is kept as it is written.  Two things are asked of it: which natural
number it names, if it is written with digits alone, and whether it lies in the
range of double-precision floating point, which every number has to.

The range is decided on an approximation: as many leading digits as fit into 64
bits, times a power of ten, each of the two rounded to 53 bits.
-/

namespace SocksGateway

namespace Json

/-- A number as it is written.  Digits are held by value. -/
structure Number where
  negative : Bool := false
  /-- The digits before the point. -/
  whole : List Nat
  /-- The digits behind the point, if there is one. -/
  fraction : Option (List Nat) := none
  /-- What follows the `e`, if there is one. -/
  exponent : Option Int := none
deriving DecidableEq, Repr

namespace Number

/-- The bound of whole numbers. -/
def wholeLimit : Nat := UInt64.size

/-- The number that digits stand for. -/
def ofDigits (ds : List Nat) : Nat := ds.foldl (fun n d => 10 * n + d) 0

/-- The value of a number that is digits alone and fits into 64 bits. -/
def natural? (x : Number) : Option Nat :=
  let n := ofDigits x.whole
  if !x.negative && x.fraction.isNone && x.exponent.isNone && n < wholeLimit then some n else none

/-- Appends digits to `n` for as long as the result fits into 64 bits, and says
how many were left over. -/
def takeDigits (n : Nat) : List Nat → Nat × Nat
  | [] => (n, 0)
  | d :: ds => if 10 * n + d < wholeLimit then takeDigits (10 * n + d) ds else (n, (d :: ds).length)

/-- Rounds to 53 significant bits; a tie goes to the even neighbour. -/
def round53 (n : Nat) : Nat :=
  if n < Nat.pow 2 53 then n
  else
    let unit := Nat.pow 2 (Nat.log2 n - 52)
    let q := n / unit
    let r := n % unit
    if 2 * r > unit || (2 * r == unit && q % 2 == 1) then (q + 1) * unit else q * unit

/-- The least number that rounds to infinity. -/
def infinityThreshold : Nat := Nat.pow 2 1024 - Nat.pow 2 970

/-- The leading digits of a number and the power of ten that they are multiplied
with. -/
def scaled (x : Number) : Nat × Int :=
  let (n, dropped) := takeDigits 0 x.whole
  let fraction := x.fraction.getD []
  let (n, unused) := takeDigits n fraction
  (n, (dropped : Int) - ((fraction.length - unused : Nat) : Int) + x.exponent.getD 0)

/-- The number does not exceed the range of a double. -/
def isFinite (x : Number) : Bool :=
  let (n, e) := x.scaled
  n == 0 || e < 0 || (e ≤ 308 && round53 n * round53 (Nat.pow 10 e.toNat) < infinityThreshold)

end Number

end Json

end SocksGateway
