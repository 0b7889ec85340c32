/-!
# Decimal numbers

Reading accepts one optional `+` and then digits only; leading zeros do not
count and the value has no upper limit of its own.  The narrow readers refuse a
value that does not fit.
-/

namespace SocksGateway.Text

/-- The value of a decimal digit. -/
def digit? (c : Char) : Option Nat :=
  if '0' ≤ c ∧ c ≤ '9' then some (c.toNat - '0'.toNat) else none

/-- Appends the digits of `cs` to the number `acc`. -/
def readDigits (acc : Nat) : List Char → Option Nat
  | [] => some acc
  | c :: cs =>
    match digit? c with
    | some d => readDigits (10 * acc + d) cs
    | none => none

/-- A decimal number with at least one digit, after an optional `+`. -/
def readNat : List Char → Option Nat
  | [] => none
  | ['+'] => none
  | '+' :: cs => readDigits 0 cs
  | cs => readDigits 0 cs

/-- A decimal number below 2⁸. -/
def readUInt8 (s : List Char) : Option UInt8 :=
  match readNat s with
  | some n => if n < UInt8.size then some n.toUInt8 else none
  | none => none

/-- A decimal number below 2¹⁶. -/
def readUInt16 (s : List Char) : Option UInt16 :=
  match readNat s with
  | some n => if n < UInt16.size then some n.toUInt16 else none
  | none => none

/-- The decimal digits of `n`, without leading zeros. -/
def decimal (n : Nat) : List Char := Nat.toDigits 10 n

end SocksGateway.Text
