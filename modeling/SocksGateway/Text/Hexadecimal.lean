/-!
# Hexadecimal numbers

Lower-case digits throughout.
-/

namespace SocksGateway.Text

/-- The value of a hexadecimal digit, in either case. -/
def hexDigit? (c : Char) : Option Nat :=
  if '0' ≤ c ∧ c ≤ '9' then some (c.toNat - '0'.toNat)
  else if 'a' ≤ c ∧ c ≤ 'f' then some (c.toNat - 'a'.toNat + 10)
  else if 'A' ≤ c ∧ c ≤ 'F' then some (c.toNat - 'A'.toNat + 10)
  else none

/-- The hexadecimal digits of `n`, without leading zeros. -/
def hexadecimal (n : Nat) : List Char := Nat.toDigits 16 n

/-- The two hexadecimal digits of a byte. -/
def hexByte (b : UInt8) : List Char :=
  Nat.toDigits 16 (b.toNat / 16) ++ Nat.toDigits 16 (b.toNat % 16)

/-- A byte as error texts show it: `0x` and two digits. -/
def hexTag (b : UInt8) : String := String.ofList ('0' :: 'x' :: hexByte b)

/-- A byte string, two digits a byte. -/
def hexBytes (bs : List UInt8) : String := String.ofList (bs.flatMap hexByte)

/-- Reads a byte string back from pairs of digits. -/
def readHexBytes : List Char → Option (List UInt8)
  | [] => some []
  | a :: b :: cs =>
    match hexDigit? a, hexDigit? b, readHexBytes cs with
    | some x, some y, some r => some ((16 * x + y).toUInt8 :: r)
    | _, _, _ => none
  | [_] => none

end SocksGateway.Text
