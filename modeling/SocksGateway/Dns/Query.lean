import SocksGateway.Text.Blank
import SocksGateway.Text.Hexadecimal

/-!
# The query of a DNS-over-HTTPS request

The name and the record type are form fields: letters, digits and `*-._` stand
for themselves, a blank is `+`, and every other byte is `%` with two digits.
-/

namespace SocksGateway

namespace Dns

/-- A byte that stands for itself in a form field. -/
def isFormByte (b : UInt8) : Bool :=
  (0x30 ≤ b && b ≤ 0x39) || (0x41 ≤ b && b ≤ 0x5A) || (0x61 ≤ b && b ≤ 0x7A)
    || b == 0x2A || b == 0x2D || b == 0x2E || b == 0x5F

def formByte (b : UInt8) : List Char :=
  if isFormByte b then [Char.ofNat b.toNat]
  else if b = 0x20 then ['+']
  else '%' :: (Text.hexByte b).map Char.toUpper

/-- A text as the value of a form field. -/
def formValue (s : String) : List Char := s.toUTF8.toList.flatMap formByte

/-- The request target for a name at an endpoint with this path: the query
follows any query of the path, and a fragment is dropped. -/
def queryTarget (path : List Char) (host : String) : List Char :=
  let path := path.takeWhile (· ≠ '#')
  let glue :=
    match path.contains '?', path.getLast? with
    | false, _ => ['?']
    | true, some '?' => []
    | true, _ => ['&']
  path ++ glue ++ "name=".toList ++ formValue host ++ "&type=A".toList

end Dns

end SocksGateway
