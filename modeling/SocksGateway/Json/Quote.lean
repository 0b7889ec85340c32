import SocksGateway.Text.Hexadecimal

/-!
# JSON strings

Quotes, backslashes and control characters are escaped, the common control
characters by letter; every other character stands for itself.
-/

namespace SocksGateway

namespace Json

/-- One character of a JSON string. -/
def quoteChar (c : Char) : List Char :=
  match c with
  | '"' => ['\\', '"']
  | '\\' => ['\\', '\\']
  | '\n' => ['\\', 'n']
  | '\r' => ['\\', 'r']
  | '\t' => ['\\', 't']
  | c =>
    if c.toNat = 0x8 then ['\\', 'b']
    else if c.toNat = 0xC then ['\\', 'f']
    else if c.toNat < 0x20 then '\\' :: 'u' :: '0' :: '0' :: Text.hexByte c.toNat.toUInt8
    else [c]

/-- A text as a JSON string, with its quotes. -/
def quote (s : String) : String :=
  String.ofList ('"' :: (s.toList.flatMap quoteChar ++ ['"']))

end Json

end SocksGateway
