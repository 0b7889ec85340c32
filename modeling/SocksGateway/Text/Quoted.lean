import SocksGateway.Text.Concealed
import SocksGateway.Text.Hexadecimal

/-!
# Quoted text

The form in which error reports show a text: in double quotes, with escapes for
quotes, backslashes and whatever cannot be seen.
-/

namespace SocksGateway.Text

/-- A character by its number, in hexadecimal between braces. -/
def escapeNumber (c : Char) : List Char :=
  '\\' :: 'u' :: '\x7b' :: (hexadecimal c.toNat ++ ['\x7d'])

/-- One character between quotes. -/
def escapeChar (c : Char) : List Char :=
  match c with
  | '"' => ['\\', '"']
  | '\\' => ['\\', '\\']
  | '\n' => ['\\', 'n']
  | '\r' => ['\\', 'r']
  | '\t' => ['\\', 't']
  | c => if c.toNat = 0 then ['\\', '0'] else if isConcealed c then escapeNumber c else [c]

def quoted (s : String) : String :=
  String.ofList ('"' :: (s.toList.flatMap escapeChar ++ ['"']))

end SocksGateway.Text
