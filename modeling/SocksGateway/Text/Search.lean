/-!
# Finding text in text
-/

namespace SocksGateway.Text

/-- Whether `p` stands somewhere in a text, at one place without gaps. -/
def occurs (p : List Char) : List Char → Bool
  | [] => p.isEmpty
  | c :: cs => p.isPrefixOf (c :: cs) || occurs p cs

end SocksGateway.Text
