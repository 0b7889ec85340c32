/-!
# Joining texts
-/

namespace SocksGateway.Text

/-- The texts one after the other, with `sep` between neighbours. -/
def join (sep : String) : List String → String
  | [] => ""
  | [s] => s
  | s :: t :: rest => s ++ sep ++ join sep (t :: rest)

end SocksGateway.Text
