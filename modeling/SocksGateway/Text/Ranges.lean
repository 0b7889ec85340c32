/-!
# Ranges of characters

A property of characters as a list of closed ranges of their numbers.
-/

namespace SocksGateway.Text

/-- Whether a number lies in one of the ranges. -/
def inRanges (ranges : List (Nat × Nat)) (n : Nat) : Bool :=
  ranges.any fun r => r.1 ≤ n && n ≤ r.2

end SocksGateway.Text
