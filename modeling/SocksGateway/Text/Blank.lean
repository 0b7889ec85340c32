import SocksGateway.Text.Split

/-!
# Blanks, words and lines

A blank is a character with the Unicode property `White_Space`.  Words are the
longest runs without a blank.  A line ends with a line feed, and a carriage
return right before that line feed belongs to the line's end.
-/

namespace SocksGateway.Text

/-- The code points with the Unicode property `White_Space`, as closed ranges. -/
def blankRanges : List (Nat × Nat) :=
  [(0x9, 0xD), (0x20, 0x20), (0x85, 0x85), (0xA0, 0xA0), (0x1680, 0x1680), (0x2000, 0x200A),
    (0x2028, 0x2029), (0x202F, 0x202F), (0x205F, 0x205F), (0x3000, 0x3000)]

def isBlank (c : Char) : Bool :=
  blankRanges.any fun (lo, hi) => lo ≤ c.toNat && c.toNat ≤ hi

/-- The words of a text, in order. -/
def words (s : List Char) : List (List Char) :=
  (split isBlank s).filter fun w => !w.isEmpty

/-- The text without the blanks at its two ends. -/
def trim (s : List Char) : List Char :=
  ((s.dropWhile isBlank).reverse.dropWhile isBlank).reverse

/-- Removes the carriage return that belongs to a line's end. -/
def dropReturn (line : List Char) : List Char :=
  match line.reverse with
  | '\r' :: r => r.reverse
  | _ => line

/-- Marks the pieces between line feeds as lines.  The last piece has no line
feed behind it: it counts only when it is not empty, and keeps what it holds. -/
def endLines : List (List Char) → List (List Char)
  | [] => []
  | [last] => if last.isEmpty then [] else [last]
  | line :: rest => dropReturn line :: endLines rest

/-- The lines of a text. -/
def lines (s : List Char) : List (List Char) := endLines (split (· == '\n') s)

end SocksGateway.Text
