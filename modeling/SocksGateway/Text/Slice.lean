/-!
# Pieces of a text by bytes

Places in a text are counted in the bytes of its UTF-8 form.  There is no piece
that begins or ends inside a character.
-/

namespace SocksGateway.Text

/-- The number of bytes of a text. -/
def byteCount : List Char → Nat
  | [] => 0
  | c :: cs => c.utf8Size + byteCount cs

/-- The text behind its first `n` bytes. -/
def dropBytes? : Nat → List Char → Option (List Char)
  | 0, s => some s
  | _ + 1, [] => none
  | n + 1, c :: cs => if c.utf8Size ≤ n + 1 then dropBytes? (n + 1 - c.utf8Size) cs else none

/-- The first `n` bytes of a text. -/
def takeBytes? : Nat → List Char → Option (List Char)
  | 0, _ => some []
  | _ + 1, [] => none
  | n + 1, c :: cs =>
    if c.utf8Size ≤ n + 1 then (takeBytes? (n + 1 - c.utf8Size) cs).map (c :: ·) else none

/-- The `count` bytes from place `start` on. -/
def slice? (start count : Nat) (s : List Char) : Option (List Char) :=
  (dropBytes? start s).bind (takeBytes? count)

end SocksGateway.Text
