import SocksGateway.Json.Value
import SocksGateway.Text.Hexadecimal

/-!
# Reading JSON

A reader takes what it needs from the front of a text and hands back the rest,
or fails.  Nothing but blanks may follow the value of a whole text, and arrays
and objects may be nested 127 deep.
-/

namespace SocksGateway

namespace Json

/-- How deep arrays and objects may be nested. -/
def depthLimit : Nat := 127

/-- The four characters that may stand between tokens. -/
def isSpace (c : Char) : Bool := c == ' ' || c == '\n' || c == '\t' || c == '\r'

def skipSpaces (cs : List Char) : List Char := cs.dropWhile isSpace

/-- Takes `word` from the front. -/
def expect (word : List Char) (cs : List Char) : Option (List Char) :=
  if word.isPrefixOf cs then some (cs.drop word.length) else none

/-! ### Numbers -/

/-- The longest run of digits. -/
def readDigits : List Char → List Nat × List Char
  | [] => ([], [])
  | c :: cs =>
    match Text.digit? c with
    | some d =>
      let (ds, rest) := readDigits cs
      (d :: ds, rest)
    | none => ([], c :: cs)

/-- At least one digit. -/
def readDigits1 (cs : List Char) : Option (List Nat × List Char) :=
  match readDigits cs with
  | ([], _) => none
  | r => some r

/-- The digits before the point: a zero stands alone. -/
def readWhole (cs : List Char) : Option (List Nat × List Char) :=
  match readDigits1 cs with
  | some (0 :: _ :: _, _) => none
  | r => r

/-- The point and the digits behind it. -/
def readFraction : List Char → Option (Option (List Nat) × List Char)
  | '.' :: cs => (readDigits1 cs).map fun (ds, rest) => (some ds, rest)
  | cs => some (none, cs)

/-- The sign in front of an exponent; true is minus. -/
def readExponentSign : List Char → Bool × List Char
  | '-' :: cs => (true, cs)
  | '+' :: cs => (false, cs)
  | cs => (false, cs)

/-- The digits of an exponent, behind the `e`. -/
def readExponentDigits (cs : List Char) : Option (Option Int × List Char) :=
  let (negative, cs) := readExponentSign cs
  (readDigits1 cs).map fun (ds, rest) =>
    let e := Number.ofDigits ds
    (some (if negative then -(e : Int) else e), rest)

def readExponent : List Char → Option (Option Int × List Char)
  | 'e' :: cs => readExponentDigits cs
  | 'E' :: cs => readExponentDigits cs
  | cs => some (none, cs)

/-- A number behind its sign. -/
def readUnsigned (negative : Bool) (cs : List Char) : Option (Number × List Char) := do
  let (whole, cs) ← readWhole cs
  let (fraction, cs) ← readFraction cs
  let (exponent, cs) ← readExponent cs
  let x : Number := { negative, whole, fraction, exponent }
  if x.isFinite then some (x, cs) else none

def readNumber : List Char → Option (Number × List Char)
  | '-' :: cs => readUnsigned true cs
  | cs => readUnsigned false cs

/-! ### Strings -/

/-- Four hexadecimal digits. -/
def readUnit : List Char → Option (Nat × List Char)
  | a :: b :: c :: d :: cs => do
    let a ← Text.hexDigit? a
    let b ← Text.hexDigit? b
    let c ← Text.hexDigit? c
    let d ← Text.hexDigit? d
    some (16 * (16 * (16 * a + b) + c) + d, cs)
  | _ => none

/-- The second half of a surrogate pair, behind its first half `high`. -/
def readLowSurrogate (high : Nat) : List Char → Option (Char × List Char)
  | '\\' :: 'u' :: cs => do
    let (low, cs) ← readUnit cs
    if 0xDC00 ≤ low && low < 0xE000 then
      some (Char.ofNat (0x10000 + (high - 0xD800) * 0x400 + (low - 0xDC00)), cs)
    else none
  | _ => none

/-- A character given by number, behind the `\u`.  Surrogates come in pairs. -/
def readCodePoint (cs : List Char) : Option (Char × List Char) := do
  let (n, cs) ← readUnit cs
  if 0xDC00 ≤ n && n < 0xE000 then none
  else if 0xD800 ≤ n && n < 0xDC00 then readLowSurrogate n cs
  else some (Char.ofNat n, cs)

/-- An escape, behind the backslash. -/
def readEscape : List Char → Option (Char × List Char)
  | '"' :: cs => some ('"', cs)
  | '\\' :: cs => some ('\\', cs)
  | '/' :: cs => some ('/', cs)
  | 'b' :: cs => some ('\x08', cs)
  | 'f' :: cs => some ('\x0c', cs)
  | 'n' :: cs => some ('\n', cs)
  | 'r' :: cs => some ('\r', cs)
  | 't' :: cs => some ('\t', cs)
  | 'u' :: cs => readCodePoint cs
  | _ => none

/-- A string behind its opening quote, up to its closing one. -/
def readChars : (fuel : Nat) → List Char → Option (List Char × List Char)
  | 0, _ => none
  | _, [] => none
  | fuel + 1, c :: cs =>
    if c = '"' then some ([], cs)
    else if c.toNat < 0x20 then none
    else do
      let (x, cs) ← if c = '\\' then readEscape cs else some (c, cs)
      let (xs, cs) ← readChars fuel cs
      some (x :: xs, cs)

def readString (cs : List Char) : Option (String × List Char) :=
  match cs with
  | '"' :: cs => (readChars cs.length cs).map fun (s, rest) => (String.ofList s, rest)
  | _ => none

/-! ### Values -/

/-- A value that is neither an array nor an object. -/
def readScalar : List Char → Option (Value × List Char)
  | 'n' :: cs => (expect ['u', 'l', 'l'] cs).map fun rest => (.null, rest)
  | 't' :: cs => (expect ['r', 'u', 'e'] cs).map fun rest => (.bool true, rest)
  | 'f' :: cs => (expect ['a', 'l', 's', 'e'] cs).map fun rest => (.bool false, rest)
  | '"' :: cs => (readString ('"' :: cs)).map fun (s, rest) => (.string s, rest)
  | cs => (readNumber cs).map fun (n, rest) => (.number n, rest)

/-- The key of a member and its colon. -/
def readKey (cs : List Char) : Option (String × List Char) := do
  let (key, cs) ← readString (skipSpaces cs)
  let cs ← expect [':'] (skipSpaces cs)
  some (key, cs)

mutual

/-- A value, in which arrays and objects are nested at most `depth` deep. -/
def readValue : (fuel depth : Nat) → List Char → Option (Value × List Char)
  | 0, _, _ => none
  | fuel + 1, depth, cs =>
    match skipSpaces cs with
    | '[' :: cs =>
      match depth, skipSpaces cs with
      | 0, _ => none
      | _ + 1, ']' :: cs => some (.array [], cs)
      | depth + 1, cs => (readItems fuel depth cs).map fun (vs, rest) => (.array vs, rest)
    | '\x7b' :: cs =>
      match depth, skipSpaces cs with
      | 0, _ => none
      | _ + 1, '\x7d' :: cs => some (.object [], cs)
      | depth + 1, cs => (readMembers fuel depth cs).map fun (ms, rest) => (.object ms, rest)
    | cs => readScalar cs

/-- The items of an array that has some, up to its closing bracket. -/
def readItems : (fuel depth : Nat) → List Char → Option (List Value × List Char)
  | 0, _, _ => none
  | fuel + 1, depth, cs => do
    let (v, cs) ← readValue fuel depth cs
    match skipSpaces cs with
    | ',' :: cs =>
      let (vs, cs) ← readItems fuel depth cs
      some (v :: vs, cs)
    | ']' :: cs => some ([v], cs)
    | _ => none

/-- The members of an object that has some, up to its closing brace. -/
def readMembers : (fuel depth : Nat) → List Char → Option (List (String × Value) × List Char)
  | 0, _, _ => none
  | fuel + 1, depth, cs => do
    let (key, cs) ← readKey cs
    let (v, cs) ← readValue fuel depth cs
    match skipSpaces cs with
    | ',' :: cs =>
      let (ms, cs) ← readMembers fuel depth cs
      some ((key, v) :: ms, cs)
    | '\x7d' :: cs => some ([(key, v)], cs)
    | _ => none

end

/-- The value that a whole text is.  Of two calls of readers, one inside the other,
at least one takes a character, so twice the length is fuel enough. -/
def Value.parse? (text : List Char) : Option Value := do
  let (v, rest) ← readValue (2 * text.length + 2) depthLimit text
  if (skipSpaces rest).isEmpty then some v else none

end Json

end SocksGateway
