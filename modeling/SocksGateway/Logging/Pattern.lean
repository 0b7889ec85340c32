import SocksGateway.Text.Alphanumeric
import SocksGateway.Text.Decimal
import SocksGateway.Text.Hexadecimal

/-!
# Patterns

Which texts are patterns that a value can be matched with: regular expressions
with groups, alternatives, repetitions, classes and escapes.  There is no brace,
comma or equals sign in the texts that are asked about, so a number of
repetitions cannot be given.  Word boundaries cannot be matched.  Of the flags of
a group only the spelling counts.
-/

namespace SocksGateway.Pattern

open Text

/-- What a character or an escape stands for. -/
inductive Item where
  | literal (c : Char)
  /-- One of several characters. -/
  | oneOf
  /-- A place in the text. -/
  | place
deriving DecidableEq, Repr

/-- A character by its number, in `count` hexadecimal digits. -/
def readNumbered (count : Nat) (s : List Char) : Option (Item × List Char) :=
  let digits := s.take count
  let n := digits.foldl (fun n c => 16 * n + (hexDigit? c).getD 0) 0
  if digits.length = count ∧ digits.all (fun c => (hexDigit? c).isSome) ∧ n.isValidChar then
    some (.literal (Char.ofNat n), s.drop count)
  else none

/-- Reads an escape, behind its backslash. -/
def readEscape : List Char → Option (Item × List Char)
  | [] => none
  | 'x' :: s => readNumbered 2 s
  | 'u' :: s => readNumbered 4 s
  | 'U' :: s => readNumbered 8 s
  | c :: s =>
    if c = 'p' ∨ c = 'P' then
      match s with
      | k :: s => if "CLMNPSZclmnpsz".toList.contains k then some (.oneOf, s) else none
      | [] => none
    else if "dswDSW".toList.contains c then some (.oneOf, s)
    else if c = 'A' ∨ c = 'z' then some (.place, s)
    else
      match [('a', 0x7), ('f', 0xC), ('n', 0xA), ('r', 0xD), ('t', 0x9), ('v', 0xB)].lookup c with
      | some n => some (.literal (Char.ofNat n), s)
      | none =>
        if c.toNat < 0x80 ∧ !c.isAlphanum ∧ c ≠ '<' ∧ c ≠ '>' then some (.literal c, s) else none

/-- Reads what stands in a class. -/
def readItem : List Char → Option (Item × List Char)
  | [] => none
  | '\\' :: s => readEscape s
  | c :: s => some (.literal c, s)

/-- Passes over what may only stand at the start of a class: a negation, dashes,
and a bracket that does not close it. -/
def dropClassStart (s : List Char) : List Char :=
  let s := if s.head? = some '^' then s.drop 1 else s
  let rest := s.dropWhile (· == '-')
  if rest.length = s.length ∧ rest.head? = some ']' then rest.drop 1 else rest

/-- Passes over an item of a class, or over two with a dash between them. -/
def skipRange (s : List Char) : Option (List Char) :=
  match readItem s with
  | none => none
  | some (low, '-' :: c :: rest) =>
    if c = ']' ∨ c = '-' then (if low = .place then none else some ('-' :: c :: rest))
    else
      match low, readItem (c :: rest) with
      | .literal a, some (.literal b, rest) => if a ≤ b then some rest else none
      | _, _ => none
  | some (low, rest) => if low = .place then none else some rest

/-- Passes over the rest of a class, which has `depth` classes around it. -/
def skipClass : (fuel depth : Nat) → List Char → Option (List Char)
  | 0, _, _ => none
  | _, _, [] => none
  | fuel + 1, depth, c :: s =>
    if c = ']' then (if depth = 0 then some s else skipClass fuel (depth - 1) s)
    else if c = '[' then skipClass fuel (depth + 1) (dropClassStart s)
    else if (c = '&' ∨ c = '-' ∨ c = '~') ∧ s.head? = some c then skipClass fuel depth (s.drop 1)
    else
      match skipRange (c :: s) with
      | some rest => skipClass fuel depth rest
      | none => none

/-- The name of a group, up to its end. -/
def skipGroupName (s : List Char) : Option (List Char) :=
  let name := s.takeWhile (· ≠ '>')
  let startsWell := name.head?.any fun c => c = '_' || isAlphanumeric c && (digit? c).isNone
  if startsWell ∧ name.all (fun c => ['_', '.', '[', ']'].contains c || isAlphanumeric c) ∧
      s.length ≠ name.length then
    some (s.drop (name.length + 1))
  else none

/-- Reads the flags at the start of a group, behind its question mark, and tells
whether a group follows. -/
def readFlags (s : List Char) : Option (Bool × List Char) :=
  let flags := s.takeWhile fun c => c ≠ ':' && c ≠ ')'
  let wellSpelt := flags.all ("imsUuRx-".toList.contains ·) && flags.eraseDups == flags &&
    flags.getLast? != some '-'
  match s.drop flags.length with
  | ':' :: rest => if wellSpelt then some (true, rest) else none
  | _ :: rest => if wellSpelt && !flags.isEmpty then some (false, rest) else none
  | [] => none

/-- Reads the start of a group, behind its parenthesis, and tells whether a group
follows. -/
def readGroupStart : List Char → Option (Bool × List Char)
  | '?' :: 'P' :: '<' :: s => (skipGroupName s).map (true, ·)
  | '?' :: '<' :: s => (skipGroupName s).map (true, ·)
  | '?' :: s => readFlags s
  | s => some (true, s)

/-- A pattern goes on well inside of `groups` groups.  A repetition needs
something to repeat. -/
def goesOn : (fuel groups : Nat) → (repeatable : Bool) → List Char → Bool
  | 0, _, _, _ => false
  | _, groups, _, [] => groups = 0
  | fuel + 1, groups, repeatable, c :: s =>
    if c = '(' then
      match readGroupStart s with
      | some (true, rest) => goesOn fuel (groups + 1) false rest
      | some (false, rest) => goesOn fuel groups false rest
      | none => false
    else if c = ')' then 0 < groups && goesOn fuel (groups - 1) true s
    else if c = '|' then goesOn fuel groups false s
    else if c = '*' ∨ c = '+' ∨ c = '?' then repeatable && goesOn fuel groups true s
    else if c = '{' then false
    else if c = '[' then
      match skipClass (s.length + 1) 0 (dropClassStart s) with
      | some rest => goesOn fuel groups true rest
      | none => false
    else if c = '\\' then
      match readEscape s with
      | some (_, rest) => goesOn fuel groups true rest
      | none => false
    else goesOn fuel groups true s

def isPattern (s : List Char) : Bool := goesOn (s.length + 1) 0 false s

end SocksGateway.Pattern
