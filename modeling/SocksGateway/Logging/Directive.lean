import SocksGateway.Logging.Basic
import SocksGateway.Logging.Pattern
import SocksGateway.Text.Blank
import SocksGateway.Text.Slice

/-!
# Log directives

A directive is a filter as text.  Its parts have commas between them: a level for
everything, or a target, a span in brackets or both, with a level of their own
behind `=`.  A span may ask for a field: `target[span{field=value}]=level`.

The blanks around a part are passed over in looking for its marks, but they count
in cutting it at them: places are counted in bytes from the first character that
is no blank, and cut from the first of all.  So a level with a blank beside it is
no level, and a cut may fall inside a character.
-/

namespace SocksGateway

open Text

/-- The directive that counts when nobody gives one. -/
def defaultLogLevel : String := "info"

/-- The directive given on the command line, or else in the configuration. -/
def logDirective (commandLine configuration : Option String) : String :=
  (commandLine.or configuration).getD defaultLogLevel

/-- Why a directive is not a filter. -/
inductive LogFault where
  | malformed
  /-- A cut falls inside a character. -/
  | splitsCharacter
deriving DecidableEq, Repr

/-- Reads the number of a level, or its name in letters of either case. -/
def LogLevel.parse? (s : List Char) : Option LogLevel :=
  match readNat s with
  | some n => all[n]?
  | none => all.find? fun level => level.name == (String.ofList s).toLower

namespace LogField

/-- One decimal digit or more. -/
def isNumeral (s : List Char) : Bool := !s.isEmpty && s.all fun c => (digit? c).isSome

/-- The text without a sign in front. -/
def dropSign (s : List Char) : List Char :=
  if s.head? = some '+' ∨ s.head? = some '-' then s.drop 1 else s

/-- A number without sign: digits, a point among them, an exponent behind them; or
a word for what is no finite number. -/
def isMagnitude (s : List Char) : Bool :=
  let mantissa := s.takeWhile fun c => c ≠ 'e' && c ≠ 'E'
  let digits := mantissa.filter (· ≠ '.')
  let exponent := s.drop mantissa.length
  (isNumeral digits && mantissa.length ≤ digits.length + 1 &&
      (exponent.isEmpty || isNumeral (dropSign (exponent.drop 1)))) ||
    ["inf", "infinity", "nan"].contains (String.ofList s).toLower

/-- A value is compared with a number, or matched with a pattern. -/
def isValue (s : List Char) : Bool :=
  Pattern.isPattern s || (s.head? == some '+' && isMagnitude (s.drop 1))

/-- Reads what stands between braces.  Another equals sign ends the value. -/
def parse? (s : List Char) : Option LogField :=
  match cutFirst '=' s with
  | none => if s.isEmpty then none else some ⟨s, none⟩
  | some (name, value) =>
    let value := value.takeWhile (· ≠ '=')
    if isValue value then some ⟨name, some value⟩ else none

end LogField

namespace LogPart

/-- A part without brackets starts with a letter, a number or one of three marks. -/
def startsWell (c : Char) : Bool := isAlphanumeric c || ['-', ':', '_'].contains c

/-- What stands in a part at some place. -/
def cut (s : List Char) (place count : Nat) : Except LogFault (List Char) :=
  match slice? place count s with
  | some piece => .ok piece
  | none => .error .splitsCharacter

/-- The level at the end of a part.  No level is the highest. -/
def readLevel (s : List Char) (place : Nat) : Except LogFault LogLevel :=
  match dropBytes? place s with
  | none => .error .splitsCharacter
  | some [] => .ok .trace
  | some word =>
    match LogLevel.parse? word with
    | some level => .ok level
    | none => .error .malformed

/-- What may come behind the brackets of a part: nothing, or a level. -/
def readBehindSpan (s : List Char) (place : Nat) : List Char → Except LogFault LogLevel
  | [] => .ok .trace
  | '=' :: _ => readLevel s (place + 1)
  | _ => .error .malformed

/-- The field at a place, and the level behind it. -/
def readField (s : List Char) (place : Nat) (t : List Char) :
    Except LogFault (LogField × LogLevel) := do
  let inside := t.takeWhile (· ≠ '}')
  let count := byteCount inside
  match t.drop inside.length with
  | [] => throw .malformed
  | _ :: rest =>
    let piece ← cut s place count
    match LogField.parse? piece, rest with
    | some field, ']' :: rest => return (field, ← readBehindSpan s (place + count + 2) rest)
    | _, _ => throw .malformed

/-- The span at a place, behind its bracket, with what it asks for and the level
behind it. -/
def readSpan (s target : List Char) (place : Nat) (t : List Char) : Except LogFault LogPart := do
  let inside := t.takeWhile fun c => c ≠ ']' && c ≠ '{'
  let count := byteCount inside
  match t.drop inside.length with
  | [] => throw .malformed
  | mark :: rest =>
    let name ← cut s place count
    if mark = ']' then
      return { target, span := some name, level := ← readBehindSpan s (place + count + 1) rest }
    else
      let (field, level) ← readField s (place + count + 1) rest
      let span := if name.isEmpty then none else some name
      return { target, span, field := some field, level }

/-- A part without marks is a level, or a target on the highest level. -/
def ofWord (s : List Char) : LogPart :=
  match LogLevel.parse? s with
  | some level => { level }
  | none => { target := s, level := .trace }

/-- Reads a part. -/
def parse (s : List Char) : Except LogFault LogPart := do
  match trim s with
  | [] => throw .malformed
  | '[' :: t => readSpan s [] 1 t
  | c :: t =>
    if !startsWell c then throw .malformed
    else
      let inside := c :: t.takeWhile fun c => c ≠ '=' && c ≠ '['
      let place := byteCount inside
      match (c :: t).drop inside.length with
      | [] => return ofWord s
      | mark :: rest =>
        let target ← cut s 0 place
        if mark = '=' then return { target, level := ← readLevel s (place + 1) }
        else readSpan s target (place + 1) rest

end LogPart

namespace LogFilter

/-- Reads parts up to the first that is none. -/
def parseParts : List (List Char) → Except LogFault (List LogPart)
  | [] => .ok []
  | s :: rest => do
    let part ← LogPart.parse s
    return part :: (← parseParts rest)

/-- Reads a directive.  One without parts lets errors through. -/
def parse (s : List Char) : Except LogFault LogFilter :=
  match (split (· == ',') s).filter fun part => !part.isEmpty with
  | [] => .ok (ofLevel .error)
  | parts => (parseParts parts).map LogFilter.mk

/-- The filter of a directive; a malformed one stands for the default.  There is
none when a cut falls inside a character. -/
def ofDirective? (directive : String) : Option LogFilter :=
  match parse directive.toList with
  | .ok f => some f
  | .error .malformed => some (ofLevel .info)
  | .error .splitsCharacter => none

end LogFilter

end SocksGateway
