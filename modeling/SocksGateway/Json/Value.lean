import SocksGateway.Json.Number

/-!
# JSON values

An object is the list of its members as they are written: in order, and with
every repetition.
-/

namespace SocksGateway

namespace Json

inductive Value where
  | null
  | bool (b : Bool)
  | number (n : Number)
  | string (s : String)
  | array (items : List Value)
  | object (members : List (String × Value))

namespace Value

def bool? : Value → Option Bool
  | bool b => some b
  | _ => none

def string? : Value → Option String
  | string s => some s
  | _ => none

/-- A natural number below `limit`. -/
def natural? (limit : Nat) : Value → Option Nat
  | number n =>
    match n.natural? with
    | some n => if n < limit then some n else none
    | none => none
  | _ => none

def uint16? (v : Value) : Option UInt16 := (v.natural? UInt16.size).map Nat.toUInt16

def uint32? (v : Value) : Option UInt32 := (v.natural? UInt32.size).map Nat.toUInt32

def uint64? (v : Value) : Option UInt64 := (v.natural? UInt64.size).map Nat.toUInt64

/-- A value that may be left open with `null`. -/
def nullable {α : Type} (read : Value → Option α) : Value → Option (Option α)
  | null => some none
  | v => (read v).map some

/-- An array whose items are all read. -/
def list {α : Type} (read : Value → Option α) : Value → Option (List α)
  | array items => items.mapM read
  | _ => none

/-- One of some names, as a string or as the only key of an object that holds
`null` there. -/
def choice {α : Type} (names : List (String × α)) : Value → Option α
  | string s => names.lookup s
  | object [(s, null)] => names.lookup s
  | _ => none

end Value

end Json

end SocksGateway
