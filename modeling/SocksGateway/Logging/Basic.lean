/-!
# What is logged

A filter is a list of parts, each with a level.  A part covers the targets that
begin with its own, and only those events that have its field.  Of the parts that
cover an event the most specific one decides: the one with the longest target,
then one that asks for a field.
-/

namespace SocksGateway

inductive LogLevel where
  | off
  | error
  | warn
  | info
  | debug
  | trace
deriving DecidableEq, Repr

namespace LogLevel

/-- A level logs what is meant for it and for the levels below. -/
def number : LogLevel → Nat
  | off => 0
  | error => 1
  | warn => 2
  | info => 3
  | debug => 4
  | trace => 5

def name : LogLevel → String
  | off => "off"
  | error => "error"
  | warn => "warn"
  | info => "info"
  | debug => "debug"
  | trace => "trace"

/-- All levels, each at the place of its number. -/
def all : List LogLevel := [off, error, warn, info, debug, trace]

end LogLevel

/-- Something that the program has to say. -/
structure LogEvent where
  /-- The part of the program that says it. -/
  target : String
  level : LogLevel
  /-- The names of what it tells. -/
  fields : List String := ["message"]
deriving DecidableEq, Repr

/-- A field that a part asks for, and what its value has to be like. -/
structure LogField where
  name : List Char
  value : Option (List Char) := none
deriving DecidableEq, Repr

/-- A part of a filter.  The empty target covers everything. -/
structure LogPart where
  target : List Char := []
  /-- The activity in which something has to be said. -/
  span : Option (List Char) := none
  field : Option LogField := none
  level : LogLevel
deriving DecidableEq, Repr

namespace LogPart

/-- The part is about what is said in the course of some activity. -/
def isScoped (p : LogPart) : Bool :=
  p.span.isSome || (p.field.bind LogField.value).isSome

/-- The part decides on an event that stands on its own, if none is more
specific. -/
def covers (p : LogPart) (e : LogEvent) : Bool :=
  !p.isScoped && p.target.isPrefixOf e.target.toList &&
    match p.field with
    | none => true
    | some f => e.fields.contains (String.ofList f.name)

/-- The name of the field that a part asks for. -/
def fieldName? (p : LogPart) : Option String := p.field.map fun f => String.ofList f.name

/-- The second of two parts is at least as specific, for what both cover.  Parts
that ask for different fields go by the order of these. -/
def isRefinedBy (p q : LogPart) : Bool :=
  p.target.length < q.target.length ||
    (p.target.length == q.target.length &&
      match p.fieldName?, q.fieldName? with
      | none, _ => true
      | some _, none => false
      | some a, some b => a ≤ b)

end LogPart

structure LogFilter where
  parts : List LogPart
deriving DecidableEq, Repr

namespace LogFilter

/-- The filter that lets a level through, whatever the target. -/
def ofLevel (level : LogLevel) : LogFilter := ⟨[{ level }]⟩

/-- The part that decides on an event.  Of two that are equally specific the
later counts. -/
def decisive? (f : LogFilter) (e : LogEvent) : Option LogPart :=
  let better (best : Option LogPart) (p : LogPart) : Option LogPart :=
    if p.covers e && best.all fun b => b.isRefinedBy p then some p else best
  f.parts.foldl better none

/-- An event that stands on its own is logged. -/
def shows (f : LogFilter) (e : LogEvent) : Bool :=
  (f.decisive? e).any fun p => e.level.number ≤ p.level.number

end LogFilter

end SocksGateway
