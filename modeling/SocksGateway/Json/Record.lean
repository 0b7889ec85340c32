import SocksGateway.Json.Value

/-!
# Records in JSON

A record with named fields is written as an object, whose members stand in any
order, or as an array of its fields in their order.  An object may leave out
fields that are not required, and an array may do so at its end; neither may
hold anything else, nor the same key twice.
-/

namespace SocksGateway

namespace Json

/-- A field of the records in `α`. -/
structure RecordField (α : Type) where
  key : String
  /-- Puts a value into a record, if the field can hold it. -/
  set : Value → α → Option α
  required : Bool := false

namespace RecordField

variable {α : Type}

/-- A field that holds what `read` makes of a value. -/
def of {β : Type} (key : String) (read : Value → Option β) (put : β → α → α)
    ( required : Bool := false) : RecordField α :=
  ⟨key, fun v a => (read v).map fun b => put b a, required⟩

/-- The keys are all fields' keys, none comes twice, and no required one is missing. -/
def accepts (fields : List (RecordField α)) (keys : List String) : Bool :=
  keys.all (fun k => (fields.map key).contains k) && decide keys.Nodup &&
    fields.all fun f => !f.required || keys.contains f.key

/-- Puts one member into a record. -/
def setMember (fields : List (RecordField α)) (a : α) (m : String × Value) : Option α :=
  match fields.find? fun f => f.key == m.1 with
  | some f => f.set m.2 a
  | none => none

/-- The record with these members, all else as in `a`. -/
def ofMembers (fields : List (RecordField α)) (a : α) (members : List (String × Value)) :
    Option α :=
  if accepts fields (members.map Prod.fst) then members.foldlM (setMember fields) a else none

/-- The record with these first fields, all else as in `a`. -/
def ofItems (a : α) : List (RecordField α) → List Value → Option α
  | [], [] => some a
  | [], _ :: _ => none
  | f :: fields, [] => if f.required then none else ofItems a fields []
  | f :: fields, v :: vs =>
    match f.set v a with
    | some a => ofItems a fields vs
    | none => none

/-- The members that are fields' own. -/
def known (fields : List (RecordField α)) (members : List (String × Value)) :
    List (String × Value) :=
  members.filter fun m => (fields.map key).contains m.1

/-- Reads a record, in which fields that are left out are as in `a`. -/
def record (fields : List (RecordField α)) (a : α) : Value → Option α
  | .object members => ofMembers fields a members
  | .array items => ofItems a fields items
  | _ => none

end RecordField

end Json

end SocksGateway
