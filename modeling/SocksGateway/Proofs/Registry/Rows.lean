import Mathlib.Algebra.GroupWithZero.Nat
import SocksGateway.Proofs.Json.RoundTrip
import SocksGateway.Proofs.Registry.Arrivals

/-!
# Status documents read back

The text of a status document is an array, with one object for each session in their order.
What a row shows is what stands under its keys.

* `Json.Value.text?`, `Json.Value.number?`: what stands under a key.
* `StatusEntry.members`, `StatusEntry.reads_text`: the object that a row is.
* `RowOf`: what a row shows of its session.
* `parse?_statusDocument`, `exists_rows`: the array that a document is.
-/

namespace SocksGateway

/-! ### Members by their keys -/

namespace Json.Value

/-- The members of an object. -/
def members : Value → List (String × Value)
  | object members => members
  | _ => []

def keys (v : Value) : List String := v.members.map Prod.fst

/-- The string that stands under this key. -/
def text? (v : Value) (key : String) : Option String := (v.members.lookup key).bind string?

/-- The number that stands under this key. -/
def number? (v : Value) (key : String) : Option Nat :=
  (v.members.lookup key).bind (natural? Number.wholeLimit)

/-- A number, or `null`. -/
def ofOption : Option Nat → Value
  | some n => ofNat n
  | none => null

end Json.Value

open Json (Value Reads)

/-- The keys of a row. -/
def rowKeys : List String :=
  ["connectionId", "service", "route", "socksVersion", "socksCommand", "remoteAddress",
    "remotePort", "remoteAddressEffective", "remotePortEffective", "status", "statusName",
    "statusDescription", "bytesTx", "bytesRx", "sourceAddress", "sourcePort", "timeStart",
    "timeEnd"]

namespace StatusEntry

variable {depth : Nat} (e : StatusEntry)

/-- The members of a row as values. -/
def members : List (String × Value) :=
  rowKeys.zip
    [.ofNat e.connectionId, .ofNat e.service.toNat, .string e.route,
      .ofOption (e.socksVersion.map UInt8.toNat), .ofOption (e.socksCommand.map UInt8.toNat),
      .string e.remoteAddress, .ofNat e.remotePort.toNat, .string e.remoteAddressEffective,
      .ofNat e.remotePortEffective.toNat, .ofNat e.status.toNat, .string e.statusName,
      .string e.statusDescription, .ofNat e.bytesTx.toNat, .ofNat e.bytesRx.toNat,
      .string e.sourceAddress, .ofNat e.sourcePort.toNat, .ofNat e.timeStart.toNat,
      .ofOption (e.timeEnd.map UInt64.toNat)]

theorem byte_lt (n : UInt8) : n.toNat < Json.Number.wholeLimit :=
  Nat.lt_trans n.toNat_lt (by decide)

theorem port_lt (n : UInt16) : n.toNat < Json.Number.wholeLimit :=
  Nat.lt_trans n.toNat_lt (by decide)

theorem bytes_lt (n : Option UInt8) : ∀ m ∈ n.map UInt8.toNat, m < Json.Number.wholeLimit := by
  simpa using fun n _ => byte_lt n

theorem words_lt (n : Option UInt64) : ∀ m ∈ n.map UInt64.toNat, m < Json.Number.wholeLimit := by
  simpa [Json.Number.wholeLimit] using fun n _ => n.toNat_lt

theorem reads_optional {n : Option Nat} (h : ∀ m ∈ n, m < Json.Number.wholeLimit) :
    Reads depth (optional n).toList (.ofOption n) := by
  cases n with
  | none => exact Json.reads_null
  | some n => exact Json.reads_nat (h n rfl)

theorem reads_text (hId : e.connectionId < Json.Number.wholeLimit) :
    Reads (depth + 1) e.text.toList (.object e.members) := by
  have hService : e.service.toNat < Json.Number.wholeLimit :=
    Nat.lt_trans e.service.toNat_lt (by decide)
  have hWord (n : UInt64) : n.toNat < Json.Number.wholeLimit := n.toNat_lt
  refine Json.reads_object ?_ (List.cons_ne_nil _ _)
  simp only [fields, members, rowKeys, List.zip_cons_cons, List.zip_nil_left, List.forall₂_cons,
    Json.reads_string, Json.reads_nat, reads_optional (bytes_lt _), reads_optional (words_lt _),
    hId, hService, byte_lt, port_lt, hWord, List.Forall₂.nil, and_self]

end StatusEntry

namespace SessionRegistry

/-- **The row shows this session** as it is, each thing under its key. -/
structure RowOf (t : Session) (row : Value) : Prop where
  keys : row.keys = rowKeys
  id : row.number? "connectionId" = some t.id
  version : row.number? "socksVersion" = t.version.map (·.number.toNat)
  command : row.number? "socksCommand" = t.commandRequested.map (·.byte.toNat)
  address : row.text? "remoteAddress" = some (t.destinationRequested.getD {}).host
  port : row.number? "remotePort" = some (t.destinationRequested.getD {}).port.toNat
  effectiveAddress : row.text? "remoteAddressEffective" = some t.destination.host
  effectivePort : row.number? "remotePortEffective" = some t.destination.port.toNat
  bytesTx : row.number? "bytesTx" = some t.bytesTx.toNat
  bytesRx : row.number? "bytesRx" = some t.bytesRx.toNat
  ended : row.number? "timeEnd" = t.endTime.map fun time => (unixSeconds time).toNat

theorem number?_of_lookup {row : Value} {key : String} {n : Nat}
    (hMember : row.members.lookup key = some (.ofNat n)) (hLimit : n < Json.Number.wholeLimit) :
    row.number? key = some n := by
  rw [Value.number?, hMember]
  exact Json.natural?_ofNat hLimit hLimit

theorem number?_of_lookup_option {row : Value} {key : String} {n : Option Nat}
    (hMember : row.members.lookup key = some (.ofOption n))
    (hLimit : ∀ m ∈ n, m < Json.Number.wholeLimit) : row.number? key = n := by
  cases n with
  | none =>
    rw [Value.number?, hMember]
    rfl
  | some n => exact number?_of_lookup hMember (hLimit n rfl)

theorem rowOf_ofSession {t : Session} (hId : t.id < Json.Number.wholeLimit) :
    RowOf t (.object (StatusEntry.ofSession t).members) where
  keys := rfl
  id := number?_of_lookup rfl hId
  version := (number?_of_lookup_option rfl (StatusEntry.bytes_lt _)).trans (Option.map_map ..)
  command := (number?_of_lookup_option rfl (StatusEntry.bytes_lt _)).trans (Option.map_map ..)
  address := rfl
  port := number?_of_lookup rfl (StatusEntry.port_lt _)
  effectiveAddress := rfl
  effectivePort := number?_of_lookup rfl (StatusEntry.port_lt _)
  bytesTx := number?_of_lookup rfl (UInt64.toNat_lt _)
  bytesRx := number?_of_lookup rfl (UInt64.toNat_lt _)
  ended := (number?_of_lookup_option rfl (StatusEntry.words_lt _)).trans (Option.map_map ..)

/-- **A status document is read as an array with one row for each session**, in their order,
as long as their numbers have 64 bits. -/
theorem parse?_statusDocument {sessions : List Session}
    (hIds : ∀ s ∈ sessions, s.id < Json.Number.wholeLimit) :
    ∃ rows, Value.parse? (statusDocument sessions).toList = some (.array rows) ∧
      List.Forall₂ RowOf sessions rows := by
  refine ⟨sessions.map fun s => .object (StatusEntry.ofSession s).members,
    Json.parse?_of_reads (Json.reads_array ?_), ?_⟩
  · rw [statusRows, List.map_map, List.forall₂_map_left_iff, List.forall₂_map_right_iff,
      List.forall₂_same]
    exact fun s hs => StatusEntry.reads_text _ (hIds s hs)
  · rw [List.forall₂_map_right_iff, List.forall₂_same]
    exact fun s hs => rowOf_ofSession (hIds s hs)

/-- **The document of a registry**, which is read as long as its numbers have 64 bits. -/
theorem exists_rows (moves : List Move) (hNumbers : (state moves).next ≤ 2 ^ 64) :
    ∃ rows, Value.parse? (after moves).document.toList = some (.array rows) ∧
      List.Forall₂ RowOf (after moves).sessions rows :=
  parse?_statusDocument fun _ hs => Nat.lt_of_lt_of_le (lt_next_of_mem hs) hNumbers

theorem ids_of_rows {sessions : List Session} {rows : List Value}
    (hRows : List.Forall₂ RowOf sessions rows) :
    rows.map (·.number? "connectionId") = (sessions.map Session.id).map some := by
  induction hRows with
  | nil => rfl
  | cons hRow _ ih => simp only [List.map_cons, hRow.id, ih]

theorem exists_rowOf {sessions : List Session} {rows : List Value} {row : Value}
    (hRows : List.Forall₂ RowOf sessions rows) (hRow : row ∈ rows) {id : Nat}
    (hId : row.number? "connectionId" = some id) : ∃ t ∈ sessions, t.id = id ∧ RowOf t row := by
  obtain ⟨k, hk, rfl⟩ := List.getElem_of_mem hRow
  have hLength := hRows.length_eq
  have hRowOf : RowOf sessions[k] rows[k] := hRows.get (hLength ▸ hk) hk
  exact ⟨sessions[k], List.getElem_mem _, Option.some.inj (hRowOf.id.symm.trans hId), hRowOf⟩

end SessionRegistry

end SocksGateway
