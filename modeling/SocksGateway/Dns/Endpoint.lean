import SocksGateway.Dns.Https
import SocksGateway.Dns.Query
import SocksGateway.Json.Parser
import SocksGateway.Json.Record

/-!
# Endpoints of DNS over HTTPS

An endpoint is asked for a name by a request whose target holds the query.  It
answers with a JSON document that may list records; members of no meaning here
are passed over.
-/

namespace SocksGateway

namespace Dns

open Json Json.RecordField

namespace HttpsRecord

def fields : List (RecordField HttpsRecord) :=
  [of "TTL" Value.uint32? (fun x r => { r with ttl := x }) true,
    of "data" Value.string? (fun x r => { r with data := x }) true]

def ofJson? : Value → Option HttpsRecord
  | .object members => ofMembers fields ⟨0, ""⟩ (known fields members)
  | .array items => ofItems ⟨0, ""⟩ fields items
  | _ => none

end HttpsRecord

/-- The records of a document, and whether it may leave them out. -/
def documentFields ( required : Bool) : List (RecordField (Option (List HttpsRecord))) :=
  [of "Answer" (Value.nullable (Value.list HttpsRecord.ofJson?)) (fun x _ => x) required]

/-- The records that a document lists. -/
def documentRecords? : Value → Option (List HttpsRecord)
  | .object members =>
    let fields := documentFields false
    (ofMembers fields none (known fields members)).map fun r => r.getD []
  | .array items => (ofItems none (documentFields true) items).map fun r => r.getD []
  | _ => none

/-- The records in the text of an answer. -/
def readRecords? (body : ByteArray) : Option (List HttpsRecord) := do
  let text ← String.fromUTF8? body
  let document ← Value.parse? text.toList
  documentRecords? document

/-- How an endpoint with this path is asked for a name, where `get` makes one
request and gives the body of the answer. -/
def fetchFrom {σ : Type} (path : List Char) (get : List Char → σ → Option ByteArray × σ) :
    String → σ → Option (List HttpsRecord) × σ := fun host w =>
  match get (queryTarget path host) w with
  | (some body, w) => (readRecords? body, w)
  | (none, w) => (none, w)

end Dns

end SocksGateway
