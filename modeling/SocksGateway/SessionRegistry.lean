import SocksGateway.Status

/-!
# The registry of sessions

Every session that lives or has ended not long ago, in the order of arrival.
The registry answers the sessions' requests for a status document, all of them
with one document, and drops sessions some time after they have ended.
-/

namespace SocksGateway

structure SessionRegistry where
  sessions : List Session := []
deriving DecidableEq, Repr

namespace SessionRegistry

def insert (r : SessionRegistry) (s : Session) : SessionRegistry := ⟨r.sessions ++ [s]⟩

def size (r : SessionRegistry) : Nat := r.sessions.length

def isEmpty (r : SessionRegistry) : Bool := r.sessions.isEmpty

/-- Changes the session with this number. -/
def modify (r : SessionRegistry) (id : Nat) (f : Session → Session) : SessionRegistry :=
  ⟨r.sessions.map fun s => if s.id = id then f s else s⟩

def find? (r : SessionRegistry) (id : Nat) : Option Session := r.sessions.find? fun s => s.id == id

/-- The document of all registered sessions as they are. -/
def document (r : SessionRegistry) : String := statusDocument r.sessions

/-- Gives every session that wants one the same document. -/
def serviceStatusRequests (r : SessionRegistry) : SessionRegistry :=
  if r.sessions.any Session.wantsStatus then
    let document := r.document
    ⟨r.sessions.map fun s => if s.wantsStatus then s.fulfilStatus document else s⟩
  else r

/-- The session has ended at least `loiter` nanoseconds ago.  An end that is
still to come does not count. -/
def isOver (now : Moment) (loiter : Nat) (s : Session) : Bool :=
  match s.exited, s.endTime with
  | true, some t => t ≤ now && loiter ≤ now - t
  | _, _ => false

/-- Drops the sessions that are over. -/
def reap (r : SessionRegistry) (now : Moment) (loiter : Nat) : SessionRegistry :=
  ⟨r.sessions.filter fun s => !isOver now loiter s⟩

/-- How many sessions `reap` drops. -/
def reaped (r : SessionRegistry) (now : Moment) (loiter : Nat) : Nat :=
  r.size - (r.reap now loiter).size

/-- One round of housekeeping. -/
def tick (r : SessionRegistry) (now : Moment) (loiter : Nat) : SessionRegistry :=
  r.serviceStatusRequests.reap now loiter

end SessionRegistry

end SocksGateway
