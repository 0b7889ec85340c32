import SocksGateway.Rule.Basic
import SocksGateway.Socks.Code

/-!
# Sessions

A session is one accepted client connection from end to end: what the client
asked for, where the connection is routed, how much went through it and how it
ended.  It also carries the request for a status document and the answer to it.
-/

namespace SocksGateway

/-- A point in time, in nanoseconds since the epoch. -/
abbrev Moment := Int

/-- The coarse outcome of a session. -/
inductive StatusCode where
  | okay
  | error
  | internalError
  | networkError
deriving DecidableEq, Repr

def StatusCode.number : StatusCode → UInt8
  | okay => 0
  | error => 1
  | internalError => 2
  | networkError => 3

structure SessionStatus where
  code : StatusCode := .okay
  name : String := "Accepted"
  description : String := ""
deriving DecidableEq, Repr

/-- A complete SOCKS request: version, the byte of the command, the type of the
address, and where to connect. -/
structure Request where
  version : Socks.Version
  commandByte : UInt8
  addressType : Socks.AddressType
  destination : Destination
deriving DecidableEq, Repr

def Request.command? (r : Request) : Option Socks.Command := Socks.Command.ofByte? r.commandByte

structure Session where
  id : Nat := 1
  service : Service
  source : Destination := {}
  version : Option Socks.Version := none
  command : Option Socks.Command := none
  commandRequested : Option Socks.Command := none
  addressType : Option Socks.AddressType := none
  addressTypeRequested : Option Socks.AddressType := none
  destination : Destination := {}
  /-- The first destination on record; later ones do not replace it. -/
  destinationRequested : Option Destination := none
  route : Option Rule := none
  tunnel : Option Tunnel := none
  status : SessionStatus := {}
  bytesTx : UInt64 := 0
  bytesRx : UInt64 := 0
  startTime : Moment := 0
  endTime : Option Moment := none
  inboundOpen : Bool := true
  outboundOpen : Bool := false
  exited : Bool := false
  statusRequested : Bool := false
  statusDocument : Option String := none
deriving DecidableEq, Repr

namespace Session

/-- A client from `source` is accepted at `time`. -/
def accept (id : Nat) (service : Service) (source : Destination) (time : Moment) : Session :=
  { id, service, source, startTime := time }

/-- Puts the destination on record, unless one is. -/
def recordDestination (s : Session) (d : Destination) : Session :=
  match s.destinationRequested with
  | some _ => s
  | none => { s with destinationRequested := some d }

/-- Takes over what a client's request says. -/
def populate (s : Session) (r : Request) : Session :=
  recordDestination
    { s with
      version := some r.version
      command := r.command?
      commandRequested := r.command?
      addressType := some r.addressType
      addressTypeRequested := some r.addressType
      destination := r.destination }
    r.destination

section populate

variable (s : Session) (r : Request)

@[simp] theorem version_populate : (s.populate r).version = some r.version := by
  unfold populate recordDestination
  split <;> rfl

@[simp] theorem addressType_populate : (s.populate r).addressType = some r.addressType := by
  unfold populate recordDestination
  split <;> rfl

@[simp] theorem destination_populate : (s.populate r).destination = r.destination := by
  unfold populate recordDestination
  split <;> rfl

@[simp] theorem service_populate : (s.populate r).service = s.service := by
  unfold populate recordDestination
  split <;> rfl

@[simp] theorem status_populate : (s.populate r).status = s.status := by
  unfold populate recordDestination
  split <;> rfl

end populate

/-- What the session of a port forward asks for. -/
def forwardRequest (host : String) (port : UInt16) : Request :=
  ⟨.v5, Socks.Command.connect.byte, .domain, .named host port⟩

/-- Takes over the destination of a port forward.  A SOCKS session waits for
its client. -/
def prepareForward (s : Session) : Session :=
  match s.service.spec.kind with
  | .socks => s
  | .forward host port => s.populate (forwardRequest host port)

/-- The session belongs to a port forward. -/
def isForward (s : Session) : Bool :=
  match s.service.spec.kind with
  | .socks => false
  | .forward _ _ => true

def setStatus (s : Session) (code : StatusCode) (name description : String) : Session :=
  { s with status := ⟨code, name, description⟩ }

def addTx (s : Session) (n : Nat) : Session := { s with bytesTx := s.bytesTx + n.toUInt64 }

def addRx (s : Session) (n : Nat) : Session := { s with bytesRx := s.bytesRx + n.toUInt64 }

/-- The handler has finished with the session; the first time counts. -/
def markExited (s : Session) (now : Moment) : Session :=
  { s with
    inboundOpen := false
    outboundOpen := false
    endTime := some (s.endTime.getD now)
    exited := true }

/-- Asks for a fresh status document. -/
def requestStatus (s : Session) : Session := { s with statusRequested := true }

/-- A request for a status document is open. -/
def wantsStatus (s : Session) : Bool := s.statusRequested && s.statusDocument.isNone

def fulfilStatus (s : Session) (document : String) : Session :=
  { s with statusDocument := some document }

/-- Takes a document that is ready and settles the request. -/
def takeStatus (s : Session) : Option String × Session :=
  match s.statusDocument with
  | none => (none, s)
  | some document => (some document, { s with statusDocument := none, statusRequested := false })

section takeStatus

variable {s : Session} {document : String}

theorem takeStatus_eq_some :
    s.takeStatus.1 = some document ↔ s.statusDocument = some document := by
  unfold takeStatus
  cases s.statusDocument <;> simp

variable (s)

@[simp] theorem id_takeStatus : s.takeStatus.2.id = s.id := by
  unfold takeStatus
  split <;> rfl

@[simp] theorem statusDocument_takeStatus : s.takeStatus.2.statusDocument = none := by
  unfold takeStatus
  split
  · assumption
  · rfl

variable {s}

theorem statusRequested_of_takeStatus (h : s.takeStatus.2.statusRequested = true) :
    s.statusRequested = true := by
  unfold takeStatus at h
  split at h
  · exact h
  · cases h

end takeStatus

end Session

end SocksGateway
