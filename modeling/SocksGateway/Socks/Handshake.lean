import SocksGateway.Session
import SocksGateway.Socks.Reply

/-!
# The client's handshake

A handshake takes the client's bytes one at a time.  It is always in the middle
of one field, of which it has read some bytes, and the last byte of a field
decides what comes next: another field, an answer to the client, the end.  So
no byte is taken that is not needed, and a handshake that has ended takes none.

A complete request is put into the session before anything is said about it.
Requests for an IPv6 destination or for another command than CONNECT are then
refused with a reply of their protocol.
-/

namespace SocksGateway

namespace Socks

/-- The field that is being read, with what is known from the ones before. -/
inductive Phase where
  | version
  | v4Command
  | v4Port (command : UInt8)
  | v4Address (command : UInt8) (port : UInt16)
  /-- One byte of the user id, while `left` more may be read. -/
  | v4UserId (command : UInt8) (destination : Destination) (left : Nat)
  | methodCount
  | methods (count : UInt8)
  | header
  | ipv4 (command : UInt8)
  | ipv4Port (command : UInt8) (address : Ipv4)
  | domainLength (command : UInt8)
  | domain (command length : UInt8)
  | domainPort (command : UInt8) (name : String)
  | ipv6 (command : UInt8)
  | ipv6Port (command : UInt8) (address : Ipv6)
deriving DecidableEq, Repr

namespace Phase

/-- How many bytes the field has. -/
def size : Phase → Nat
  | version => 1
  | v4Command => 1
  | v4Port _ => 2
  | v4Address _ _ => 4
  | v4UserId _ _ _ => 1
  | methodCount => 1
  | methods count => count.toNat
  | header => 4
  | ipv4 _ => 4
  | ipv4Port _ _ => 2
  | domainLength _ => 1
  | domain _ length => length.toNat
  | domainPort _ _ => 2
  | ipv6 _ => 16
  | ipv6Port _ _ => 2

/-- What the field is called when it is cut short. -/
def field : Phase → Field
  | version => .version
  | v4Command => .v4Command
  | v4Port _ => .port
  | v4Address _ _ => .v4Address
  | v4UserId _ _ _ => .userId
  | methodCount => .methodCount
  | methods _ => .methodList
  | header => .requestHeader
  | ipv4 _ => .ipv4Address
  | ipv4Port _ _ => .port
  | domainLength _ => .domainLength
  | domain _ _ => .domainName
  | domainPort _ _ => .port
  | ipv6 _ => .ipv6Address
  | ipv6Port _ _ => .port

end Phase

/-- What follows from a field that has been read. -/
inductive Verdict where
  /-- Another field has to be read. -/
  | read (phase : Phase)
  /-- The client offers to go without authentication, and is told so. -/
  | acceptMethod
  /-- None of the offered methods will do, and the client is told so. -/
  | refuseMethods (methods : List UInt8)
  /-- The client speaks another protocol; it is told so as far as possible. -/
  | unsupported (version : UInt8)
  | invalid (fault : ProtocolFault)
  | request (request : Request)
deriving DecidableEq, Repr

/-- The answer to a list of methods. -/
def Verdict.ofMethods (methods : List UInt8) : Verdict :=
  if methods.contains methodNone then .acceptMethod else .refuseMethods methods

/-- The header of a SOCKS5 request; its reserved byte may hold anything. -/
def Verdict.ofHeader (version command addressType : UInt8) : Verdict :=
  if version ≠ Version.v5.number then .invalid (.requestVersion version)
  else
    match AddressType.ofByte? addressType with
    | none => .invalid (.unknownAddressType addressType)
    | some .ipv4 => .read (.ipv4 command)
    | some .domain => .read (.domainLength command)
    | some .ipv6 => .read (.ipv6 command)

/-- A name is text in UTF-8. -/
def nameOf? (bytes : List UInt8) : Option String := String.fromUTF8? ⟨bytes.toArray⟩

namespace Phase

/-- The verdict on a field that is too short or too long. -/
def malformed (phase : Phase) : Verdict := .invalid (.truncated phase.field)

/-- The verdict on a field of one byte. -/
def ofByte (phase : Phase) (verdict : UInt8 → Verdict) : List UInt8 → Verdict
  | [b] => verdict b
  | _ => phase.malformed

/-- The verdict on a field of two bytes, a port. -/
def ofPort (phase : Phase) (verdict : UInt16 → Verdict) : List UInt8 → Verdict
  | [hi, lo] => verdict (portOf hi lo)
  | _ => phase.malformed

/-- The verdict on a field of four bytes. -/
def ofFour (phase : Phase) (verdict : UInt8 → UInt8 → UInt8 → UInt8 → Verdict) :
    List UInt8 → Verdict
  | [a, b, c, d] => verdict a b c d
  | _ => phase.malformed

/-- What follows from the bytes of a field. -/
def next (phase : Phase) (field : List UInt8) : Verdict :=
  match phase with
  | version =>
    phase.ofByte (fun b =>
      if b = Version.v4.number then .read .v4Command
      else if b = Version.v5.number then .read .methodCount
      else .unsupported b) field
  | v4Command => phase.ofByte (fun command => .read (.v4Port command)) field
  | v4Port command => phase.ofPort (fun port => .read (.v4Address command port)) field
  | v4Address command port =>
    phase.ofFour (fun a b c d =>
      .read (.v4UserId command (.ofIpv4 (.ofOctets a b c d) port) (userIdLimit - 1))) field
  | v4UserId command destination left =>
    phase.ofByte (fun b =>
      if b = 0 then .request ⟨.v4, command, .ipv4, destination⟩
      else if left = 0 then .invalid .userIdTooLong
      else .read (.v4UserId command destination (left - 1))) field
  | methodCount => phase.ofByte (fun n => if n = 0 then .ofMethods [] else .read (.methods n)) field
  | methods _ => .ofMethods field
  | header => phase.ofFour (fun version command _ type => .ofHeader version command type) field
  | ipv4 command =>
    phase.ofFour (fun a b c d => .read (.ipv4Port command (.ofOctets a b c d))) field
  | ipv4Port command a =>
    phase.ofPort (fun port => .request ⟨.v5, command, .ipv4, .ofIpv4 a port⟩) field
  | domainLength command =>
    phase.ofByte (fun n =>
      if n = 0 then .invalid .emptyDomain else .read (.domain command n)) field
  | domain command _ =>
    match nameOf? field with
    | some name => .read (.domainPort command name)
    | none => .invalid .domainNotUtf8
  | domainPort command name =>
    phase.ofPort (fun port => .request ⟨.v5, command, .domain, .named name port⟩) field
  | ipv6 command =>
    match Ipv6.ofBytes? field with
    | some a => .read (.ipv6Port command a)
    | none => phase.malformed
  | ipv6Port command a =>
    phase.ofPort (fun port => .request ⟨.v5, command, .ipv6, .ofIpv6 a port⟩) field

end Phase

/-- Why a complete request is refused, if it is: the reply and the error. -/
def refusal? (r : Request) : Option (ReplyCode × ProtocolFault) :=
  match r.version with
  | .v4 =>
    if r.command? = some .connect then none
    else some (.commandNotSupported, .v4Command r.commandByte)
  | .v5 =>
    if r.addressType = .ipv6 then some (.addressTypeNotSupported, .ipv6Destination)
    else if r.command? = some .connect then none
    else some (.commandNotSupported, .v5Command r.commandByte)

/-- How far a handshake is. -/
inductive Progress where
  /-- In the middle of a field, of which these bytes have been read. -/
  | reading (phase : Phase) (got : List UInt8)
  | accepted
  | failed (error : ConnectionError)
deriving DecidableEq, Repr

/-- A handshake: its session, the way to the client, and how far it is. -/
structure Handshake where
  session : Session
  writer : Stream.Writer := {}
  /-- The bytes that have been written to the client. -/
  written : List UInt8 := []
  /-- The code of the failure reply that was tried, if one was. -/
  refused : Option ReplyCode := none
  progress : Progress := .reading .version []

namespace Handshake

def isReading (h : Handshake) : Bool :=
  match h.progress with
  | .reading _ _ => true
  | _ => false

def fail (h : Handshake) (e : ConnectionError) : Handshake := { h with progress := .failed e }

/-- Writes to the client, and tells of the failure if there was one. -/
def write (h : Handshake) (bytes : List UInt8) : Handshake × Option Stream.Fault :=
  let r := h.writer.writeAll bytes
  ({ h with writer := r.writer, written := h.written ++ r.bytes }, r.fault)

/-- Writes to the client what has to get through, and goes on to `progress`. -/
def mustWrite (h : Handshake) (bytes : List UInt8) (progress : Progress) : Handshake :=
  match h.write bytes with
  | (h, none) => { h with progress }
  | (h, some f) => h.fail (.stream f)

/-- Writes to the client whether or not it gets through, and fails. -/
def sayAndFail (h : Handshake) (bytes : List UInt8) (fault : ProtocolFault) : Handshake :=
  (h.write bytes).1.fail (.protocol fault)

/-- Refuses a request with the reply of its protocol. -/
def refuse (h : Handshake) (r : Request) (code : ReplyCode) (fault : ProtocolFault) : Handshake :=
  let sent := Reply.send h.writer (some r.version) (some r.addressType) code none
  { h with
    writer := sent.writer
    written := h.written ++ sent.bytes
    refused := some code
    progress := .failed (.protocol fault) }

/-- A complete request goes into the session, and is then accepted or refused. -/
def settle (h : Handshake) (r : Request) : Handshake :=
  let h := { h with session := h.session.populate r }
  match refusal? r with
  | none => { h with progress := .accepted }
  | some (code, fault) => h.refuse r code fault

/-- Does what follows from a field. -/
def obey (h : Handshake) : Verdict → Handshake
  | .read phase => { h with progress := .reading phase [] }
  | .acceptMethod => h.mustWrite [Version.v5.number, methodNone] (.reading .header [])
  | .refuseMethods methods =>
    h.mustWrite [Version.v5.number, methodNoneAcceptable]
      (.failed (.protocol (.authenticationRequired methods)))
  | .unsupported version =>
    h.sayAndFail [Version.v5.number, methodNoneAcceptable] (.unsupportedVersion version)
  | .invalid fault => h.fail (.protocol fault)
  | .request r => h.settle r

/-- The client sends one byte. -/
def receive (h : Handshake) (b : UInt8) : Handshake :=
  match h.progress with
  | .reading phase got =>
    let got := got ++ [b]
    if got.length < phase.size then { h with progress := .reading phase got }
    else h.obey (phase.next got)
  | _ => h

/-- The client sends bytes.  Those that are not needed are left over. -/
def feed (h : Handshake) : List UInt8 → Handshake × List UInt8
  | [] => (h, [])
  | b :: bs => if h.isReading then feed (h.receive b) bs else (h, b :: bs)

/-- The client's bytes end in the middle of a field. -/
def endOfInput (h : Handshake) : Handshake :=
  match h.progress with
  | .reading phase _ => h.fail (.protocol (.truncated phase.field))
  | _ => h

/-- Reading from the client fails.  A failure that says that the bytes end counts
as their end; any other one is handed on as it is. -/
def readFault (h : Handshake) (f : Stream.Fault) : Handshake :=
  match h.progress with
  | .reading phase _ =>
    if f.kind = .unexpectedEof then h.fail (.protocol (.truncated phase.field))
    else h.fail (.stream f)
  | _ => h

end Handshake

end Socks

end SocksGateway
