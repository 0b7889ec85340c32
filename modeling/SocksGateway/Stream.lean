/-!
# Byte streams

What can go wrong on a stream, and what a writer does with the bytes it is
given.  A writer answers one write call after the other: it takes some bytes,
takes them all, or fails.  `Writer.writeAll` calls it until nothing is left.
-/

namespace SocksGateway

namespace Stream

/-- The kinds of stream failures that are told apart. -/
inductive FaultKind where
  | connectionRefused
  | connectionReset
  | connectionAborted
  | notConnected
  | brokenPipe
  | timedOut
  | unexpectedEof
  | writeZero
  | networkUnreachable
  | addressInUse
  | other (name : String)
deriving DecidableEq, Repr

namespace FaultKind

/-- The name that reports call a kind by. -/
def name : FaultKind → String
  | connectionRefused => "ConnectionRefused"
  | connectionReset => "ConnectionReset"
  | connectionAborted => "ConnectionAborted"
  | notConnected => "NotConnected"
  | brokenPipe => "BrokenPipe"
  | timedOut => "TimedOut"
  | unexpectedEof => "UnexpectedEof"
  | writeZero => "WriteZero"
  | networkUnreachable => "NetworkUnreachable"
  | addressInUse => "AddrInUse"
  | other name => name

/-- The kinds that are told apart from all others. -/
def distinguished : List FaultKind :=
  [connectionRefused, connectionReset, connectionAborted, notConnected, brokenPipe, timedOut,
    unexpectedEof, writeZero, networkUnreachable, addressInUse]

/-- The kind of a name. -/
def ofName (name : String) : FaultKind :=
  (distinguished.find? fun kind => kind.name == name).getD (other name)

end FaultKind

/-- A failure of a stream, with the text it is reported by. -/
structure Fault where
  kind : FaultKind
  text : String
deriving DecidableEq, Repr

namespace Fault

/-- The peer cut the connection. -/
def isReset (f : Fault) : Bool := f.kind == .connectionReset || f.kind == .connectionAborted

/-- A write failed because the peer is gone, and not because something broke. -/
def isClosed (f : Fault) : Bool :=
  f.isReset || f.kind == .brokenPipe || f.kind == .notConnected

/-- Something is listening where one wants to listen. -/
def addressInUse : Fault := ⟨.addressInUse, "Address already in use (os error 98)"⟩

/-- A writer took none of the bytes it was given. -/
def writeZero : Fault := ⟨.writeZero, "write zero"⟩

end Fault

/-- What a writer does with one write call. -/
inductive WriteResponse where
  | takes (count : Nat)
  | takesAll
  | fails (fault : Fault)
deriving DecidableEq, Repr

/-- A writer: its responses to the next calls, and the one it gives to all
calls after them.  While it is broken every call fails instead. -/
structure Writer where
  next : List WriteResponse := []
  later : WriteResponse := .takesAll
  broken : Option Fault := none
  flush : Option Fault := none
deriving DecidableEq, Repr

namespace Writer

/-- The response to the next call, and the writer after it. -/
def respond (w : Writer) : WriteResponse × Writer :=
  match w.broken, w.next with
  | some f, _ => (.fails f, w)
  | none, [] => (w.later, w)
  | none, r :: rs => (r, { w with next := rs })

/-- What writing a byte string gave: the bytes that got through, the failure
that stopped it if one did, and the writer afterwards. -/
structure Written where
  bytes : List UInt8
  fault : Option Fault
  writer : Writer
deriving DecidableEq, Repr

/-- Writes until every byte is taken or a call fails; a call that takes nothing
is a failure. -/
def writeAll (w : Writer) (bytes : List UInt8) : Written :=
  match bytes with
  | [] => ⟨[], none, w⟩
  | b :: bs =>
    match w.respond with
    | (.fails f, w) => ⟨[], some f, w⟩
    | (.takesAll, w) => ⟨b :: bs, none, w⟩
    | (.takes 0, w) => ⟨[], some .writeZero, w⟩
    | (.takes (n + 1), w) =>
      let rest := writeAll w (bs.drop n)
      ⟨b :: bs.take n ++ rest.bytes, rest.fault, rest.writer⟩
termination_by bytes.length
decreasing_by simp only [List.length_drop, List.length_cons]; omega

/-- From now on the writer fails every call, or no longer does. -/
def setBroken (w : Writer) (f : Option Fault) : Writer := { w with broken := f }

/-- From now on the writer takes at most `n` bytes a call. -/
def setLimit (w : Writer) (n : Nat) : Writer := { w with later := .takes n }

end Writer

end Stream

end SocksGateway
