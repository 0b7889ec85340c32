import SocksGateway.Relay.Basic

/-!
# Queued streams

A stream whose bytes have arrived before they are read: pieces and failures in a
queue, and an end behind them.  A read gives at most one piece and at most as
many bytes as the buffer holds.  `Relay.pump` and `Sink.pump` read two such
streams, or one, until nothing more has arrived.
-/

namespace SocksGateway

inductive SourceItem where
  | piece (bytes : List UInt8)
  | fault (fault : Stream.Fault)
deriving DecidableEq, Repr

/-- How many bytes an item holds. -/
def SourceItem.size : SourceItem → Nat
  | .piece bytes => bytes.length
  | .fault _ => 0

structure Source where
  queue : List SourceItem := []
  ended : Bool := false
deriving DecidableEq, Repr

namespace Source

def push (s : Source) (item : SourceItem) : Source := { s with queue := s.queue ++ [item] }

/-- What the next read gives, and what is left; `none` when the reader has to
wait. -/
def read? (buffer : Nat) (s : Source) : Option (Read × Source) :=
  match s.queue with
  | [] => if s.ended then some (.eof, s) else none
  | .fault f :: rest => some (.fault f, { s with queue := rest })
  | .piece bytes :: rest =>
    let left := bytes.drop buffer
    let queue := if left.isEmpty then rest else .piece left :: rest
    some (.data (bytes.take buffer), { s with queue })

/-- How many bytes are waiting in the queue. -/
def unread (s : Source) : Nat := s.queue.foldl (fun n item => n + item.size) 0

/-- As many reads as the queue can give, and one for the end. -/
def readsLeft (s : Source) : Nat := s.unread + s.queue.length + 1

end Source

/-- A relay with its two streams. -/
structure Pumped where
  relay : Relay
  client : Source := {}
  remote : Source := {}
deriving DecidableEq, Repr

namespace Pumped

/-- One read of a side, if the relay reads it and something has arrived. -/
def readSide? (buffer : Nat) (p : Pumped) (side : Side) : Option Pumped :=
  if p.relay.isWaiting && (p.relay.leg side).readable then
    match side with
    | .client =>
      (p.client.read? buffer).map fun (r, s) =>
        { p with relay := p.relay.step (.read .client r), client := s }
    | .remote =>
      (p.remote.read? buffer).map fun (r, s) =>
        { p with relay := p.relay.step (.read .remote r), remote := s }
  else none

/-- At most `fuel` reads, the client's first. -/
def pumpFor (buffer : Nat) : (fuel : Nat) → Pumped → Pumped
  | 0, p => p
  | fuel + 1, p =>
    match p.readSide? buffer .client with
    | some p => pumpFor buffer fuel p
    | none =>
      match p.readSide? buffer .remote with
      | some p => pumpFor buffer fuel p
      | none => p

/-- Reads until nothing more has arrived. -/
def pump (buffer : Nat) (p : Pumped) : Pumped :=
  pumpFor buffer (p.client.readsLeft + p.remote.readsLeft) p

end Pumped

/-- A sink with its stream. -/
structure PumpedSink where
  sink : Sink
  client : Source := {}
deriving DecidableEq, Repr

namespace PumpedSink

/-- At most `fuel` reads. -/
def pumpFor (buffer : Nat) : (fuel : Nat) → PumpedSink → PumpedSink
  | 0, p => p
  | fuel + 1, p =>
    if p.sink.exit.isNone then
      match p.client.read? buffer with
      | some (r, s) => pumpFor buffer fuel ⟨p.sink.step (.read .client r), s⟩
      | none => p
    else p

/-- Reads until nothing more has arrived. -/
def pump (buffer : Nat) (p : PumpedSink) : PumpedSink := pumpFor buffer p.client.readsLeft p

end PumpedSink

end SocksGateway
