import SocksGateway.Error
import SocksGateway.Transcript

/-!
# The relay between a client and its remote end

The relay waits for a read on either side and hands on what it got.  The end of
one side's bytes closes the way to the other side, while the opposite direction
goes on.  A side that is gone is written to no more, and what comes for it is
thrown away.  The relay ends when a side can neither be read nor written.

`step` answers one input: a read that has completed, or time that has passed
without one.  The order of the inputs is the environment's, so a statement for
all lists of inputs covers every schedule.
-/

namespace SocksGateway

/-- How a relay ended. -/
inductive RelayExit where
  /-- Nothing is left to relay. -/
  | closed
  /-- No read completed within the idle timeout. -/
  | idle
  | failed (error : ConnectionError)
deriving DecidableEq, Repr

/-- What a read gave.  A read of no bytes is the end of the stream. -/
inductive Read where
  | data (bytes : List UInt8)
  | eof
  | fault (fault : Stream.Fault)
deriving DecidableEq, Repr

inductive Side where
  | client
  | remote
deriving DecidableEq, Repr

def Side.other : Side → Side
  | client => remote
  | remote => client

/-- An input of a relay. -/
inductive RelayInput where
  /-- A read on a side completes. -/
  | read (side : Side) (result : Read)
  /-- Milliseconds pass in which no read completes. -/
  | pass (millis : Nat)
deriving DecidableEq, Repr

/-- One side of a relay. -/
structure Leg where
  readable : Bool := true
  writable : Bool := true
  writer : Stream.Writer := {}
  /-- The bytes that were read from the side. -/
  received : Transcript UInt8 := {}
  /-- The bytes that were written to the side. -/
  written : Transcript UInt8 := {}
  /-- The size of the pieces that were written to the side completely. -/
  credited : Nat := 0
  /-- How often the way to the side was shut down. -/
  shutdowns : Nat := 0
deriving DecidableEq, Repr

namespace Leg

/-- The side can neither be read nor written. -/
def isDead (l : Leg) : Bool := !l.readable && !l.writable

/-- Shuts the way to the side down, if it is open.  Whether that succeeds does
not matter. -/
def shutdown (l : Leg) : Leg :=
  if l.writable then { l with writable := false, shutdowns := l.shutdowns + 1 } else l

/-- The side has ended its sending. -/
def ended (l : Leg) : Leg := { l with readable := false }

/-- The side has cut the connection. -/
def cut (l : Leg) : Leg := { l with readable := false, writable := false }

/-- Hands a piece on to the side, or throws it away when the side is closed.
Gives the failure that ends the relay, if there is one. -/
def hand (l : Leg) (bytes : List UInt8) : Leg × Option Stream.Fault :=
  if l.writable then
    let r := l.writer.writeAll bytes
    let l := { l with writer := r.writer, written := l.written.extend r.bytes }
    match r.fault with
    | none => ({ l with credited := l.credited + bytes.length }, none)
    | some f => if f.isClosed then ({ l with writable := false }, none) else (l, some f)
  else (l, none)

end Leg

structure Relay where
  client : Leg := {}
  remote : Leg := {}
  /-- The idle timeout in milliseconds, if there is one. -/
  idle : Option Nat := none
  /-- How long the relay has been waiting for the next read. -/
  waited : Nat := 0
  exit : Option RelayExit := none
deriving DecidableEq, Repr

namespace Relay

def leg (r : Relay) : Side → Leg
  | .client => r.client
  | .remote => r.remote

def setLeg (r : Relay) (side : Side) (l : Leg) : Relay :=
  match side with
  | .client => { r with client := l }
  | .remote => { r with remote := l }

/-- The relay has an input to wait for. -/
def isWaiting (r : Relay) : Bool := r.exit.isNone

/-- Nothing is left to relay. -/
def isDone (r : Relay) : Bool :=
  r.client.isDead || r.remote.isDead || !(r.client.readable || r.remote.readable)

/-- Ends the relay if nothing is left to relay. -/
def check (r : Relay) : Relay := if r.isDone then { r with exit := some .closed } else r

/-- A side has no more bytes. -/
def onEof (r : Relay) (side : Side) : Relay :=
  let r := r.setLeg side (r.leg side).ended
  (r.setLeg side.other (r.leg side.other).shutdown).check

/-- A side sends bytes. -/
def onData (r : Relay) (side : Side) (bytes : List UInt8) : Relay :=
  let source := r.leg side
  let r := r.setLeg side { source with received := source.received.extend bytes }
  match (r.leg side.other).hand bytes with
  | (l, none) => (r.setLeg side.other l).check
  | (l, some f) => { r.setLeg side.other l with exit := some (.failed (.stream f)) }

/-- Reading a side fails. -/
def onFault (r : Relay) (side : Side) (f : Stream.Fault) : Relay :=
  if f.isReset then (r.setLeg side (r.leg side).cut).check
  else { r with exit := some (.failed (.stream f)) }

/-- Answers a read that has completed. -/
def onRead (r : Relay) (side : Side) : Read → Relay
  | .eof => r.onEof side
  | .data [] => r.onEof side
  | .data (b :: bs) => r.onData side (b :: bs)
  | .fault f => r.onFault side f

/-- Ends the relay when it has waited for as long as it may. -/
def checkIdle (r : Relay) : Relay :=
  match r.idle with
  | none => r
  | some limit => if limit ≤ r.waited then { r with exit := some .idle } else r

/-- Answers one input.  A side that is no longer read gives no reads, and a
relay that has ended answers nothing. -/
def step (r : Relay) (input : RelayInput) : Relay :=
  if r.isWaiting then
    match input with
    | .read side result =>
      if (r.leg side).readable then { r.onRead side result with waited := 0 } else r
    | .pass millis => { r with waited := r.waited + millis }.checkIdle
  else r

def run (r : Relay) (inputs : List RelayInput) : Relay := inputs.foldl step r

/-- A relay that has just started. -/
def start (idle : Option Nat) (client remote : Stream.Writer) : Relay :=
  { client := { writer := client }, remote := { writer := remote }, idle }

end Relay

/-- The relay of the null tunnel, which has no remote end: the client's bytes are
read, counted and thrown away. -/
structure Sink where
  discarded : Nat := 0
  idle : Option Nat := none
  waited : Nat := 0
  exit : Option RelayExit := none
deriving DecidableEq, Repr

namespace Sink

/-- Answers a read of the client. -/
def onRead (s : Sink) : Read → Sink
  | .eof => { s with exit := some .closed }
  | .data [] => { s with exit := some .closed }
  | .data (b :: bs) => { s with discarded := s.discarded + (b :: bs).length }
  | .fault f =>
    if f.isReset then { s with exit := some .closed }
    else { s with exit := some (.failed (.stream f)) }

/-- Ends the sink when it has waited for as long as it may. -/
def checkIdle (s : Sink) : Sink :=
  match s.idle with
  | none => s
  | some limit => if limit ≤ s.waited then { s with exit := some .idle } else s

/-- Answers one input; there is no remote end to read. -/
def step (s : Sink) (input : RelayInput) : Sink :=
  if s.exit.isNone then
    match input with
    | .read .client result => { s.onRead result with waited := 0 }
    | .read .remote _ => s
    | .pass millis => { s with waited := s.waited + millis }.checkIdle
  else s

def run (s : Sink) (inputs : List RelayInput) : Sink := inputs.foldl step s

end Sink

end SocksGateway
