import SocksGateway.Connector
import SocksGateway.Relay.Basic
import SocksGateway.Socks.Handshake

/-!
# Handling a connection

A session from the handshake to its end: the client's request, the choice of a
route, the outbound connection, the reply, the relay, and the closing of what
was opened.  A failure stays with its session and becomes its status.
-/

namespace SocksGateway

namespace Handler

/-- What handlers share: the rules with their counters, and the settings. -/
structure Context where
  engine : Routing.Engine
  policy : RetryPolicy
  /-- The idle timeout of relays in milliseconds. -/
  idle : Option Nat := none

/-- What a client does: the bytes it sends until it is told that it is connected
and how they end, how it takes what is written to it, and what a relay then sees
of it and of its remote end.  A client that is silent in its handshake runs into
the handshake timeout. -/
structure Client where
  incoming : Stream.Incoming
  writer : Stream.Writer := {}
  relayed : List RelayInput := []

/-- How far the handling of a connection is. -/
structure State (σ : Type) where
  session : Session
  engine : Routing.Engine
  world : σ
  writer : Stream.Writer
  /-- The bytes written to the client before any was relayed. -/
  answered : List UInt8 := []
  /-- The bytes that were relayed to the client. -/
  relayed : List UInt8 := []
  trace : List ConnectEvent := []
  outbound : Option Peer := none

/-- The end of a handshake that has taken all bytes it was given. -/
def finishHandshake (h : Socks.Handshake) (ending : Stream.Ending) : Socks.Handshake :=
  match ending with
  | .eof => h.endOfInput
  | .fault f => h.readFault f
  | .silence => if h.isReading then h.fail .timeout else h

variable {σ : Type}

/-- Speaks SOCKS with the client. -/
def negotiate (st : State σ) (incoming : Stream.Incoming) :
    State σ × Except ConnectionError Unit :=
  let s := st.session.setStatus .okay "Negotiating" ""
  let h := finishHandshake (({ session := s, writer := st.writer : Socks.Handshake }).feed
    incoming.bytes).1 incoming.ending
  let st := { st with session := h.session, writer := h.writer, answered := h.written }
  match h.progress with
  | .accepted => (st, .ok ())
  | .failed e => (st, .error e)
  | .reading _ _ => (st, .error .timeout)

/-- Finds out where the client wants to go. -/
def request (st : State σ) (incoming : Stream.Incoming) :
    State σ × Except ConnectionError Unit :=
  if st.session.isForward then ({ st with session := st.session.prepareForward }, .ok ())
  else negotiate st incoming

/-- Gives the session its route. -/
def route (env : Surroundings σ) (st : State σ) : State σ :=
  let d := st.engine.route env.resolve st.session st.world
  { st with session := d.session, engine := d.engine, world := d.world }

/-- Replies to a SOCKS client; the client of a port forward gets no reply. -/
def reply (st : State σ) (code : Socks.ReplyCode) (bound : Option Endpoint) :
    State σ × Except ConnectionError Unit :=
  if st.session.isForward then (st, .ok ())
  else
    let sent := Socks.Reply.send st.writer st.session.version st.session.addressTypeRequested
      code bound
    let st := { st with writer := sent.writer, answered := st.answered ++ sent.bytes }
    match sent.error with
    | none => (st, .ok ())
    | some e => (st, .error e)

/-- Makes the outbound connection, and tells the client. -/
def connect (env : Surroundings σ) (policy : RetryPolicy) (st : State σ) :
    State σ × Except ConnectionError Unit :=
  let o := Connector.connect env policy st.session st.world
  let st := { st with session := o.session, world := o.world, trace := o.trace }
  match o.result with
  | .error e => ((reply st e.replyCode none).1, .error e)
  | .ok c => reply { st with outbound := c.outbound } .succeeded c.bound

/-- The name of the tunnel that is taken. -/
def tunnelName (s : Session) : String :=
  match s.tunnel with
  | some t => t.name
  | none => ""

/-- The exit of a relay as the result of a session; `none` while it goes on. -/
def resultOf (exit : Option RelayExit) : Option (Except ConnectionError Unit) :=
  exit.map fun e =>
    match e with
    | .failed e => .error e
    | _ => .ok ()

/-- What a relay adds to the byte counts of its session. -/
def count (s : Session) (r : Relay) : Session :=
  (s.addTx r.remote.credited).addRx r.client.credited

/-- What a relay without a remote end adds to the byte counts of its session. -/
def countDiscarded (s : Session) (r : Sink) : Session := s.addRx r.discarded

/-- Relays between the client and its remote end, if it has one. -/
def relay (idle : Option Nat) (inputs : List RelayInput) (st : State σ) :
    State σ × Option (Except ConnectionError Unit) :=
  let s := st.session.setStatus .okay "Connected" s!"Relaying via {tunnelName st.session}"
  match st.outbound with
  | some peer =>
    let r := (Relay.start idle st.writer peer.writer).run inputs
    ({ st with session := count s r, relayed := r.client.written.toList }, resultOf r.exit)
  | none =>
    let r := ({ idle : Sink }).run inputs
    ({ st with session := countDiscarded s r }, resultOf r.exit)

/-- Serves a connection up to the end of its relay; there is no result while the
relay goes on. -/
def serve (ctx : Context) (env : Surroundings σ) (client : Client) (st : State σ) :
    State σ × Option (Except ConnectionError Unit) :=
  match request st client.incoming with
  | (st, .error e) => (st, some (.error e))
  | (st, .ok ()) =>
    match connect env ctx.policy (route env st) with
    | (st, .error e) => (st, some (.error e))
    | (st, .ok ()) => relay ctx.idle client.relayed st

/-- The status code of a failure. -/
def failureCode : ConnectionError → StatusCode
  | .protocol _ => .error
  | .inconsistency _ => .internalError
  | _ => .networkError

/-- Puts the result of a session into its status. -/
def record (s : Session) : Except ConnectionError Unit → Session
  | .ok () => s.setStatus .okay "Closed" ""
  | .error e => s.setStatus (failureCode e) "Error" e.message

/-- The count of the tunnel that a session took goes down again. -/
def closedEvents (st : State σ) : List ConnectEvent :=
  match st.outbound, st.session.tunnel with
  | some _, some (.chained c) => [.closed c.id]
  | _, _ => []

/-- Closes what is open, and ends the session. -/
def tearDown (now : Moment) (st : State σ) : State σ :=
  { st with
    trace := st.trace ++ closedEvents st
    session := st.session.markExited now
    outbound := none }

/-- Handles a connection.  While its relay goes on nothing is closed. -/
def handle (ctx : Context) (env : Surroundings σ) (client : Client) (now : Moment) (s : Session)
    (w : σ) : State σ :=
  let start : State σ := { session := s, engine := ctx.engine, world := w, writer := client.writer }
  match serve ctx env client start with
  | (st, none) => st
  | (st, some result) => tearDown now { st with session := record st.session result }

end Handler

end SocksGateway
