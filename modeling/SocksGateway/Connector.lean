import SocksGateway.Config.Settings
import SocksGateway.Routing
import SocksGateway.Socks.Client
import SocksGateway.Transcript

/-!
# Making the outbound connection

The tunnels of a session's route are tried in turn, over and over, until one
connects.  A tunnel that fails for good is left out from then on; the attempts
end at the policy's limit, or when no tunnel is left.

The outcome of an attempt depends on the world outside: on name lookups, and on
what happens when a stream is opened.  Both are functions on that world, and the
world they leave is handed on.

Others look at a session while it is being connected.  What they see then is kept:
the session as an attempt begins, as it ends, and as it is between two attempts.
-/

namespace SocksGateway

/-- How sending bytes to a relay turns out. -/
inductive SendOutcome where
  | sent
  | failed (fault : Stream.Fault)
  | stalled
deriving DecidableEq, Repr

/-- The far end of a stream that was opened. -/
structure Peer where
  /-- The near end of the stream. -/
  near : Option Endpoint := none
  incoming : Stream.Incoming
  greeting : SendOutcome := .sent
  request : SendOutcome := .sent
  /-- How it takes the bytes that are relayed to it. -/
  writer : Stream.Writer := {}
deriving DecidableEq, Repr

/-- What opening a stream gave. -/
inductive Dialed where
  | opened (peer : Peer)
  | failed (fault : Stream.Fault)
  | timedOut
deriving DecidableEq, Repr

/-- The world outside, as far as connections depend on it. -/
structure Surroundings (σ : Type) where
  resolve : Resolver σ
  dial : Endpoint → σ → Dialed × σ

namespace Surroundings

/-- Surroundings in which no stream can be opened. -/
def cutOff {σ : Type} (resolve : Resolver σ) (f : Stream.Fault) : Surroundings σ :=
  ⟨resolve, fun _ w => (.failed f, w)⟩

/-- Opens a stream. -/
def openStream {σ : Type} (env : Surroundings σ) (e : Endpoint) (w : σ) :
    Except ConnectionError Peer × σ :=
  match env.dial e w with
  | (.opened p, w) => (.ok p, w)
  | (.failed f, w) => (.error (.ofConnect f), w)
  | (.timedOut, w) => (.error .timeout, w)

end Surroundings

/-- What is worth reporting about connecting a session, in order.  `opened` and
`closed` are the changes of a tunnel's connection count. -/
inductive ConnectEvent where
  | connecting (attempt : Nat) (tunnel : Tunnel)
  | failed (attempt : Nat) (tunnel : Tunnel) (error : ConnectionError)
  | connected (tunnel : Tunnel)
  | slept
  | opened (tunnelId : Nat)
  | closed (tunnelId : Nat)
deriving DecidableEq, Repr

namespace ConnectEvent

/-- The line of a report, for the events that have one. -/
def text? : ConnectEvent → Option String
  | connecting n t => some s!"{n} {t.name} connecting"
  | failed n t e => some s!"{n} {t.name} connect failed: {e.message}"
  | connected t => some s!"{t.name} connected"
  | _ => none

end ConnectEvent

/-- What an event does to the connection counts. -/
def TunnelActivity.note (a : TunnelActivity) : ConnectEvent → TunnelActivity
  | .opened id => a.connectionOpened id
  | .closed id => a.connectionClosed id
  | _ => a

namespace Connector

/-- One try on one tunnel, with the error it ended in. -/
structure Attempt where
  tunnel : String
  error : Option ConnectionError
deriving DecidableEq, Repr

/-- The outbound leg of a session.  The null tunnel has no peer. -/
structure Connected where
  outbound : Option Peer
  bound : Option Endpoint
deriving DecidableEq, Repr

/-- The address that a direct connection goes to.  A name that has none yet is
looked up, and the session keeps the address that was found. -/
def directAddress {σ : Type} (env : Surroundings σ) (s : Session) (w : σ) :
    Except ConnectionError IpAddress × Session × σ :=
  match s.destination.address, s.destination.hostname with
  | some a, _ => (.ok a, s, w)
  | none, none => (.error .addressTypeNotSupported, s, w)
  | none, some name =>
    match Ipv4.parse? name.toList with
    | some a => (.ok (.v4 a), s, w)
    | none =>
      match env.resolve s.destination w with
      | (.error e, w) => (.error (.dns e), s, w)
      | (.ok d, w) =>
        match d.address with
        | none => (.error .addressTypeNotSupported, s, w)
        | some a => (.ok a, { s with destination := s.destination.withAddress a }, w)

/-- Connects to the destination itself, which has to be an IPv4 address. -/
def connectDirect {σ : Type} (env : Surroundings σ) (s : Session) (w : σ) :
    Except ConnectionError Connected × Session × σ :=
  match directAddress env s w with
  | (.error e, s, w) => (.error e, s, w)
  | (.ok (.v6 _), s, w) => (.error .addressTypeNotSupported, s, w)
  | (.ok (.v4 a), s, w) =>
    match env.openStream ⟨.v4 a, s.destination.port⟩ w with
    | (.error e, w) => (.error e, s, w)
    | (.ok p, w) => (.ok ⟨some p, p.near⟩, s, w)

/-- The failure of a send, if it failed. -/
def SendOutcome.error? : SendOutcome → Option ConnectionError
  | .sent => none
  | .failed f => some (.stream f)
  | .stalled => some .timeout

/-- Speaks SOCKS5 with the relay of a tunnel. -/
def negotiate (tunnel : String) (d : Destination) (type : Option Socks.AddressType) (p : Peer) :
    Except ConnectionError Connected := do
  let _ ← Socks.connectRequest d type
  if let some e := SendOutcome.error? p.greeting then throw e
  let i ← Socks.readMethod tunnel p.incoming
  if let some e := SendOutcome.error? p.request then throw e
  let (bound, i) ← Socks.readConnectReply i
  return ⟨some { p with incoming := i }, bound⟩

/-- Connects through the listener of a chained tunnel on this machine. -/
def connectChained {σ : Type} (env : Surroundings σ) (s : Session) (t : ChainedTunnel) (w : σ) :
    Except ConnectionError Connected × σ :=
  match env.openStream ⟨IpAddress.loopback, t.socksPort⟩ w with
  | (.error e, w) => (.error e, w)
  | (.ok p, w) => (negotiate t.name s.destination s.addressType p, w)

/-- One try on a tunnel. -/
def attempt {σ : Type} (env : Surroundings σ) (s : Session) (t : Tunnel) (w : σ) :
    Except ConnectionError Connected × Session × σ :=
  match t with
  | .null => (.ok ⟨none, none⟩, s, w)
  | .direct => connectDirect env s w
  | .chained c =>
    let (r, w) := connectChained env s c w
    (r, s, w)

/-- Where a connection is when its session is looked at. -/
inductive Phase where
  /-- The attempt of this number is being made. -/
  | trying (attempt : Nat) (tunnel : Tunnel)
  /-- The attempt of this number has failed, and no other one has begun. -/
  | between (attempt : Nat)
  /-- The next attempt is put off for a while. -/
  | pausing
deriving DecidableEq, Repr

/-- What a session is like at one point of its connection. -/
structure Sight where
  phase : Phase
  session : Session
deriving DecidableEq, Repr

/-- How far the attempts are. -/
structure Progress (σ : Type) where
  session : Session
  world : σ
  /-- The tunnels that failed for good, by their place in the route. -/
  exhausted : List Bool
  attempts : Transcript Attempt := {}
  trace : Transcript ConnectEvent := {}
  lastError : Option ConnectionError := none
  sights : Transcript Sight := {}

namespace Progress

variable {σ : Type}

/-- Keeps what the session is like now. -/
def look (p : Progress σ) (phase : Phase) : Progress σ :=
  { p with sights := p.sights.push ⟨phase, p.session⟩ }

/-- No tunnel is left to try. -/
def isExhausted (p : Progress σ) : Bool := p.exhausted.all id

/-- The session while a tunnel is being tried. -/
def announce (p : Progress σ) (i : Nat) (t : Tunnel) : Progress σ :=
  { p with
    session := { p.session with tunnel := some t }.setStatus .okay "Connecting"
      s!"Connecting via {t.name}"
    trace := p.trace.push (.connecting (i + 1) t) }

/-- The count of a chained tunnel goes up. -/
def openedEvent : Tunnel → List ConnectEvent
  | .chained c => [.opened c.id]
  | _ => []

/-- A tunnel has connected. -/
def succeed (p : Progress σ) (t : Tunnel) (c : Connected) : Progress σ :=
  { p with
    session := { p.session with outboundOpen := c.outbound.isSome }
    attempts := p.attempts.push ⟨t.name, none⟩
    trace := (p.trace.extend (openedEvent t)).push (.connected t) }

/-- A tunnel has failed, for good or not. -/
def fail (p : Progress σ) (i slot : Nat) (t : Tunnel) (e : ConnectionError) : Progress σ :=
  { p with
    session := { p.session with tunnel := none }
    exhausted := if e.isRecoverable then p.exhausted else p.exhausted.set slot true
    attempts := p.attempts.push ⟨t.name, some e⟩
    trace := p.trace.push (.failed (i + 1) t e)
    lastError := some e }

/-- Waits before the next attempt, unless none is to follow. -/
def pause (p : Progress σ) (left : Nat) : Progress σ :=
  if left = 0 ∨ p.isExhausted then p
  else { p with trace := p.trace.push .slept }.look .pausing

/-- Tries a tunnel. -/
def tryTunnel (env : Surroundings σ) (p : Progress σ) (i slot left : Nat) (t : Tunnel) :
    Progress σ × Option Connected :=
  let phase : Phase := .trying (i + 1) t
  let p := (p.announce i t).look phase
  match attempt env p.session t p.world with
  | (.ok c, s, w) => (({ p with session := s, world := w }.look phase).succeed t c, some c)
  | (.error e, s, w) =>
    let p := ({ p with session := s, world := w }.look phase).fail i slot t e
    ((p.look (.between (i + 1))).pause left, none)

end Progress

/-- The rounds from number `i` on, `left` of them: each one is the turn of the
tunnel at place `i` of the route, counted round and round. -/
def rounds {σ : Type} (env : Surroundings σ) (tunnels : List Tunnel) :
    (left i : Nat) → Progress σ → Progress σ × Option Connected
  | 0, _, p => (p, none)
  | left + 1, i, p =>
    if p.isExhausted then (p, none)
    else
      let slot := i % tunnels.length
      match tunnels[slot]?, p.exhausted.getD slot true with
      | some t, false =>
        match p.tryTunnel env i slot left t with
        | (p, some c) => (p, some c)
        | (p, none) => rounds env tunnels left (i + 1) p
      | _, _ => rounds env tunnels left (i + 1) p

/-- What connecting a session gave. -/
structure Outcome (σ : Type) where
  result : Except ConnectionError Connected
  session : Session
  attempts : List Attempt
  trace : List ConnectEvent
  world : σ
  /-- What the session was like on the way. -/
  sights : List Sight := []

/-- The reply that tells the client of the outcome. -/
def Outcome.reply {σ : Type} (o : Outcome σ) : Socks.ReplyCode :=
  match o.result with
  | .ok _ => .succeeded
  | .error e => e.replyCode

/-- The report of a failure. -/
def failureText (e : ConnectionError) (attempts : Nat) : String :=
  s!"{e.message} after {attempts} attempt(s)"

/-- Tries the tunnels of a route. -/
def connectVia {σ : Type} (env : Surroundings σ) (policy : RetryPolicy) (tunnels : List Tunnel)
    (s : Session) (w : σ) : Outcome σ :=
  let start : Progress σ :=
    { session := s, world := w, exhausted := List.replicate tunnels.length false }
  let (p, connected) := rounds env tunnels (policy.limit tunnels.length) 0 start
  let result :=
    match connected with
    | some c => .ok c
    | none => .error (p.lastError.getD (.inconsistency .noAttempt))
  ⟨result, p.session, p.attempts.toList, p.trace.toList, p.world, p.sights.toList⟩

/-- Makes the outbound connection of a session that has a route. -/
def connect {σ : Type} (env : Surroundings σ) (policy : RetryPolicy) (s : Session) (w : σ) :
    Outcome σ :=
  match s.route with
  | none => ⟨.error (.inconsistency .noRoute), s, [], [], w, []⟩
  | some r =>
    if r.tunnels.isEmpty then ⟨.error (.inconsistency .routeWithoutTunnels), s, [], [], w, []⟩
    else connectVia env policy r.tunnels s w

end Connector

end SocksGateway
