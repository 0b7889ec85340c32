import SocksGateway.SessionRegistry

/-!
# Listening for clients

The services of a proxy are bound in order and numbered from one.  The first
that cannot be bound ends the start of the proxy: it may clash with one before
it, or the machine may not let it listen.  The sessions of their clients are
numbered from one as well, and registered under their numbers.
-/

namespace SocksGateway

namespace Server

/-- A service that could not be bound. -/
structure BindFault where
  service : ServiceSpec
  fault : Stream.Fault
deriving DecidableEq, Repr

/-- What is said of a service that could not be bound, up to the system's own
words. -/
def BindFault.message (f : BindFault) : String := s!"cannot bind {f.service.endpoint.text}: "

/-- What binding services gave: those that were bound, and what stopped it. -/
structure Binding where
  services : List Service
  fault : Option BindFault := none
deriving DecidableEq, Repr

/-- The endpoint that a service listens on, where a port of zero has become a
real one.  `listen` is what the machine says, which knows nothing of the
endpoints in `taken`. -/
def listenOn (listen : Endpoint → Except Stream.Fault Endpoint) (taken : List Endpoint)
    (e : Endpoint) : Except Stream.Fault Endpoint :=
  match listen e with
  | .error f => .error f
  | .ok real => if e.isTaken taken then .error .addressInUse else .ok real

/-- Binds services, the first of which gets the number `id`, beside those that
listen on the endpoints in `taken`. -/
def bindFrom (listen : Endpoint → Except Stream.Fault Endpoint) (id : UInt32)
    (taken : List Endpoint) : List ServiceSpec → Binding
  | [] => { services := [] }
  | spec :: specs =>
    match listenOn listen taken spec.endpoint with
    | .error f => { services := [], fault := some ⟨spec, f⟩ }
    | .ok e =>
      let bound : Service := ⟨id, { spec with bind := e.address, port := e.port }⟩
      let rest := bindFrom listen (id + 1) (e :: taken) specs
      { rest with services := bound :: rest.services }

/-- Binds the services of a proxy. -/
def bind (listen : Endpoint → Except Stream.Fault Endpoint) (specs : List ServiceSpec) : Binding :=
  bindFrom listen 1 [] specs

/-! ### Clients -/

/-- The sessions of a proxy and their numbers. -/
structure Sessions where
  registry : SessionRegistry := {}
  /-- The number that the next session gets.  The counter has 64 bits and is the remainder of
  this number modulo `2 ^ 64`. -/
  next : Nat := 1
  /-- The numbers that were given to sessions which are still to be registered. -/
  drawn : List Nat := []
deriving DecidableEq, Repr

namespace Sessions

/-- A client has connected, and a number is drawn for its session. -/
def draw (x : Sessions) : Sessions := { x with next := x.next + 1, drawn := x.drawn ++ [x.next] }

/-- The session with the drawn number at `k` is registered.  Services accept their clients side
by side, so that others may have drawn in the meantime. -/
def accept (x : Sessions) (k : Nat) (service : Service) (source : Destination) (now : Moment) :
    Sessions :=
  match x.drawn[k]? with
  | some id =>
    { x with
      registry := x.registry.insert (.accept id service source now)
      drawn := x.drawn.eraseIdx k }
  | none => x

end Sessions

end Server

end SocksGateway
