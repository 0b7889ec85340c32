import SocksGateway.Error

/-!
# Tunnels

How the outbound leg of a session is made: directly, not at all, or through the
SOCKS5 listener of a chained tunnel on this machine.  A registry holds the
chained tunnels in the order they were added; the numbers 0 and 1 belong to the
two built-in ones, so tunnel `i` of the registry has number `i + 2`.
-/

namespace SocksGateway

/-- A chained tunnel as it is configured. -/
structure TunnelSpec where
  name : String
  socksPort : UInt16
  command : Option String := none
deriving DecidableEq, Repr

/-- A chained tunnel of a registry. -/
structure ChainedTunnel where
  id : Nat
  name : String
  socksPort : UInt16
  command : Option String
deriving DecidableEq, Repr

inductive Tunnel where
  | direct
  | null
  | chained (tunnel : ChainedTunnel)
deriving DecidableEq, Repr

namespace Tunnel

def directName : String := "direct"

def nullName : String := "null"

/-- The number of the first chained tunnel. -/
def firstChainedId : Nat := 2

def id : Tunnel → Nat
  | direct => 0
  | null => 1
  | chained t => t.id

def name : Tunnel → String
  | direct => directName
  | null => nullName
  | chained t => t.name

def chained? : Tunnel → Option ChainedTunnel
  | chained t => some t
  | _ => none

/-- Tunnels are the same when their numbers are. -/
def same (a b : Tunnel) : Bool := a.id == b.id

/-- The name, with the port of a chained tunnel. -/
def label : Tunnel → String
  | chained t => s!"Chained({t.name}:{t.socksPort.toNat})"
  | t => t.name

end Tunnel

/-- The chained tunnels of a proxy, in the order they were added. -/
structure TunnelRegistry where
  chained : List ChainedTunnel := []
deriving DecidableEq, Repr

namespace TunnelRegistry

/-- Why a tunnel cannot be added, if it cannot: the name is taken by a built-in
tunnel, or by another chained one, or the port is zero. -/
def refusal? (r : TunnelRegistry) (spec : TunnelSpec) : Option ConfigFault :=
  if spec.name = Tunnel.directName ∨ spec.name = Tunnel.nullName then
    some (.reservedName spec.name)
  else if r.chained.any fun t => t.name == spec.name then some (.duplicateName spec.name)
  else if spec.socksPort = 0 then some (.tunnelWithoutPort spec.name)
  else none

/-- Adds a tunnel under the next number. -/
def add (r : TunnelRegistry) (spec : TunnelSpec) : Except ConfigFault TunnelRegistry :=
  match r.refusal? spec with
  | some fault => .error fault
  | none =>
    let id := Tunnel.firstChainedId + r.chained.length
    .ok ⟨r.chained ++ [⟨id, spec.name, spec.socksPort, spec.command⟩]⟩

/-- Adds tunnels in order, up to the first that is refused. -/
def addAll (r : TunnelRegistry) : List TunnelSpec → Except ConfigFault TunnelRegistry
  | [] => .ok r
  | spec :: specs =>
    match r.add spec with
    | .ok r => addAll r specs
    | .error fault => .error fault

/-- The registry of these tunnels. -/
def ofSpecs (specs : List TunnelSpec) : Except ConfigFault TunnelRegistry := addAll {} specs

/-- The tunnel of a name, the built-in ones included. -/
def lookup (r : TunnelRegistry) (name : String) : Option Tunnel :=
  if name = Tunnel.directName then some .direct
  else if name = Tunnel.nullName then some .null
  else (r.chained.find? fun t => t.name == name).map .chained

end TunnelRegistry

/-- What goes on in the chained tunnels, by number: how many relays each one
carries, and which ones are marked as wanted. -/
structure TunnelActivity where
  /-- The counters have 64 bits; there are never `2 ^ 64` relays at a time. -/
  connections : Nat → Nat := fun _ => 0
  marked : Nat → Bool := fun _ => false

namespace TunnelActivity

/-- Puts the value `v` at the number `id`. -/
def put {α : Type} (f : Nat → α) (id : Nat) (v : α) : Nat → α :=
  fun i => if i = id then v else f i

/-- One more relay runs through the tunnel. -/
def connectionOpened (a : TunnelActivity) (id : Nat) : TunnelActivity :=
  { a with connections := put a.connections id (a.connections id + 1) }

/-- One relay less; a count of zero stays. -/
def connectionClosed (a : TunnelActivity) (id : Nat) : TunnelActivity :=
  { a with connections := put a.connections id (a.connections id - 1) }

def mark (a : TunnelActivity) (id : Nat) : TunnelActivity :=
  { a with marked := put a.marked id true }

/-- Removes the mark; it is read before. -/
def unmark (a : TunnelActivity) (id : Nat) : TunnelActivity :=
  { a with marked := put a.marked id false }

variable (a : TunnelActivity) (id i : Nat)

theorem connections_connectionOpened :
    (a.connectionOpened id).connections i = a.connections i + (id == i).toNat := by
  by_cases h : id = i
  · simp [connectionOpened, put, h]
  · have hNot : (id == i) = false := by simpa using h
    simp [connectionOpened, put, hNot, Ne.symm h]

theorem connections_connectionClosed :
    (a.connectionClosed id).connections i = a.connections i - (id == i).toNat := by
  by_cases h : id = i
  · simp [connectionClosed, put, h]
  · have hNot : (id == i) = false := by simpa using h
    simp [connectionClosed, put, hNot, Ne.symm h]

end TunnelActivity

end SocksGateway
