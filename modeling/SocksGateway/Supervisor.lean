import SocksGateway.SessionRegistry
import SocksGateway.Tunnel

/-!
# The supervisor of tunnel processes

A chained tunnel with a command is wanted while a session uses it, may use it,
or has a relay open through it.  The supervisor scans the sessions from time to
time and starts the processes that are wanted and not running; a process that
runs is left alone, wanted or not.
-/

namespace SocksGateway

/-- The tunnels that a session wants: the one it takes, or else all of its
route. -/
def wantedBy (s : Session) : List ChainedTunnel :=
  if s.exited then []
  else
    match s.tunnel, s.route with
    | some t, _ => t.chained?.toList
    | none, some r => r.tunnels.filterMap Tunnel.chained?
    | none, none => []

/-- Marks every tunnel that a session wants. -/
def markDemand (sessions : List Session) (a : TunnelActivity) : TunnelActivity :=
  (sessions.flatMap wantedBy).foldl (fun a t => a.mark t.id) a

/-- What asking after a process says. -/
inductive Poll where
  | running
  | exited (code : Nat)
  | failed
deriving DecidableEq, Repr

/-- What the processes do while a scan goes on, by the number of the tunnel. -/
structure Processes where
  poll : Nat → Poll
  /-- Whether starting the tunnel's process succeeds. -/
  spawns : Nat → Bool

namespace Supervisor

/-- A tunnel with a command, and its process. -/
structure Managed where
  tunnel : ChainedTunnel
  running : Bool := false
  /-- When starting it was tried last. -/
  lastSpawn : Option Moment := none
deriving DecidableEq, Repr

/-- What is worth reporting about a scan. -/
inductive Event where
  | starting (tunnel : String)
  | spawnFailed (tunnel : String)
  | delayed (tunnel : String)
  | exited (tunnel : String) (code : Nat)
  | pollFailed (tunnel : String)
deriving DecidableEq, Repr

def Event.text : Event → String
  | .starting t => s!"{t} starting tunnel process"
  | .spawnFailed t => s!"{t} failed to start tunnel process"
  | .delayed t => s!"{t} restart delayed"
  | .exited t code => s!"{t} tunnel process exited exit status: {code}"
  | .pollFailed t => s!"{t} cannot poll tunnel process"

/-- The last try is long enough ago. -/
def isReady (m : Managed) (delay : Nat) (now : Moment) : Bool :=
  match m.lastSpawn with
  | none => true
  | some t => delay ≤ now - t

/-- Starts a process that is wanted, unless the last try is too recent. -/
def startIfWanted (p : Processes) (delay : Nat) (now : Moment) (wanted : Bool) (m : Managed) :
    Managed × List Event :=
  let name := m.tunnel.name
  if !wanted then (m, [])
  else if !isReady m delay now then (m, [.delayed name])
  else
    let m := { m with lastSpawn := some now }
    if p.spawns m.tunnel.id then ({ m with running := true }, [.starting name])
    else (m, [.starting name, .spawnFailed name])

/-- Looks after one tunnel. -/
def visit (p : Processes) (delay : Nat) (now : Moment) (wanted : Bool) (m : Managed) :
    Managed × List Event :=
  if m.running then
    match p.poll m.tunnel.id with
    | .running => (m, [])
    | .failed => (m, [.pollFailed m.tunnel.name])
    | .exited code =>
      let (m, log) := startIfWanted p delay now wanted { m with running := false }
      (m, .exited m.tunnel.name code :: log)
  else startIfWanted p delay now wanted m

/-- A tunnel is wanted when it is marked or a relay runs through it. -/
def isWanted (a : TunnelActivity) (t : ChainedTunnel) : Bool :=
  a.marked t.id || decide (0 < a.connections t.id)

/-- Looks after the tunnels in order, and takes their marks. -/
def visitAll (p : Processes) (delay : Nat) (now : Moment) :
    List Managed → TunnelActivity → List Managed × TunnelActivity × List Event
  | [], a => ([], a, [])
  | m :: ms, a =>
    let (m', log) := visit p delay now (isWanted a m.tunnel) m
    let (ms', a', later) := visitAll p delay now ms (a.unmark m.tunnel.id)
    (m' :: ms', a', log ++ later)

end Supervisor

structure Supervisor where
  managed : List Supervisor.Managed
  /-- The least time between two tries to start one process, in nanoseconds. -/
  restartDelay : Nat
deriving DecidableEq, Repr

namespace Supervisor

/-- The supervisor of those tunnels that have a command. -/
def ofTunnels (tunnels : List ChainedTunnel) (restartDelay : Nat) : Supervisor :=
  ⟨(tunnels.filter fun t => t.command.isSome).map fun t => { tunnel := t }, restartDelay⟩

/-- What a scan left. -/
structure Scan where
  supervisor : Supervisor
  activity : TunnelActivity
  log : List Event

/-- One scan at the time `now`. -/
def scan (v : Supervisor) (p : Processes) (now : Moment) (sessions : List Session)
    (a : TunnelActivity) : Scan :=
  let (managed, a, log) := visitAll p v.restartDelay now v.managed (markDemand sessions a)
  ⟨{ v with managed }, a, log⟩

end Supervisor

end SocksGateway
