import SocksGateway.Tunnel

/-!
# Settings

What a configuration holds, with the value of everything that is left out.
-/

namespace SocksGateway

/-- What to do when a route has a single tunnel and it fails. -/
inductive SingleCandidate where
  /-- Try the same tunnel again. -/
  | cycle
  /-- Give up after one attempt. -/
  | failFast
deriving DecidableEq, Repr

structure ConnectSettings where
  maxAttempts : UInt32 := 100
  backoffMillis : UInt64 := 100
  timeoutSeconds : UInt64 := 10
  singleCandidate : SingleCandidate := .cycle
deriving DecidableEq, Repr

structure RelaySettings where
  bufferSize : UInt64 := 10000
  /-- Without a limit a relay may be idle for ever. -/
  idleTimeoutSeconds : Option UInt64 := none
  handshakeTimeoutSeconds : UInt64 := 30
deriving DecidableEq, Repr

inductive ResolverKind where
  | system
  | doh
deriving DecidableEq, Repr

def ResolverKind.name : ResolverKind → String
  | system => "system"
  | doh => "doh"

structure DnsSettings where
  resolver : ResolverKind := .system
  dohUrl : Option String := none
  retries : UInt32 := 3
deriving DecidableEq, Repr

/-- The resolver that is used: HTTPS needs a URL. -/
def DnsSettings.effective (s : DnsSettings) : ResolverKind :=
  match s.resolver, s.dohUrl with
  | .doh, some _ => .doh
  | _, _ => .system

structure SupervisorSettings where
  enabled : Bool := true
  scanIntervalMillis : UInt64 := 1000
  restartDelaySeconds : UInt64 := 2
deriving DecidableEq, Repr

structure Config where
  logLevel : Option String := none
  services : List ServiceSpec := []
  tunnels : List TunnelSpec := []
  /-- Inline rules, one an entry. -/
  rules : List String := []
  /-- A file with more rules, relative to the configuration file. -/
  rulesFile : Option String := none
  connect : ConnectSettings := {}
  relay : RelaySettings := {}
  dns : DnsSettings := {}
  sessionLoiterSeconds : UInt64 := 4
  supervisor : SupervisorSettings := {}
  /-- The file that the configuration was read from. -/
  source : Option String := none
deriving DecidableEq, Repr

/-- How a connection attempt that failed is followed up. -/
structure RetryPolicy where
  maxAttempts : Nat
  backoffMillis : Nat
  timeoutSeconds : Nat
  singleCandidate : SingleCandidate
deriving DecidableEq, Repr

namespace RetryPolicy

/-- The policy of these settings, with at least one attempt. -/
def ofSettings (s : ConnectSettings) : RetryPolicy :=
  { maxAttempts := max 1 s.maxAttempts.toNat
    backoffMillis := s.backoffMillis.toNat
    timeoutSeconds := s.timeoutSeconds.toNat
    singleCandidate := s.singleCandidate }

/-- How many attempts a route with this many tunnels gets at most. -/
def limit (p : RetryPolicy) (tunnels : Nat) : Nat :=
  if tunnels = 1 ∧ p.singleCandidate = .failFast then 1 else max 1 p.maxAttempts

end RetryPolicy

end SocksGateway
