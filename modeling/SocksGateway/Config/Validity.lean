import SocksGateway.Config.Settings

/-!
# Valid configurations

A configuration is valid if a proxy can be made from it.  The first reason why
not is given.
-/

namespace SocksGateway

namespace ServiceSpec

/-- A service listens on a port, and a port forward leads somewhere. -/
def validate (s : ServiceSpec) : Except ConfigFault Unit :=
  if s.port = 0 then .error (.serviceWithoutPort s)
  else
    match s.kind with
    | .socks => .ok ()
    | .forward host port =>
      if host = "" ∨ port = 0 then .error (.forwardIncomplete s) else .ok ()

end ServiceSpec

namespace Config

/-- Checks services one after the other. -/
def validateServices : List ServiceSpec → Except ConfigFault Unit
  | [] => .ok ()
  | s :: rest =>
    match s.validate with
    | .error f => .error f
    | .ok () => validateServices rest

/-- Checks the limits that are to be positive, and the resolver's URL. -/
def validateSettings (c : Config) : Except ConfigFault Unit :=
  if c.connect.maxAttempts = 0 then .error .noAttempts
  else if c.relay.bufferSize = 0 then .error .noBuffer
  else if c.dns.resolver = .doh ∧ c.dns.dohUrl = none then .error .noResolverUrl
  else .ok ()

/-- The registry of the configured tunnels. -/
def registry (c : Config) : Except ConfigFault TunnelRegistry := TunnelRegistry.ofSpecs c.tunnels

/-- Checks a configuration: services, settings, tunnels. -/
def validate (c : Config) : Except ConfigFault Unit :=
  if c.services.isEmpty then .error .noServices
  else
    match validateServices c.services with
    | .error f => .error f
    | .ok () =>
      match c.validateSettings with
      | .error f => .error f
      | .ok () => c.registry.map fun _ => ()

end Config

end SocksGateway
