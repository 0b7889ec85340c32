import SocksGateway.Destination
import SocksGateway.Text.Quoted

/-!
# Services

A service is a listener and what it does with the connections it accepts: it
speaks SOCKS with them, or it forwards all of them to one remote host.
-/

namespace SocksGateway

inductive ServiceKind where
  | socks
  | forward (host : String) (port : UInt16)
deriving DecidableEq, Repr

/-- A service as it is configured. -/
structure ServiceSpec where
  bind : IpAddress := IpAddress.loopback
  port : UInt16
  kind : ServiceKind
deriving DecidableEq, Repr

namespace ServiceSpec

def endpoint (s : ServiceSpec) : Endpoint := ⟨s.bind, s.port⟩

/-- What the service is, where it listens, and where it forwards to. -/
def text (s : ServiceSpec) : String :=
  match s.kind with
  | .socks => s!"socks/{s.endpoint.text}"
  | .forward host port => s!"forward/{s.endpoint.text}->{host}:{port.toNat}"

/-- The field-by-field form that error texts show. -/
def fieldText (s : ServiceSpec) : String :=
  let common := "\x7b bind: " ++ s.bind.text ++ ", port: " ++ toString s.port.toNat
  match s.kind with
  | .socks => "Socks " ++ common ++ " \x7d"
  | .forward host port =>
    "PortForward " ++ common ++ ", remote_host: " ++ Text.quoted host ++ ", remote_port: " ++
      toString port.toNat ++ " \x7d"

end ServiceSpec

/-- A service that runs, with the number that names it in the status document. -/
structure Service where
  id : UInt32
  spec : ServiceSpec
deriving DecidableEq, Repr

def Service.text (s : Service) : String := s.spec.text

end SocksGateway
