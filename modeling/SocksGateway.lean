import SocksGateway.Dns.Endpoint
import SocksGateway.Logging.Directive
import SocksGateway.Main
import SocksGateway.Proofs.Config.Keys
import SocksGateway.Proofs.Config.Specs
import SocksGateway.Proofs.Connector.FrontEnds
import SocksGateway.Proofs.Connector.Pauses
import SocksGateway.Proofs.Dns.History
import SocksGateway.Proofs.Handler.Outcomes
import SocksGateway.Proofs.Handshake.Segments
import SocksGateway.Proofs.Handshake.UserId
import SocksGateway.Proofs.Network.Spelling
import SocksGateway.Proofs.Registry.Reaping
import SocksGateway.Proofs.Registry.Records
import SocksGateway.Proofs.Registry.Requests
import SocksGateway.Proofs.Relay.Idle
import SocksGateway.Proofs.Relay.Progress
import SocksGateway.Proofs.Routing.Mapping
import SocksGateway.Proofs.Rule.Files
import SocksGateway.Proofs.Rule.RoundTrip
import SocksGateway.Proofs.Socks.ReplyLayout
import SocksGateway.Proofs.Supervisor.Processes
import SocksGateway.Server
import SocksGateway.Proofs.Json.RoundTrip
