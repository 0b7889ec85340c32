import SocksGateway.CommandLine
import SocksGateway.Config.Files
import SocksGateway.Config.Validity
import SocksGateway.Handler
import SocksGateway.Logging.Directive
import SocksGateway.Server
import SocksGateway.Supervisor

/-!
# Starting up

From a command line and the files that it names to a proxy that is ready to
listen: the configuration is read, then the log directive, the command line is
added to the configuration, the result is checked, and tunnels and rules are made
from it.  Then the services of the proxy are bound.  The first step that fails is
what a failed start is reported by.
-/

namespace SocksGateway

/-- A proxy that is ready to listen. -/
structure Proxy where
  config : Config
  tunnels : TunnelRegistry
  rules : List Rule
  log : LogFilter

/-- Invalid configurations fail as configurations do. -/
def invalidOnError {α : Type} : Except ConfigFault α → Except ConfigError α
  | .ok a => .ok a
  | .error f => .error (.invalid f)

namespace CommandLine

/-- The configuration that the command line names, or else the empty one. -/
def loadConfig (files : Files) (cl : CommandLine) : Except ConfigError Config :=
  match cl.config with
  | some path => Config.load files path
  | none => .ok {}

/-- What the proxy is to log. -/
def logFilter? (cl : CommandLine) (c : Config) : Option LogFilter :=
  LogFilter.ofDirective? (logDirective cl.logLevel c.logLevel)

/-- A configuration with everything that the command line adds to it, valid. -/
def complete (cl : CommandLine) (c : Config) : Except ConfigError Config :=
  match c.merge cl with
  | (_, some f) => .error (.invalid f)
  | (c, none) => (invalidOnError c.validate).map fun () => c

/-- The rules given on the command line. -/
def parseRules (registry : TunnelRegistry) (cl : CommandLine) : Except ConfigError (List Rule) :=
  Rule.parseEntries registry Config.commandLineLabel cl.rules

end CommandLine

namespace Proxy

/-- The proxy of a valid configuration, with the rules of the command line behind
its own. -/
def ofConfig (files : Files) (cl : CommandLine) (log : LogFilter) (c : Config) :
    Except ConfigError Proxy :=
  match invalidOnError c.registry with
  | .error e => .error e
  | .ok tunnels =>
    match c.loadRules files tunnels with
    | .error e => .error e
    | .ok rules =>
      (cl.parseRules tunnels).map fun more =>
        { config := c, tunnels, rules := rules ++ more, log }

/-- The proxy that a command line makes of the configuration that it names. -/
def ofCommandLine (files : Files) (cl : CommandLine) (log : LogFilter) (c : Config) :
    Except ConfigError Proxy :=
  match cl.complete c with
  | .error e => .error e
  | .ok c => ofConfig files cl log c

/-- Binds the services of the proxy. -/
def bind (p : Proxy) (listen : Endpoint → Except Stream.Fault Endpoint) : Server.Binding :=
  Server.bind listen p.config.services

/-- What the handlers of the proxy's connections share. -/
def context (p : Proxy) : Handler.Context :=
  { engine := { rules := p.rules }
    policy := .ofSettings p.config.connect
    idle := p.config.relay.idleTimeoutSeconds.map fun n => 1000 * n.toNat }

/-- The supervisor of the proxy's tunnels, unless it is turned off. -/
def supervisor? (p : Proxy) : Option Supervisor :=
  if p.config.supervisor.enabled then
    some (.ofTunnels p.tunnels.chained
      (1000000000 * p.config.supervisor.restartDelaySeconds.toNat))
  else none

end Proxy

/-! ### How a failed start is reported -/

/-- A failure that the system numbers, as reports show it. -/
def systemFaultText (code : Nat) (kind message : String) : String :=
  s!"Os \x7b code: {code}, kind: {kind}, message: {Text.quoted message} \x7d"

/-- Why a file cannot be read, as reports show it. -/
def FileFault.report : FileFault → String
  | .notFound => systemFaultText 2 "NotFound" "No such file or directory"
  | .notADirectory => systemFaultText 20 "NotADirectory" "Not a directory"
  | .isDirectory => systemFaultText 21 "IsADirectory" "Is a directory"
  | .invalidData =>
    "Error \x7b kind: InvalidData, message: \"stream did not contain valid UTF-8\" \x7d"
  | .nulInPath =>
    "Error \x7b kind: InvalidInput, message: \"file name contained an unexpected NUL byte\" \x7d"
  | .nameTooLong => systemFaultText 36 "InvalidFilename" "File name too long"
  | .other name => name

/-- The error as a failed start reports it, field by field. -/
def ConfigError.report : ConfigError → String
  | .unreadable path fault =>
    "Io \x7b path: " ++ Text.quoted path ++ ", source: " ++ fault.report ++ " \x7d"
  | .unparsable path => "Parse \x7b path: " ++ Text.quoted path ++ " \x7d"
  | .invalid fault => "Invalid(" ++ Text.quoted fault.message ++ ")"
  | .rule place fault =>
    "Rule \x7b provenance: " ++ Text.quoted place.text ++ ", message: " ++
      Text.quoted fault.message ++ " \x7d"

/-- The failure to bind a service as a failed start reports it. -/
def Server.BindFault.report (f : Server.BindFault) : String :=
  "Custom \x7b kind: " ++ f.fault.kind.name ++ ", error: " ++
    Text.quoted (f.message ++ f.fault.text) ++ " \x7d"

/-- How the program ends when there is no proxy to run. -/
structure Exit where
  code : UInt32
  /-- What is written to the error output. -/
  text : String
deriving DecidableEq, Repr

namespace Exit

/-- Wrong usage is a failure of its own; help and version are what was asked for.
The texts that these show are not errors. -/
def ofRefusal : CommandLine.Refusal → Exit
  | .usage => ⟨2, ""⟩
  | .help => ⟨0, ""⟩
  | .version => ⟨0, ""⟩

def ofError (e : ConfigError) : Exit := ⟨1, "Error: " ++ e.report⟩

def ofBindFault (f : Server.BindFault) : Exit := ⟨1, "Error: " ++ f.report⟩

/-- The log directive cannot be cut into parts: the program breaks off. -/
def brokenOff : Exit := ⟨101, ""⟩

end Exit

/-- Starts a proxy from a command line. -/
def CommandLine.start (files : Files) (cl : CommandLine) : Except Exit Proxy :=
  match cl.loadConfig files with
  | .error e => .error (.ofError e)
  | .ok c =>
    match cl.logFilter? c with
    | none => .error .brokenOff
    | some log =>
      match Proxy.ofCommandLine files cl log c with
      | .error e => .error (.ofError e)
      | .ok p => .ok p

/-- Starts a proxy from the words of a command line. -/
def start (files : Files) (words : List String) : Except Exit Proxy :=
  match CommandLine.parse words with
  | .error r => .error (.ofRefusal r)
  | .ok cl => cl.start files

end SocksGateway
