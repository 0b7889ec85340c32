import SocksGateway.Startup

/-!
# The program

Reads the files that the command line leads to, starts from them, and reports
what it has come to: the listeners of the proxy, if that is to be logged, or why
there is none.
-/

namespace SocksGateway

/-- The files of a table, and no others. -/
def Files.ofList (table : List (String × Except FileFault ByteArray)) : Files := fun path =>
  (table.lookup path).getD (.error .notFound)

namespace Program

def name : String := "socks-gateway"

def usageText : String :=
  "Usage: " ++ name ++ " [OPTIONS]\n\n" ++
    "  -c, --config FILE     JSON configuration file\n" ++
    "      --socks SPEC      SOCKS4/5 listener, [bind:]port\n" ++
    "      --forward SPEC    port forward, [bind:]lport:rhost:rport\n" ++
    "      --tunnel SPEC     chained tunnel, name:socksport:command\n" ++
    "      --rule RULE       route rule, behind the configured rules\n" ++
    "      --log-level LEVEL log filter directive\n" ++
    "      --no-supervisor   do not start tunnel commands\n" ++
    "  -h, --help            this text\n" ++
    "  -V, --version         the version"

def versionText : String := name ++ " 0.1.0"

/-- A file of the real file system. -/
def readFile (path : String) : IO (Except FileFault ByteArray) := do
  match ← (IO.FS.readBinFile path).toBaseIO with
  | .ok bytes => return .ok bytes
  | .error (.noFileOrDirectory _ _ _) => return .error .notFound
  | .error (.inappropriateType _ _ _) => return .error .isDirectory
  | .error e => return .error (.other (toString e))

/-- The file at `path`, under its name, if a path is given. -/
def readNamed (path : Option String) : IO (List (String × Except FileFault ByteArray)) :=
  match path with
  | none => return []
  | some path => return [(path, ← readFile path)]

/-- The files that a command line leads to: the configuration, and the rules file
that it names. -/
def readFiles (cl : CommandLine) : IO Files := do
  let first ← readNamed cl.config
  let rules :=
    match cl.loadConfig (.ofList first) with
    | .ok c => c.rulesFile.map c.rulesPath
    | .error _ => none
  return .ofList (first ++ (← readNamed rules))

/-- Shows the help or the version, where that is what was asked for. -/
def showRefusal (r : CommandLine.Refusal) : IO Unit :=
  match r with
  | .usage => IO.eprintln usageText
  | .help => IO.println usageText
  | .version => IO.println versionText

/-- Runs the program on its words, up to its exit code. -/
def run (words : List String) : IO UInt32 := do
  match CommandLine.parse words with
  | .error r =>
    showRefusal r
    return (Exit.ofRefusal r).code
  | .ok cl =>
    match cl.start (← readFiles cl) with
    | .error e =>
      IO.eprintln e.text
      return e.code
    | .ok p =>
      let binding := p.bind .ok
      if p.log.shows { target := name, level := .info, fields := ["message", "service"] } then
        for s in binding.services do
          IO.println s.text
      match binding.fault with
      | none => return 0
      | some f =>
        IO.eprintln (Exit.ofBindFault f).text
        return (Exit.ofBindFault f).code

end Program

end SocksGateway

/-- Runs the program on its arguments. -/
def main (args : List String) : IO UInt32 := SocksGateway.Program.run args
