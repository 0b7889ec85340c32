import SocksGateway.Config.Spec
import SocksGateway.Config.Settings

/-!
# The command line

Words are read from left to right, and the first that decides the outcome ends
the reading: a request for help, a request for the version, or a word that is
not understood.

An option's value stands behind a `=` in the same word, or is the next word if
that does not look like an option.  The one option with a letter of its own,
`-c`, also takes the rest of its word for its value.
-/

namespace SocksGateway

/-- What the command line says. -/
structure CommandLine where
  config : Option String := none
  socks : List String := []
  forwards : List String := []
  tunnels : List String := []
  rules : List String := []
  logLevel : Option String := none
  noSupervisor : Bool := false
deriving DecidableEq, Repr

namespace CommandLine

/-- Why nothing is started. -/
inductive Refusal where
  | usage
  | help
  | version
deriving DecidableEq, Repr

/-- The options that have a value. -/
inductive Setting where
  | config
  | socks
  | forward
  | tunnel
  | rule
  | logLevel
deriving DecidableEq, Repr

/-- What a word asks for. -/
inductive Word where
  /-- No option comes behind it. -/
  | endOfOptions
  | refuse (r : Refusal)
  | noSupervisor
  /-- An option, and its value if it stands in the same word. -/
  | setting (s : Setting) (value : Option String)
deriving DecidableEq, Repr

/-- The options with values, by their names. -/
def settingNames : List (String × Setting) :=
  [("config", .config), ("socks", .socks), ("forward", .forward), ("tunnel", .tunnel),
    ("rule", .rule), ("log-level", .logLevel)]

/-- The options without values, by their names. -/
def flagNames : List (String × Word) :=
  [("no-supervisor", .noSupervisor), ("help", .refuse .help), ("version", .refuse .version)]

/-- An option by its name. -/
def Word.named (name : String) (value : Option String) : Word :=
  match settingNames.lookup name, flagNames.lookup name, value with
  | some s, _, _ => .setting s value
  | none, some w, none => w
  | none, _, _ => .refuse .usage

/-- What stands behind `--`. -/
def Word.long (s : List Char) : Word :=
  match Text.cutFirst '=' s with
  | some (name, value) => .named (String.ofList name) (some (String.ofList value))
  | none => .named (String.ofList s) none

/-- What stands behind the letter of an option in its word, as a value. -/
def Word.attached : List Char → Option String
  | [] => none
  | '=' :: value => some (String.ofList value)
  | value => some (String.ofList value)

/-- What stands behind `-`. -/
def Word.short : List Char → Word
  | 'c' :: rest => .setting .config (attached rest)
  | 'h' :: _ => .refuse .help
  | 'V' :: _ => .refuse .version
  | _ => .refuse .usage

/-- What a word asks for where no value is expected. -/
def Word.ofChars : List Char → Word
  | ['-', '-'] => .endOfOptions
  | '-' :: '-' :: rest => .long rest
  | '-' :: c :: rest => .short (c :: rest)
  | _ => .refuse .usage

/-- The word may be the value of the option before it. -/
def isValue (s : String) : Bool :=
  match s.toList with
  | '-' :: _ :: _ => false
  | _ => true

/-- Sets an option that is given once at most. -/
def setOnce (old : Option String) (value : String) (put : Option String → CommandLine) :
    Except Refusal CommandLine :=
  match old with
  | some _ => .error .usage
  | none => .ok (put (some value))

/-- Sets an option.  There is no configuration file without a name. -/
def set (cl : CommandLine) (s : Setting) (value : String) : Except Refusal CommandLine :=
  match s with
  | .config =>
    if value = "" then .error .usage
    else setOnce cl.config value fun v => { cl with config := v }
  | .logLevel => setOnce cl.logLevel value fun v => { cl with logLevel := v }
  | .socks => .ok { cl with socks := cl.socks ++ [value] }
  | .forward => .ok { cl with forwards := cl.forwards ++ [value] }
  | .tunnel => .ok { cl with tunnels := cl.tunnels ++ [value] }
  | .rule => .ok { cl with rules := cl.rules ++ [value] }

/-- Reads the words behind those that have made `cl`. -/
def read (cl : CommandLine) : List String → Except Refusal CommandLine
  | [] => .ok cl
  | word :: rest =>
    match Word.ofChars word.toList with
    | .endOfOptions => if rest.isEmpty then .ok cl else .error .usage
    | .refuse r => .error r
    | .noSupervisor =>
      if cl.noSupervisor then .error .usage else read { cl with noSupervisor := true } rest
    | .setting s (some value) =>
      match cl.set s value with
      | .ok cl => read cl rest
      | .error r => .error r
    | .setting s none =>
      match rest with
      | [] => .error .usage
      | value :: rest =>
        if isValue value then
          match cl.set s value with
          | .ok cl => read cl rest
          | .error r => .error r
        else .error .usage

/-- Reads a command line. -/
def parse (words : List String) : Except Refusal CommandLine := read {} words

end CommandLine

/-! ### What the command line adds to a configuration -/

namespace Config

/-- Adds the services that specifications stand for, up to the first that is
wrong. -/
def addServices (parse : List Char → Except ConfigFault ServiceSpec) (c : Config) :
    List String → Config × Option ConfigFault
  | [] => (c, none)
  | s :: rest =>
    match parse s.toList with
    | .ok spec => addServices parse { c with services := c.services ++ [spec] } rest
    | .error f => (c, some f)

/-- Adds the tunnels that specifications stand for, up to the first that is
wrong. -/
def addTunnels (c : Config) : List String → Config × Option ConfigFault
  | [] => (c, none)
  | s :: rest =>
    match TunnelSpec.parse s.toList with
    | .ok spec => addTunnels { c with tunnels := c.tunnels ++ [spec] } rest
    | .error f => (c, some f)

/-- Turns the supervisor off if that is asked for. -/
def withoutSupervisor (c : Config) (off : Bool) : Config :=
  if off then { c with supervisor := { c.supervisor with enabled := false } } else c

/-- Adds what the command line says: listeners, port forwards, tunnels, and
whether tunnels are started at all.  A wrong specification ends it, and the
configuration is what it had become until then. -/
def merge (c : Config) (cl : CommandLine) : Config × Option ConfigFault :=
  match c.addServices ServiceSpec.parseSocks cl.socks with
  | (c, some f) => (c, some f)
  | (c, none) =>
    match c.addServices ServiceSpec.parseForward cl.forwards with
    | (c, some f) => (c, some f)
    | (c, none) =>
      match c.addTunnels cl.tunnels with
      | (c, some f) => (c, some f)
      | (c, none) => (c.withoutSupervisor cl.noSupervisor, none)

end Config

end SocksGateway
