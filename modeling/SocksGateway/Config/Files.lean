import SocksGateway.Config.Document
import SocksGateway.Config.Path
import SocksGateway.Rule.File

/-!
# Files of a configuration

The configuration file, and the rules file that it may name.  A rules file is
looked for in the directory of the configuration file.
-/

namespace SocksGateway

/-- Where files are read from: what a path leads to. -/
abbrev Files := String → Except FileFault ByteArray

namespace Files

/-- The text of a file. -/
def readText (files : Files) (path : String) : Except ConfigError String :=
  match files path with
  | .error f => .error (.unreadable path f)
  | .ok bytes =>
    match String.fromUTF8? bytes with
    | some text => .ok text
    | none => .error (.unreadable path .invalidData)

end Files

namespace Config

/-- The configuration in the file at `path`. -/
def load (files : Files) (path : String) : Except ConfigError Config :=
  match files.readText path with
  | .error e => .error e
  | .ok text =>
    match Config.parse? text.toList with
    | some c => .ok { c with source := some path }
    | none => .error (.unparsable path)

/-- Where rules are from that no file holds. -/
def commandLineLabel : String := "<command line>"

/-- What inline rules are said to be from. -/
def rulesLabel (c : Config) : String := c.source.getD commandLineLabel

/-- Where a rules file is. -/
def rulesPath (c : Config) (file : String) : String :=
  match c.source with
  | some source => String.ofList (Path.join (Path.parent source.toList) file.toList)
  | none => file

/-- The rules of the rules file, if there is one. -/
def loadRulesFile (files : Files) (c : Config) (registry : TunnelRegistry) :
    Except ConfigError (List Rule) :=
  match c.rulesFile with
  | none => .ok []
  | some file =>
    let path := c.rulesPath file
    match files.readText path with
    | .error e => .error e
    | .ok text => Rule.parseFile registry path text.toList

/-- The rules of a configuration: the inline ones, then those of the rules file. -/
def loadRules (files : Files) (c : Config) (registry : TunnelRegistry) :
    Except ConfigError (List Rule) :=
  match Rule.parseEntries registry c.rulesLabel c.rules with
  | .error e => .error e
  | .ok entries => (c.loadRulesFile files registry).map (entries ++ ·)

end Config

end SocksGateway
