import SocksGateway.Rule.Basic
import SocksGateway.Text.Blank

/-!
# Reading a rule

A rule line is a sequence of words.  They form clauses, each a keyword with its
value, except `resolveDNS`, which has none, and `via`, which takes all words
that are left as a list of tunnel names.  Of two clauses with one keyword the
later counts.
-/

namespace SocksGateway

open Text

namespace Rule

/-- A clause in front of `via`. -/
inductive Clause where
  | is (text : String)
  | startsWith (text : String)
  | endsWith (text : String)
  | contains (text : String)
  | port (port : UInt16)
  | network (network : Network)
  | map (network : Network)
  | target (network : Network)
  | resolveDns
deriving DecidableEq, Repr

/-- A clause takes its place in the rule. -/
def withClause (r : Rule) : Clause → Rule
  | .is s => { r with is := some s }
  | .startsWith s => { r with startsWith := some s }
  | .endsWith s => { r with endsWith := some s }
  | .contains s => { r with contains := some s }
  | .port p => { r with port := some p }
  | .network n => { r with network := some n }
  | .map n => { r with map := some n }
  | .target n => { r with target := some n }
  | .resolveDns => { r with resolveDns := true }

/-- A network as the value of a clause. -/
def readNetwork (value : List Char) : Except RuleFault Network :=
  match Network.parse value with
  | .ok n => .ok n
  | .error fault => .error (.badNetwork fault)

/-- The clause of a keyword and its value. -/
def readClause (keyword value : List Char) : Except RuleFault Clause :=
  if keyword = "is".toList then .ok (.is (String.ofList value))
  else if keyword = "startsWith".toList then .ok (.startsWith (String.ofList value))
  else if keyword = "endsWith".toList then .ok (.endsWith (String.ofList value))
  else if keyword = "contains".toList then .ok (.contains (String.ofList value))
  else if keyword = "port".toList then
    match readUInt16 value with
    | some p => .ok (.port p)
    | none => .error (.badPort (String.ofList value))
  else if keyword = "network".toList then (readNetwork value).map .network
  else if keyword = "map".toList then (readNetwork value).map .map
  else if keyword = "to".toList then (readNetwork value).map .target
  else .error (.unknownKeyword (String.ofList keyword))

/-- The tunnels of these names, up to the first that is unknown. -/
def readTunnels (registry : TunnelRegistry) : List (List Char) → Except RuleFault (List Tunnel)
  | [] => .ok []
  | name :: names =>
    match registry.lookup (String.ofList name) with
    | none => .error (.unknownTunnel (String.ofList name))
    | some t =>
      match readTunnels registry names with
      | .ok ts => .ok (t :: ts)
      | .error fault => .error fault

/-- The names that words list, with commas between them. -/
def listedNames (ws : List (List Char)) : List (List Char) :=
  (ws.flatMap (split (· == ','))).filter fun name => !name.isEmpty

/-- The tunnels that follow `via`; there must be one. -/
def readVia (registry : TunnelRegistry) (ws : List (List Char)) : Except RuleFault (List Tunnel) :=
  match readTunnels registry (listedNames ws) with
  | .ok [] => .error .noTunnels
  | .ok ts => .ok ts
  | .error fault => .error fault

/-- The clauses and the tunnels of a rule line, given by its words. -/
def readWords (registry : TunnelRegistry) :
    List (List Char) → Except RuleFault (List Clause × List Tunnel)
  | [] => .ok ([], [])
  | keyword :: rest =>
    if keyword = "resolveDNS".toList then
      (readWords registry rest).map fun (cs, ts) => (.resolveDns :: cs, ts)
    else
      match rest with
      | [] => .error (.needsValue (String.ofList keyword))
      | value :: rest =>
        if keyword = "via".toList then
          (readVia registry (value :: rest)).map fun ts => ([], ts)
        else
          match readClause keyword value with
          | .error fault => .error fault
          | .ok c => (readWords registry rest).map fun (cs, ts) => (c :: cs, ts)

/-- Reads one rule line, written at `place`. -/
def parse (registry : TunnelRegistry) (place : Provenance) (line : List Char) :
    Except ConfigError Rule :=
  match readWords registry (words line) with
  | .ok (cs, ts) => .ok { cs.foldl withClause { place } with tunnels := ts }
  | .error fault => .error (.rule place fault)

end Rule

end SocksGateway
