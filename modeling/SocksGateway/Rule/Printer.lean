import SocksGateway.Rule.Basic

/-!
# Writing a rule

The clauses come in a fixed order with blanks between them, and the place where
the rule was written follows in parentheses.
-/

namespace SocksGateway

namespace Rule

/-- A clause that is there, as keyword and value. -/
def clauseText (keyword : String) (value : Option String) : List String :=
  match value with
  | some v => [keyword ++ " " ++ v]
  | none => []

/-- The clauses of the rule in their order. -/
def clauseTexts (r : Rule) : List String :=
  clauseText "is" r.is ++ clauseText "startsWith" r.startsWith
    ++ clauseText "endsWith" r.endsWith ++ clauseText "contains" r.contains
    ++ clauseText "port" (r.port.map fun p => String.ofList (Text.decimal p.toNat))
    ++ clauseText "network" (r.network.map Network.text)
    ++ clauseText "map" (r.map.map Network.text)
    ++ clauseText "to" (r.target.map Network.text)
    ++ (if r.resolveDns then ["resolveDNS"] else [])
    ++ (if r.tunnels.isEmpty then [] else ["via " ++ Text.join "," r.tunnelNames])

/-- The rule line that reads back as the rule. -/
def line (r : Rule) : String := Text.join " " r.clauseTexts

/-- The rule line and the place of the rule. -/
def text (r : Rule) : String := r.line ++ " (" ++ r.place.text ++ ")"

end Rule

end SocksGateway
