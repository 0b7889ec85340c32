import SocksGateway.Rule.Printer
import SocksGateway.Session

/-!
# Choosing a route

The rules are tried in order.  A rule whose conditions hold changes the
destination, and the rules behind it see the changed one; the first such rule
that has tunnels is the route.  Without one the session goes direct.

Name lookups depend on the world outside.  A resolver is a function on that
world, of any type `σ`, and the world it leaves is handed on.
-/

namespace SocksGateway

/-- Turns a named destination into one with an address. -/
abbrev Resolver (σ : Type) := Destination → σ → Except DnsError Destination × σ

namespace Routing

/-- What is worth reporting about the search for a route. -/
inductive Event where
  | applies (rule : Rule)
  | relocated (before after : Ipv4)
  | relocationSkipped
  | resolutionFailed (place : Provenance) (error : DnsError)
deriving DecidableEq, Repr

def Event.text : Event → String
  | .applies rule => "applies " ++ rule.text
  | .relocated before after => s!"rewrote {before.text} to {after.text}"
  | .relocationSkipped => "rewrite skipped"
  | .resolutionFailed place error => s!"{place.text}: DNS resolution failed: {error.message}"

/-- Relocates the destination into a network, and takes the facts anew.  A
destination without an IPv4 address stays as it is. -/
def relocate (target : Option Network) (s : Session) (f : Facts) : Session × Facts × List Event :=
  match target with
  | none => (s, f, [])
  | some n =>
    match s.destination.ipv4? with
    | none => (s, f, [.relocationSkipped])
    | some a =>
      let b : Ipv4 := ⟨n.relocate a.bits⟩
      let d := s.destination.withIpv4 b
      ({ s with destination := d, addressType := some .ipv4 }, .of d, [.relocated a b])

/-- Looks the destination up, if the rule says so, and takes the facts anew.  A
failed lookup changes nothing. -/
def resolve {σ : Type} (resolver : Resolver σ) (rule : Rule) (s : Session) (f : Facts) (w : σ) :
    Session × Facts × List Event × σ :=
  if rule.resolveDns then
    match resolver s.destination w with
    | (.ok d, w) => ({ s with destination := d }, .of d, [], w)
    | (.error e, w) => (s, f, [.resolutionFailed rule.place e], w)
  else (s, f, [], w)

/-- Makes the changes of a rule that applies: the relocation, then the lookup. -/
def apply {σ : Type} (resolver : Resolver σ) (rule : Rule) (s : Session) (f : Facts) (w : σ) :
    Session × Facts × List Event × σ :=
  let (s, f, relocationLog) := relocate rule.target s f
  let (s, f, resolveLog, w) := resolve resolver rule s f w
  (s, f, .applies rule :: (relocationLog ++ resolveLog), w)

/-- What a search for a route found: the session it left, the rule that ended
it with its position, what there is to report, and the world afterwards. -/
structure Search (σ : Type) where
  session : Session
  found : Option (Nat × Rule)
  log : List Event
  world : σ

/-- Tries rules in order, the first of them at position `i`.  The conditions are
tested against facts at hand, which are taken anew when the destination has
changed. -/
def search {σ : Type} (resolver : Resolver σ) (i : Nat) (rules : List Rule) (s : Session)
    (f : Facts) (w : σ) : Search σ :=
  match rules with
  | [] => ⟨s, none, [], w⟩
  | rule :: rest =>
    if rule.holds f then
      let (s, f, log, w) := apply resolver rule s f w
      if rule.isTerminal then ⟨s, some (i, rule), log, w⟩
      else
        let later := search resolver (i + 1) rest s f w
        { later with log := log ++ later.log }
    else search resolver (i + 1) rest s f w

/-- The rules of a proxy, and how often each one was a route. -/
structure Engine where
  rules : List Rule
  /-- A counter has 64 bits and is the remainder of this number modulo `2 ^ 64`. -/
  hits : Nat → Nat := fun _ => 0

/-- A decision: the route, whether a rule chose it, and what it left. -/
structure Decision (σ : Type) where
  route : Rule
  explicit : Bool
  session : Session
  engine : Engine
  log : List Event
  world : σ

namespace Engine

/-- One more session takes the rule at position `i`. -/
def countHit (e : Engine) (i : Nat) : Engine :=
  { e with hits := fun j => if j = i then e.hits i + 1 else e.hits j }

/-- The counters in the order of the rules. -/
def hitCounts (e : Engine) : List Nat := (List.range e.rules.length).map e.hits

/-- Gives the session its route. -/
def route {σ : Type} (e : Engine) (resolver : Resolver σ) (s : Session) (w : σ) : Decision σ :=
  let r := search resolver 0 e.rules s (.of s.destination) w
  match r.found with
  | some (i, rule) =>
    ⟨rule, true, { r.session with route := some rule }, e.countHit i, r.log, r.world⟩
  | none =>
    ⟨.fallback, false, { r.session with route := some .fallback }, e, r.log, r.world⟩

end Engine

end Routing

end SocksGateway
