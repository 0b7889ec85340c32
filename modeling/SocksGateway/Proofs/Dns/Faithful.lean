import SocksGateway.Dns.Https

/-!
# Resolvers that keep to the name

A resolver is there to fill in an address.  One that does nothing else to a destination is
`Faithful`, and all of those that names are looked up with are, whatever they ask and
whatever the answer is.
-/

namespace SocksGateway

namespace Dns

variable {σ : Type}

/-- **A resolver keeps the name and the port**, and fails where there is no name. -/
structure Faithful (resolver : Resolver σ) : Prop where
  keeps : ∀ d d' w, (resolver d w).1 = .ok d' → d'.hostname = d.hostname ∧ d'.port = d.port
  fails : ∀ d w, d.hostname = none → ∃ e, (resolver d w).1 = .error e

/-- Lookups keep the port. -/
def KeepsPort (resolver : Resolver σ) : Prop :=
  ∀ d d' w, (resolver d w).1 = .ok d' → d'.port = d.port

theorem Faithful.keepsPort {resolver : Resolver σ} (h : Faithful resolver) :
    KeepsPort resolver :=
  fun d d' w hOk => (h.keeps d d' w hOk).2

theorem faithful_resolveBy (lookup : String → σ → Except DnsError (List IpAddress) × σ)
    (missing : String → DnsError) : Faithful (resolveBy lookup missing) := by
  constructor
  · intro d d' w hOk
    unfold resolveBy at hOk
    -- The branches that succeed put an address into the destination.
    repeat' split at hOk
    all_goals cases hOk
    all_goals exact ⟨rfl, rfl⟩
  · intro d w hNone
    exact ⟨.noHostname, by rw [resolveBy, hNone]⟩

theorem faithful_system (ask : String → σ → SystemAnswer × σ) (retries : Nat) :
    Faithful (system ask retries) :=
  faithful_resolveBy _ _

theorem faithful_https (world : HttpsWorld σ) : Faithful (https world) :=
  faithful_resolveBy _ _

theorem faithful_table (entries : List (String × Option IpAddress)) :
    Faithful (table entries : Resolver σ) := by
  constructor
  · intro d d' w hOk
    unfold table at hOk
    repeat' split at hOk
    all_goals cases hOk
    exact ⟨rfl, rfl⟩
  · intro d w hNone
    exact ⟨.noHostname, by rw [table, hNone]⟩

end Dns

end SocksGateway
