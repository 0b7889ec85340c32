import SocksGateway.Proofs.Network.Relocation
import SocksGateway.Proofs.Routing.Changes
import SocksGateway.Rule.Parser

/-!
# Rules that map a network

A rule with `map n to t` relocates what it finds in `n`, and nothing else, into `t`.  If both
networks have the same mask it exchanges the bits that all of `n` has in common for those that
all of `t` has in common, so nothing gets lost.

* `relocated_of_holds`: where such a rule sends a destination.
* `Lossless`: a rule relocates only between networks with the same mask;
  `Lossless.address_relocated_eq_iff`: it keeps the addresses apart that it relocates.
* `pass_eq_iff`, `destination_search_eq_iff`: what one such rule and what a search through
  such rules make of two destinations.
* `relocation_laws`: the laws of relocation, and what they mean for rules and decisions.
-/

namespace SocksGateway

namespace Routing

open Dns (Faithful)

variable {σ : Type} {resolver : Resolver σ} {rule : Rule} {rules : List Rule} {n t : Network}
  {d e : Destination} {x y : Destination × σ} {s s' : Session} {w w' : σ}

/-! ### Where a rule sends a destination -/

/-- A rule with a `map` clause applies only to addresses in that network. -/
theorem address_of_holds (hMap : rule.map = some n) (hHolds : rule.holds (.of d) = true) :
    ∃ a, d.address = some (.v4 a) ∧ n.contains a.bits = true := by
  simp only [Rule.holds, Bool.and_eq_true] at hHolds
  have hNetwork : Rule.networkHolds rule.map (.of d) = true := hHolds.2
  rw [hMap] at hNetwork
  obtain ⟨a, hAddress, hContains⟩ := (Option.any_eq_true _ _).mp hNetwork
  exact ⟨a, Destination.ipv4?_eq_some_iff.mp hAddress, hContains⟩

theorem relocated_of_holds (hMap : rule.map = some n) (hTarget : rule.target = some t)
    (hHolds : rule.holds (.of d) = true) :
    ∃ a, d.address = some (.v4 a) ∧ n.contains a.bits = true ∧
      relocated rule.target d = .ofIpv4 ⟨t.relocate a.bits⟩ d.port := by
  obtain ⟨a, hAddress, hContains⟩ := address_of_holds hMap hHolds
  exact ⟨a, hAddress, hContains,
    relocated_of_some hTarget (Destination.ipv4?_eq_some_iff.mpr hAddress)⟩

/-- A rule with `map n to t` drops the name, and so its lookup changes nothing. -/
theorem destination_apply (hMap : rule.map = some n) (hTarget : rule.target = some t)
    (hFaithful : rule.resolveDns = true → Faithful resolver)
    (hHolds : rule.holds (.of s.destination) = true) (w : σ) :
    (apply resolver rule s (.of s.destination) w).1.destination =
      relocated rule.target s.destination := by
  obtain ⟨a, -, -, hRelocated⟩ := relocated_of_holds hMap hTarget hHolds
  obtain ⟨u, log, v, hApply, -, hLeft⟩ := apply_spec resolver rule s w
  have hUnnamed : (relocated rule.target s.destination).hostname = none := by
    rw [hRelocated]
    rfl
  have hResolved : (resolved resolver rule (relocated rule.target s.destination, w)).1 =
      relocated rule.target s.destination := by
    by_cases hLookup : rule.resolveDns = true
    · exact resolved_of_unnamed (hFaithful hLookup) rule hUnnamed
    · rw [resolved, if_neg hLookup]
  rw [hApply, ← hResolved, ← hLeft]

/-! ### Rules that lose nothing -/

/-- The rule relocates only out of a network with the mask of the one it relocates into. -/
def Lossless (rule : Rule) : Prop :=
  ∀ t, rule.target = some t → ∃ n, rule.map = some n ∧ n.mask = t.mask

theorem lossless_of_map (hMap : rule.map = some n) (hTarget : rule.target = some t)
    (hMask : n.mask = t.mask) : Lossless rule := by
  intro t' hTarget'
  rw [hTarget] at hTarget'
  cases hTarget'
  exact ⟨n, hMap, hMask⟩

/-- Addresses of one network are kept apart by a relocation under its mask. -/
theorem relocate_bits_eq_iff (hMask : n.mask = t.mask) {a b : Ipv4}
    (ha : n.contains a.bits = true) (hb : n.contains b.bits = true) :
    t.relocate a.bits = t.relocate b.bits ↔ a = b := by
  constructor
  · intro hSame
    have hBits := (Network.bijOn_relocate_iff.mpr hMask).injOn ha hb hSame
    exact congrArg Ipv4.mk hBits
  · rintro rfl
    rfl

/-- **A rule that loses nothing keeps apart what it applies to.** -/
theorem Lossless.address_relocated_eq_iff (hLossless : Lossless rule)
    (hd : rule.holds (.of d) = true) (he : rule.holds (.of e) = true) :
    (relocated rule.target d).address = (relocated rule.target e).address ↔
      d.address = e.address := by
  cases hTarget : rule.target with
  | none => exact Iff.rfl
  | some t =>
    obtain ⟨n, hMap, hMask⟩ := hLossless t hTarget
    obtain ⟨a, hAddress, ha, hMoved⟩ := relocated_of_holds hMap hTarget hd
    obtain ⟨b, hAddress', hb, hMoved'⟩ := relocated_of_holds hMap hTarget he
    rw [← hTarget, hMoved, hMoved', hAddress, hAddress']
    simpa [Destination.ofIpv4] using relocate_bits_eq_iff hMask ha hb

theorem port_relocated (target : Option Network) (d : Destination) :
    (relocated target d).port = d.port := by
  unfold relocated
  split <;> rfl

theorem eq_iff_of_unnamed (hd : d.hostname = none) (he : e.hostname = none) :
    d = e ↔ d.address = e.address ∧ d.port = e.port := by
  cases d
  cases e
  simp_all

theorem pass_of_unnamed (hFaithful : Faithful resolver) (hNone : x.1.hostname = none)
    (hHolds : rule.holds (.of x.1) = true) :
    (pass resolver x rule).1 = relocated rule.target x.1 := by
  rw [pass, if_pos hHolds, resolved_of_unnamed hFaithful rule (unnamed_relocated _ hNone)]

/-- **One rule keeps two destinations apart**, if it applies to both or to neither. -/
theorem pass_eq_iff (hFaithful : Faithful resolver) (hLossless : Lossless rule)
    (hx : x.1.hostname = none) (hy : y.1.hostname = none)
    (hAlike : rule.holds (.of x.1) = true ↔ rule.holds (.of y.1) = true) :
    (pass resolver x rule).1 = (pass resolver y rule).1 ↔ x.1 = y.1 := by
  by_cases hHolds : rule.holds (.of x.1) = true
  · have hHolds' := hAlike.mp hHolds
    rw [pass_of_unnamed hFaithful hx hHolds, pass_of_unnamed hFaithful hy hHolds',
      eq_iff_of_unnamed (unnamed_relocated _ hx) (unnamed_relocated _ hy),
      hLossless.address_relocated_eq_iff hHolds hHolds', port_relocated, port_relocated,
      eq_iff_of_unnamed hx hy]
  · rw [pass, pass, if_neg hHolds, if_neg fun h => hHolds (hAlike.mpr h)]

-- What a rule sends into the target may meet what is there already.
example :
    let moves : Rule :=
      { map := some ⟨0x0A000000, 0xFF000000⟩, target := some ⟨0xC0000000, 0xFF000000⟩
        place := ⟨"rules", 1⟩ }
    let x : Destination := .ofIpv4 ⟨0x0A000001⟩ 80
    let y : Destination := .ofIpv4 ⟨0xC0000001⟩ 80
    let resolver : Resolver Unit := Dns.table []
    (pass resolver (x, ()) moves).1 = (pass resolver (y, ()) moves).1 ∧ x ≠ y := by
  decide

/-- **A search keeps two destinations apart** that the same rules apply to, if all of these
lose nothing. -/
theorem destination_search_eq_iff (hFaithful : Faithful resolver) (k : Nat)
    (hLossless : ∀ rule ∈ rules, Lossless rule)
    (hs : s.destination.hostname = none) (hs' : s'.destination.hostname = none)
    (hAlike : ∀ i rule, Applies resolver rules (s.destination, w) i rule ↔
      Applies resolver rules (s'.destination, w') i rule) :
    (search resolver k rules s (.of s.destination) w).session.destination =
      (search resolver k rules s' (.of s'.destination) w').session.destination ↔
        s.destination = s'.destination := by
  induction rules generalizing k s s' w w' with
  | nil => exact Iff.rfl
  | cons rule rest ih =>
    have hHolds : rule.holds (.of s.destination) = true ↔
        rule.holds (.of s'.destination) = true := by
      simpa only [applies_zero_iff, true_and] using hAlike 0 rule
    have hFires : Fires resolver (rule :: rest) (s.destination, w) 0 ↔
        Fires resolver (rule :: rest) (s'.destination, w') 0 := by
      rw [fires_zero_iff, fires_zero_iff]
      exact and_congr_left' hHolds
    have hPass := pass_eq_iff (x := (s.destination, w)) (y := (s'.destination, w')) hFaithful
      (hLossless rule List.mem_cons_self) hs hs' hHolds
    have hUnnamed := unnamed_pass (x := (s.destination, w)) hFaithful rule hs
    have hUnnamed' := unnamed_pass (x := (s'.destination, w')) hFaithful rule hs'
    rw [← advance_spec] at hUnnamed hUnnamed'
    rw [← advance_spec, ← advance_spec] at hPass
    rw [session_search_cons, session_search_cons]
    dsimp only
    by_cases hEnds : Fires resolver (rule :: rest) (s.destination, w) 0
    · rw [if_pos hEnds, if_pos (hFires.mp hEnds)]
      exact hPass
    · -- Both sessions are still without a name, and the rest applies alike to what is left.
      have hEnds' := fun h => hEnds (hFires.mpr h)
      rw [if_neg hEnds, if_neg hEnds']
      refine (ih (k + 1) (fun r hr => hLossless r (List.mem_cons_of_mem _ hr)) hUnnamed hUnnamed'
        fun i r => ?_).trans hPass
      rw [advance_spec, advance_spec]
      have hLater := hAlike (i + 1) r
      rwa [applies_succ_iff, applies_succ_iff, and_iff_right hEnds, and_iff_right hEnds'] at hLater

/-! ### The laws -/

/-- **The laws of relocation.**  For every network, whatever the shape of its mask, and all
addresses: the network holds the addresses that relocation leaves as they are, and every
relocated one; relocation keeps each bit outside the mask, so two addresses are relocated to
the same one exactly if they agree there; and doing it twice is doing it once.  Relocation
from one network into another is a bijection exactly if they have the same mask.  Then the
relocation back is its inverse, a relocation into one and then into the other is the latter
alone, and a rule with `map n to t` that applies to two sessions, whatever else it asks for,
sends each to the counterpart of its address and both to one address only if they had one.  So
a decision by rules that relocate only in this way never makes one destination of two to which
the same rules apply. -/
theorem relocation_laws (resolver : Resolver σ) :
    (∀ (n : Network) (a b : UInt32),
      (n.contains a = true ↔ n.relocate a = a) ∧
      n.contains (n.relocate a) = true ∧
      n.AgreeOutside a (n.relocate a) ∧
      (n.relocate a = n.relocate b ↔ n.AgreeOutside a b) ∧
      n.relocate (n.relocate a) = n.relocate a) ∧
    (∀ n t : Network, Set.BijOn t.relocate n.addresses t.addresses ↔ n.mask = t.mask) ∧
    (∀ n t : Network, n.mask = t.mask →
      Set.InvOn n.relocate t.relocate n.addresses t.addresses ∧
      (∀ a, t.relocate (n.relocate a) = t.relocate a) ∧
      ∀ rule : Rule, rule.map = some n → rule.target = some t →
        (rule.resolveDns = true → Faithful resolver) →
        ∀ s w s' w', rule.holds (.of s.destination) = true →
          rule.holds (.of s'.destination) = true →
          let u := (apply resolver rule s (.of s.destination) w).1
          let u' := (apply resolver rule s' (.of s'.destination) w').1
          (∃ a, s.destination.address = some (.v4 a) ∧ n.contains a.bits = true ∧
            u.destination = .ofIpv4 ⟨t.relocate a.bits⟩ s.destination.port) ∧
          (u.destination.address = u'.destination.address ↔
            s.destination.address = s'.destination.address)) ∧
    ∀ (e : Engine) s w s' w', Faithful resolver → (∀ rule ∈ e.rules, Lossless rule) →
      s.destination.hostname = none → s'.destination.hostname = none →
      (∀ i rule, Applies resolver e.rules (s.destination, w) i rule ↔
        Applies resolver e.rules (s'.destination, w') i rule) →
      ((e.route resolver s w).session.destination =
          (e.route resolver s' w').session.destination ↔ s.destination = s'.destination) := by
  refine ⟨fun n a b => ?_, fun n t => Network.bijOn_relocate_iff, fun n t hMask => ?_, ?_⟩
  · exact ⟨Network.contains_iff_relocate_eq, n.contains_relocate a, n.agreeOutside_relocate a,
      Network.relocate_eq_relocate_iff,
      Network.contains_iff_relocate_eq.mp (n.contains_relocate a)⟩
  · refine ⟨Network.invOn_relocate hMask,
      Network.relocate_relocate fun i _ => (Network.covers_congr hMask).mp, ?_⟩
    intro rule hMap hTarget hFaithful s w s' w' hHolds hHolds' u u'
    have hLossless := lossless_of_map hMap hTarget hMask
    have hLeft : u.destination = _ := destination_apply hMap hTarget hFaithful hHolds w
    have hLeft' : u'.destination = _ := destination_apply hMap hTarget hFaithful hHolds' w'
    rw [hLeft, hLeft']
    exact ⟨relocated_of_holds hMap hTarget hHolds,
      hLossless.address_relocated_eq_iff hHolds hHolds'⟩
  · intro e s w s' w' hFaithful hLossless hs hs' hAlike
    rw [Engine.route_eq, Engine.route_eq, Search.session_decision, Search.session_decision]
    exact destination_search_eq_iff hFaithful 0 hLossless hs hs' hAlike

/-- Masks with gaps, network addresses with bits outside them, and a second rule that applies to
what the first one has relocated. -/
theorem relocation_laws_gaps :
    let n : Network := ⟨0x0A630763, 0xFF00FF00⟩
    let t : Network := ⟨0xC0010901, 0xFF00FF00⟩
    let moves : Rule := { map := some n, target := some t, place := ⟨"rules", 1⟩ }
    let ends : Rule := { network := some t, tunnels := [.null], place := ⟨"rules", 2⟩ }
    let e : Engine := { rules := [moves, ends] }
    let resolver : Resolver Unit := Dns.table []
    let s (a : UInt32) : Session :=
      { Session.accept 1 ⟨1, { port := 1080, kind := .socks }⟩ {} 0 with
        destination := .ofIpv4 ⟨a⟩ 80 }
    let u (a : UInt32) := (apply resolver moves (s a) (.of (s a).destination) ()).1
    let v (a : UInt32) := (e.route resolver (s a) ()).session
    Rule.parse ⟨[]⟩ ⟨"rules", 1⟩ "map 10.99.7.99/255.0.255.0 to 192.1.9.1/255.0.255.0".toList =
      .ok moves ∧
    n.mask = t.mask ∧ (∀ rule ∈ e.rules, Lossless rule) ∧
    n.relocate (t.relocate 0x0A010703) = 0x0A010703 ∧
    (u 0x0A010703).destination = .ofIpv4 ⟨0xC0010903⟩ 80 ∧
    (u 0x0A010703).destination.address ≠ (u 0x0A010704).destination.address ∧
    (v 0x0A010703).destination ≠ (v 0x0A010704).destination := by
  intro n t moves ends e resolver s u v
  have hMask : n.mask = t.mask := rfl
  have hLossless : ∀ rule ∈ e.rules, Lossless rule := by
    intro rule hRule
    rcases List.mem_cons.mp hRule with rfl | hRule
    · exact lossless_of_map rfl rfl hMask
    · cases List.mem_singleton.mp hRule
      exact fun t' hTarget => nomatch hTarget
  have hBoth (a : UInt32) (hMoves : moves.holds (.of (s a).destination) = true)
      (hEnds : ends.holds (.of (after resolver ((s a).destination, ()) [moves]).1) = true)
      (i : Nat) (rule : Rule) :
      Applies resolver e.rules ((s a).destination, ()) i rule ↔ e.rules[i]? = some rule := by
    refine ⟨fun h => h.stands, fun hStands => ?_⟩
    match i with
    | 0 =>
      cases hStands
      exact ⟨rfl, fun j hj => absurd hj (Nat.not_lt_zero j), hMoves⟩
    | 1 =>
      cases hStands
      refine ⟨rfl, fun j hj h => ?_, hEnds⟩
      rw [Nat.lt_one_iff.mp hj] at h
      cases (fires_zero_iff.mp h).2
    | i + 2 => cases hStands
  have hAlike (i : Nat) (rule : Rule) :
      Applies resolver e.rules ((s 0x0A010703).destination, ()) i rule ↔
        Applies resolver e.rules ((s 0x0A010704).destination, ()) i rule :=
    (hBoth _ (by decide) (by decide) i rule).trans (hBoth _ (by decide) (by decide) i rule).symm
  obtain ⟨-, -, hNetworks, hDecisions⟩ := relocation_laws resolver
  obtain ⟨hInv, -, hRules⟩ := hNetworks n t hMask
  obtain ⟨⟨a, hAddress, -, hLeft⟩, hApart⟩ := hRules moves rfl rfl (fun h => nomatch h)
    (s 0x0A010703) () (s 0x0A010704) () (by decide) (by decide)
  cases hAddress
  have hContains : n.contains 0x0A010703 = true := by decide
  refine ⟨by decide +kernel, hMask, hLossless, hInv.1 hContains, hLeft.trans (by decide), ?_, ?_⟩
  · exact fun hSame => absurd (hApart.mp hSame) (by decide)
  · exact fun hSame => absurd ((hDecisions e _ () _ () (Dns.faithful_table _) hLossless rfl rfl
      hAlike).mp hSame) (by decide)

end Routing

end SocksGateway
