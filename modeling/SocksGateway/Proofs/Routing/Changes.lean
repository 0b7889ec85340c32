import SocksGateway.Proofs.Dns.Faithful
import SocksGateway.Proofs.Routing.FirstMatch

/-!
# What a decision changes

The rules that apply relocate the destination and look it up, in any order and as often as
they say.  A relocation takes the name away, and without a name no lookup succeeds: so the
first relocation ends all lookups, and before it only the address can change.

* `Applies`, `Relocates`, `LooksUp`: what the rule at a position does, in terms of
  destinations alone, with the step from a list of rules to one with a rule in front.
* `advance`: what one rule makes of a session; `session_search_cons`: a search is a run of
  these steps.
* `Settled`, `settled_search`: after a relocation the destination stays an IPv4 address.
* `search_of_relocates`, `search_of_not_relocates`: the two ways in which a search ends.
* `port_route`, `route_changes`: what that means for decisions.
-/

namespace SocksGateway

namespace Routing

open Dns (Faithful)

variable {σ : Type} {resolver : Resolver σ} {rule r : Rule} {rules rest : List Rule}
  {x : Destination × σ} {s : Session} {w : σ} {i j : Nat} {d : Destination}

/-! ### What the rule at a position does -/

/-- The rule stands at that position, no rule in front of it is the route, and its conditions
hold for what those have made of the destination. -/
structure Applies (resolver : Resolver σ) (rules : List Rule) (x : Destination × σ) (i : Nat)
    (rule : Rule) : Prop where
  stands : rules[i]? = some rule
  tried : ∀ j < i, ¬ Fires resolver rules x j
  holds : rule.holds (.of (after resolver x (rules.take i)).1) = true

/-- The rule at that position applies, and relocates the destination. -/
def Relocates (resolver : Resolver σ) (rules : List Rule) (x : Destination × σ) (i : Nat) : Prop :=
  ∃ rule n a, Applies resolver rules x i rule ∧ rule.target = some n ∧
    (after resolver x (rules.take i)).1.ipv4? = some a

/-- The rule at that position applies, and looks the destination up, which succeeds. -/
def LooksUp (resolver : Resolver σ) (rules : List Rule) (x : Destination × σ) (i : Nat)
    (d : Destination) : Prop :=
  ∃ rule, Applies resolver rules x i rule ∧ rule.resolveDns = true ∧
    (resolver (relocated rule.target (after resolver x (rules.take i)).1)
      (after resolver x (rules.take i)).2).1 = .ok d

theorem applies_zero_iff : Applies resolver (rule :: rest) x 0 r ↔
    rule = r ∧ rule.holds (.of x.1) = true := by
  constructor
  · rintro ⟨hStands, -, hHolds⟩
    cases hStands
    exact ⟨rfl, hHolds⟩
  · rintro ⟨rfl, hHolds⟩
    exact ⟨rfl, fun j hj => absurd hj (Nat.not_lt_zero j), hHolds⟩

theorem applies_succ_iff : Applies resolver (rule :: rest) x (i + 1) r ↔
    ¬ Fires resolver (rule :: rest) x 0 ∧ Applies resolver rest (pass resolver x rule) i r := by
  constructor
  · rintro ⟨hStands, hTried, hHolds⟩
    exact ⟨hTried 0 (Nat.succ_pos i), hStands,
      fun j hj h => hTried (j + 1) (Nat.succ_lt_succ hj) (fires_succ_iff.mpr h), hHolds⟩
  · rintro ⟨hNot, hStands, hTried, hHolds⟩
    refine ⟨hStands, fun j hj => ?_, hHolds⟩
    cases j with
    | zero => exact hNot
    | succ j => exact fun h => hTried j (Nat.lt_of_succ_lt_succ hj) (fires_succ_iff.mp h)

theorem relocates_zero_iff : Relocates resolver (rule :: rest) x 0 ↔
    rule.holds (.of x.1) = true ∧ ∃ n a, rule.target = some n ∧ x.1.ipv4? = some a := by
  constructor
  · rintro ⟨r, n, a, hApplies, hTarget, hAddress⟩
    obtain ⟨rfl, hHolds⟩ := applies_zero_iff.mp hApplies
    exact ⟨hHolds, n, a, hTarget, hAddress⟩
  · rintro ⟨hHolds, n, a, hTarget, hAddress⟩
    exact ⟨rule, n, a, applies_zero_iff.mpr ⟨rfl, hHolds⟩, hTarget, hAddress⟩

theorem relocates_succ_iff : Relocates resolver (rule :: rest) x (i + 1) ↔
    ¬ Fires resolver (rule :: rest) x 0 ∧ Relocates resolver rest (pass resolver x rule) i := by
  constructor
  · rintro ⟨r, n, a, hApplies, hMoves⟩
    exact ⟨(applies_succ_iff.mp hApplies).1, r, n, a, (applies_succ_iff.mp hApplies).2, hMoves⟩
  · rintro ⟨hNot, r, n, a, hApplies, hMoves⟩
    exact ⟨r, n, a, applies_succ_iff.mpr ⟨hNot, hApplies⟩, hMoves⟩

theorem looksUp_zero_iff : LooksUp resolver (rule :: rest) x 0 d ↔
    rule.holds (.of x.1) = true ∧ rule.resolveDns = true ∧
      (resolver (relocated rule.target x.1) x.2).1 = .ok d := by
  constructor
  · rintro ⟨r, hApplies, hLookup⟩
    obtain ⟨rfl, hHolds⟩ := applies_zero_iff.mp hApplies
    exact ⟨hHolds, hLookup⟩
  · rintro ⟨hHolds, hLookup⟩
    exact ⟨rule, applies_zero_iff.mpr ⟨rfl, hHolds⟩, hLookup⟩

theorem looksUp_succ_iff : LooksUp resolver (rule :: rest) x (i + 1) d ↔
    ¬ Fires resolver (rule :: rest) x 0 ∧ LooksUp resolver rest (pass resolver x rule) i d := by
  constructor
  · rintro ⟨r, hApplies, hLookup⟩
    exact ⟨(applies_succ_iff.mp hApplies).1, r, (applies_succ_iff.mp hApplies).2, hLookup⟩
  · rintro ⟨hNot, r, hApplies, hLookup⟩
    exact ⟨r, applies_succ_iff.mpr ⟨hNot, hApplies⟩, hLookup⟩

/-! ### Destinations without a name -/

theorem relocated_of_some {n : Network} {a : Ipv4} {target : Option Network}
    (hTarget : target = some n) (hAddress : d.ipv4? = some a) :
    relocated target d = d.withIpv4 ⟨n.relocate a.bits⟩ := by
  simp only [relocated, hTarget, hAddress]

theorem relocated_of_not {target : Option Network}
    (hNot : ¬ ∃ n a, target = some n ∧ d.ipv4? = some a) : relocated target d = d := by
  unfold relocated
  split
  · rename_i n a hAddress
    exact absurd ⟨n, a, rfl, hAddress⟩ hNot
  · rfl

theorem unnamed_relocated (target : Option Network) (hNone : d.hostname = none) :
    (relocated target d).hostname = none := by
  unfold relocated
  split
  · rfl
  · exact hNone

/-- **Without a name a lookup changes nothing.** -/
theorem resolved_of_unnamed (hFaithful : Faithful resolver) (rule : Rule)
    (hNone : x.1.hostname = none) : (resolved resolver rule x).1 = x.1 := by
  unfold resolved
  split
  · obtain ⟨e, hError⟩ := hFaithful.fails x.1 x.2 hNone
    rcases hLookup : resolver x.1 x.2 with ⟨result, v⟩
    rw [hLookup] at hError
    cases hError
    rfl
  · rfl

theorem unnamed_pass (hFaithful : Faithful resolver) (rule : Rule) (hNone : x.1.hostname = none) :
    (pass resolver x rule).1.hostname = none := by
  unfold pass
  split
  · have hUnnamed := unnamed_relocated rule.target hNone
    rw [resolved_of_unnamed hFaithful rule hUnnamed]
    exact hUnnamed
  · exact hNone

theorem unnamed_after (hFaithful : Faithful resolver) (rules : List Rule)
    (hNone : x.1.hostname = none) : (after resolver x rules).1.hostname = none := by
  induction rules generalizing x with
  | nil => exact hNone
  | cons rule rest ih => exact ih (unnamed_pass hFaithful rule hNone)

/-- **From the first relocation on there is no name to look up**, in the rule that relocates
as little as in those behind it. -/
theorem unnamed_of_relocates (hFaithful : Faithful resolver)
    (hRelocates : Relocates resolver rules x i) (hLe : i ≤ j)
    (hApplies : Applies resolver rules x j rule) :
    (relocated rule.target (after resolver x (rules.take j)).1).hostname = none := by
  induction i generalizing j rules x with
  | zero =>
    cases rules with
    | nil => simpa using hApplies.stands
    | cons front rest =>
      obtain ⟨hHolds, n, a, hTarget, hAddress⟩ := relocates_zero_iff.mp hRelocates
      have hUnnamed : (relocated front.target x.1).hostname = none := by
        rw [relocated_of_some hTarget hAddress]
        rfl
      cases j with
      | zero =>
        obtain ⟨rfl, -⟩ := applies_zero_iff.mp hApplies
        exact hUnnamed
      | succ j =>
        refine unnamed_relocated _ (unnamed_after hFaithful (rest.take j) ?_)
        show (pass resolver x front).1.hostname = none
        rw [pass, if_pos hHolds, resolved_of_unnamed hFaithful front hUnnamed]
        exact hUnnamed
  | succ i ih =>
    obtain ⟨j, rfl⟩ : ∃ k, j = k + 1 := ⟨j - 1, by omega⟩
    cases rules with
    | nil => simpa using hApplies.stands
    | cons front rest =>
      have hUnnamed := ih (relocates_succ_iff.mp hRelocates).2 (by omega : i ≤ j)
        (applies_succ_iff.mp hApplies).2
      exact hUnnamed

/-! ### Sessions -/

/-- What a rule makes of a session and of the world: nothing unless its conditions hold. -/
def advance (resolver : Resolver σ) (rule : Rule) (s : Session) (w : σ) : Session × σ :=
  if rule.holds (.of s.destination) then
    let (t, _, _, v) := apply resolver rule s (.of s.destination) w
    (t, v)
  else (s, w)

theorem advance_spec (resolver : Resolver σ) (rule : Rule) (s : Session) (w : σ) :
    ((advance resolver rule s w).1.destination, (advance resolver rule s w).2) =
      pass resolver (s.destination, w) rule := by
  unfold advance pass
  split
  · obtain ⟨t, log, v, hApply, -, hLeft⟩ := apply_spec resolver rule s w
    rw [hApply]
    exact hLeft
  · rfl

/-- **A search goes on from what its first rule makes of the session**, unless that rule is the
route. -/
theorem session_search_cons (resolver : Resolver σ) (n : Nat) (rule : Rule) (rest : List Rule)
    (s : Session) (w : σ) :
    (search resolver n (rule :: rest) s (.of s.destination) w).session =
      let y := advance resolver rule s w
      if Fires resolver (rule :: rest) (s.destination, w) 0 then y.1
      else (search resolver (n + 1) rest y.1 (.of y.1.destination) y.2).session := by
  by_cases hHolds : rule.holds (.of s.destination) = true
  · obtain ⟨t, log, v, hApply, -, -⟩ := apply_spec resolver rule s w
    have hAdvance : advance resolver rule s w = (t, v) := by rw [advance, if_pos hHolds, hApply]
    rw [hAdvance]
    by_cases hTerminal : rule.isTerminal = true
    · have hFires : Fires resolver (rule :: rest) (s.destination, w) 0 :=
        fires_zero_iff.mpr ⟨hHolds, hTerminal⟩
      rw [search_of_terminal hHolds hTerminal hApply]
      simp only [hFires, if_true]
    · have hNot : ¬ Fires resolver (rule :: rest) (s.destination, w) 0 :=
        fun h => hTerminal (fires_zero_iff.mp h).2
      rw [search_of_not_terminal hHolds hTerminal hApply]
      simp only [hNot, if_false]
  · have hAdvance : advance resolver rule s w = (s, w) := by rw [advance, if_neg hHolds]
    have hNot : ¬ Fires resolver (rule :: rest) (s.destination, w) 0 :=
      fun h => hHolds (fires_zero_iff.mp h).1
    rw [hAdvance, search_of_not_holds hHolds]
    simp only [hNot, if_false]

theorem addressType_advance (resolver : Resolver σ) (rule : Rule) (rest : List Rule) (s : Session)
    (w : σ) :
    (Relocates resolver (rule :: rest) (s.destination, w) 0 →
        (advance resolver rule s w).1.addressType = some .ipv4) ∧
      (¬ Relocates resolver (rule :: rest) (s.destination, w) 0 →
        (advance resolver rule s w).1.addressType = s.addressType) := by
  have hResolve (t : Session) (f : Facts) :
      (resolve resolver rule t f w).1.addressType = t.addressType := by
    unfold resolve
    split
    · rcases resolver t.destination w with ⟨result, v⟩
      cases result <;> rfl
    · rfl
  constructor
  · intro hRelocates
    obtain ⟨hHolds, n, a, hTarget, hAddress⟩ := relocates_zero_iff.mp hRelocates
    rw [advance, if_pos hHolds]
    simp only [apply, hResolve, relocate, hTarget, hAddress]
  · intro hNot
    unfold advance
    split
    · rename_i hHolds
      have hNone : ¬ ∃ n a, rule.target = some n ∧ s.destination.ipv4? = some a :=
        fun h => hNot (relocates_zero_iff.mpr ⟨hHolds, h⟩)
      simp only [apply, hResolve]
      unfold relocate
      split
      · rfl
      · split
        · rfl
        · rename_i n hTarget _ a hAddress
          exact absurd ⟨n, a, hTarget, hAddress⟩ hNone
    · rfl

/-! ### What one rule does -/

/-- A relocation leaves an IPv4 address and no name, whatever is looked up behind it. -/
theorem pass_of_relocates (hFaithful : Faithful resolver)
    (hRelocates : Relocates resolver (rule :: rest) x 0) :
    ∃ a, (pass resolver x rule).1 = x.1.withIpv4 a := by
  obtain ⟨hHolds, n, a, hTarget, hAddress⟩ := relocates_zero_iff.mp hRelocates
  have hMoved := relocated_of_some hTarget hAddress
  refine ⟨⟨n.relocate a.bits⟩, ?_⟩
  rw [pass, if_pos hHolds, resolved_of_unnamed hFaithful, hMoved]
  rw [hMoved]
  rfl

/-- Without a relocation the destination is the one that was looked up, if there is one. -/
theorem pass_of_not_relocates (hNot : ¬ Relocates resolver (rule :: rest) x 0) :
    (LooksUp resolver (rule :: rest) x 0 (pass resolver x rule).1) ∨
      (∀ d, ¬ LooksUp resolver (rule :: rest) x 0 d) ∧ (pass resolver x rule).1 = x.1 := by
  simp only [looksUp_zero_iff]
  by_cases hHolds : rule.holds (.of x.1) = true
  · have hStays : relocated rule.target x.1 = x.1 :=
      relocated_of_not fun h => hNot (relocates_zero_iff.mpr ⟨hHolds, h⟩)
    rw [pass, if_pos hHolds, hStays, resolved]
    by_cases hLookup : rule.resolveDns = true
    · rw [if_pos hLookup]
      rcases hResult : resolver x.1 x.2 with ⟨result, v⟩
      cases result with
      | ok d => exact Or.inl ⟨hHolds, hLookup, rfl⟩
      | error e =>
        refine Or.inr ⟨fun d h => ?_, rfl⟩
        cases h.2.2
    · rw [if_neg hLookup]
      exact Or.inr ⟨fun d h => hLookup h.2.1, rfl⟩
  · rw [pass, if_neg hHolds]
    exact Or.inr ⟨fun d h => hHolds h.1, rfl⟩

theorem hostname_of_looksUp (hFaithful : Faithful resolver)
    (hNot : ¬ Relocates resolver (rule :: rest) x 0)
    (hLookup : LooksUp resolver (rule :: rest) x 0 d) :
    d.hostname = x.1.hostname ∧ x.1.hostname ≠ none := by
  obtain ⟨hHolds, -, hFound⟩ := looksUp_zero_iff.mp hLookup
  rw [relocated_of_not fun h => hNot (relocates_zero_iff.mpr ⟨hHolds, h⟩)] at hFound
  refine ⟨(hFaithful.keeps _ _ _ hFound).1, fun hNone => ?_⟩
  obtain ⟨e, hError⟩ := hFaithful.fails x.1 x.2 hNone
  cases hFound.symm.trans hError

/-! ### Searches that relocate -/

/-- The session goes to an IPv4 address without a name, and that is the type on record. -/
structure Settled (s : Session) : Prop where
  hostname : s.destination.hostname = none
  address : ∃ a, s.destination.address = some (.v4 a)
  addressType : s.addressType = some .ipv4

theorem settled_of_relocates (hFaithful : Faithful resolver)
    (hRelocates : Relocates resolver (rule :: rest) (s.destination, w) 0) :
    Settled (advance resolver rule s w).1 := by
  obtain ⟨a, hPass⟩ := pass_of_relocates hFaithful hRelocates
  rw [← advance_spec] at hPass
  dsimp only at hPass
  exact ⟨by rw [hPass]; rfl, ⟨a, by rw [hPass]; rfl⟩,
    (addressType_advance resolver rule rest s w).1 hRelocates⟩

theorem Settled.advance (hFaithful : Faithful resolver) (hSettled : Settled s) (rule : Rule)
    (w : σ) : Settled (advance resolver rule s w).1 := by
  by_cases hRelocates : Relocates resolver [rule] (s.destination, w) 0
  · exact settled_of_relocates hFaithful hRelocates
  · have hType := (addressType_advance resolver rule [] s w).2 hRelocates
    rcases pass_of_not_relocates hRelocates with hLookup | ⟨-, hPass⟩
    · exact absurd hSettled.hostname (hostname_of_looksUp hFaithful hRelocates hLookup).2
    · rw [← advance_spec] at hPass
      dsimp only at hPass
      exact ⟨by rw [hPass]; exact hSettled.hostname, by rw [hPass]; exact hSettled.address,
        hType.trans hSettled.addressType⟩

/-- **What has been relocated stays so**, whatever rules follow. -/
theorem settled_search (hFaithful : Faithful resolver) (n : Nat) (rules : List Rule) (w : σ)
    (hSettled : Settled s) :
    Settled (search resolver n rules s (.of s.destination) w).session := by
  induction rules generalizing n s w with
  | nil => exact hSettled
  | cons rule rest ih =>
    have hNext := hSettled.advance hFaithful rule w
    rw [session_search_cons]
    dsimp only
    split
    · exact hNext
    · exact ih _ _ hNext

/-- **One relocation settles the session.** -/
theorem search_of_relocates (hFaithful : Faithful resolver) (n : Nat)
    (hRelocates : Relocates resolver rules (s.destination, w) i) :
    Settled (search resolver n rules s (.of s.destination) w).session := by
  induction rules generalizing n s w i with
  | nil =>
    obtain ⟨rule, m, a, hApplies, -, -⟩ := hRelocates
    simpa using hApplies.stands
  | cons rule rest ih =>
    rw [session_search_cons]
    dsimp only
    cases i with
    | zero =>
      have hNext := settled_of_relocates hFaithful hRelocates
      split
      · exact hNext
      · exact settled_search hFaithful _ _ _ hNext
    | succ i =>
      obtain ⟨hNot, hRest⟩ := relocates_succ_iff.mp hRelocates
      rw [← advance_spec] at hRest
      rw [if_neg hNot]
      exact ih _ hRest

/-! ### Searches that do not relocate -/

/-- The last of the lookups that succeed is the one of the rule at that position. -/
structure LooksUpLast (resolver : Resolver σ) (rules : List Rule) (x : Destination × σ) (i : Nat)
    (d : Destination) : Prop where
  looksUp : LooksUp resolver rules x i d
  last : ∀ j d', LooksUp resolver rules x j d' → j ≤ i

/-- The destination that is left where no rule relocates: the one of the last lookup that
succeeds, or the one from before. -/
inductive Left (resolver : Resolver σ) (rules : List Rule) (x : Destination × σ) :
    Destination → Prop
  | found {i : Nat} {d : Destination} (hLast : LooksUpLast resolver rules x i d) :
      Left resolver rules x d
  | kept (hNone : ∀ i d, ¬ LooksUp resolver rules x i d) : Left resolver rules x x.1

/-- Where no lookup behind the first rule succeeds, it is the one of that rule that counts. -/
theorem left_of_none_behind (hNot : ¬ Relocates resolver (rule :: rest) x 0)
    (hNone : ∀ j d, ¬ LooksUp resolver (rule :: rest) x (j + 1) d) :
    Left resolver (rule :: rest) x (pass resolver x rule).1 := by
  rcases pass_of_not_relocates hNot with hLookup | ⟨hNoLookup, hPass⟩
  · refine .found (i := 0) ⟨hLookup, fun j d' h => ?_⟩
    cases j with
    | zero => exact Nat.le_refl 0
    | succ j => exact absurd h (hNone j d')
  · rw [hPass]
    refine .kept fun j d' h => ?_
    cases j with
    | zero => exact hNoLookup d' h
    | succ j => exact hNone j d' h

theorem left_of_fires (hFires : Fires resolver (rule :: rest) x 0)
    (hNot : ¬ Relocates resolver (rule :: rest) x 0) :
    Left resolver (rule :: rest) x (pass resolver x rule).1 :=
  left_of_none_behind hNot fun _ _ h => (looksUp_succ_iff.mp h).1 hFires

/-- What is left behind a rule that is not the route is left by the list that it begins. -/
theorem Left.cons (hFires : ¬ Fires resolver (rule :: rest) x 0)
    (hNot : ¬ Relocates resolver (rule :: rest) x 0)
    (hLeft : Left resolver rest (pass resolver x rule) d) :
    Left resolver (rule :: rest) x d := by
  cases hLeft with
  | found hLast =>
    refine .found ⟨looksUp_succ_iff.mpr ⟨hFires, hLast.looksUp⟩, fun j d' h => ?_⟩
    cases j with
    | zero => exact Nat.zero_le _
    | succ j => exact Nat.succ_le_succ (hLast.last j d' (looksUp_succ_iff.mp h).2)
  | kept hNone =>
    exact left_of_none_behind hNot fun j d' h => hNone j d' (looksUp_succ_iff.mp h).2

/-- **Without a relocation only lookups count**, and of those that succeed the last one. -/
theorem search_of_not_relocates (hFaithful : Faithful resolver) (n : Nat)
    (hNot : ∀ i, ¬ Relocates resolver rules (s.destination, w) i) :
    let t := (search resolver n rules s (.of s.destination) w).session
    t.destination.hostname = s.destination.hostname ∧ t.addressType = s.addressType ∧
      Left resolver rules (s.destination, w) t.destination := by
  induction rules generalizing n s w with
  | nil => exact ⟨rfl, rfl, .kept fun i d ⟨rule, hApplies, _⟩ => by simpa using hApplies.stands⟩
  | cons rule rest ih =>
    have hType := (addressType_advance resolver rule rest s w).2 (hNot 0)
    have hAdvance := advance_spec resolver rule s w
    have hHostname :
        (advance resolver rule s w).1.destination.hostname = s.destination.hostname := by
      rcases pass_of_not_relocates (hNot 0) with hLookup | ⟨-, hPass⟩
      · rw [← hAdvance] at hLookup
        exact (hostname_of_looksUp hFaithful (hNot 0) hLookup).1
      · rw [← hAdvance] at hPass
        exact congrArg Destination.hostname hPass
    rw [session_search_cons]
    dsimp only
    by_cases hFires : Fires resolver (rule :: rest) (s.destination, w) 0
    · have hLeft := left_of_fires hFires (hNot 0)
      rw [← hAdvance] at hLeft
      rw [if_pos hFires]
      exact ⟨hHostname, hType, hLeft⟩
    · have hRest (i : Nat) : ¬ Relocates resolver rest
          ((advance resolver rule s w).1.destination, (advance resolver rule s w).2) i := by
        rw [hAdvance]
        exact fun h => hNot (i + 1) (relocates_succ_iff.mpr ⟨hFires, h⟩)
      obtain ⟨hName, hSame, hLeft⟩ := ih (n + 1) hRest
      rw [hAdvance] at hLeft
      rw [if_neg hFires]
      exact ⟨hName.trans hHostname, hSame.trans hType, hLeft.cons hFires (hNot 0)⟩

/-! ### What a decision changes -/

theorem port_relocate (target : Option Network) (s : Session) (f : Facts) :
    (relocate target s f).1.destination.port = s.destination.port := by
  unfold relocate
  repeat' split
  all_goals rfl

theorem port_resolve (hPort : Dns.KeepsPort resolver) (rule : Rule) (s : Session) (f : Facts)
    (w : σ) : (resolve resolver rule s f w).1.destination.port = s.destination.port := by
  unfold resolve
  split
  · split
    · rename_i d v hResolved
      exact hPort _ _ w (congrArg Prod.fst hResolved)
    · rfl
  · rfl

theorem port_route (hPort : Dns.KeepsPort resolver) (e : Engine) (s : Session) (w : σ) :
    (e.route resolver s w).session.destination.port = s.destination.port := by
  refine Engine.route_keeps (P := fun t => t.destination.port = s.destination.port) ?_
    (fun t route h => h) e w rfl
  intro rule t w h
  exact (port_resolve hPort rule _ _ w).trans ((port_relocate rule.target t _).trans h)

theorem resolve_of_unnamed (hFaithful : Faithful resolver) (rule : Rule) (w : σ)
    (hNone : s.destination.hostname = none) (f : Facts) :
    (resolve resolver rule s f w).1 = s ∧ (resolve resolver rule s f w).2.1 = f := by
  unfold resolve
  split
  · obtain ⟨e, hError⟩ := hFaithful.fails s.destination w hNone
    rcases hLookup : resolver s.destination w with ⟨result, v⟩
    rw [hLookup] at hError
    cases hError
    exact ⟨rfl, rfl⟩
  · exact ⟨rfl, rfl⟩

/-- **What a decision may change.**  For a resolver that keeps name and port, and fails
without a name, a decision changes at most the destination, the type of its address and the
route, and never the port or the destination that was asked for.  If a rule that applies
relocates the destination, it ends as an IPv4 address without a name, the type says so, and
from the first such rule on no lookup changes anything.  If none does, the name and the
type are the ones from before, and the destination is the one of the last lookup that
succeeded, or the one from before if there was none. -/
theorem route_changes (hFaithful : Faithful resolver) (e : Engine) (s : Session) (w : σ) :
    let x := (s.destination, w)
    let t := (e.route resolver s w).session
    t = { s with destination := t.destination, addressType := t.addressType, route := t.route } ∧
      t.destination.port = s.destination.port ∧
      t.destinationRequested = s.destinationRequested ∧
      ((∃ i, Relocates resolver e.rules x i) →
        (t.destination.hostname = none ∧ (∃ a, t.destination.address = some (.v4 a)) ∧
          t.addressType = some .ipv4) ∧
        ∀ i j rule, Relocates resolver e.rules x i → i ≤ j → Applies resolver e.rules x j rule →
          ∀ u f, u.destination = relocated rule.target (after resolver x (e.rules.take j)).1 →
            let left := resolve resolver rule u f (after resolver x (e.rules.take j)).2
            left.1 = u ∧ left.2.1 = f) ∧
      ((¬ ∃ i, Relocates resolver e.rules x i) →
        t.destination.hostname = s.destination.hostname ∧ t.addressType = s.addressType ∧
          ((∃ i d, LooksUpLast resolver e.rules x i d ∧ t.destination = d) ∨
            (∀ i d, ¬ LooksUp resolver e.rules x i d) ∧ t.destination = s.destination)) := by
  intro x t
  have hSession : t = _ := Search.session_decision _ e
  have hSame := sameBut_search resolver 0 e.rules s w
  refine ⟨?_, ?_, ?_, fun ⟨i, hRelocates⟩ => ⟨?_, ?_⟩, fun hNot => ?_⟩
  · rw [hSession, hSame]
  · exact port_route hFaithful.keepsPort e s w
  · rw [hSession, hSame]
  · rw [hSession]
    have hSettled := search_of_relocates hFaithful 0 hRelocates
    exact ⟨hSettled.hostname, hSettled.address, hSettled.addressType⟩
  · intro i j rule hRelocates hLe hApplies u f hAt
    refine resolve_of_unnamed hFaithful rule _ ?_ f
    rw [hAt]
    exact unnamed_of_relocates hFaithful hRelocates hLe hApplies
  · obtain ⟨hName, hType, hLeft⟩ := search_of_not_relocates hFaithful 0 (not_exists.mp hNot)
    rw [hSession]
    refine ⟨hName, hType, ?_⟩
    generalize (search resolver 0 e.rules s (.of s.destination) w).session.destination = d at hLeft
    cases hLeft with
    | found hLast => exact Or.inl ⟨_, _, hLast, rfl⟩
    | kept hNone => exact Or.inr ⟨hNone, rfl⟩

/-- The second rule relocates what the first one has looked up.  Both it and the third one
then look up in vain. -/
theorem route_changes_lookup_relocation :
    let resolver : Resolver Unit := Dns.table [("host", some (.v4 ⟨0x0A000001⟩))]
    let looks : Rule := { resolveDns := true, place := ⟨"rules", 1⟩ }
    let moves : Rule :=
      { network := some ⟨0x0A000000, 0xFF000000⟩, target := some ⟨0xC0A80000, 0xFFFF0000⟩
        resolveDns := true, place := ⟨"rules", 2⟩ }
    let ends : Rule := { resolveDns := true, tunnels := [.null], place := ⟨"rules", 3⟩ }
    let e : Engine := { rules := [looks, moves, ends] }
    let s : Session := { Session.accept 1 ⟨1, { port := 1080, kind := .socks }⟩ {} 0 with
      destination := .named "host" 80 }
    let t := (e.route resolver s ()).session
    Faithful resolver ∧ Relocates resolver e.rules (s.destination, ()) 1 ∧
      t.destination.port = 80 ∧ t.destination.hostname = none ∧ t.addressType = some .ipv4 := by
  intro resolver looks moves ends e s t
  have hFaithful : Faithful resolver := Dns.faithful_table _
  have hRelocates : Relocates resolver e.rules (s.destination, ()) 1 :=
    ⟨moves, _, ⟨0x0A000001⟩, ⟨rfl, by decide, by decide⟩, rfl, by decide⟩
  obtain ⟨-, hPort, -, hMoved, -⟩ := route_changes hFaithful e s ()
  obtain ⟨⟨hHostname, -, hType⟩, -⟩ := hMoved ⟨1, hRelocates⟩
  exact ⟨hFaithful, hRelocates, hPort, hHostname, hType⟩

end Routing

end SocksGateway
