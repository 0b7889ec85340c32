import SocksGateway.Routing

/-!
# The first rule that matches

`Routing.search` walks down the rules with a session and with facts taken from its
destination.  This file says what it finds in terms of destinations alone.

* `pass`, `after`: what one rule and what a list of rules make of a destination.
* `Fires`, `First`: the rule at a position meets its destination and has tunnels;
  none in front of it does.
* `search_cases`: the search finds the first such rule, or there is none.
* `route_first_match`: what that means for decisions, for rules one after the
  other, and for the counters.
-/

namespace SocksGateway

namespace Routing

variable {σ : Type} {resolver : Resolver σ}

/-! ### What rules make of a destination -/

/-- The destination relocated into the network, if it has an IPv4 address. -/
def relocated (target : Option Network) (d : Destination) : Destination :=
  match target, d.ipv4? with
  | some n, some a => d.withIpv4 ⟨n.relocate a.bits⟩
  | _, _ => d

/-- The destination looked up, if the rule says so and the lookup succeeds. -/
def resolved (resolver : Resolver σ) (rule : Rule) (x : Destination × σ) : Destination × σ :=
  if rule.resolveDns then
    match resolver x.1 x.2 with
    | (.ok d, w) => (d, w)
    | (.error _, w) => (x.1, w)
  else x

/-- What a rule makes of a destination and of the world: nothing unless its
conditions hold. -/
def pass (resolver : Resolver σ) (x : Destination × σ) (rule : Rule) : Destination × σ :=
  if rule.holds (.of x.1) then resolved resolver rule (relocated rule.target x.1, x.2) else x

/-- What rules make of a destination and of the world, one after the other. -/
def after (resolver : Resolver σ) (x : Destination × σ) (rules : List Rule) : Destination × σ :=
  rules.foldl (pass resolver) x

/-- The conditions of the rule at that position hold for what the rules in front of
it have made of the destination, and it has tunnels. -/
def Fires (resolver : Resolver σ) (rules : List Rule) (x : Destination × σ) (k : Nat) : Prop :=
  ∃ rule, rules[k]? = some rule ∧ rule.holds (.of (after resolver x (rules.take k)).1) = true ∧
    rule.isTerminal = true

/-- The rule at that position fires, and none in front of it does. -/
structure First (resolver : Resolver σ) (rules : List Rule) (x : Destination × σ) (k : Nat) :
    Prop where
  fires : Fires resolver rules x k
  least : ∀ j < k, ¬ Fires resolver rules x j

variable {rule : Rule} {rules rest : List Rule} {x : Destination × σ} {k : Nat}

instance : Decidable (Fires resolver rules x k) :=
  decidable_of_iff
    (rules[k]?.any fun rule =>
      rule.holds (.of (after resolver x (rules.take k)).1) && rule.isTerminal) <| by
    simp [Fires, Option.any_eq_true]

instance : Decidable (First resolver rules x k) :=
  decidable_of_iff (Fires resolver rules x k ∧ ∀ j < k, ¬ Fires resolver rules x j)
    ⟨fun h => ⟨h.1, h.2⟩, fun h => ⟨h.fires, h.least⟩⟩

theorem fires_zero_iff : Fires resolver (rule :: rest) x 0 ↔
    rule.holds (.of x.1) = true ∧ rule.isTerminal = true := by
  simp [Fires, after]

theorem fires_succ_iff : Fires resolver (rule :: rest) x (k + 1) ↔
    Fires resolver rest (pass resolver x rule) k := by
  simp [Fires, after]

theorem first_zero_iff : First resolver (rule :: rest) x 0 ↔
    Fires resolver (rule :: rest) x 0 :=
  ⟨fun h => h.fires, fun h => ⟨h, fun j hj => absurd hj (Nat.not_lt_zero j)⟩⟩

theorem first_succ_iff (hNot : ¬ Fires resolver (rule :: rest) x 0) :
    First resolver (rule :: rest) x (k + 1) ↔ First resolver rest (pass resolver x rule) k := by
  constructor
  · rintro ⟨hFires, hLeast⟩
    exact ⟨fires_succ_iff.mp hFires,
      fun j hj h => hLeast (j + 1) (Nat.succ_lt_succ hj) (fires_succ_iff.mpr h)⟩
  · rintro ⟨hFires, hLeast⟩
    refine ⟨fires_succ_iff.mpr hFires, fun j hj => ?_⟩
    cases j with
    | zero => exact hNot
    | succ j => exact fun h => hLeast j (Nat.lt_of_succ_lt_succ hj) (fires_succ_iff.mp h)

theorem First.unique {j : Nat} (hj : First resolver rules x j) (hk : First resolver rules x k) :
    j = k := by
  rcases Nat.lt_trichotomy j k with hLt | rfl | hGt
  · exact absurd hj.fires (hk.least j hLt)
  · rfl
  · exact absurd hk.fires (hj.least k hGt)

/-! ### The facts at hand -/

/-- The second session differs from the first one at most in its destination and in
the type of its address. -/
def SameBut (s t : Session) : Prop :=
  t = { s with destination := t.destination, addressType := t.addressType }

theorem SameBut.trans {s t u : Session} (hst : SameBut s t) (htu : SameBut t u) : SameBut s u := by
  rw [SameBut, htu, hst]

theorem relocate_spec (target : Option Network) (s : Session) :
    ∃ t log, relocate target s (.of s.destination) = (t, .of t.destination, log) ∧
      SameBut s t ∧ t.destination = relocated target s.destination := by
  unfold relocate relocated
  cases target with
  | none => exact ⟨_, _, rfl, rfl, rfl⟩
  | some n =>
    cases s.destination.ipv4? with
    | none => exact ⟨_, _, rfl, rfl, rfl⟩
    | some a => exact ⟨_, _, rfl, rfl, rfl⟩

theorem resolve_spec (resolver : Resolver σ) (rule : Rule) (s : Session) (w : σ) :
    ∃ t log v, resolve resolver rule s (.of s.destination) w = (t, .of t.destination, log, v) ∧
      SameBut s t ∧ (t.destination, v) = resolved resolver rule (s.destination, w) := by
  unfold resolve resolved
  cases rule.resolveDns with
  | false => exact ⟨_, _, _, rfl, rfl, rfl⟩
  | true =>
    rcases resolver s.destination w with ⟨result, v⟩
    cases result with
    | ok d => exact ⟨_, _, _, rfl, rfl, rfl⟩
    | error e => exact ⟨_, _, _, rfl, rfl, rfl⟩

/-- **The facts at hand stay those of the destination**, and the destination and the
world become what the rule makes of them. -/
theorem apply_spec (resolver : Resolver σ) (rule : Rule) (s : Session) (w : σ) :
    ∃ t log v, apply resolver rule s (.of s.destination) w = (t, .of t.destination, log, v) ∧
      SameBut s t ∧
      (t.destination, v) = resolved resolver rule (relocated rule.target s.destination, w) := by
  obtain ⟨t, relocateLog, hRelocate, hst, hDestination⟩ := relocate_spec rule.target s
  obtain ⟨u, resolveLog, v, hResolve, htu, hLeft⟩ := resolve_spec resolver rule t w
  refine ⟨u, .applies rule :: (relocateLog ++ resolveLog), v, ?_, hst.trans htu, ?_⟩
  · simp only [apply, hRelocate, hResolve]
  · rw [hLeft, hDestination]

/-! ### What the search finds -/

theorem search_of_not_holds {f : Facts} (hHolds : ¬ rule.holds f = true) (i : Nat)
    (rest : List Rule) (s : Session) (w : σ) :
    search resolver i (rule :: rest) s f w = search resolver (i + 1) rest s f w := by
  rw [search, if_neg hHolds]

theorem search_of_terminal {s t : Session} {f g : Facts} {w v : σ} {log : List Event}
    (hHolds : rule.holds f = true) (hTerminal : rule.isTerminal = true)
    (hApply : apply resolver rule s f w = (t, g, log, v)) (i : Nat) (rest : List Rule) :
    search resolver i (rule :: rest) s f w = ⟨t, some (i, rule), log, v⟩ := by
  rw [search, if_pos hHolds, hApply]
  exact if_pos hTerminal

theorem search_of_not_terminal {s t : Session} {f g : Facts} {w v : σ} {log : List Event}
    (hHolds : rule.holds f = true) (hTerminal : ¬ rule.isTerminal = true)
    (hApply : apply resolver rule s f w = (t, g, log, v)) (i : Nat) (rest : List Rule) :
    search resolver i (rule :: rest) s f w =
      { search resolver (i + 1) rest t g v with
        log := log ++ (search resolver (i + 1) rest t g v).log } := by
  rw [search, if_pos hHolds, hApply]
  exact if_neg hTerminal

/-- What there is to find among rules, the first of them at position `i`: the first
rule that fires, leaving what the rules up to it make of the destination, or none,
leaving what all of them make of it. -/
inductive Finds (resolver : Resolver σ) (i : Nat) (rules : List Rule) (x : Destination × σ) :
    Option (Nat × Rule) → Destination × σ → Prop
  | hit {k : Nat} {rule : Rule} (hFirst : First resolver rules x k)
      (hRule : rules[k]? = some rule) :
      Finds resolver i rules x (some (i + k, rule)) (after resolver x (rules.take (k + 1)))
  | miss (hNone : ∀ k, ¬ Fires resolver rules x k) :
      Finds resolver i rules x none (after resolver x rules)

theorem Finds.head (i : Nat) (hFires : Fires resolver (rule :: rest) x 0) :
    Finds resolver i (rule :: rest) x (some (i, rule)) (pass resolver x rule) :=
  Finds.hit (k := 0) (first_zero_iff.mpr hFires) rfl

theorem Finds.cons {i : Nat} {found : Option (Nat × Rule)} {left : Destination × σ}
    (hNot : ¬ Fires resolver (rule :: rest) x 0)
    (hFinds : Finds resolver (i + 1) rest (pass resolver x rule) found left) :
    Finds resolver i (rule :: rest) x found left := by
  cases hFinds with
  | @hit k found hFirst hRule =>
    rw [Nat.add_assoc, Nat.add_comm 1 k]
    exact .hit ((first_succ_iff hNot).mpr hFirst) hRule
  | miss hNone =>
    refine .miss fun k => ?_
    cases k with
    | zero => exact hNot
    | succ k => exact fun h => hNone k (fires_succ_iff.mp h)

/-- **The search finds what there is to find.** -/
theorem finds_search (resolver : Resolver σ) (i : Nat) (rules : List Rule) (s : Session) (w : σ) :
    Finds resolver i rules (s.destination, w)
      (search resolver i rules s (.of s.destination) w).found
      ((search resolver i rules s (.of s.destination) w).session.destination,
        (search resolver i rules s (.of s.destination) w).world) := by
  induction rules generalizing i s w with
  | nil => exact .miss fun k h => by simp [Fires] at h
  | cons rule rest ih =>
    by_cases hHolds : rule.holds (.of s.destination) = true
    · obtain ⟨t, log, v, hApply, -, hLeft⟩ := apply_spec resolver rule s w
      have hPass : pass resolver (s.destination, w) rule = (t.destination, v) := by
        rw [pass, if_pos hHolds, hLeft]
      by_cases hTerminal : rule.isTerminal = true
      · rw [search_of_terminal hHolds hTerminal hApply]
        dsimp only
        rw [← hPass]
        exact .head i (fires_zero_iff.mpr ⟨hHolds, hTerminal⟩)
      · rw [search_of_not_terminal hHolds hTerminal hApply]
        refine .cons (fun h => hTerminal (fires_zero_iff.mp h).2) ?_
        rw [hPass]
        exact ih _ _ _
    · rw [search_of_not_holds hHolds]
      refine .cons (fun h => hHolds (fires_zero_iff.mp h).1) ?_
      rw [pass, if_neg hHolds]
      exact ih _ _ _

/-- **What each rule that is applied keeps, the search keeps.** -/
theorem search_keeps {P : Session → Prop}
    (hApply : ∀ rule s w, P s → P (apply resolver rule s (.of s.destination) w).1) (i : Nat)
    (rules : List Rule) {s : Session} (w : σ) (h : P s) :
    P (search resolver i rules s (.of s.destination) w).session := by
  induction rules generalizing i s w with
  | nil => exact h
  | cons rule rest ih =>
    by_cases hHolds : rule.holds (.of s.destination) = true
    · have hNext := hApply rule s w h
      obtain ⟨t, log, v, hLeaves, -, -⟩ := apply_spec resolver rule s w
      rw [hLeaves] at hNext
      by_cases hTerminal : rule.isTerminal = true
      · rw [search_of_terminal hHolds hTerminal hLeaves]
        exact hNext
      · rw [search_of_not_terminal hHolds hTerminal hLeaves]
        exact ih _ _ hNext
    · rw [search_of_not_holds hHolds]
      exact ih _ _ h

theorem sameBut_search (resolver : Resolver σ) (i : Nat) (rules : List Rule) (s : Session) (w : σ) :
    SameBut s (search resolver i rules s (.of s.destination) w).session := by
  refine search_keeps (P := SameBut s) ?_ i rules w rfl
  intro rule t w hSame
  obtain ⟨u, log, v, hLeaves, hNext, -⟩ := apply_spec resolver rule t w
  rw [hLeaves]
  exact hSame.trans hNext

/-! ### Rules behind rules -/

theorem search_append_of_found (i : Nat) (front back : List Rule) (s : Session) (f : Facts) (w : σ)
    (hFound : (search resolver i front s f w).found ≠ none) :
    search resolver i (front ++ back) s f w = search resolver i front s f w := by
  induction front generalizing i s f w with
  | nil => exact absurd rfl hFound
  | cons rule rest ih =>
    rw [List.cons_append]
    by_cases hHolds : rule.holds f = true
    · rcases hApply : apply resolver rule s f w with ⟨t, g, log, v⟩
      by_cases hTerminal : rule.isTerminal = true
      · rw [search_of_terminal hHolds hTerminal hApply, search_of_terminal hHolds hTerminal hApply]
      · rw [search_of_not_terminal hHolds hTerminal hApply] at hFound
        rw [search_of_not_terminal hHolds hTerminal hApply,
          search_of_not_terminal hHolds hTerminal hApply, ih _ _ _ _ hFound]
    · rw [search_of_not_holds hHolds] at hFound
      rw [search_of_not_holds hHolds, search_of_not_holds hHolds, ih _ _ _ _ hFound]

/-- Rules behind others, none of which is found, are searched from what those have
left. -/
theorem search_append_of_none (i : Nat) (front back : List Rule) (s : Session) (w : σ)
    (hFound : (search resolver i front s (.of s.destination) w).found = none) :
    search resolver i (front ++ back) s (.of s.destination) w =
      let a := search resolver i front s (.of s.destination) w
      let b := search resolver (i + front.length) back a.session (.of a.session.destination) a.world
      { b with log := a.log ++ b.log } := by
  induction front generalizing i s w with
  | nil => rfl
  | cons rule rest ih =>
    have hNext : i + (rule :: rest).length = i + 1 + rest.length := by
      rw [List.length_cons]
      omega
    rw [List.cons_append, hNext]
    by_cases hHolds : rule.holds (.of s.destination) = true
    · obtain ⟨t, log, v, hApply, -, -⟩ := apply_spec resolver rule s w
      by_cases hTerminal : rule.isTerminal = true
      · rw [search_of_terminal hHolds hTerminal hApply] at hFound
        cases hFound
      · rw [search_of_not_terminal hHolds hTerminal hApply] at hFound
        rw [search_of_not_terminal hHolds hTerminal hApply,
          search_of_not_terminal hHolds hTerminal hApply, ih _ _ _ hFound]
        simp only [List.append_assoc]
    · rw [search_of_not_holds hHolds] at hFound
      rw [search_of_not_holds hHolds, search_of_not_holds hHolds, ih _ _ _ hFound]

/-- Where the first rule stands only shifts what is found. -/
theorem search_shift (resolver : Resolver σ) (n i : Nat) (rules : List Rule) (s : Session)
    (f : Facts) (w : σ) :
    search resolver (n + i) rules s f w =
      let r := search resolver i rules s f w
      { r with found := r.found.map fun x => (n + x.1, x.2) } := by
  induction rules generalizing i s f w with
  | nil => rfl
  | cons rule rest ih =>
    by_cases hHolds : rule.holds f = true
    · rcases hApply : apply resolver rule s f w with ⟨t, g, log, v⟩
      by_cases hTerminal : rule.isTerminal = true
      · rw [search_of_terminal hHolds hTerminal hApply, search_of_terminal hHolds hTerminal hApply]
        rfl
      · rw [search_of_not_terminal hHolds hTerminal hApply,
          search_of_not_terminal hHolds hTerminal hApply, Nat.add_assoc, ih]
    · rw [search_of_not_holds hHolds, search_of_not_holds hHolds, Nat.add_assoc, ih]

/-- The route on record plays no part when a rule is applied. -/
theorem apply_withRoute (resolver : Resolver σ) (route : Option Rule) (rule : Rule) (s : Session)
    (f : Facts) (w : σ) :
    apply resolver rule { s with route } f w =
      ({ (apply resolver rule s f w).1 with route }, (apply resolver rule s f w).2) := by
  have hRelocate : relocate rule.target { s with route } f =
      ({ (relocate rule.target s f).1 with route }, (relocate rule.target s f).2) := by
    unfold relocate
    cases rule.target with
    | none => rfl
    | some n => cases s.destination.ipv4? <;> rfl
  have hResolve (t : Session) (g : Facts) : resolve resolver rule { t with route } g w =
      ({ (resolve resolver rule t g w).1 with route }, (resolve resolver rule t g w).2) := by
    unfold resolve
    cases rule.resolveDns with
    | false => rfl
    | true =>
      simp only [if_true]
      rcases resolver t.destination w with ⟨result, v⟩
      cases result <;> rfl
  simp only [apply, hRelocate, hResolve]

theorem search_withRoute (resolver : Resolver σ) (route : Option Rule) (i : Nat)
    (rules : List Rule) (s : Session) (f : Facts) (w : σ) :
    search resolver i rules { s with route } f w =
      let r := search resolver i rules s f w
      { r with session := { r.session with route } } := by
  induction rules generalizing i s f w with
  | nil => rfl
  | cons rule rest ih =>
    by_cases hHolds : rule.holds f = true
    · rcases hApply : apply resolver rule s f w with ⟨t, g, log, v⟩
      have hApply' := apply_withRoute resolver route rule s f w
      rw [hApply] at hApply'
      by_cases hTerminal : rule.isTerminal = true
      · rw [search_of_terminal hHolds hTerminal hApply, search_of_terminal hHolds hTerminal hApply']
      · rw [search_of_not_terminal hHolds hTerminal hApply,
          search_of_not_terminal hHolds hTerminal hApply', ih]
    · rw [search_of_not_holds hHolds, search_of_not_holds hHolds, ih]

/-! ### Decisions -/

/-- What a decision makes of what was found. -/
def Search.decision (r : Search σ) (e : Engine) : Decision σ :=
  match r.found with
  | some (k, rule) =>
    ⟨rule, true, { r.session with route := some rule }, e.countHit k, r.log, r.world⟩
  | none => ⟨.fallback, false, { r.session with route := some .fallback }, e, r.log, r.world⟩

variable {r : Search σ} {e : Engine}

theorem Search.decision_of_found (hFound : r.found = some (k, rule)) :
    r.decision e =
      ⟨rule, true, { r.session with route := some rule }, e.countHit k, r.log, r.world⟩ := by
  rw [decision, hFound]

theorem Search.decision_of_none (hFound : r.found = none) :
    r.decision e =
      ⟨.fallback, false, { r.session with route := some .fallback }, e, r.log, r.world⟩ := by
  rw [decision, hFound]

theorem Search.explicit_decision (r : Search σ) (e : Engine) :
    (r.decision e).explicit = r.found.isSome := by
  cases hFound : r.found with
  | none => rw [decision_of_none hFound]; rfl
  | some found => rw [decision_of_found hFound]; rfl

theorem Search.session_decision (r : Search σ) (e : Engine) :
    (r.decision e).session = { r.session with route := some (r.decision e).route } := by
  cases hFound : r.found with
  | none => rw [decision_of_none hFound]
  | some found => rw [decision_of_found hFound]

namespace Engine

variable {s : Session} {w : σ}

theorem route_eq (resolver : Resolver σ) (e : Engine) (s : Session) (w : σ) :
    e.route resolver s w = (search resolver 0 e.rules s (.of s.destination) w).decision e := rfl

/-- **A decision is for the first rule that fires**, or none fires and it is the
fallback. -/
theorem route_cases (resolver : Resolver σ) (e : Engine) (s : Session) (w : σ) :
    (∃ k, First resolver e.rules (s.destination, w) k ∧
      (e.route resolver s w).explicit = true ∧
      e.rules[k]? = some (e.route resolver s w).route ∧
      (e.route resolver s w).engine = e.countHit k ∧
      ((e.route resolver s w).session.destination, (e.route resolver s w).world) =
        after resolver (s.destination, w) (e.rules.take (k + 1))) ∨
    ((∀ k, ¬ Fires resolver e.rules (s.destination, w) k) ∧
      (e.route resolver s w).explicit = false ∧
      (e.route resolver s w).route = .fallback ∧
      (e.route resolver s w).engine = e ∧
      ((e.route resolver s w).session.destination, (e.route resolver s w).world) =
        after resolver (s.destination, w) e.rules) := by
  have hFinds := finds_search resolver 0 e.rules s w
  rw [route_eq]
  generalize search resolver 0 e.rules s (.of s.destination) w = r at hFinds
  generalize hLeft : (r.session.destination, r.world) = left at hFinds
  generalize hFound : r.found = found at hFinds
  cases hFinds with
  | @hit k rule hFirst hRule =>
    rw [Nat.zero_add] at hFound
    rw [Search.decision_of_found hFound]
    exact Or.inl ⟨k, hFirst, rfl, hRule, rfl, hLeft⟩
  | miss hNone =>
    rw [Search.decision_of_none hFound]
    exact Or.inr ⟨hNone, rfl, rfl, rfl, hLeft⟩

/-- **A decision keeps what each rule that is applied keeps**, if it is not about the
route. -/
theorem route_keeps {P : Session → Prop}
    (hApply : ∀ rule s w, P s → P (apply resolver rule s (.of s.destination) w).1)
    (hRoute : ∀ s route, P s → P { s with route }) (e : Engine) (w : σ) (h : P s) :
    P (e.route resolver s w).session := by
  rw [route_eq, Search.session_decision]
  exact hRoute _ _ (search_keeps hApply 0 e.rules w h)

/-- **A decision leaves a route with tunnels**, whatever the rules are. -/
theorem tunnels_route (e : Engine) (resolver : Resolver σ) (s : Session) (w : σ) :
    (e.route resolver s w).session.route = some (e.route resolver s w).route ∧
      (e.route resolver s w).route.tunnels ≠ [] := by
  constructor
  · rw [route_eq, Search.session_decision]
  · rcases route_cases resolver e s w with ⟨k, hFirst, -, hRule, -, -⟩ | ⟨-, -, hRoute, -, -⟩
    · obtain ⟨rule, hAt, -, hTerminal⟩ := hFirst.fires
      rw [hRule] at hAt
      cases hAt
      simpa [Rule.isTerminal] using hTerminal
    · rw [hRoute]
      simp [Rule.fallback, Rule.via]

theorem countHit_inj {j : Nat} (h : e.countHit j = e.countHit k) : j = k := by
  have hHits := congrFun (congrArg Engine.hits h) j
  by_cases hjk : j = k
  · exact hjk
  · simp [countHit, hjk] at hHits

/-! ### Decisions over rules behind rules -/

/-- The engine of rules that stand behind `n` others of `e`. -/
def behind (e : Engine) (n : Nat) (rules : List Rule) : Engine := ⟨rules, fun j => e.hits (n + j)⟩

/-- The engine with its counters from position `n` on taken from `back`. -/
def update (e : Engine) (n : Nat) (back : Engine) : Engine :=
  { e with hits := fun j => if j < n then e.hits j else back.hits (j - n) }

theorem update_behind (e : Engine) (n : Nat) (rules : List Rule) :
    e.update n (e.behind n rules) = e := by
  have hHits (j : Nat) : (if j < n then e.hits j else e.hits (n + (j - n))) = e.hits j := by
    split
    · rfl
    · rw [Nat.add_sub_of_le (by omega)]
  simp only [update, behind, hHits]

theorem update_behind_countHit (e : Engine) (n k : Nat) (rules : List Rule) :
    e.update n ((e.behind n rules).countHit k) = e.countHit (n + k) := by
  have hHits (j : Nat) :
      (if j < n then e.hits j else if j - n = k then e.hits (n + k) + 1 else e.hits (n + (j - n))) =
        if j = n + k then e.hits (n + k) + 1 else e.hits j := by
    by_cases hLt : j < n
    · rw [if_pos hLt, if_neg (by omega)]
    · rw [if_neg hLt, Nat.add_sub_of_le (by omega)]
      by_cases hAt : j = n + k
      · rw [if_pos (by omega), if_pos hAt]
      · rw [if_neg (by omega), if_neg hAt]
  simp only [update, behind, countHit, hHits]

variable {front back : List Rule}

/-- **A decision of the rules in front stands**, whatever is behind them. -/
theorem route_append_of_explicit (hRules : e.rules = front ++ back)
    (hExplicit : (({ e with rules := front } : Engine).route resolver s w).explicit = true) :
    e.route resolver s w =
      let a := ({ e with rules := front } : Engine).route resolver s w
      { a with engine := { e with hits := a.engine.hits } } := by
  rw [route_eq, Search.explicit_decision] at hExplicit
  obtain ⟨⟨k, rule⟩, hFound⟩ := Option.isSome_iff_exists.mp hExplicit
  have hAll := search_append_of_found 0 front back s (.of s.destination) w
    (Option.isSome_iff_ne_none.mp hExplicit)
  obtain ⟨rules, hits⟩ := e
  obtain rfl : rules = front ++ back := hRules
  rw [route_eq, route_eq, hAll, Search.decision_of_found hFound, Search.decision_of_found hFound]
  rfl

theorem decision_shift (r : Search σ) (e : Engine) (n : Nat) (rules : List Rule)
    (log : List Event) :
    ({ r with found := r.found.map fun x => (n + x.1, x.2), log := log ++ r.log } :
        Search σ).decision e =
      let b := r.decision (e.behind n rules)
      { b with engine := e.update n b.engine, log := log ++ b.log } := by
  cases hFound : r.found with
  | none =>
    rw [Search.decision_of_none rfl, Search.decision_of_none hFound]
    simp only [update_behind]
  | some found =>
    rw [Search.decision_of_found rfl, Search.decision_of_found hFound]
    simp only [update_behind_countHit]

/-- The route on record plays no part in a decision. -/
theorem route_withRoute (route : Option Rule) (e : Engine) (s : Session) (w : σ) :
    e.route resolver { s with route } w = e.route resolver s w := by
  rw [route_eq, route_eq]
  refine (congrArg (·.decision e) (search_withRoute resolver route 0 e.rules s _ w)).trans ?_
  generalize search resolver 0 e.rules s (.of s.destination) w = r
  cases hFound : r.found with
  | none => simp only [Search.decision, hFound]
  | some found => simp only [Search.decision, hFound]

/-- **Where the rules in front do not decide, the ones behind them do**, from the
destination and the world that those have left. -/
theorem route_append_of_not_explicit (hRules : e.rules = front ++ back)
    (hExplicit : (({ e with rules := front } : Engine).route resolver s w).explicit = false) :
    e.route resolver s w =
      let a := ({ e with rules := front } : Engine).route resolver s w
      let b := (e.behind front.length back).route resolver a.session a.world
      { b with engine := e.update front.length b.engine, log := a.log ++ b.log } := by
  rw [route_eq, Search.explicit_decision] at hExplicit
  have hFound : (search resolver 0 front s (.of s.destination) w).found = none := by
    simpa using hExplicit
  have hAll := search_append_of_none 0 front back s w hFound
  obtain ⟨rules, hits⟩ := e
  obtain rfl : rules = front ++ back := hRules
  dsimp only at hAll
  rw [Nat.add_comm 0, search_shift] at hAll
  rw [route_eq, hAll]
  refine (decision_shift _ _ _ back _).trans ?_
  rw [route_eq, Search.decision_of_none hFound]
  simp only [route_withRoute]
  rfl

/-! ### Many decisions -/

/-- The engine after decisions for these sessions, one after the other, each in the
world of its time. -/
def routeAll (resolver : Resolver σ) (e : Engine) (calls : List (Session × σ)) : Engine :=
  calls.foldl (fun e call => (e.route resolver call.1 call.2).engine) e

/-- All counters taken together. -/
def total (e : Engine) : Nat := e.hitCounts.foldl (· + ·) 0

theorem foldl_add_hit (hits : Nat → Nat) (k n : Nat) :
    ((List.range n).map fun j => if j = k then hits k + 1 else hits j).foldl (· + ·) 0 =
      ((List.range n).map hits).foldl (· + ·) 0 + if k < n then 1 else 0 := by
  induction n with
  | zero => rfl
  | succ n ih =>
    rw [List.range_succ, List.map_append, List.map_append, List.foldl_append, List.foldl_append, ih]
    simp only [List.map_cons, List.map_nil, List.foldl_cons, List.foldl_nil]
    by_cases hn : n = k
    · subst hn
      rw [if_pos rfl, if_neg (Nat.lt_irrefl n), if_pos (Nat.lt_succ_self n)]
      omega
    · rw [if_neg hn]
      split <;> split <;> omega

theorem total_countHit (hk : k < e.rules.length) : (e.countHit k).total = e.total + 1 := by
  have hSum := foldl_add_hit e.hits k e.rules.length
  rw [if_pos hk] at hSum
  exact hSum

theorem rules_route (resolver : Resolver σ) (e : Engine) (s : Session) (w : σ) :
    (e.route resolver s w).engine.rules = e.rules := by
  rcases route_cases resolver e s w with ⟨k, -, -, -, hEngine, -⟩ | ⟨-, -, -, hEngine, -⟩
  · rw [hEngine]
    rfl
  · rw [hEngine]

/-- **A decision counts for the first rule that fires, and for no other.** -/
theorem hits_route (resolver : Resolver σ) (e : Engine) (s : Session) (w : σ) (k : Nat) :
    (e.route resolver s w).engine.hits k =
      e.hits k + if First resolver e.rules (s.destination, w) k then 1 else 0 := by
  rcases route_cases resolver e s w with ⟨j, hFirst, -, -, hEngine, -⟩ | ⟨hNone, -, -, hEngine, -⟩
  · rw [hEngine, countHit]
    by_cases hj : k = j
    · subst hj
      rw [if_pos hFirst]
      exact if_pos rfl
    · rw [if_neg fun h => hj (h.unique hFirst)]
      exact if_neg hj
  · rw [hEngine, if_neg fun h => hNone k h.fires]
    rfl

theorem total_route (resolver : Resolver σ) (e : Engine) (s : Session) (w : σ) :
    (e.route resolver s w).engine.total =
      e.total + if (e.route resolver s w).explicit then 1 else 0 := by
  rcases route_cases resolver e s w with
    ⟨k, -, hExplicit, hRule, hEngine, -⟩ | ⟨-, hExplicit, -, hEngine, -⟩
  · obtain ⟨hk, -⟩ := List.getElem?_eq_some_iff.mp hRule
    rw [hEngine, hExplicit, total_countHit hk]
    rfl
  · rw [hEngine, hExplicit]
    rfl

theorem explicit_congr {e' : Engine} (hRules : e'.rules = e.rules) (s : Session) (w : σ) :
    (e'.route resolver s w).explicit = (e.route resolver s w).explicit := by
  rw [route_eq, route_eq, Search.explicit_decision, Search.explicit_decision, hRules]

/-- **Over many decisions each counter grows by the decisions for its rule, and all
of them by the decisions that were for a rule.** -/
theorem routeAll_counts (resolver : Resolver σ) (e : Engine) (calls : List (Session × σ)) :
    (∀ k, (e.routeAll resolver calls).hits k = e.hits k +
        calls.countP fun call => First resolver e.rules (call.1.destination, call.2) k) ∧
      (e.routeAll resolver calls).total = e.total +
        calls.countP fun call => (e.route resolver call.1 call.2).explicit := by
  induction calls generalizing e with
  | nil => exact ⟨fun k => rfl, rfl⟩
  | cons call calls ih =>
    obtain ⟨hHits, hTotal⟩ := ih (e.route resolver call.1 call.2).engine
    have hRules := rules_route resolver e call.1 call.2
    constructor
    · intro k
      rw [List.countP_cons]
      refine (hHits k).trans ?_
      rw [hits_route, hRules]
      simp only [decide_eq_true_eq]
      omega
    · rw [List.countP_cons]
      refine hTotal.trans ?_
      rw [total_route]
      simp only [explicit_congr hRules]
      omega

/-! ### What a decision is -/

/-- **The first rule that matches decides.**  A decision is for the rule at position
`k`, and counts for that rule alone, exactly when `k` is the first position whose
rule has tunnels and meets what the rules in front of it have made of the
destination.  The session then has the destination that the rules up to `k` make,
and the world has seen their lookups and no others.  Where there is no such
position the session goes direct, with the destination that all rules make, and no
counter grows.  Apart from its destination, the type of its address and its route
the session is as it was.  A decision over rules behind rules is the one of those in
front if that is for a rule, and else the one of those behind them, from what those
in front have left; and over many decisions the counters grow by as many as were for
a rule. -/
theorem route_first_match (resolver : Resolver σ) (e : Engine) (s : Session) (w : σ) :
    let x := (s.destination, w)
    let d := e.route resolver s w
    (∀ k, First resolver e.rules x k ↔
        d.explicit = true ∧ e.rules[k]? = some d.route ∧ d.engine = e.countHit k) ∧
      (∀ k, First resolver e.rules x k →
        (d.session.destination, d.world) = after resolver x (e.rules.take (k + 1))) ∧
      ((∀ k, ¬ First resolver e.rules x k) →
        d.explicit = false ∧ d.route = .fallback ∧ d.engine = e ∧
          (d.session.destination, d.world) = after resolver x e.rules) ∧
      (d.session.route = some d.route ∧ SameBut { s with route := some d.route } d.session) ∧
      (∀ front back, e.rules = front ++ back →
        let a := ({ e with rules := front } : Engine).route resolver s w
        let b := (e.behind front.length back).route resolver a.session a.world
        (a.explicit = true → d = { a with engine := { e with hits := a.engine.hits } }) ∧
          (a.explicit = false →
            d = { b with engine := e.update front.length b.engine, log := a.log ++ b.log })) ∧
      ∀ calls : List (Session × σ),
        (∀ k, (e.routeAll resolver calls).hits k = e.hits k +
            calls.countP fun call => First resolver e.rules (call.1.destination, call.2) k) ∧
          (e.routeAll resolver calls).total = e.total +
            calls.countP fun call => (e.route resolver call.1 call.2).explicit := by
  intro x d
  have hCases := route_cases resolver e s w
  refine ⟨fun k => ⟨fun hFirst => ?_, ?_⟩, fun k hFirst => ?_, fun hNone => ?_, ?_,
    fun front back hRules => ?_, routeAll_counts resolver e⟩
  · rcases hCases with ⟨j, hFirst', hExplicit, hRule, hEngine, -⟩ | ⟨hNone, -⟩
    · obtain rfl := hFirst.unique hFirst'
      exact ⟨hExplicit, hRule, hEngine⟩
    · exact absurd hFirst.fires (hNone k)
  · rintro ⟨hExplicit, -, hEngine⟩
    rcases hCases with ⟨j, hFirst, -, -, hEngine', -⟩ | ⟨-, hNot, -⟩
    · obtain rfl := countHit_inj (hEngine.symm.trans hEngine')
      exact hFirst
    · rw [show d.explicit = false from hNot] at hExplicit
      cases hExplicit
  · rcases hCases with ⟨j, hFirst', -, -, -, hLeft⟩ | ⟨hNone, -⟩
    · obtain rfl := hFirst.unique hFirst'
      exact hLeft
    · exact absurd hFirst.fires (hNone k)
  · rcases hCases with ⟨j, hFirst, -⟩ | ⟨-, hRest⟩
    · exact absurd hFirst (hNone j)
    · exact hRest
  · have hSame := sameBut_search resolver 0 e.rules s w
    have hSession : d.session = _ := Search.session_decision _ e
    refine ⟨by rw [hSession]; rfl, ?_⟩
    rw [SameBut, hSession, hSame]
    rfl
  · exact ⟨route_append_of_explicit hRules, route_append_of_not_explicit hRules⟩

-- A relocation by a rule without tunnels is what brings the next rule into play.
example :
    let moves : Rule :=
      { network := some ⟨0x0A000000, 0xFF000000⟩, target := some ⟨0xC0A80000, 0xFFFF0000⟩
        place := ⟨"rules", 1⟩ }
    let ends : Rule :=
      { network := some ⟨0xC0A80000, 0xFFFF0000⟩, tunnels := [.null], place := ⟨"rules", 2⟩ }
    let d : Destination := .ofIpv4 ⟨0x0A000001⟩ 80
    let resolver : Resolver Unit := fun d w => (.ok d, w)
    First resolver [moves, ends] (d, ()) 1 ∧ ¬ Fires resolver [ends] (d, ()) 0 := by
  decide

end Engine

end Routing

end SocksGateway
