import SocksGateway.Dns.Resolver
import SocksGateway.Proofs.Connector.Attempts

/-!
# A session around its attempts

Each attempt of a connection begins with its tunnel on record and is settled when it has
ended: a failure takes the tunnel off the record.  What an attempt may leave behind is one
thing only, the address that a direct attempt has found for a name.

* `Chain`: attempts with the sessions around them, each from what the one before has left.
* `forall_rounds`: what every round keeps; `Watched`: what is seen of the session on the way.
* `Finds`: the attempt has looked the name up, and the session keeps the address;
  `Chain.ended_cases`: an attempt leaves the session as it is, or finds an address.
* `Chain.destination_of_known`: an address that is known stays, and is not looked up again.
* `Chain.left_of_last`: what the last attempt leaves is the end.
* `Chain.destination_begun`, `Chain.sameBut_begun`: what an attempt begins with.
* `foldl_note_events`: what the report does to the connection counts.
* `connect_episodes`: the attempts of a connection.
* `connect_session`: what a connection makes of a session.
-/

namespace SocksGateway

namespace Connector

variable {σ : Type} {env : Surroundings σ} {tunnels : List Tunnel} {tries : List Try}
  {s : Session} {w : σ} {x y : Session × σ} {a b : IpAddress}

/-! ### Attempts with the sessions around them -/

variable {e : Episode σ} {es : List (Episode σ)}

/-- **Attempts one after the other**, each from what the one before has left. -/
inductive Chain (env : Surroundings σ) : Session × σ → List (Episode σ) → Session × σ → Prop
  | nil {x : Session × σ} : Chain env x [] x
  | cons {e : Episode σ} {es : List (Episode σ)} {y : Session × σ}
      (hAttempt : attempt env e.begun.1 e.tunnel e.begun.2 = (e.result, e.ended))
      (hRest : Chain env e.left es y) : Chain env e.before (e :: es) y

theorem toTry_episodes (env : Surroundings σ) (tries : List Try) (x : Session × σ) :
    (episodes env tries x).map Episode.toTry = tries := by
  induction tries generalizing x with
  | nil => rfl
  | cons t tries ih => rw [episodes, List.map_cons, ih]

theorem Tried.chain (h : Tried env tunnels x tries y) : Chain env x (episodes env tries x) y := by
  induction h with
  | none => exact .nil
  | @next s s' w w' i t result tries y hTurn hAttempt hRest ih =>
    let e : Episode σ := ⟨⟨i, t, result⟩, (s, w), (s', w')⟩
    rw [episodes, hAttempt]
    exact .cons (e := e) hAttempt ih

theorem Tried.tunnel_mem (h : Tried env tunnels x tries y) :
    ∀ t ∈ tries, t.tunnel ∈ tunnels := by
  induction h with
  | none => exact fun t ht => nomatch ht
  | next hTurn hAttempt hRest ih =>
    exact List.forall_mem_cons.mpr ⟨List.mem_of_getElem? hTurn, ih⟩

theorem Chain.keeps {P : Session → Prop}
    (hKeeps : ∀ e : Episode σ, attempt env e.begun.1 e.tunnel e.begun.2 = (e.result, e.ended) →
      P e.before.1 → P e.left.1)
    (h : Chain env x es y) (hStart : P x.1) : (∀ e ∈ es, P e.before.1) ∧ P y.1 := by
  induction h with
  | nil => exact ⟨fun e he => (nomatch he), hStart⟩
  | cons hAttempt hRest ih =>
    obtain ⟨hAll, hEnd⟩ := ih (hKeeps _ hAttempt hStart)
    exact ⟨List.forall_mem_cons.mpr ⟨hStart, hAll⟩, hEnd⟩

theorem Chain.attempt_of_mem (h : Chain env x es y) (he : e ∈ es) :
    attempt env e.begun.1 e.tunnel e.begun.2 = (e.result, e.ended) := by
  induction h with
  | nil => cases he
  | cons hAttempt hRest ih =>
    rcases List.mem_cons.mp he with rfl | he
    · exact hAttempt
    · exact ih he

theorem Chain.eq_of_nil (h : Chain env x [] y) : y = x := by
  cases h
  rfl

theorem Chain.left_of_last (h : Chain env x es y) (hLast : es.getLast? = some e) : y = e.left := by
  induction h with
  | nil => cases hLast
  | @cons e' es y hAttempt hRest ih =>
    cases es with
    | nil =>
      cases hLast
      exact hRest.eq_of_nil
    | cons e'' es => exact ih (by rwa [List.getLast?_cons_cons] at hLast)

/-! ### The record of the tunnel -/

theorem tunnel_ended (hAttempt : attempt env e.begun.1 e.tunnel e.begun.2 = (e.result, e.ended)) :
    e.ended.1.tunnel = some e.tunnel := by
  obtain ⟨d, hSession⟩ := session_attempt env e.begun.1 e.tunnel e.begun.2
  rw [hAttempt] at hSession
  exact congrArg Session.tunnel hSession

/-! ### What is seen on the way -/

/-- The tunnel that is on record in the phase. -/
def Phase.tunnel? : Phase → Option Tunnel
  | .trying _ t => some t
  | .between _ | .pausing => none

/-- The phases in which the session is seen around an event.  An attempt is seen as it begins
and as it ends. -/
def phases : ConnectEvent → List Phase
  | .connecting n t => [.trying n t, .trying n t]
  | .failed n _ _ => [.between n]
  | .slept => [.pausing]
  | .connected _ | .opened _ | .closed _ => []

theorem phases_sights (e : Episode σ) : e.sights.map Sight.phase = e.events.flatMap phases := by
  unfold Episode.sights Try.events
  cases e.result with
  | error err => rfl
  | ok c => cases e.tunnel <;> rfl

theorem phases_restSights (p : Progress σ) (left : Nat) :
    (p.restSights left).map Sight.phase = (p.rest left).flatMap phases := by
  unfold Progress.restSights Progress.rest
  split <;> rfl

theorem tunnel_sights (hAttempt : attempt env e.begun.1 e.tunnel e.begun.2 = (e.result, e.ended)) :
    ∀ x ∈ e.sights, x.session.tunnel = x.phase.tunnel? := by
  have hBegun : e.begun.1.tunnel = some e.tunnel := rfl
  have hEnded := tunnel_ended hAttempt
  unfold Episode.sights Episode.left
  cases e.result <;> simp [Phase.tunnel?, hBegun, hEnded, settled]

theorem forall_restSights {Q : Sight → Prop} {p : Progress σ} (h : Q ⟨.pausing, p.session⟩)
    (left : Nat) : ∀ x ∈ p.restSights left, Q x := by
  unfold Progress.restSights
  split
  · exact fun x hx => nomatch hx
  · exact List.forall_mem_singleton.mpr h

theorem forall_rounds {I : Progress σ → Prop}
    (hRound : ∀ {left i p out}, RoundEnds env tunnels left i p out → I p → I out.1)
    (left i : Nat) {p : Progress σ} (hSlots : p.exhausted.length = tunnels.length) (hStart : I p) :
    I (rounds env tunnels left i p).1 := by
  induction left generalizing i p with
  | zero => exact hStart
  | succ left ih =>
    rw [rounds_succ]
    by_cases hOut : p.isExhausted = true
    · rw [if_pos hOut]
      exact hStart
    rw [if_neg hOut]
    have hEnds := round_ends env left i hSlots
    have hNext := hRound hEnds hStart
    generalize round env tunnels left i p = out at hEnds hNext
    cases hEnds with
    | skipped => exact ih (i + 1) hSlots hStart
    | connected => exact hNext
    | failed _ _ _ _ hExhausted =>
      refine ih (i + 1) ?_ hNext
      rw [hExhausted]
      split <;> simp [hSlots]

/-- **The session is seen in the phases that are reported**, and has their tunnels on
record. -/
structure Watched (p : Progress σ) : Prop where
  phases : p.sights.toList.map Sight.phase = p.trace.toList.flatMap phases
  tunnels : ∀ x ∈ p.sights.toList, x.session.tunnel = x.phase.tunnel?

theorem Watched.round {left i : Nat} {p : Progress σ} {out : Progress σ × Option Connected}
    (hEnds : RoundEnds env tunnels left i p out) (h : Watched p) : Watched out.1 := by
  cases hEnds with
  | skipped => exact h
  | connected _ _ hAttempt _ _ hTrace hSights =>
    constructor
    · rw [hSights, hTrace, List.map_append, List.flatMap_append, h.phases, phases_sights]
    · rw [hSights]
      exact List.forall_mem_append.mpr ⟨h.tunnels, tunnel_sights hAttempt⟩
  | @failed t e s w q _ _ hAttempt hLeft _ _ hTrace _ hSights =>
    have hSession : q.session.tunnel = none := by
      rw [(Prod.mk.inj hLeft).1]
      rfl
    constructor
    · rw [hSights, hTrace, List.map_append, List.map_append, List.flatMap_append,
        List.flatMap_append, h.phases, phases_sights, phases_restSights]
    · rw [hSights]
      exact List.forall_mem_append.mpr
        ⟨List.forall_mem_append.mpr ⟨h.tunnels, tunnel_sights hAttempt⟩,
          forall_restSights hSession left⟩

/-- **What attempts keep of a session is kept in all that is seen of it.** -/
structure Seen (P : Session → Prop) (p : Progress σ) : Prop where
  session : P p.session
  sights : ∀ x ∈ p.sights.toList, P x.session

theorem Seen.round {P : Session → Prop} (hTrying : ∀ s t, P s → P (trying s t))
    (hAttempt : ∀ s t w, P s → P (attempt env s t w).2.1)
    (hSettled : ∀ s result, P s → P (settled s result)) {left i : Nat} {p : Progress σ}
    {out : Progress σ × Option Connected} (hEnds : RoundEnds env tunnels left i p out)
    (h : Seen P p) : Seen P out.1 := by
  have hEpisode {e : Episode σ} (hBefore : e.before = (p.session, p.world))
      (hMade : attempt env e.begun.1 e.tunnel e.begun.2 = (e.result, e.ended)) :
      P e.left.1 ∧ ∀ x ∈ e.sights, P x.session := by
    have hBegun : P e.begun.1 := hTrying _ _ (by rw [hBefore]; exact h.session)
    have hEnded := hAttempt e.begun.1 e.tunnel e.begun.2 hBegun
    rw [hMade] at hEnded
    have hLeft : P e.left.1 := hSettled _ e.result hEnded
    refine ⟨hLeft, ?_⟩
    unfold Episode.sights
    cases e.result <;> simp [hBegun, hEnded, hLeft]
  cases hEnds with
  | skipped => exact h
  | connected _ _ hMade hLeft _ _ hSights =>
    obtain ⟨hSession, hSeen⟩ := hEpisode (e := ⟨⟨i, _, _⟩, _, _⟩) rfl hMade
    rw [Episode.left, ← hLeft] at hSession
    refine ⟨hSession, ?_⟩
    rw [hSights]
    exact List.forall_mem_append.mpr ⟨h.sights, hSeen⟩
  | @failed t e s w q _ _ hMade hLeft _ _ _ _ hSights =>
    obtain ⟨hSession, hSeen⟩ := hEpisode (e := ⟨⟨i, _, _⟩, _, _⟩) rfl hMade
    rw [Episode.left, ← hLeft] at hSession
    refine ⟨hSession, ?_⟩
    rw [hSights]
    exact List.forall_mem_append.mpr
      ⟨List.forall_mem_append.mpr ⟨h.sights, hSeen⟩, forall_restSights hSession left⟩

/-! ### The address that is found -/

/-- Reaching for an address, with no name to look up. -/
def reach (env : Surroundings σ) (a : IpAddress) (port : UInt16) (w : σ) :
    Except ConnectionError Connected × σ :=
  match a with
  | .v6 _ => (.error .addressTypeNotSupported, w)
  | .v4 a =>
    match env.openStream ⟨.v4 a, port⟩ w with
    | (.error e, w) => (.error e, w)
    | (.ok p, w) => (.ok ⟨some p, p.near⟩, w)

theorem connectDirect_of_known (hKnown : s.destination.address = some a) :
    connectDirect env s w =
      ((reach env a s.destination.port w).1, s, (reach env a s.destination.port w).2) := by
  have hAddress : directAddress env s w = (.ok a, s, w) := by rw [directAddress, hKnown]
  rw [connectDirect, hAddress]
  cases a with
  | v6 a => rfl
  | v4 a =>
    simp only [reach]
    rcases env.openStream ⟨.v4 a, s.destination.port⟩ w with ⟨opened, w'⟩
    cases opened <;> rfl

/-- The attempt is direct and has looked up the name of a destination without an address, and
the session keeps the address that was found. -/
structure Finds (env : Surroundings σ) (e : Episode σ) (a : IpAddress) : Prop where
  direct : e.tunnel = .direct
  unknown : e.begun.1.destination.address = none
  named : e.begun.1.destination.hostname ≠ none
  found : ∃ d, (env.resolve e.begun.1.destination e.begun.2).1 = .ok d ∧ d.address = some a
  ended : e.ended.1 =
    { e.begun.1 with destination := e.begun.1.destination.withAddress a }

theorem Finds.ended_ne (h : Finds env e a) : e.ended.1 ≠ e.begun.1 := by
  intro hSame
  have hAddress : some a = e.begun.1.destination.address := by
    rw [← hSame, h.ended]
    rfl
  rw [h.unknown] at hAddress
  cases hAddress

theorem Finds.unique (ha : Finds env e a) (hb : Finds env e b) : a = b := by
  have hAddress := congrArg (fun t => t.destination.address) (ha.ended.symm.trans hb.ended)
  exact Option.some_inj.mp hAddress

theorem directAddress_cases (env : Surroundings σ) (s : Session) (w : σ) :
    (directAddress env s w).2.1 = s ∨
      ∃ a d, s.destination.address = none ∧ s.destination.hostname ≠ none ∧
        (env.resolve s.destination w).1 = .ok d ∧ d.address = some a ∧
        (directAddress env s w).2.1 = { s with destination := s.destination.withAddress a } := by
  unfold directAddress
  split
  · exact Or.inl rfl
  · exact Or.inl rfl
  rename_i name hUnknown hNamed
  split
  · exact Or.inl rfl
  rcases hResolved : env.resolve s.destination w with ⟨resolved, w'⟩
  cases resolved with
  | error e => exact Or.inl rfl
  | ok d =>
    cases hAddress : d.address with
    | none =>
      left
      simp only [hAddress]
    | some a =>
      refine Or.inr ⟨a, d, hUnknown, by simp [hNamed], rfl, hAddress, ?_⟩
      simp only [hAddress]

/-- **An attempt leaves its session as it is, or finds an address.** -/
theorem ended_cases (hAttempt : attempt env e.begun.1 e.tunnel e.begun.2 = (e.result, e.ended)) :
    e.ended.1 = e.begun.1 ∨ ∃ a, Finds env e a := by
  have hEnded : (attempt env e.begun.1 e.tunnel e.begun.2).2.1 = e.ended.1 := by rw [hAttempt]
  cases hTunnel : e.tunnel with
  | null =>
    rw [hTunnel] at hEnded
    exact Or.inl hEnded.symm
  | chained c =>
    rw [hTunnel] at hEnded
    exact Or.inl hEnded.symm
  | direct =>
    rw [hTunnel, attempt, session_connectDirect] at hEnded
    rcases directAddress_cases env e.begun.1 e.begun.2 with
      hSame | ⟨a, d, hUnknown, hNamed, hResolved, hAddress, hFilled⟩
    · exact Or.inl (hEnded.symm.trans hSame)
    · exact Or.inr ⟨a, hTunnel, hUnknown, hNamed, ⟨d, hResolved, hAddress⟩,
        hEnded.symm.trans hFilled⟩

theorem destination_left (e : Episode σ) : e.left.1.destination = e.ended.1.destination := by
  unfold Episode.left settled
  cases e.result <;> rfl

/-- **An address that is known stays**, and no attempt changes the session. -/
theorem Chain.destination_of_known (h : Chain env x es y)
    (hKnown : x.1.destination.address ≠ none) :
    (∀ e ∈ es, e.begun.1.destination = x.1.destination ∧ e.ended.1 = e.begun.1) ∧
      y.1.destination = x.1.destination := by
  induction h with
  | nil => exact ⟨fun e he => (nomatch he), rfl⟩
  | @cons e es y hAttempt hRest ih =>
    have hSame : e.ended.1 = e.begun.1 := by
      rcases ended_cases hAttempt with hSame | ⟨a, hFinds⟩
      · exact hSame
      · exact absurd hFinds.unknown hKnown
    have hLeft : e.left.1.destination = e.before.1.destination := by
      rw [destination_left, hSame]
      rfl
    rw [hLeft] at ih
    obtain ⟨hAll, hEnd⟩ := ih hKnown
    exact ⟨List.forall_mem_cons.mpr ⟨⟨rfl, hSame⟩, hAll⟩, hEnd⟩

/-- **At most one attempt finds an address.**  It starts from the destination of the
beginning, all later ones from that with the address filled in, and so does the end. -/
theorem Chain.destinations (h : Chain env x es y) :
    (∀ e ∈ es, ∀ a, Finds env e a → e.begun.1.destination = x.1.destination ∧
        y.1.destination = x.1.destination.withAddress a) ∧
      (es.Pairwise fun e e' => ∀ a, Finds env e a →
        e'.begun.1.destination = x.1.destination.withAddress a ∧ e'.ended.1 = e'.begun.1) ∧
      ((∀ e ∈ es, ∀ a, ¬ Finds env e a) → y.1.destination = x.1.destination) := by
  induction h with
  | nil => exact ⟨fun e he => (nomatch he), .nil, fun _ => rfl⟩
  | @cons e es y hAttempt hRest ih =>
    have hLeft := destination_left e
    rcases ended_cases hAttempt with hSame | ⟨a, hFinds⟩
    · have hNot (a : IpAddress) : ¬ Finds env e a := fun h => h.ended_ne hSame
      rw [hSame] at hLeft
      rw [hLeft] at ih
      obtain ⟨hFound, hLater, hNone⟩ := ih
      exact ⟨List.forall_mem_cons.mpr ⟨fun a h => absurd h (hNot a), hFound⟩,
        .cons (fun e' _ a h => absurd h (hNot a)) hLater,
        fun h => hNone (List.forall_mem_cons.mp h).2⟩
    · rw [hFinds.ended] at hLeft
      have hKnown : e.left.1.destination.address ≠ none := by
        rw [hLeft]
        exact Option.some_ne_none a
      obtain ⟨hAll, hEnd⟩ := hRest.destination_of_known hKnown
      rw [hLeft] at hAll hEnd
      refine ⟨List.forall_mem_cons.mpr ⟨fun b hb => ?_, fun e' he' b hb => ?_⟩,
        .cons (fun e' he' b hb => ?_) ?_, fun hNone => ?_⟩
      · obtain rfl := hFinds.unique hb
        exact ⟨rfl, hEnd⟩
      · exact absurd (hAll e' he').2 hb.ended_ne
      · obtain rfl := hFinds.unique hb
        exact hAll e' he'
      · refine (List.pairwise_of_forall_mem_list fun e' he' e'' he'' b hb => ?_)
        exact absurd (hAll e' he').2 hb.ended_ne
      · exact absurd hFinds ((List.forall_mem_cons.mp hNone).1 a)

/-- The destination of an attempt is the one of the session, but for an address that an
earlier one has found. -/
theorem Chain.destination_begun (h : Chain env x es y) (he : e ∈ es) :
    e.begun.1.destination = x.1.destination ∨
      ∃ a, e.begun.1.destination = x.1.destination.withAddress a := by
  refine (h.keeps (P := fun s => s.destination = x.1.destination ∨
    ∃ a, s.destination = x.1.destination.withAddress a) ?_ (Or.inl rfl)).1 e he
  intro e hAttempt hBefore
  rw [destination_left]
  rcases ended_cases hAttempt with hSame | ⟨a, hFinds⟩
  · rw [hSame]
    exact hBefore
  · refine Or.inr ⟨a, ?_⟩
    rw [hFinds.ended]
    show e.before.1.destination.withAddress a = _
    rcases hBefore with hBefore | ⟨b, hBefore⟩
    · rw [hBefore]
    · rw [hBefore]
      rfl

theorem Chain.sameBut_begun (h : Chain env x es y) (he : e ∈ es) : SameBut x.1 e.begun.1 := by
  have hBefore : SameBut x.1 e.before.1 := by
    refine (h.keeps (P := SameBut x.1) ?_ rfl).1 e he
    intro e hAttempt hBefore
    obtain ⟨d, hSession⟩ := session_attempt env e.begun.1 e.tunnel e.begun.2
    rw [hAttempt] at hSession
    have hEnded : SameBut e.before.1 e.ended.1 := by
      rw [show e.ended.1 = { e.begun.1 with destination := d } from hSession]
      rfl
    exact (hBefore.trans hEnded).trans (sameBut_settled e.ended.1 e.result)
  have hBegun : SameBut e.before.1 e.begun.1 := rfl
  exact hBefore.trans hBegun

/-! ### The connection counts -/

variable {t : Try} {activity : TunnelActivity}

theorem foldl_note_filter (trace : List ConnectEvent) (activity : TunnelActivity) :
    (trace.filter (· ≠ .slept)).foldl TunnelActivity.note activity =
      trace.foldl TunnelActivity.note activity := by
  induction trace generalizing activity with
  | nil => rfl
  | cons event trace ih =>
    by_cases hSlept : event = .slept
    · subst hSlept
      exact ih activity
    · rw [List.filter_cons_of_pos (by simpa using hSlept), List.foldl_cons, List.foldl_cons, ih]

theorem foldl_note_of_error {err : ConnectionError} (hError : t.result = .error err) :
    t.events.foldl TunnelActivity.note activity = activity := by
  rw [Try.events, hError]
  rfl

theorem foldl_note_of_errors (hFailed : ∀ t ∈ tries, ∃ err, t.result = .error err) :
    (tries.flatMap Try.events).foldl TunnelActivity.note activity = activity := by
  induction tries with
  | nil => rfl
  | cons t tries ih =>
    obtain ⟨⟨err, hError⟩, hRest⟩ := List.forall_mem_cons.mp hFailed
    rw [List.flatMap_cons, List.foldl_append, foldl_note_of_error hError, ih hRest]

/-- **Only the last try counts**, where all others have failed. -/
theorem foldl_note_events (hFailed : ∀ t ∈ tries.dropLast, ∃ err, t.result = .error err)
    (hLast : tries.getLast? = some t) :
    (tries.flatMap Try.events).foldl TunnelActivity.note activity =
      t.events.foldl TunnelActivity.note activity := by
  obtain ⟨front, rfl⟩ := List.getLast?_eq_some_iff.mp hLast
  rw [List.dropLast_concat] at hFailed
  rw [List.flatMap_append, List.foldl_append, foldl_note_of_errors hFailed,
    List.flatMap_singleton]

theorem connections_of_ok {c : Connected} (hOk : t.result = .ok c) (id : Nat) :
    ((∃ relay, t.tunnel = .chained relay ∧ relay.id = id) →
        (t.events.foldl TunnelActivity.note activity).connections id =
          activity.connections id + 1) ∧
      ((¬ ∃ relay, t.tunnel = .chained relay ∧ relay.id = id) →
        (t.events.foldl TunnelActivity.note activity).connections id =
          activity.connections id) := by
  rw [Try.events, hOk]
  cases hTunnel : t.tunnel with
  | null =>
    refine ⟨?_, fun _ => rfl⟩
    rintro ⟨relay, hRelay, -⟩
    cases hRelay
  | direct =>
    refine ⟨?_, fun _ => rfl⟩
    rintro ⟨relay, hRelay, -⟩
    cases hRelay
  | chained relay =>
    have hOpened := activity.connections_connectionOpened relay.id id
    constructor
    · rintro ⟨_, ⟨⟩, hId⟩
      refine hOpened.trans ?_
      simp [hId]
    · intro hNot
      refine hOpened.trans ?_
      have hOther : relay.id ≠ id := fun h => hNot ⟨relay, rfl, h⟩
      simp [hOther]

/-! ### What a connection makes of a session -/

/-- The second session has the destination of the first one, but for an address that may have
been found for its name. -/
def SameGoal (s t : Session) : Prop :=
  t.destination = s.destination ∨
    s.destination.address = none ∧ s.destination.hostname ≠ none ∧
      ∃ a, t.destination = s.destination.withAddress a

theorem sameGoal_attempt {t : Session} (h : SameGoal s t) (env : Surroundings σ)
    (tunnel : Tunnel) (w : σ) : SameGoal s (attempt env t tunnel w).2.1 := by
  cases tunnel with
  | null => exact h
  | chained c => exact h
  | direct =>
    rw [attempt, session_connectDirect]
    rcases directAddress_cases env t w with
      hSame | ⟨a, -, hUnknown, hNamed, -, -, hFilled⟩
    · rw [hSame]
      exact h
    · rw [hFilled]
      rcases h with hDestination | ⟨-, -, b, hDestination⟩
      · rw [hDestination] at hUnknown hNamed
        exact Or.inr ⟨hUnknown, hNamed, a, by rw [hDestination]⟩
      · rw [hDestination] at hUnknown
        exact absurd hUnknown (Option.some_ne_none b)

/-- **What is seen of a session while it is connected**: it is seen in the phases that are
reported, with the tunnel on record that is being tried and with none between attempts, and it
changes in nothing but what tells of its outbound connection and an address that is found. -/
theorem connect_sights (env : Surroundings σ) (policy : RetryPolicy) (s : Session) (w : σ) :
    let o := connect env policy s w
    o.sights.map Sight.phase = o.trace.flatMap phases ∧
      (∀ x ∈ o.sights, x.session.tunnel = x.phase.tunnel?) ∧
      ∀ x ∈ o.sights, SameBut s x.session ∧ SameGoal s x.session := by
  unfold connect
  cases s.route with
  | none => exact ⟨rfl, fun x hx => (nomatch hx), fun x hx => nomatch hx⟩
  | some r =>
    dsimp only
    split
    · exact ⟨rfl, fun x hx => (nomatch hx), fun x hx => nomatch hx⟩
    let start : Progress σ :=
      { session := s, world := w, exhausted := List.replicate r.tunnels.length false }
    let last := (rounds env r.tunnels (policy.limit r.tunnels.length) 0 start).1
    have hSlots : start.exhausted.length = r.tunnels.length := List.length_replicate
    have hWatched : Watched last :=
      forall_rounds Watched.round _ 0 hSlots ⟨rfl, fun x hx => nomatch hx⟩
    have hSeen : Seen (fun t => SameBut s t ∧ SameGoal s t) last := by
      refine forall_rounds (Seen.round ?_ ?_ ?_) _ 0 hSlots
        ⟨⟨rfl, Or.inl rfl⟩, fun x hx => nomatch hx⟩
      · exact fun t tunnel h => ⟨h.1.trans rfl, h.2⟩
      · intro t tunnel u h
        obtain ⟨d, hSession⟩ := session_attempt env t tunnel u
        refine ⟨h.1.trans ?_, sameGoal_attempt h.2 env tunnel u⟩
        rw [hSession]
        rfl
      · intro t result h
        refine ⟨h.1.trans (sameBut_settled t result), ?_⟩
        cases result <;> exact h.2
    exact ⟨hWatched.phases, hWatched.tunnels, hSeen.sights⟩

/-- **A connection makes attempts one after the other**, on tunnels of the route.  All but the
last have failed, and what the last one comes to is what the connection comes to. -/
theorem connect_episodes (env : Surroundings σ) (policy : RetryPolicy) (s : Session) (w : σ)
    {r : Rule} (hRoute : s.route = some r) (hTunnels : r.tunnels ≠ []) :
    let o := connect env policy s w
    ∃ (es : List (Episode σ)) (e : Episode σ), Chain env (s, w) es (o.session, o.world) ∧
      es.getLast? = some e ∧ e.result = o.result ∧ o.attempts = es.map (fun e => e.entry) ∧
      o.trace.filter (· ≠ .slept) = (es.map Episode.toTry).flatMap Try.events ∧
      (∀ e ∈ es.dropLast, ∃ err, e.result = .error err) ∧ (∀ e ∈ es, e.tunnel ∈ r.tunnels) ∧
      o.sights.filter (·.phase ≠ .pausing) = es.flatMap Episode.sights := by
  intro o
  obtain ⟨tries, hSome, hTried, hScheduled, hLog, hReport, hResult, -, hSights⟩ :=
    connectVia_report env policy s w hTunnels
  rw [← connect_of_route hRoute hTunnels] at hTried hLog hReport hResult hSights
  have hMem := hTried.tunnel_mem
  have hChain := hTried.chain
  have hTries := toTry_episodes env tries (s, w)
  generalize episodes env tries (s, w) = es at hChain hSights hTries
  subst hTries
  obtain ⟨e, hLast⟩ : ∃ e, es.getLast? = some e :=
    Option.isSome_iff_exists.mp (by simpa using hSome)
  refine ⟨es, e, hChain, hLast, ?_, ?_, hReport, fun e he => ?_,
    fun e he => hMem e.toTry (List.mem_map_of_mem he), hSights⟩
  · rw [List.getLast?_map, hLast] at hResult
    exact Option.some_inj.mp hResult
  · rw [hLog, List.map_map]
    rfl
  · refine error_of_mem_dropLast hScheduled.leaves (t := e.toTry) ?_
    rw [← List.map_dropLast]
    exact List.mem_map_of_mem he

/-- **The session around its connection.**  A session with a route makes attempts one after the
other, and is seen in all phases that are reported: whenever it is seen while an attempt is
made, the tunnel of the attempt is on record, and whenever it is seen between attempts there is
none.  If all fail there is none in the end, and no connection count has changed.  If one
succeeds its tunnel stays on record, the outbound side is open unless it is the null tunnel,
and if it is a chained one its count has grown by one, and no other.  But for the tunnel, the
status and whether the outbound side is open, the session changes in the address of its
destination only, at the end and whenever it is seen: at most one attempt, a direct one, looks
the name up and leaves the address that it has found, and all later ones have that address.  A
later direct attempt reaches for it without a lookup. -/
theorem connect_session (env : Surroundings σ) (policy : RetryPolicy) (s : Session) (w : σ)
    {r : Rule} (hRoute : s.route = some r) (hTunnels : r.tunnels ≠ []) :
    let o := connect env policy s w
    o.sights.map Sight.phase = o.trace.flatMap phases ∧
    (∀ x ∈ o.sights, ∀ n t, x.phase = .trying n t → x.session.tunnel = some t) ∧
    (∀ x ∈ o.sights, (∀ n t, x.phase ≠ .trying n t) → x.session.tunnel = none) ∧
    (∀ x ∈ o.sights, SameBut s x.session ∧ SameGoal s x.session) ∧
    ∃ es : List (Episode σ),
      Chain env (s, w) es (o.session, o.world) ∧
        o.attempts = es.map (fun e => e.entry) ∧
        o.sights.filter (·.phase ≠ .pausing) = es.flatMap Episode.sights ∧
        (∀ e ∈ es.dropLast, ∃ err, e.result = .error err) ∧
        es.getLast?.map (fun e => e.result) = some o.result ∧
        (∀ err, o.result = .error err →
          o.session.tunnel = none ∧
            ∀ activity, o.trace.foldl TunnelActivity.note activity = activity) ∧
        (∀ c, o.result = .ok c → ∃ e, es.getLast? = some e ∧
          o.session.tunnel = some e.tunnel ∧
            (o.session.outboundOpen = true ↔ e.tunnel ≠ .null) ∧
            ∀ activity id,
              let counted := (o.trace.foldl TunnelActivity.note activity).connections id
              ((∃ relay, e.tunnel = .chained relay ∧ relay.id = id) →
                  counted = activity.connections id + 1) ∧
                ((¬ ∃ relay, e.tunnel = .chained relay ∧ relay.id = id) →
                  counted = activity.connections id)) ∧
        SameBut s o.session ∧
        (∀ e ∈ es, e.ended.1 = e.begun.1 ∨ ∃ a, Finds env e a) ∧
        (∀ e ∈ es, ∀ a, Finds env e a → e.begun.1.destination = s.destination ∧
          o.session.destination = s.destination.withAddress a) ∧
        (es.Pairwise fun e e' => ∀ a, Finds env e a →
          e'.begun.1.destination = s.destination.withAddress a ∧ e'.ended.1 = e'.begun.1 ∧
            (e'.tunnel = .direct → ∀ resolve : Resolver σ,
              let reached := reach env a s.destination.port e'.begun.2
              attempt { env with resolve } e'.begun.1 .direct e'.begun.2 =
                (reached.1, e'.begun.1, reached.2))) ∧
        ((∀ e ∈ es, ∀ a, ¬ Finds env e a) → o.session.destination = s.destination) := by
  intro o
  obtain ⟨hPhases, hTunnel, hKept⟩ := connect_sights env policy s w
  obtain ⟨es, e, hChain, hLast, hOutcome, hLog, hReport, hFailed, -, hSights⟩ :=
    connect_episodes env policy s w hRoute hTunnels
  obtain ⟨hFound, hLater, hNone⟩ := hChain.destinations
  have hEnd : o.session = settled e.ended.1 e.result :=
    congrArg Prod.fst (hChain.left_of_last hLast)
  have hAttempt := hChain.attempt_of_mem (List.mem_of_getLast? hLast)
  have hCounts (activity : TunnelActivity) : o.trace.foldl TunnelActivity.note activity =
      e.events.foldl TunnelActivity.note activity := by
    rw [← foldl_note_filter, hReport]
    refine foldl_note_events (t := e.toTry) ?_ (by rw [List.getLast?_map, hLast]; rfl)
    rw [← List.map_dropLast]
    exact List.forall_mem_map.mpr hFailed
  refine ⟨hPhases, fun x hx n t hTrying => ?_, fun x hx hNot => ?_, hKept, es, hChain, hLog,
    hSights, hFailed, ?_, fun err hError => ?_, fun c hOk => ?_, sameBut_connect env policy s w,
    fun e he => ended_cases (hChain.attempt_of_mem he), hFound,
    hLater.imp_of_mem fun {e e'} he he' hThen a hFinds => ?_, hNone⟩
  · rw [hTunnel x hx, hTrying]
    rfl
  · rw [hTunnel x hx]
    cases hPhase : x.phase with
    | trying n t => exact absurd hPhase (hNot n t)
    | between n => rfl
    | pausing => rfl
  · rw [hLast, ← hOutcome]
    rfl
  · rw [hError] at hOutcome
    refine ⟨by rw [hEnd, hOutcome]; rfl, fun activity => ?_⟩
    rw [hCounts, foldl_note_of_error hOutcome]
  · rw [hOk] at hOutcome
    refine ⟨e, hLast, ?_, ?_, fun activity id => ?_⟩
    · rw [hEnd, hOutcome]
      exact tunnel_ended hAttempt
    · have hOpen := (sound_attempt env e.begun.1 e.tunnel e.begun.2).value c
        (by rw [hAttempt, hOutcome])
      rw [hEnd, hOutcome]
      exact hOpen
    · dsimp only
      rw [hCounts]
      exact connections_of_ok hOutcome id
  · obtain ⟨hBegun, hSame⟩ := hThen a hFinds
    refine ⟨hBegun, hSame, fun hDirect resolve => ?_⟩
    have hKnown : e'.begun.1.destination.address = some a := by rw [hBegun]; rfl
    have hPort : e'.begun.1.destination.port = s.destination.port := by rw [hBegun]; rfl
    rw [attempt, connectDirect_of_known hKnown, hPort]
    rfl

/-- The direct tunnel finds the address and fails, the relay connects: the address stays. -/
theorem connect_session_found :
    let relay : Tunnel := .chained ⟨2, "relay", 1081, none⟩
    let env : Surroundings Nat :=
      { resolve := Dns.table [("host.test", some (.v4 ⟨0x0A000001⟩))]
        dial := fun _ w =>
          if w = 0 then (.failed ⟨.connectionRefused, "refused"⟩, 1)
          else (.opened { incoming := { bytes := [5, 0, 5, 0, 0, 1, 127, 0, 0, 1, 0, 80] } }, w) }
    let policy : RetryPolicy := .ofSettings {}
    let r : Rule := { tunnels := [.direct, relay], place := ⟨"rules", 1⟩ }
    let s : Session :=
      { Session.accept 1 ⟨1, { port := 1080, kind := .socks }⟩ {} 0 with
        destination := .named "host.test" 80, addressType := some .domain, route := some r }
    let o := connect env policy s 0
    (s.route = some r ∧ r.tunnels ≠ []) ∧
      o.sights.map Sight.phase =
        [.trying 1 .direct, .trying 1 .direct, .between 1, .pausing, .trying 2 relay,
          .trying 2 relay] ∧
      (∀ x ∈ o.sights, x.phase = .trying 1 .direct → x.session.tunnel = some .direct) ∧
      (∀ x ∈ o.sights, x.phase = .between 1 ∨ x.phase = .pausing → x.session.tunnel = none) ∧
      o.session.tunnel = some relay ∧ o.session.outboundOpen = true ∧
      o.session.destination = s.destination.withAddress (.v4 ⟨0x0A000001⟩) ∧
      SameBut s o.session ∧
      ∃ es : List (Episode Nat),
        es.map (fun e => e.entry) =
          [⟨"direct", some .connectionRefused⟩, ⟨"relay", none⟩] ∧
        o.sights.filter (·.phase ≠ .pausing) = es.flatMap Episode.sights := by
  intro relay env policy r s o
  have hTunnels : r.tunnels ≠ [] := by simp [r]
  obtain ⟨-, hTrying, hBetween, -, es, -, hLog, hSights, -, -, -, -, hSame, -⟩ :=
    connect_session env policy s 0 (show s.route = some r from rfl) hTunnels
  refine ⟨⟨rfl, hTunnels⟩, ?_, fun x hx hPhase => hTrying x hx 1 .direct hPhase,
    fun x hx hPhase => hBetween x hx fun n t hTried => ?_, ?_, ?_, ?_, hSame, es,
    hLog.symm.trans ?_, hSights⟩
  case refine_2 =>
    rw [hTried] at hPhase
    rcases hPhase with hPhase | hPhase <;> cases hPhase
  all_goals decide +kernel

end Connector

end SocksGateway
