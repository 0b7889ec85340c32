import SocksGateway.Connector

/-!
# The tries of a connection

`Connector.rounds` goes round the tunnels of a route and keeps, on the way, what it
needs to know about the failures.  This file says which tries it makes.

* `Tried`: what tries on tunnels, one after the other, make of a session and of the
  world, whichever rounds they belong to.
* `Scheduled`: the rounds that have a try, told by the results of the tries alone: no
  earlier try has succeeded, and none in the same slot has failed for good.
* `report`: the tries with the pauses after them.
* `round_ends`: what one round does; `rounds_tries`: what rounds do.
* `connect_tries`: the tries of a session that has a route with tunnels.
-/

namespace SocksGateway

theorem RetryPolicy.limit_pos (policy : RetryPolicy) (n : Nat) : 0 < policy.limit n := by
  unfold limit
  split <;> omega

namespace Connector

variable {σ : Type}

/-! ### Tries -/

/-- One try: the number of its round, counted from zero, its tunnel, and what came of
it. -/
structure Try where
  index : Nat
  tunnel : Tunnel
  result : Except ConnectionError Connected

namespace Try

/-- The error that the try ended in, if it did. -/
def error? (t : Try) : Option ConnectionError :=
  match t.result with
  | .ok _ => none
  | .error e => some e

/-- The try in the log of attempts. -/
def entry (t : Try) : Attempt := ⟨t.tunnel.name, t.error?⟩

/-- What there is to report about the try. -/
def events (t : Try) : List ConnectEvent :=
  .connecting (t.index + 1) t.tunnel ::
    match t.result with
    | .ok _ => Progress.openedEvent t.tunnel ++ [.connected t.tunnel]
    | .error e => [.failed (t.index + 1) t.tunnel e]

/-- The try leaves something to do for round `i` of a route with `n` tunnels: it has
failed, and not for good if the round belongs to the same tunnel. -/
def Leaves (n : Nat) (t : Try) (i : Nat) : Prop :=
  ∃ e, t.result = .error e ∧ (t.index % n = i % n → e.isRecoverable = true)

end Try

/-- The session while a tunnel is being tried. -/
def trying (s : Session) (t : Tunnel) : Session :=
  { s with tunnel := some t }.setStatus .okay "Connecting" s!"Connecting via {t.name}"

/-- The session after a try with this result. -/
def settled (s : Session) : Except ConnectionError Connected → Session
  | .ok c => { s with outboundOpen := c.outbound.isSome }
  | .error _ => { s with tunnel := none }

/-- A try with the session and the world before it, and with those in which its attempt has
ended. -/
structure Episode (σ : Type) extends Try where
  before : Session × σ
  ended : Session × σ

namespace Episode

/-- What the attempt begins with. -/
def begun (e : Episode σ) : Session × σ := (trying e.before.1 e.tunnel, e.before.2)

/-- What is left when the attempt is settled. -/
def left (e : Episode σ) : Session × σ := (settled e.ended.1 e.result, e.ended.2)

/-- What is seen of the session while the attempt is made, and when it has failed. -/
def sights (e : Episode σ) : List Sight :=
  ⟨.trying (e.index + 1) e.tunnel, e.begun.1⟩ :: ⟨.trying (e.index + 1) e.tunnel, e.ended.1⟩ ::
    match e.result with
    | .ok _ => []
    | .error _ => [⟨.between (e.index + 1), e.left.1⟩]

end Episode

/-- The tries with what is before each of them, from a session and a world on. -/
def episodes (env : Surroundings σ) : List Try → Session × σ → List (Episode σ)
  | [], _ => []
  | t :: tries, x =>
    let ended := (attempt env (trying x.1 t.tunnel) t.tunnel x.2).2
    let e : Episode σ := ⟨t, x, ended⟩
    e :: episodes env tries e.left

/-- **Tries one after the other**, from a session and a world to those that they leave.
Each one is on the tunnel whose turn it is in its round, and has the result that an
attempt gives at its time. -/
inductive Tried (env : Surroundings σ) (tunnels : List Tunnel) :
    Session × σ → List Try → Session × σ → Prop
  | none {x : Session × σ} : Tried env tunnels x [] x
  | next {s s' : Session} {w w' : σ} {i : Nat} {t : Tunnel}
      {result : Except ConnectionError Connected} {tries : List Try} {x : Session × σ}
      (hTurn : tunnels[i % tunnels.length]? = some t)
      (hAttempt : attempt env (trying s t) t w = (result, s', w'))
      (hRest : Tried env tunnels (settled s' result, w') tries x) :
      Tried env tunnels (s, w) (⟨i, t, result⟩ :: tries) x

/-! ### The rounds that have a try -/

/-- **The tries of the rounds from `i` up to `stop`**, for a route with `n` tunnels some
of which may have failed for good before.  They are in the order of the rounds, and a
round has one exactly when its tunnel is not out and every earlier try leaves it
something to do. -/
structure Scheduled (n : Nat) (exhausted : List Bool) (i stop : Nat) (tries : List Try) :
    Prop where
  inOrder : tries.Pairwise fun t u => t.index < u.index
  due : ∀ j, j ∈ tries.map Try.index ↔
    i ≤ j ∧ j < stop ∧ exhausted[j % n]? = some false ∧
      ∀ t ∈ tries, t.index < j → t.Leaves n j

namespace Scheduled

variable {n i stop : Nat} {exhausted : List Bool} {tries : List Try} {t : Tunnel}

theorem nil (hOut : ∀ j, i ≤ j → j < stop → exhausted[j % n]? ≠ some false) :
    Scheduled n exhausted i stop [] := by
  refine ⟨List.Pairwise.nil, fun j => ⟨fun h => (nomatch h), ?_⟩⟩
  rintro ⟨hFrom, hTo, hFree, -⟩
  exact absurd hFree (hOut j hFrom hTo)

theorem skip (hOut : exhausted[i % n]? ≠ some false)
    (hRest : Scheduled n exhausted (i + 1) stop tries) : Scheduled n exhausted i stop tries := by
  refine ⟨hRest.inOrder, fun j => (hRest.due j).trans ⟨?_, ?_⟩⟩
  · rintro ⟨hFrom, hDue⟩
    exact ⟨Nat.le_of_succ_le hFrom, hDue⟩
  · rintro ⟨hFrom, hTo, hFree, hLeaves⟩
    refine ⟨Nat.lt_of_le_of_ne hFrom ?_, hTo, hFree, hLeaves⟩
    rintro rfl
    exact hOut hFree

theorem last (c : Connected) (hStop : i < stop) (hFree : exhausted[i % n]? = some false) :
    Scheduled n exhausted i stop [⟨i, t, .ok c⟩] := by
  refine ⟨List.pairwise_singleton _ _, fun j => ?_⟩
  simp only [List.map_cons, List.map_nil, List.mem_singleton, forall_eq]
  constructor
  · rintro rfl
    exact ⟨Nat.le_refl j, hStop, hFree, fun h => absurd h (Nat.lt_irrefl j)⟩
  · rintro ⟨hFrom, -, -, hLeaves⟩
    refine (Nat.eq_or_lt_of_le hFrom).elim Eq.symm fun hLt => ?_
    obtain ⟨e, hError, -⟩ := hLeaves hLt
    cases hError

theorem getElem?_exhausted (e : ConnectionError) (j : Nat) :
    (if e.isRecoverable then exhausted else exhausted.set i true)[j]? = some false ↔
      exhausted[j]? = some false ∧ (i = j → e.isRecoverable = true) := by
  cases hRecoverable : e.isRecoverable with
  | true => simp
  | false =>
    by_cases hSlot : i = j
    · subst hSlot
      simp [List.getElem?_set_self']
    · simp [hSlot, List.getElem?_set_ne]

theorem cons {e : ConnectionError} (hStop : i < stop) (hFree : exhausted[i % n]? = some false)
    (hRest : Scheduled n (if e.isRecoverable then exhausted else exhausted.set (i % n) true)
      (i + 1) stop tries) :
    Scheduled n exhausted i stop (⟨i, t, .error e⟩ :: tries) := by
  have hLater : ∀ u ∈ tries, i < u.index := fun u hu =>
    ((hRest.due u.index).mp (List.mem_map_of_mem hu)).1
  refine ⟨List.Pairwise.cons hLater hRest.inOrder, fun j => ?_⟩
  rw [List.map_cons, List.mem_cons, hRest.due, getElem?_exhausted]
  simp only [List.forall_mem_cons]
  constructor
  · rintro (rfl | ⟨hFrom, hTo, ⟨hFree', hSlot⟩, hLeaves⟩)
    · exact ⟨Nat.le_refl _, hStop, hFree, fun h => absurd h (Nat.lt_irrefl _),
        fun u hu h => absurd h (Nat.lt_asymm (hLater u hu))⟩
    · exact ⟨Nat.le_of_succ_le hFrom, hTo, hFree', fun _ => ⟨e, rfl, hSlot⟩, hLeaves⟩
  · rintro ⟨hFrom, hTo, hFree', hHead, hLeaves⟩
    rcases Nat.eq_or_lt_of_le hFrom with hEq | hLt
    · exact Or.inl hEq.symm
    · obtain ⟨e', hError, hSlot⟩ := hHead hLt
      cases hError
      exact Or.inr ⟨hLt, hTo, ⟨hFree', hSlot⟩, hLeaves⟩

theorem length_le (h : Scheduled n exhausted i stop tries) : tries.length ≤ stop - i := by
  have hWithin : ∀ u ∈ tries, i ≤ u.index ∧ u.index < stop := fun u hu =>
    ⟨((h.due u.index).mp (List.mem_map_of_mem hu)).1,
      ((h.due u.index).mp (List.mem_map_of_mem hu)).2.1⟩
  have hOrder := h.inOrder
  clear h
  induction tries generalizing i with
  | nil => exact Nat.zero_le _
  | cons u tries ih =>
    obtain ⟨hLater, hOrder⟩ := List.pairwise_cons.mp hOrder
    obtain ⟨hFrom, hTo⟩ := hWithin u (List.mem_cons_self ..)
    have hRest := ih (i := u.index + 1)
      (fun v hv => ⟨hLater v hv, (hWithin v (List.mem_cons_of_mem u hv)).2⟩) hOrder
    rw [List.length_cons]
    omega

theorem leaves (h : Scheduled n exhausted i stop tries) :
    tries.Pairwise fun t u => t.index < u.index ∧ t.Leaves n u.index := by
  refine h.inOrder.imp_of_mem fun {t u} ht hu hLt => ⟨hLt, ?_⟩
  exact ((h.due u.index).mp (List.mem_map_of_mem hu)).2.2.2 t ht hLt

end Scheduled

/-! ### One round -/

/-- One round: the turn of the tunnel in its slot, if that is not out. -/
def round (env : Surroundings σ) (tunnels : List Tunnel) (left i : Nat) (p : Progress σ) :
    Progress σ × Option Connected :=
  match tunnels[i % tunnels.length]?, p.exhausted.getD (i % tunnels.length) true with
  | some t, false => p.tryTunnel env i (i % tunnels.length) left t
  | _, _ => (p, none)

theorem rounds_succ (env : Surroundings σ) (tunnels : List Tunnel) (left i : Nat)
    (p : Progress σ) :
    rounds env tunnels (left + 1) i p =
      if p.isExhausted then (p, none)
      else
        match round env tunnels left i p with
        | (q, some c) => (q, some c)
        | (q, none) => rounds env tunnels left (i + 1) q := by
  rw [rounds]
  by_cases hOut : p.isExhausted = true
  · rw [if_pos hOut, if_pos hOut]
  · rw [if_neg hOut, if_neg hOut]
    simp only [round]
    cases tunnels[i % tunnels.length]? with
    | none => rfl
    | some t => cases p.exhausted.getD (i % tunnels.length) true <;> rfl

/-! A pause changes nothing but what is reported and seen. -/

namespace Progress

variable (p : Progress σ) (left : Nat)

/-- What a pause adds to the trace, with `left` rounds to come. -/
def rest : List ConnectEvent := if left = 0 ∨ p.isExhausted then [] else [.slept]

/-- What is seen of the session in the pause. -/
def restSights : List Sight := if left = 0 ∨ p.isExhausted then [] else [⟨.pausing, p.session⟩]

@[simp] theorem session_pause : (p.pause left).session = p.session := by
  unfold pause
  split <;> rfl

@[simp] theorem world_pause : (p.pause left).world = p.world := by
  unfold pause
  split <;> rfl

@[simp] theorem exhausted_pause : (p.pause left).exhausted = p.exhausted := by
  unfold pause
  split <;> rfl

@[simp] theorem attempts_pause : (p.pause left).attempts = p.attempts := by
  unfold pause
  split <;> rfl

@[simp] theorem lastError_pause : (p.pause left).lastError = p.lastError := by
  unfold pause
  split <;> rfl

theorem toList_trace_pause : (p.pause left).trace.toList = p.trace.toList ++ p.rest left := by
  unfold pause rest
  split
  · simp
  · exact Transcript.toList_push _ _

theorem toList_sights_pause :
    (p.pause left).sights.toList = p.sights.toList ++ p.restSights left := by
  unfold pause restSights
  split
  · simp
  · exact Transcript.toList_push _ _

end Progress

/-- **The ways in which round `i` ends**, with `left` rounds to come. -/
inductive RoundEnds (env : Surroundings σ) (tunnels : List Tunnel) (left i : Nat)
    (p : Progress σ) : Progress σ × Option Connected → Prop
  /-- The tunnel whose turn it is is out. -/
  | skipped (hOut : p.exhausted[i % tunnels.length]? ≠ some false) :
      RoundEnds env tunnels left i p (p, none)
  | connected {t : Tunnel} {c : Connected} {s : Session} {w : σ} {q : Progress σ}
      (hTurn : tunnels[i % tunnels.length]? = some t)
      (hFree : p.exhausted[i % tunnels.length]? = some false)
      (hAttempt : attempt env (trying p.session t) t p.world = (.ok c, s, w))
      (hLeft : (q.session, q.world) = (settled s (.ok c), w))
      (hAttempts : q.attempts.toList = p.attempts.toList ++ [⟨t.name, none⟩])
      (hTrace : q.trace.toList = p.trace.toList ++ Try.events ⟨i, t, .ok c⟩)
      (hSights : q.sights.toList = p.sights.toList ++
        Episode.sights ⟨⟨i, t, .ok c⟩, (p.session, p.world), (s, w)⟩) :
      RoundEnds env tunnels left i p (q, some c)
  | failed {t : Tunnel} {e : ConnectionError} {s : Session} {w : σ} {q : Progress σ}
      (hTurn : tunnels[i % tunnels.length]? = some t)
      (hFree : p.exhausted[i % tunnels.length]? = some false)
      (hAttempt : attempt env (trying p.session t) t p.world = (.error e, s, w))
      (hLeft : (q.session, q.world) = (settled s (.error e), w))
      (hExhausted : q.exhausted =
        if e.isRecoverable then p.exhausted else p.exhausted.set (i % tunnels.length) true)
      (hAttempts : q.attempts.toList = p.attempts.toList ++ [⟨t.name, some e⟩])
      (hTrace : q.trace.toList =
        p.trace.toList ++ Try.events ⟨i, t, .error e⟩ ++ q.rest left)
      (hError : q.lastError = some e)
      (hSights : q.sights.toList = p.sights.toList ++
        Episode.sights ⟨⟨i, t, .error e⟩, (p.session, p.world), (s, w)⟩ ++ q.restSights left) :
      RoundEnds env tunnels left i p (q, none)

theorem tryTunnel_ends {env : Surroundings σ} {tunnels : List Tunnel} {left i : Nat}
    {p : Progress σ} {t : Tunnel} (hTurn : tunnels[i % tunnels.length]? = some t)
    (hFree : p.exhausted[i % tunnels.length]? = some false) :
    RoundEnds env tunnels left i p (p.tryTunnel env i (i % tunnels.length) left t) := by
  have hAnnounced : (p.announce i t).trace.toList = p.trace.toList ++ [.connecting (i + 1) t] :=
    Transcript.toList_push _ _
  have hSession : (p.announce i t).session = trying p.session t := rfl
  have hSights : (p.announce i t).sights = p.sights := rfl
  simp only [Progress.tryTunnel, Progress.look]
  rcases hAttempt : attempt env (p.announce i t).session t (p.announce i t).world with
    ⟨result, s, w⟩
  cases result with
  | ok c =>
    refine .connected hTurn hFree hAttempt rfl (Transcript.toList_push _ _) ?_ ?_
    · simp [Progress.succeed, Try.events, hAnnounced]
    · simp [Progress.succeed, Episode.sights, Episode.begun, hSights, hSession]
  | error e =>
    refine .failed hTurn hFree hAttempt ?_ ?_ ?_ ?_ ?_ ?_
    · simp [Progress.fail, settled]
    · simp [Progress.fail, Progress.announce]
    · simp [Progress.fail, Progress.announce]
    · rw [Progress.toList_trace_pause]
      simp [Progress.fail, Try.events, hAnnounced, Progress.rest, Progress.isExhausted]
    · simp [Progress.fail]
    · rw [Progress.toList_sights_pause]
      simp [Progress.fail, Episode.sights, Episode.begun, Episode.left, settled, hSights, hSession,
        Progress.restSights, Progress.isExhausted]

/-- **A round ends in one of these ways.** -/
theorem round_ends (env : Surroundings σ) {tunnels : List Tunnel} (left i : Nat) {p : Progress σ}
    (hSlots : p.exhausted.length = tunnels.length) :
    RoundEnds env tunnels left i p (round env tunnels left i p) := by
  unfold round
  split
  · rename_i t hTurn hFree
    refine tryTunnel_ends hTurn ?_
    rw [List.getD_eq_getElem?_getD] at hFree
    cases hSlot : p.exhausted[i % tunnels.length]? with
    | none => simp [hSlot] at hFree
    | some out => simpa [hSlot] using hFree
  · rename_i hNot
    refine .skipped fun hFree => ?_
    have hSlot : i % tunnels.length < tunnels.length :=
      hSlots ▸ (List.getElem?_eq_some_iff.mp hFree).1
    refine hNot _ (List.getElem?_eq_getElem hSlot) ?_
    rw [List.getD_eq_getElem?_getD, hFree]
    rfl

/-! ### All rounds -/

/-- The result that rounds have come to, if they have made a try. -/
def resultOf (connected : Option Connected) (lastError : Option ConnectionError) :
    Option (Except ConnectionError Connected) :=
  match connected with
  | some c => some (.ok c)
  | none => lastError.map .error

/-- **What the rounds from `i` up to `stop` make of their progress**, with their tries. -/
structure Makes (env : Surroundings σ) (tunnels : List Tunnel) (i stop : Nat) (p : Progress σ)
    (out : Progress σ × Option Connected) (tries : List Try) : Prop where
  tried : Tried env tunnels (p.session, p.world) tries (out.1.session, out.1.world)
  scheduled : Scheduled tunnels.length p.exhausted i stop tries
  attempts : out.1.attempts.toList = p.attempts.toList ++ tries.map Try.entry
  trace : out.1.trace.toList.filter (· ≠ .slept) =
    p.trace.toList.filter (· ≠ .slept) ++ tries.flatMap Try.events
  result : resultOf out.2 out.1.lastError =
    (tries.getLast?.map Try.result).or (p.lastError.map .error)
  sights : out.1.sights.toList.filter (·.phase ≠ .pausing) =
    p.sights.toList.filter (·.phase ≠ .pausing) ++
      (episodes env tries (p.session, p.world)).flatMap Episode.sights

theorem slept_not_mem_events (t : Try) : .slept ∉ t.events := by
  obtain ⟨i, tunnel, result⟩ := t
  cases result with
  | error e => simp [Try.events]
  | ok c => cases tunnel <;> simp [Try.events, Progress.openedEvent]

theorem filter_events (t : Try) : t.events.filter (· ≠ .slept) = t.events := by
  refine List.filter_eq_self.mpr fun e he => ?_
  have hNot : e ≠ .slept := fun h => slept_not_mem_events t (h ▸ he)
  simpa using hNot

theorem filter_rest (p : Progress σ) (left : Nat) :
    (p.rest left).filter (· ≠ .slept) = [] := by
  unfold Progress.rest
  split <;> simp

theorem filter_sights (e : Episode σ) : e.sights.filter (·.phase ≠ .pausing) = e.sights := by
  unfold Episode.sights
  cases e.result <;> simp

theorem filter_restSights (p : Progress σ) (left : Nat) :
    (p.restSights left).filter (·.phase ≠ .pausing) = [] := by
  unfold Progress.restSights
  split <;> simp

/-- The tunnels that are out after the try, of a route with `n`. -/
def Try.out (n : Nat) (exhausted : List Bool) (t : Try) : List Bool :=
  match t.result with
  | .ok _ => exhausted
  | .error e => if e.isRecoverable then exhausted else exhausted.set (t.index % n) true

/-- The pause after the try: there is none after a success, none if there is no other round
before `stop`, and none if all tunnels are out. -/
def Try.pause (stop : Nat) (exhausted : List Bool) (t : Try) : List ConnectEvent :=
  match t.result with
  | .ok _ => []
  | .error _ => if stop = t.index + 1 ∨ exhausted.all id then [] else [.slept]

/-- What there is to report about tries in rounds before `stop`, with the pauses after them. -/
def report (n stop : Nat) (exhausted : List Bool) : List Try → List ConnectEvent
  | [] => []
  | t :: tries =>
    t.events ++ t.pause stop (t.out n exhausted) ++ report n stop (t.out n exhausted) tries

theorem rest_eq_pause (p : Progress σ) (left i : Nat) (t : Tunnel) (e : ConnectionError) :
    p.rest left = Try.pause (i + 1 + left) p.exhausted ⟨i, t, .error e⟩ := by
  have hLast : i + 1 + left = i + 1 ↔ left = 0 := by omega
  unfold Progress.rest Progress.isExhausted Try.pause
  simp only [hLast]

section

variable {env : Surroundings σ} {tunnels : List Tunnel} {i stop : Nat} {p q : Progress σ}
  {out : Progress σ × Option Connected} {tries : List Try} {t : Tunnel}

theorem Makes.nil (hOut : ∀ j, i ≤ j → j < stop → p.exhausted[j % tunnels.length]? ≠ some false) :
    Makes env tunnels i stop p (p, none) [] :=
  ⟨.none, .nil hOut, by simp, by simp, rfl, (List.append_nil _).symm⟩

theorem Makes.last {c : Connected} {s : Session} {w : σ} (hStop : i < stop)
    (hTurn : tunnels[i % tunnels.length]? = some t)
    (hFree : p.exhausted[i % tunnels.length]? = some false)
    (hAttempt : attempt env (trying p.session t) t p.world = (.ok c, s, w))
    (hLeft : (q.session, q.world) = (settled s (.ok c), w))
    (hAttempts : q.attempts.toList = p.attempts.toList ++ [⟨t.name, none⟩])
    (hTrace : q.trace.toList = p.trace.toList ++ Try.events ⟨i, t, .ok c⟩)
    (hSights : q.sights.toList = p.sights.toList ++
      Episode.sights ⟨⟨i, t, .ok c⟩, (p.session, p.world), (s, w)⟩) :
    Makes env tunnels i stop p (q, some c) [⟨i, t, .ok c⟩] := by
  refine ⟨.next hTurn hAttempt (hLeft ▸ .none), .last c hStop hFree, hAttempts, ?_, rfl, ?_⟩
  · rw [hTrace, List.filter_append, filter_events, List.flatMap_singleton]
  · rw [hSights, List.filter_append, filter_sights, episodes, hAttempt, episodes,
      List.flatMap_singleton]

theorem Makes.cons {e : ConnectionError} {s : Session} {w : σ} {left : Nat} (hStop : i < stop)
    (hTurn : tunnels[i % tunnels.length]? = some t)
    (hFree : p.exhausted[i % tunnels.length]? = some false)
    (hAttempt : attempt env (trying p.session t) t p.world = (.error e, s, w))
    (hLeft : (q.session, q.world) = (settled s (.error e), w))
    (hExhausted : q.exhausted =
      if e.isRecoverable then p.exhausted else p.exhausted.set (i % tunnels.length) true)
    (hAttempts : q.attempts.toList = p.attempts.toList ++ [⟨t.name, some e⟩])
    (hTrace : q.trace.toList = p.trace.toList ++ Try.events ⟨i, t, .error e⟩ ++ q.rest left)
    (hError : q.lastError = some e)
    (hSights : q.sights.toList = p.sights.toList ++
      Episode.sights ⟨⟨i, t, .error e⟩, (p.session, p.world), (s, w)⟩ ++ q.restSights left)
    (hRest : Makes env tunnels (i + 1) stop q out tries) :
    Makes env tunnels i stop p out (⟨i, t, .error e⟩ :: tries) := by
  obtain ⟨hTried, hScheduled, hLog, hReport, hResult, hSeen⟩ := hRest
  rw [hExhausted] at hScheduled
  refine ⟨.next hTurn hAttempt (hLeft ▸ hTried), .cons hStop hFree hScheduled, ?_, ?_, ?_, ?_⟩
  · rw [hLog, hAttempts, List.append_assoc]
    rfl
  · rw [hReport, hTrace, List.filter_append, List.filter_append, filter_events, filter_rest,
      List.append_nil, List.append_assoc, List.flatMap_cons]
  · rw [hResult, hError, List.getLast?_cons]
    cases tries.getLast? <;> rfl
  · rw [hSeen, hSights, List.filter_append, List.filter_append, filter_sights, filter_restSights,
      List.append_nil, List.append_assoc, episodes, hAttempt, List.flatMap_cons, hLeft]
    rfl

/-- **Rounds make the tries that are scheduled**, and log and report them, with pauses. -/
theorem rounds_tries (env : Surroundings σ) (tunnels : List Tunnel) (left i : Nat)
    (p : Progress σ) (hSlots : p.exhausted.length = tunnels.length) :
    ∃ tries, Makes env tunnels i (i + left) p (rounds env tunnels left i p) tries ∧
      (rounds env tunnels left i p).1.trace.toList =
        p.trace.toList ++ report tunnels.length (i + left) p.exhausted tries := by
  induction left generalizing i p with
  | zero => exact ⟨[], .nil fun j hFrom hTo => by omega, (List.append_nil _).symm⟩
  | succ left ih =>
    have hNext : i + (left + 1) = i + 1 + left := by omega
    rw [rounds_succ, hNext]
    by_cases hNone : p.isExhausted = true
    · rw [if_pos hNone]
      refine ⟨[], .nil fun j _ _ hFree => ?_, (List.append_nil _).symm⟩
      have hAll := List.all_eq_true.mp hNone false (List.mem_of_getElem? hFree)
      cases hAll
    rw [if_neg hNone]
    have hEnds := round_ends env left i hSlots
    generalize round env tunnels left i p = out at hEnds
    cases hEnds with
    | skipped hSkip =>
      obtain ⟨tries, hRest, hReport⟩ := ih (i + 1) p hSlots
      exact ⟨tries, { hRest with scheduled := hRest.scheduled.skip hSkip }, hReport⟩
    | connected hTurn hFree hAttempt hLeft hAttempts hTrace hSights =>
      refine ⟨_, .last (by omega) hTurn hFree hAttempt hLeft hAttempts hTrace hSights, ?_⟩
      rw [hTrace, report, report, Try.pause, List.append_nil, List.append_nil]
    | @failed t e s w q hTurn hFree hAttempt hLeft hExhausted hAttempts hTrace hError hSights =>
      have hSlots' : q.exhausted.length = tunnels.length := by
        rw [hExhausted]
        split <;> simp [hSlots]
      obtain ⟨tries, hRest, hReport⟩ := ih (i + 1) q hSlots'
      refine ⟨_, .cons (by omega) hTurn hFree hAttempt hLeft hExhausted hAttempts hTrace hError
        hSights hRest, ?_⟩
      have hOut : Try.out tunnels.length p.exhausted ⟨i, t, .error e⟩ = q.exhausted :=
        hExhausted.symm
      rw [hReport, hTrace, rest_eq_pause q left i t e, report, hOut]
      simp only [List.append_assoc]

end

theorem error_of_mem_dropLast {n : Nat} {tries : List Try}
    (hLeaves : tries.Pairwise fun t u => t.index < u.index ∧ t.Leaves n u.index) {t : Try}
    (ht : t ∈ tries.dropLast) : ∃ e, t.result = .error e := by
  have hSome : tries ≠ [] := by
    rintro rfl
    cases ht
  rw [← List.dropLast_concat_getLast hSome] at hLeaves
  obtain ⟨-, e, hError, -⟩ :=
    (List.pairwise_append.mp hLeaves).2.2 t ht _ (List.mem_singleton_self _)
  exact ⟨e, hError⟩

theorem connect_of_route {env : Surroundings σ} {policy : RetryPolicy} {s : Session} {w : σ}
    {r : Rule} (hRoute : s.route = some r) (hTunnels : r.tunnels ≠ []) :
    connect env policy s w = connectVia env policy r.tunnels s w := by
  have hSome : r.tunnels.isEmpty = false := by simpa using hTunnels
  simp only [connect, hRoute, hSome, Bool.false_eq_true, if_false]

/-- The rounds that have a try when no tunnel is out at the start. -/
theorem Scheduled.due_iff {n most : Nat} {tries : List Try} (hPos : 0 < n)
    (h : Scheduled n (List.replicate n false) 0 most tries) (i : Nat) :
    i ∈ tries.map Try.index ↔ i < most ∧ ∀ t ∈ tries, t.index < i → t.Leaves n i := by
  have hFree : (List.replicate n false)[i % n]? = some false := by
    simp [Nat.mod_lt i hPos]
  rw [h.due]
  exact ⟨fun hDue => ⟨hDue.2.1, hDue.2.2.2⟩, fun hDue => ⟨Nat.zero_le i, hDue.1, hFree, hDue.2⟩⟩

/-- **The rounds of a route make tries**, and the last one's result is the outcome.  The report
has the pauses between them, and the session was seen as the tries left it. -/
theorem connectVia_report (env : Surroundings σ) (policy : RetryPolicy) {tunnels : List Tunnel}
    (s : Session) (w : σ) (hTunnels : tunnels ≠ []) :
    let o := connectVia env policy tunnels s w
    let out := List.replicate tunnels.length false
    let most := policy.limit tunnels.length
    ∃ tries, tries ≠ [] ∧ Tried env tunnels (s, w) tries (o.session, o.world) ∧
      Scheduled tunnels.length out 0 most tries ∧
      o.attempts = tries.map Try.entry ∧
      o.trace.filter (· ≠ .slept) = tries.flatMap Try.events ∧
      tries.getLast?.map Try.result = some o.result ∧
      o.trace = report tunnels.length most out tries ∧
      o.sights.filter (·.phase ≠ .pausing) =
        (episodes env tries (s, w)).flatMap Episode.sights := by
  intro o out most
  let start : Progress σ := { session := s, world := w, exhausted := out }
  obtain ⟨tries, ⟨hTried, hScheduled, hLog, hReport, hResult, hSights⟩, hPauses⟩ :=
    rounds_tries env tunnels most 0 start List.length_replicate
  rw [Nat.zero_add] at hScheduled hPauses
  have hFirst : 0 ∈ tries.map Try.index :=
    (hScheduled.due_iff (List.length_pos_iff.mpr hTunnels) 0).mpr
      ⟨policy.limit_pos _, fun t _ h => absurd h (Nat.not_lt_zero _)⟩
  have hSome : tries ≠ [] := by
    rintro rfl
    cases hFirst
  refine ⟨tries, hSome, hTried, hScheduled, hLog, hReport, ?_, hPauses, hSights⟩
  rw [List.getLast?_eq_some_getLast hSome, Option.map_some, Option.some_or] at hResult
  rw [List.getLast?_eq_some_getLast hSome, Option.map_some, ← hResult]
  simp only [o, connectVia]
  generalize rounds env tunnels (policy.limit tunnels.length) 0 _ = out at hResult ⊢
  obtain ⟨q, connected⟩ := out
  cases connected with
  | some c => rfl
  | none =>
    cases hError : q.lastError with
    | none => simp [resultOf, hError] at hResult
    | some e => simp [resultOf]

/-- The rounds of a route make tries, the pauses apart. -/
theorem connectVia_tries (env : Surroundings σ) (policy : RetryPolicy) {tunnels : List Tunnel}
    (s : Session) (w : σ) (hTunnels : tunnels ≠ []) :
    let o := connectVia env policy tunnels s w
    ∃ tries, tries ≠ [] ∧ Tried env tunnels (s, w) tries (o.session, o.world) ∧
      Scheduled tunnels.length (List.replicate tunnels.length false) 0
        (policy.limit tunnels.length) tries ∧
      o.attempts = tries.map Try.entry ∧
      o.trace.filter (· ≠ .slept) = tries.flatMap Try.events ∧
      tries.getLast?.map Try.result = some o.result := by
  obtain ⟨tries, hSome, hTried, hScheduled, hLog, hReport, hResult, -, -⟩ :=
    connectVia_report env policy s w hTunnels
  exact ⟨tries, hSome, hTried, hScheduled, hLog, hReport, hResult⟩

/-- **The tries of a connection.**  A session with a route of `n` tunnels makes tries in
the rounds `0, 1, …` below `most`, each one on the tunnel in slot `i % n`.  A round has a
try exactly when all tries before it have failed, and those in its slot not for good; so
nothing follows a success, nothing follows when all slots have failed for good, and a slot
that has failed for good is not tried again.  There is at least one try and there are at
most `most`.  They are the log of attempts and the report, pauses apart.  All but the last
have failed, and the last one's result is the result of the whole: its error is told with
its own reply code. -/
theorem connect_tries (env : Surroundings σ) (policy : RetryPolicy) (s : Session) (w : σ)
    {r : Rule} (hRoute : s.route = some r) (hTunnels : r.tunnels ≠ []) :
    let n := r.tunnels.length
    let most :=
      if n = 1 ∧ policy.singleCandidate = .failFast then 1 else max 1 policy.maxAttempts
    let o := connect env policy s w
    ∃ tries : List Try,
      Tried env r.tunnels (s, w) tries (o.session, o.world) ∧
        (∀ i, i ∈ tries.map Try.index ↔
          i < most ∧ ∀ t ∈ tries, t.index < i → t.Leaves n i) ∧
        (tries.Pairwise fun t u => t.index < u.index ∧ t.Leaves n u.index) ∧
        (1 ≤ tries.length ∧ tries.length ≤ most) ∧
        o.attempts = tries.map Try.entry ∧
        o.trace.filter (· ≠ .slept) = tries.flatMap Try.events ∧
        (∀ t ∈ tries.dropLast, ∃ e, t.result = .error e) ∧
        tries.getLast?.map Try.result = some o.result ∧
        ∀ e, o.result = .error e → o.reply = e.replyCode := by
  intro n most o
  obtain ⟨tries, hSome, hTried, hScheduled, hLog, hReport, hResult⟩ :=
    connectVia_tries env policy s w hTunnels
  rw [← connect_of_route hRoute hTunnels] at hTried hLog hReport hResult
  refine ⟨tries, hTried, hScheduled.due_iff (List.length_pos_iff.mpr hTunnels),
    hScheduled.leaves, ⟨List.length_pos_iff.mpr hSome, hScheduled.length_le⟩, hLog, hReport,
    fun t => error_of_mem_dropLast hScheduled.leaves, hResult, fun e hError => ?_⟩
  simp only [Outcome.reply, hError]

/-- The second tunnel is tried again where the first one, which has failed for good, would
have its turn: the tries are in the rounds 0, 1 and 3. -/
theorem connect_tries_skips :
    let relay : Tunnel := .chained ⟨2, "relay", 1081, none⟩
    let env : Surroundings Nat :=
      { resolve := fun d w => (.ok (d.withAddress (.v6 .unspecified)), w)
        dial := fun _ w =>
          if w = 0 then (.failed ⟨.connectionRefused, "refused"⟩, 1)
          else (.opened { incoming := { bytes := [5, 0, 5, 0, 0, 1, 127, 0, 0, 1, 0, 80] } }, w) }
    let policy : RetryPolicy := .ofSettings {}
    let r : Rule := { tunnels := [.direct, relay], place := ⟨"rules", 1⟩ }
    let s : Session :=
      { Session.accept 1 ⟨1, { port := 1080, kind := .socks }⟩ {} 0 with
        destination := .named "host.test" 80, addressType := some .domain, route := some r }
    (s.route = some r ∧ r.tunnels ≠ []) ∧
      ∃ tries : List Try,
        tries.getLast?.map Try.result = some (connect env policy s 0).result ∧
        tries.map Try.entry =
          [⟨"direct", some .addressTypeNotSupported⟩, ⟨"relay", some .connectionRefused⟩,
            ⟨"relay", none⟩] ∧
        tries.flatMap Try.events =
          [.connecting 1 .direct, .failed 1 .direct .addressTypeNotSupported,
            .connecting 2 relay, .failed 2 relay .connectionRefused,
            .connecting 4 relay, .opened 2, .connected relay] := by
  intro relay env policy r s
  have hTunnels : r.tunnels ≠ [] := by simp [r]
  obtain ⟨tries, -, -, -, -, hLog, hReport, -, hResult, -⟩ :=
    connect_tries env policy s 0 (show s.route = some r from rfl) hTunnels
  refine ⟨⟨rfl, hTunnels⟩, tries, hResult, hLog.symm.trans ?_, hReport.symm.trans ?_⟩
  · decide +kernel
  · decide +kernel

end Connector

end SocksGateway
