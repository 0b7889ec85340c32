import SocksGateway.Proofs.Handler.Stages

/-!
# The connection counts of tunnels

Many runs share the tunnels.  Each stage of each run changes the connection counts at once
with what it reports, and the stages of different runs come in any order.

* `Custody`, `Sound`: what a run has reported and what it holds, stage by stage.
* `Sound.step`: one stage keeps that, and reports what it does to the counts.
* `System`: runs with the counts that they share.
* `counts_balance`: a count is the number of runs that are connected through its tunnel.
-/

namespace SocksGateway

/-- The event belongs to attempts on tunnels that have not connected yet. -/
def ConnectEvent.isAttempt : ConnectEvent → Bool
  | .connecting _ _ => true
  | .failed _ _ _ => true
  | .slept => true
  | _ => false

/-- The event tells that the tunnel with this number has connected. -/
def ConnectEvent.connects (id : Nat) : ConnectEvent → Bool
  | .connected (.chained c) => c.id == id
  | _ => false

namespace Handler

open Connector (Progress Connected)
open Connector.Progress (openedEvent)

/-- The count of a chained tunnel goes down again. -/
def closedEvent : Tunnel → List ConnectEvent
  | .chained c => [.closed c.id]
  | _ => []

variable {σ : Type}

/-! ### One run -/

/-- What a run has to do with a tunnel. -/
inductive Custody where
  /-- It has not connected. -/
  | none
  | held (tunnel : Tunnel)
  | released (tunnel : Tunnel)

/-- The run is connected through the chained tunnel with this number. -/
def Custody.holds (id : Nat) : Custody → Bool
  | .held (.chained c) => c.id == id
  | _ => false

namespace Stage

/-- A stage of a session that has not connected, with this trace. -/
def Unconnected (trace : List ConnectEvent) : Stage σ → Prop
  | .request | .route | .connect => trace = []
  | .rounds tunnels _ _ p => p.exhausted.length = tunnels.length ∧ p.trace.toList = trace
  | .reply result => ∃ e, result = .error e
  | .tearDown _ | .ended => True
  | .relay | .relaying => False

/-- A stage of a session that is connected. -/
def Connected : Stage σ → Prop
  | .reply result => ∃ c, result = .ok c
  | .relay | .relaying | .tearDown _ => True
  | _ => False

def isEnded : Stage σ → Bool
  | .ended => true
  | _ => false

end Stage

theorem Stage.Connected.not_isEnded {stage : Stage σ} (h : stage.Connected) :
    stage.isEnded = false := by
  cases stage with
  | ended => exact h.elim
  | _ => rfl

/-- All these events belong to attempts on tunnels that have not connected yet. -/
def Attempts (trace : List ConnectEvent) : Prop := ∀ e ∈ trace, e.isAttempt = true

/-- The session has not connected. -/
structure Apart (st : State σ) : Prop where
  attempts : Attempts st.trace
  outbound : st.outbound = none

/-- The session is connected through this tunnel, and has not closed it. -/
structure Carries (st : State σ) (t : Tunnel) : Prop where
  trace : ∃ front, Attempts front ∧ st.trace = front ++ openedEvent t ++ [.connected t]
  tunnel : st.session.tunnel = some t
  outbound : st.outbound.isSome = true ↔ t ≠ .null

/-- **What a run has reported, and what it holds**, at its stage. -/
inductive Sound (r : Run σ) : Custody → Prop
  | apart (hApart : Apart r.state) (hStage : r.stage.Unconnected r.state.trace) : Sound r .none
  | holding {t : Tunnel} (hCarries : Carries r.state t) (hStage : r.stage.Connected) :
      Sound r (.held t)
  | released {front : List ConnectEvent} {t : Tunnel} (hAttempts : Attempts front)
      (hTrace : r.state.trace = front ++ openedEvent t ++ [.connected t] ++ closedEvent t)
      (hStage : r.stage.isEnded = true) : Sound r (.released t)

/-- **What a stage does to the custody of a run**, and what it reports. -/
inductive Turns : Custody → List ConnectEvent → Custody → Prop
  | attempts {news : List ConnectEvent} (hAttempts : Attempts news) : Turns .none news .none
  | connects {front : List ConnectEvent} {t : Tunnel} (hAttempts : Attempts front) :
      Turns .none (front ++ openedEvent t ++ [.connected t]) (.held t)
  | stays {x : Custody} : Turns x [] x
  | closes {t : Tunnel} : Turns (.held t) (closedEvent t) (.released t)

/-- A run comes from another one, in this custody, by a stage. -/
def Comes (r q : Run σ) (x : Custody) : Prop :=
  ∃ news y, Turns x news y ∧ q.state.trace = r.state.trace ++ news ∧ Sound q y

variable {ctx : Context} {env : Surroundings σ} {r : Run σ} {st : State σ} {t : Tunnel}
  {front back : List ConnectEvent}

theorem Attempts.append (hFront : Attempts front) (hBack : Attempts back) :
    Attempts (front ++ back) :=
  List.forall_mem_append.mpr ⟨hFront, hBack⟩

/-! What the answer to a client and a relay leave alone. -/

theorem reported_reply (st : State σ) (code : Socks.ReplyCode) (bound : Option Endpoint) :
    reported (reply st code bound).1 = reported st := by
  unfold reply
  dsimp only
  repeat' split
  all_goals rfl

theorem session_reply (st : State σ) (code : Socks.ReplyCode) (bound : Option Endpoint) :
    (reply st code bound).1.session = st.session := by
  unfold reply
  dsimp only
  repeat' split
  all_goals rfl

theorem reported_relay (idle : Option Nat) (inputs : List RelayInput) (st : State σ) :
    reported (relay idle inputs st).1 = reported st := by
  unfold relay
  split <;> rfl

theorem tunnel_relay (idle : Option Nat) (inputs : List RelayInput) (st : State σ) :
    (relay idle inputs st).1.session.tunnel = st.session.tunnel := by
  unfold relay
  split <;> rfl

theorem tunnel_record (s : Session) (result : Except ConnectionError Unit) :
    (record s result).tunnel = s.tunnel := by
  cases result <;> rfl

/-! Before a run is connected. -/

/-- A stage that reports nothing leaves a run apart. -/
theorem comes_apart {q : Run σ} (hApart : Apart r.state)
    (hSame : reported q.state = reported r.state)
    (hStage : q.stage.Unconnected r.state.trace) : Comes r q .none := by
  obtain ⟨hTrace, hPeer⟩ := Prod.mk.inj hSame
  have hNext : Apart q.state := ⟨hTrace ▸ hApart.attempts, hPeer.trans hApart.outbound⟩
  exact ⟨[], .none, .stays, by rw [hTrace, List.append_nil], .apart hNext (hTrace ▸ hStage)⟩

theorem attempts_rest (p : Progress σ) (left : Nat) :
    Attempts (Connector.Progress.rest p left) := by
  unfold Connector.Progress.rest Attempts
  split <;> simp [ConnectEvent.isAttempt]

theorem attempts_failed (i : Nat) (t : Tunnel) (e : ConnectionError) :
    Attempts (Connector.Try.events ⟨i, t, .error e⟩) := by
  simp [Attempts, Connector.Try.events, ConnectEvent.isAttempt]

theorem tunnel_attempt {s s' : Session} {w w' : σ} {result : Except ConnectionError Connected}
    (hAttempt : Connector.attempt env (Connector.trying s t) t w = (result, s', w')) :
    s'.tunnel = some t := by
  obtain ⟨d, hSession⟩ := Connector.session_attempt env (Connector.trying s t) t w
  rw [hAttempt] at hSession
  rw [show s' = _ from hSession]
  rfl

/-- One round: a tunnel connects, or none does. -/
theorem comes_round {tunnels : List Tunnel} {left i : Nat} {p : Progress σ}
    (hApart : Apart r.state) (hSlots : p.exhausted.length = tunnels.length)
    (hTrace : p.trace.toList = r.state.trace) :
    let x := Connector.round env tunnels left i p
    Comes r (r.goOn (r.state.follow x) (.afterRound tunnels left i x)) .none := by
  intro x
  have hEnds : Connector.RoundEnds env tunnels left i p x := Connector.round_ends env left i hSlots
  clear_value x
  cases hEnds with
  | skipped => exact comes_apart hApart (Prod.ext hTrace rfl) ⟨hSlots, hTrace⟩
  | @connected t c s w q hTurn hFree hAttempt hLeft hLog hReport =>
    rw [hTrace] at hReport
    have hFront : Attempts [.connecting (i + 1) t] := by simp [Attempts, ConnectEvent.isAttempt]
    have hTaken := tunnel_attempt hAttempt
    have hTunnel : q.session.tunnel = some t := by
      rw [(Prod.mk.inj hLeft).1]
      exact hTaken
    have hPeer := (Connector.sound_attempt env (Connector.trying p.session t) t p.world).value c
      (by rw [hAttempt])
    have hAll : q.trace.toList =
        r.state.trace ++ [.connecting (i + 1) t] ++ openedEvent t ++ [.connected t] :=
      hReport.trans (by simp [Connector.Try.events])
    exact ⟨_, _, .connects hFront, hReport,
      .holding ⟨⟨_, hApart.attempts.append hFront, hAll⟩, hTunnel, hPeer⟩ ⟨c, rfl⟩⟩
  | @failed t e s w q hTurn hFree hAttempt hLeft hExhausted hLog hReport hError =>
    rw [hTrace, List.append_assoc] at hReport
    have hNews := (attempts_failed i t e).append (attempts_rest q left)
    have hAttempts : Attempts q.trace.toList := hReport ▸ hApart.attempts.append hNews
    have hSlots' : q.exhausted.length = tunnels.length := by
      rw [hExhausted]
      split <;> simp [hSlots]
    exact ⟨_, .none, .attempts hNews, hReport,
      .apart ⟨hAttempts, hApart.outbound⟩ ⟨hSlots', rfl⟩⟩

theorem comes_of_apart (hApart : Apart r.state) (hStage : r.stage.Unconnected r.state.trace) :
    Comes r (r.step ctx env) .none := by
  obtain ⟨client, now, st, stage⟩ := r
  cases stage with
  | request =>
    refine comes_apart hApart (reported_request st client.incoming) ?_
    simp only [Run.step, Run.goOn]
    rcases request st client.incoming with ⟨asked, e | ⟨⟩⟩
    · trivial
    · exact hStage
  | route => exact comes_apart hApart rfl hStage
  | connect =>
    refine comes_apart hApart rfl ?_
    simp only [Run.step, Run.goOn, Stage.firstRound]
    cases st.session.route with
    | none => exact ⟨_, rfl⟩
    | some rule =>
      dsimp only
      split
      · exact ⟨_, rfl⟩
      -- The rounds begin with an empty report of their own.
      · exact ⟨List.length_replicate, hStage.symm⟩
  | rounds tunnels left i p =>
    obtain ⟨hSlots, hTrace⟩ := hStage
    cases left with
    | zero => exact comes_apart hApart rfl ⟨_, rfl⟩
    | succ left =>
      rw [Run.step]
      dsimp only
      split
      · exact comes_apart hApart rfl ⟨_, rfl⟩
      · exact comes_round hApart hSlots hTrace
  | reply result =>
    obtain ⟨e, rfl⟩ := hStage
    exact comes_apart hApart (reported_reply st _ _) trivial
  | relay => exact hStage.elim
  | relaying => exact hStage.elim
  | tearDown result =>
    have hNone : closedEvents { st with session := record st.session result } = [] := by
      simp only [closedEvents, show st.outbound = none from hApart.outbound]
    refine comes_apart hApart (Prod.ext ?_ hApart.outbound.symm) trivial
    show st.trace ++ _ = st.trace
    rw [hNone, List.append_nil]
  | ended => exact comes_apart hApart rfl hStage

/-! After it is connected. -/

theorem Carries.closedEvents_eq (h : Carries st t) : closedEvents st = closedEvent t := by
  unfold closedEvents
  rw [h.tunnel]
  cases t with
  | null => cases st.outbound <;> rfl
  | direct => cases st.outbound <;> rfl
  | chained c =>
    obtain ⟨peer, hPeer⟩ := Option.isSome_iff_exists.mp (h.outbound.mpr (by simp))
    rw [hPeer]
    rfl

theorem Carries.of_reported {after : State σ} (h : Carries st t)
    (hSame : reported after = reported st) (hTunnel : after.session.tunnel = st.session.tunnel) :
    Carries after t := by
  obtain ⟨hTrace, hPeer⟩ := Prod.mk.inj hSame
  exact ⟨hTrace ▸ h.trace, hTunnel.trans h.tunnel, hPeer ▸ h.outbound⟩

theorem comes_held {q : Run σ} (hCarries : Carries r.state t)
    (hSame : reported q.state = reported r.state)
    (hTunnel : q.state.session.tunnel = r.state.session.tunnel) (hStage : q.stage.Connected) :
    Comes r q (.held t) :=
  ⟨[], .held t, .stays, by rw [(Prod.mk.inj hSame).1, List.append_nil],
    .holding (hCarries.of_reported hSame hTunnel) hStage⟩

theorem comes_of_holding (hCarries : Carries r.state t) (hStage : r.stage.Connected) :
    Comes r (r.step ctx env) (.held t) := by
  obtain ⟨client, now, st, stage⟩ := r
  cases stage with
  | reply result =>
    obtain ⟨c, rfl⟩ := hStage
    refine comes_held hCarries (reported_reply st _ _)
      (congrArg Session.tunnel (session_reply st _ _)) ?_
    simp only [Run.step, Run.goOn, answer]
    rcases reply st .succeeded c.bound with ⟨replied, e | ⟨⟩⟩
    · trivial
    · trivial
  | relay =>
    refine comes_held hCarries (reported_relay _ _ st) (tunnel_relay _ _ st) ?_
    simp only [Run.step, Run.goOn]
    rcases relay ctx.idle client.relayed st with ⟨relayed, _ | result⟩
    · trivial
    · trivial
  | relaying => exact comes_held hCarries rfl rfl trivial
  | tearDown result =>
    have hRecorded : Carries { st with session := record st.session result } t :=
      hCarries.of_reported rfl (tunnel_record st.session result)
    have hTrace : (Run.step ctx env ⟨client, now, st, .tearDown result⟩).state.trace =
        st.trace ++ closedEvent t := by
      rw [← hRecorded.closedEvents_eq]
      rfl
    obtain ⟨front, hAttempts, hFront⟩ := hCarries.trace
    exact ⟨closedEvent t, .released t, .closes, hTrace,
      .released hAttempts (hTrace.trans (congrArg (· ++ closedEvent t) hFront)) rfl⟩
  | request => exact hStage.elim
  | route => exact hStage.elim
  | connect => exact hStage.elim
  | rounds => exact hStage.elim
  | ended => exact hStage.elim

variable (ctx env) in
/-- **One stage** keeps what a run has reported and what it holds in step. -/
theorem Sound.step {x : Custody} (h : Sound r x) : Comes r (r.step ctx env) x := by
  cases h with
  | apart hApart hStage => exact comes_of_apart hApart hStage
  | holding hCarries hStage => exact comes_of_holding hCarries hStage
  | released hAttempts hTrace hStage =>
    have hSame : r.step ctx env = r := by
      obtain ⟨client, now, st, stage⟩ := r
      cases stage with
      | ended => rfl
      | _ => cases hStage
    rw [hSame]
    exact ⟨[], _, .stays, (List.append_nil _).symm, .released hAttempts hTrace hStage⟩

/-! ### Counting -/

theorem note_of_isAttempt {e : ConnectEvent} (h : e.isAttempt = true) (a : TunnelActivity) :
    a.note e = a := by
  cases e with
  | connecting => rfl
  | failed => rfl
  | slept => rfl
  | _ => cases h

theorem foldl_note_attempts (hAttempts : Attempts front) (a : TunnelActivity) :
    front.foldl TunnelActivity.note a = a := by
  induction front with
  | nil => rfl
  | cons e front ih =>
    obtain ⟨hHead, hTail⟩ := List.forall_mem_cons.mp hAttempts
    rw [List.foldl_cons, note_of_isAttempt hHead, ih hTail]

/-- **A count goes up when a run connects through its tunnel, and down when it has closed
it.** -/
theorem Turns.count {x y : Custody} {news : List ConnectEvent} (h : Turns x news y) (id : Nat)
    {a : TunnelActivity} (hPos : x.holds id = true → 0 < a.connections id) :
    (news.foldl TunnelActivity.note a).connections id + (x.holds id).toNat =
      a.connections id + (y.holds id).toNat := by
  cases h with
  | attempts hAttempts => rw [foldl_note_attempts hAttempts]
  | stays => rfl
  | @connects front t hAttempts =>
    rw [List.foldl_append, List.foldl_append, foldl_note_attempts hAttempts]
    cases t with
    | null => rfl
    | direct => rfl
    | chained c => exact a.connections_connectionOpened c.id id
  | @closes t =>
    cases t with
    | null => rfl
    | direct => rfl
    | chained c =>
      show (a.connectionClosed c.id).connections id + (c.id == id).toNat = a.connections id
      rw [a.connections_connectionClosed c.id id]
      cases hId : c.id == id with
      | false => rfl
      | true => exact Nat.sub_add_cancel (hPos hId)

/-- The run has connected through the chained tunnel with this number, and has not closed
it yet. -/
def Run.holds (id : Nat) (r : Run σ) : Bool :=
  r.state.trace.any (ConnectEvent.connects id) && !r.stage.isEnded

theorem any_connects_attempts (hAttempts : Attempts front) (id : Nat) :
    front.any (ConnectEvent.connects id) = false := by
  refine List.any_eq_false.mpr fun e he => ?_
  have hAttempt := hAttempts e he
  cases e with
  | connected => cases hAttempt
  | _ => simp [ConnectEvent.connects]

theorem Sound.holds_eq {x : Custody} (h : Sound r x) (id : Nat) : r.holds id = x.holds id := by
  unfold Run.holds
  cases h with
  | apart hApart =>
    rw [any_connects_attempts hApart.attempts]
    rfl
  | @holding t hCarries hStage =>
    obtain ⟨front, hAttempts, hTrace⟩ := hCarries.trace
    rw [hTrace, hStage.not_isEnded, List.any_append, List.any_append,
      any_connects_attempts hAttempts]
    cases t with
    | chained c => simp [openedEvent, ConnectEvent.connects, Custody.holds]
    | _ => rfl
  | released hAttempts hTrace hStage =>
    rw [hStage, Bool.not_true, Bool.and_false]
    rfl

/-! ### Many runs -/

/-- Runs, with what they share: the rules with their counters, the world outside, and the
connection counts. -/
structure System (σ : Type) where
  engine : Routing.Engine
  world : σ
  activity : TunnelActivity := {}
  runs : List (Run σ) := []

/-- What happens next: a client is accepted, a run goes on by a stage, or the world outside
becomes another one. -/
inductive Move (σ : Type) where
  | accept (client : Client) (now : Moment) (session : Session)
  | advance (k : Nat)
  | change (world : σ)

namespace System

/-- A run takes its next stage in the state of the system. -/
def turn (ctx : Context) (env : Surroundings σ) (sys : System σ) (r : Run σ) : Run σ :=
  { r with state := { r.state with engine := sys.engine, world := sys.world } }.step ctx env

/-- What there is to report of the next stage of run `k`. -/
def news (ctx : Context) (env : Surroundings σ) (sys : System σ) (k : Nat) : List ConnectEvent :=
  match sys.runs[k]? with
  | some r => (sys.turn ctx env r).state.trace.drop r.state.trace.length
  | none => []

def move (ctx : Context) (env : Surroundings σ) (sys : System σ) : Move σ → System σ
  | .accept client now s =>
    { sys with runs := sys.runs ++ [.start ctx client now s sys.world] }
  | .advance k =>
    match sys.runs[k]? with
    | some r =>
      let q := sys.turn ctx env r
      { engine := q.state.engine
        world := q.state.world
        activity := (sys.news ctx env k).foldl TunnelActivity.note sys.activity
        runs := sys.runs.set k q }
    | none => sys
  | .change w => { sys with world := w }

/-- A system after these moves; at its start there are no runs, and all counts are zero. -/
def after (ctx : Context) (env : Surroundings σ) (w : σ) (moves : List (Move σ)) : System σ :=
  moves.foldl (move ctx env) { engine := ctx.engine, world := w }

/-- **All runs are sound, and the counts are theirs.** -/
structure Balanced (sys : System σ) : Prop where
  sound : ∀ r ∈ sys.runs, ∃ x, Sound r x
  count : ∀ id, sys.activity.connections id = sys.runs.countP (Run.holds id)

variable {sys : System σ}

theorem balanced_start (ctx : Context) (w : σ) :
    Balanced ({ engine := ctx.engine, world := w } : System σ) :=
  ⟨fun _ hr => (nomatch hr), fun _ => rfl⟩

theorem sound_load {x : Custody} (h : Sound r x) (engine : Routing.Engine) (w : σ) :
    Sound { r with state := { r.state with engine, world := w } } x := by
  cases h with
  | apart hApart hStage => exact .apart ⟨hApart.attempts, hApart.outbound⟩ hStage
  | holding hCarries hStage => exact .holding (hCarries.of_reported rfl rfl) hStage
  | released hAttempts hTrace hStage => exact .released hAttempts hTrace hStage

variable (ctx env) in
theorem Balanced.turn (h : Balanced sys) {k : Nat} (hRun : sys.runs[k]? = some r) :
    ∃ x y, Sound r x ∧ Turns x (sys.news ctx env k) y ∧ Sound (sys.turn ctx env r) y := by
  obtain ⟨x, hSound⟩ := h.sound r (List.mem_of_getElem? hRun)
  obtain ⟨report, y, hTurns, hTrace, hNext⟩ :=
    (sound_load hSound sys.engine sys.world).step ctx env
  have hNews : sys.news ctx env k = report := by
    simp only [System.news, hRun]
    rw [System.turn, hTrace]
    exact List.drop_left
  exact ⟨x, y, hSound, hNews ▸ hTurns, hNext⟩

theorem Balanced.pos (h : Balanced sys) {id : Nat} (hr : r ∈ sys.runs)
    (hHolds : r.holds id = true) : 0 < sys.activity.connections id := by
  rw [h.count]
  exact List.countP_pos_iff.mpr ⟨r, hr, hHolds⟩

theorem countP_set_add {α : Type} {l : List α} {k : Nat} {a : α} (ha : l[k]? = some a)
    (p : α → Bool) (b : α) : (l.set k b).countP p + (p a).toNat = l.countP p + (p b).toNat := by
  obtain ⟨hk, rfl⟩ := List.getElem?_eq_some_iff.mp ha
  have hPos : p l[k] = true → 0 < l.countP p := fun h =>
    List.countP_pos_iff.mpr ⟨_, List.getElem_mem hk, h⟩
  rw [List.countP_set hk]
  cases hOld : p l[k] with
  | false => cases p b <;> simp
  | true =>
    have hSome := hPos hOld
    cases p b <;> simp <;> omega

/-- **One move keeps the balance.** -/
theorem Balanced.move (h : Balanced sys) (m : Move σ) : Balanced (sys.move ctx env m) := by
  cases m with
  | change w => exact ⟨h.sound, h.count⟩
  | accept client now s =>
    have hStart : Sound (Run.start ctx client now s sys.world) .none :=
      .apart ⟨fun _ he => (nomatch he), rfl⟩ rfl
    refine ⟨fun r hr => ?_, fun id => ?_⟩
    · rcases List.mem_append.mp hr with hOld | hNew
      · exact h.sound r hOld
      · exact ⟨.none, List.mem_singleton.mp hNew ▸ hStart⟩
    · show _ = (sys.runs ++ [_]).countP _
      rw [List.countP_append, ← h.count, List.countP_singleton, hStart.holds_eq]
      rfl
  | advance k =>
    cases hRun : sys.runs[k]? with
    | none =>
      simp only [System.move, hRun]
      exact h
    | some r =>
      simp only [System.move, hRun]
      obtain ⟨x, y, hSound, hTurns, hNext⟩ := h.turn ctx env hRun
      refine ⟨fun q hq => ?_, fun id => ?_⟩
      · rcases List.mem_or_eq_of_mem_set hq with hOld | rfl
        · exact h.sound q hOld
        · exact ⟨y, hNext⟩
      · have hPos : x.holds id = true → 0 < sys.activity.connections id := fun hHolds =>
          h.pos (List.mem_of_getElem? hRun) ((hSound.holds_eq id).trans hHolds)
        -- The share of the run in the count changes as the count does.
        have hCount := hTurns.count id hPos
        have hRuns := countP_set_add hRun (Run.holds id) (sys.turn ctx env r)
        rw [hSound.holds_eq, hNext.holds_eq] at hRuns
        rw [h.count] at hCount
        dsimp only
        omega

theorem balanced_after (ctx : Context) (env : Surroundings σ) (w : σ) (moves : List (Move σ)) :
    Balanced (after ctx env w moves) := by
  unfold after
  generalize hSys : ({ engine := ctx.engine, world := w } : System σ) = sys
  have hStart : Balanced sys := hSys ▸ balanced_start ctx w
  clear hSys
  induction moves generalizing sys with
  | nil => exact hStart
  | cons m moves ih => exact ih _ (hStart.move m)

end System

/-! ### What follows -/

/-- A count goes down where a run that holds its tunnel closes it, and at once. -/
theorem Turns.closed {x y : Custody} {front back : List ConnectEvent} {id : Nat}
    (h : Turns x (front ++ .closed id :: back) y) : front = [] ∧ x.holds id = true := by
  have hMem : ConnectEvent.closed id ∈ front ++ .closed id :: back := by simp
  generalize hNews : front ++ .closed id :: back = news at h hMem
  cases h with
  | attempts hAttempts => cases hAttempts _ hMem
  | stays => cases hMem
  | @connects first t hAttempts =>
    exfalso
    simp only [List.mem_append, List.mem_singleton, reduceCtorEq, or_false] at hMem
    rcases hMem with hFirst | hOpened
    · cases hAttempts _ hFirst
    · cases t <;> simp [openedEvent] at hOpened
  | @closes t =>
    cases t with
    | null => simp [closedEvent] at hNews
    | direct => simp [closedEvent] at hNews
    | chained c =>
      cases front with
      | nil =>
        obtain ⟨hId, -⟩ := List.cons.inj hNews
        cases hId
        exact ⟨rfl, beq_self_eq_true c.id⟩
      | cons e front => simp [closedEvent] at hNews

theorem silent_of_attempts (hAttempts : Attempts front) (id : Nat) :
    .opened id ∉ front ∧ .closed id ∉ front := by
  constructor
  all_goals
    intro he
    cases hAttempts _ he

/-- A run that has not connected through a chained tunnel changes no count. -/
theorem Sound.silent {x : Custody} (h : Sound r x)
    (hNone : ∀ c, .connected (.chained c) ∉ r.state.trace) (id : Nat) :
    .opened id ∉ r.state.trace ∧ .closed id ∉ r.state.trace := by
  cases h with
  | apart hApart => exact silent_of_attempts hApart.attempts id
  | @holding t hCarries =>
    obtain ⟨front, hAttempts, hTrace⟩ := hCarries.trace
    rw [hTrace] at hNone ⊢
    cases t with
    | chained c => exact absurd (by simp) (hNone c)
    | _ => simpa [openedEvent] using silent_of_attempts hAttempts id
  | @released front t hAttempts hTrace =>
    rw [hTrace] at hNone ⊢
    cases t with
    | chained c => exact absurd (by simp) (hNone c)
    | _ => simpa [openedEvent, closedEvent] using silent_of_attempts hAttempts id

theorem Sound.count_eq {x : Custody} (h : Sound r x) (hEnded : r.stage.isEnded = true) (id : Nat) :
    r.state.trace.count (.opened id) = r.state.trace.count (.closed id) := by
  cases h with
  | apart hApart =>
    obtain ⟨hOpened, hClosed⟩ := silent_of_attempts hApart.attempts id
    rw [List.count_eq_zero.mpr hOpened, List.count_eq_zero.mpr hClosed]
  | holding hCarries hStage =>
    rw [hStage.not_isEnded] at hEnded
    cases hEnded
  | @released front t hAttempts hTrace =>
    obtain ⟨hOpened, hClosed⟩ := silent_of_attempts hAttempts id
    rw [hTrace]
    simp only [List.count_append, List.count_eq_zero.mpr hOpened, List.count_eq_zero.mpr hClosed]
    cases t with
    | chained c => simp [openedEvent, closedEvent, List.count_cons]
    | _ => rfl

/-- **Connection counts balance.**  Whatever the stages of many runs come in, and whatever
fails in them, at every point the count of a tunnel is the number of the runs that have
connected through it and have not closed it yet.  So all counts are zero when all runs are
over, and none is zero when it is to go down.  A run that does not connect through a
chained tunnel changes no count at all, and one that is over has taken back what it has
changed.  Run by run, this is what `handle` does. -/
theorem counts_balance (ctx : Context) (env : Surroundings σ) (w : σ) (moves : List (Move σ)) :
    let sys := System.after ctx env w moves
    (∀ id, sys.activity.connections id = sys.runs.countP (Run.holds id)) ∧
      ((∀ r ∈ sys.runs, r.stage.isEnded = true) → ∀ id, sys.activity.connections id = 0) ∧
      (∀ k front id back, sys.news ctx env k = front ++ .closed id :: back →
        0 < (front.foldl TunnelActivity.note sys.activity).connections id) ∧
      (∀ r ∈ sys.runs, (∀ c, .connected (.chained c) ∉ r.state.trace) →
        ∀ id, .opened id ∉ r.state.trace ∧ .closed id ∉ r.state.trace) ∧
      (∀ r ∈ sys.runs, r.stage.isEnded = true →
        ∀ id, r.state.trace.count (.opened id) = r.state.trace.count (.closed id)) ∧
      ∀ client now s u,
        Finishes ctx env (.start ctx client now s u) (handle ctx env client now s u) := by
  intro sys
  have hBalanced := System.balanced_after ctx env w moves
  refine ⟨hBalanced.count, fun hEnded id => ?_, fun k front id back hNews => ?_,
    fun r hr hNone => ?_, fun r hr hEnded => ?_, finishes_handle ctx env⟩
  · rw [hBalanced.count, List.countP_eq_zero]
    intro r hr
    simp [Run.holds, hEnded r hr]
  · cases hRun : sys.runs[k]? with
    | none => simp [System.news, hRun] at hNews
    | some r =>
      obtain ⟨x, y, hSound, hTurns, -⟩ := hBalanced.turn ctx env hRun
      rw [hNews] at hTurns
      obtain ⟨rfl, hHolds⟩ := hTurns.closed
      exact hBalanced.pos (List.mem_of_getElem? hRun) ((hSound.holds_eq id).trans hHolds)
  · obtain ⟨x, hSound⟩ := hBalanced.sound r hr
    exact hSound.silent hNone
  · obtain ⟨x, hSound⟩ := hBalanced.sound r hr
    exact hSound.count_eq hEnded

/-- Two runs through one relay, the second of which cannot tell its client that it is
connected: the count is two before that run is over, and one afterwards. -/
example :
    let relay : Tunnel := .chained ⟨2, "relay", 1081, none⟩
    let env : Surroundings Unit :=
      { resolve := fun d w => (.ok d, w)
        dial := fun _ w =>
          (.opened { incoming := { bytes := [5, 0, 5, 0, 0, 1, 127, 0, 0, 1, 0, 80] } }, w) }
    let ctx : Context :=
      { engine := ⟨[{ tunnels := [relay], place := ⟨"rules", 1⟩ }], fun _ => 0⟩
        policy := .ofSettings {} }
    let forward : Session := .accept 1 ⟨1, { port := 8080, kind := .forward "host" 80 }⟩ {} 0
    let socks : Session := .accept 2 ⟨2, { port := 1080, kind := .socks }⟩ {} 0
    let gone : Client :=
      { incoming := { bytes := [4, 1, 0, 80, 10, 0, 0, 1, 0] }
        writer := { later := .fails ⟨.brokenPipe, "Broken pipe"⟩ } }
    let both : List (Move Unit) :=
      [.accept { incoming := { bytes := [] } } 0 forward, .accept gone 0 socks] ++
        (List.replicate 5 [.advance 1, .advance 0]).flatten
    (System.after ctx env () both).activity.connections 2 = 2 ∧
      (System.after ctx env () (both ++ [.advance 1, .advance 1])).activity.connections 2 = 1 := by
  decide +kernel

end Handler

end SocksGateway
