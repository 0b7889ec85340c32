import SocksGateway.Proofs.Handler.Replies

/-!
# The stages of a session

`Handler.handle` handles a connection in one go.  Here it is cut into the stages between
which the handling of other connections may go on: the request, the route, each round of
the tunnels, the reply, the relay and the end.

* `Run.step`: the next stage of a run.
* `leads_rounds`, `leads_tried`, `finishes_reply`: what a run that has the world to itself
  does from one stage on.
* `finishes_handle`: such a run does what `handle` does.
-/

namespace SocksGateway

namespace Handler

open Connector (Progress Connected)

variable {σ : Type}

/-- What comes next for a connection. -/
inductive Stage (σ : Type) where
  | request
  | route
  | connect
  /-- Round `i` of these tunnels, the first of `left` rounds to come. -/
  | rounds (tunnels : List Tunnel) (left i : Nat) (progress : Progress σ)
  | reply (result : Except ConnectionError Connected)
  | relay
  /-- Nothing, while the relay goes on. -/
  | relaying
  | tearDown (result : Except ConnectionError Unit)
  | ended

namespace Stage

/-- The next stage, unless the session has failed. -/
def next (stage : Stage σ) : Except ConnectionError Unit → Stage σ
  | .ok () => stage
  | .error e => .tearDown (.error e)

/-- What comes after a relay. -/
def afterRelay : Option (Except ConnectionError Unit) → Stage σ
  | some result => .tearDown result
  | none => .relaying

/-- The first round of a route's tunnels, if there can be one. -/
def firstRound (policy : RetryPolicy) (s : Session) (w : σ) : Stage σ :=
  match s.route with
  | none => .reply (.error (.inconsistency .noRoute))
  | some rule =>
    if rule.tunnels.isEmpty then .reply (.error (.inconsistency .routeWithoutTunnels))
    else
      .rounds rule.tunnels (policy.limit rule.tunnels.length) 0
        { session := s, world := w, exhausted := List.replicate rule.tunnels.length false }

/-- The end of rounds none of which has connected. -/
def unconnected (p : Progress σ) : Stage σ :=
  .reply (.error (p.lastError.getD (.inconsistency .noAttempt)))

/-- What comes after a round. -/
def afterRound (tunnels : List Tunnel) (left i : Nat) :
    Progress σ × Option Connected → Stage σ
  | (_, some c) => .reply (.ok c)
  | (p, none) => .rounds tunnels left (i + 1) p

end Stage

/-- The state of a session after rounds. -/
def State.follow (st : State σ) (out : Progress σ × Option Connected) : State σ :=
  { st with
    session := out.1.session
    world := out.1.world
    trace := out.1.trace.toList
    outbound :=
      match out.2 with
      | some c => c.outbound
      | none => st.outbound }

/-- Tells the client what its connection has come to. -/
def answer (st : State σ) :
    Except ConnectionError Connected → State σ × Except ConnectionError Unit
  | .error e => ((reply st e.replyCode none).1, .error e)
  | .ok c => reply st .succeeded c.bound

/-- The handling of a connection, up to a stage; `now` is the time at which it ends. -/
structure Run (σ : Type) where
  client : Client
  now : Moment
  state : State σ
  stage : Stage σ

namespace Run

/-- A connection is accepted. -/
def start (ctx : Context) (client : Client) (now : Moment) (s : Session) (w : σ) : Run σ :=
  ⟨client, now, Handler.start ctx client s w, .request⟩

/-- The run goes on. -/
def goOn (r : Run σ) (st : State σ) (stage : Stage σ) : Run σ := { r with state := st, stage }

/-- One more stage. -/
def step (ctx : Context) (env : Surroundings σ) (r : Run σ) : Run σ :=
  match r.stage with
  | .request =>
    let x := Handler.request r.state r.client.incoming
    r.goOn x.1 (Stage.route.next x.2)
  | .route => r.goOn (Handler.route env r.state) .connect
  | .connect => r.goOn r.state (.firstRound ctx.policy r.state.session r.state.world)
  | .rounds _ 0 _ p => r.goOn r.state (.unconnected p)
  | .rounds tunnels (left + 1) i p =>
    if p.isExhausted then r.goOn r.state (.unconnected p)
    else
      let x := Connector.round env tunnels left i { p with world := r.state.world }
      r.goOn (r.state.follow x) (.afterRound tunnels left i x)
  | .reply result =>
    let x := answer r.state result
    r.goOn x.1 (Stage.relay.next x.2)
  | .relay =>
    let x := Handler.relay ctx.idle r.client.relayed r.state
    r.goOn x.1 (.afterRelay x.2)
  | .tearDown result =>
    let st := { r.state with session := record r.state.session result }
    r.goOn (Handler.tearDown r.now st) .ended
  | .relaying => r
  | .ended => r

end Run

/-! ### A run that has the world to itself -/

/-- Some stages on, the first run is the second one. -/
inductive Leads (ctx : Context) (env : Surroundings σ) : Run σ → Run σ → Prop
  | here {r : Run σ} : Leads ctx env r r
  | step {r q : Run σ} (hRest : Leads ctx env (r.step ctx env) q) : Leads ctx env r q

variable {ctx : Context} {env : Surroundings σ} {client : Client} {now : Moment} {st : State σ}

theorem Leads.trans {r q p : Run σ} (hrq : Leads ctx env r q) (hqp : Leads ctx env q p) :
    Leads ctx env r p := by
  induction hrq with
  | here => exact hqp
  | step _ ih => exact .step (ih hqp)

/-- What rounds have come to. -/
def outcome (out : Progress σ × Option Connected) : Except ConnectionError Connected :=
  match out.2 with
  | some c => .ok c
  | none => .error (out.1.lastError.getD (.inconsistency .noAttempt))

variable (ctx env client now st) in
theorem leads_rounds (tunnels : List Tunnel) (left i : Nat) (p : Progress σ) :
    Leads ctx env ⟨client, now, st.follow (p, none), .rounds tunnels left i p⟩
      ⟨client, now, st.follow (Connector.rounds env tunnels left i p),
        .reply (outcome (Connector.rounds env tunnels left i p))⟩ := by
  induction left generalizing i p with
  | zero => exact .step (by rw [Run.step]; exact .here)
  | succ left ih =>
    refine .step ?_
    rw [Connector.rounds_succ]
    by_cases hOut : p.isExhausted = true
    · simp only [Run.step, hOut, if_true]
      exact .here
    · simp only [Run.step, hOut, if_false, Bool.false_eq_true]
      have hWorld : { p with world := (st.follow (p, none)).world } = p := rfl
      rw [hWorld]
      rcases Connector.round env tunnels left i p with ⟨q, _ | c⟩
      · exact ih (i + 1) q
      · exact .here

/-- The state of a session for which a connection was tried. -/
def State.tried (st : State σ) (o : Connector.Outcome σ) : State σ :=
  { st with
    session := o.session
    world := o.world
    trace := o.trace
    outbound :=
      match o.result with
      | .ok c => c.outbound
      | .error _ => st.outbound }

theorem connect_eq (env : Surroundings σ) (policy : RetryPolicy) (st : State σ) :
    connect env policy st =
      answer (st.tried (Connector.connect env policy st.session st.world))
        (Connector.connect env policy st.session st.world).result := by
  unfold connect State.tried
  dsimp only
  cases (Connector.connect env policy st.session st.world).result <;> rfl

/-- **The outbound connection is made** in rounds, if the session has a route for it. -/
theorem leads_tried (st : State σ) (hTrace : st.trace = []) :
    let o := Connector.connect env ctx.policy st.session st.world
    Leads ctx env ⟨client, now, st, .connect⟩ ⟨client, now, st.tried o, .reply o.result⟩ := by
  intro o
  refine .step ?_
  -- What connecting reports takes the place of the trace, which has to be empty before.
  simp only [Run.step, Run.goOn, Stage.firstRound]
  cases hRoute : st.session.route with
  | none =>
    have ho : o = ⟨.error (.inconsistency .noRoute), st.session, [], [], st.world, []⟩ := by
      simp only [o, Connector.connect, hRoute]
    simp only [ho, State.tried, ← hTrace]
    exact .here
  | some rule =>
    dsimp only
    by_cases hEmpty : rule.tunnels.isEmpty = true
    · have ho : o =
          ⟨.error (.inconsistency .routeWithoutTunnels), st.session, [], [], st.world, []⟩ := by
        simp only [o, Connector.connect, hRoute, hEmpty, if_true]
      rw [if_pos hEmpty]
      simp only [ho, State.tried, ← hTrace]
      exact .here
    · have ho : o = Connector.connectVia env ctx.policy rule.tunnels st.session st.world :=
        Connector.connect_of_route hRoute (by simpa using hEmpty)
      rw [if_neg hEmpty, ho]
      let p : Progress σ :=
        { session := st.session, world := st.world
          exhausted := List.replicate rule.tunnels.length false }
      have hStart : st.follow (p, none) = st := by
        rw [show st.follow (p, none) = { st with trace := [] } from rfl, ← hTrace]
      have hRounds := leads_rounds ctx env client now st rule.tunnels
        (ctx.policy.limit rule.tunnels.length) 0 p
      rw [hStart] at hRounds
      refine hRounds.trans ?_
      rw [Connector.connectVia]
      rcases Connector.rounds env rule.tunnels (ctx.policy.limit rule.tunnels.length) 0 p with
        ⟨q, _ | c⟩
      · exact .here
      · exact .here

/-- A run is done when it is over, and when its relay goes on. -/
def Stage.isDone : Stage σ → Bool
  | .ended => true
  | .relaying => true
  | _ => false

/-- The run leads to the end of a session, with this state. -/
def Finishes (ctx : Context) (env : Surroundings σ) (r : Run σ) (st : State σ) : Prop :=
  ∃ q, Leads ctx env r q ∧ q.stage.isDone = true ∧ q.state = st

theorem Leads.finishes {r q : Run σ} (h : Leads ctx env r q) (hq : Finishes ctx env q st) :
    Finishes ctx env r st := by
  obtain ⟨p, hLeads, hDone, hState⟩ := hq
  exact ⟨p, h.trans hLeads, hDone, hState⟩

/-- What becomes of a session that has been served. -/
def close (now : Moment) : State σ × Option (Except ConnectionError Unit) → State σ
  | (st, none) => st
  | (st, some result) => tearDown now { st with session := record st.session result }

theorem finishes_tearDown (st : State σ) (result : Except ConnectionError Unit) :
    Finishes ctx env ⟨client, now, st, .tearDown result⟩ (close now (st, some result)) :=
  ⟨_, .step .here, rfl, rfl⟩

theorem finishes_relay (st : State σ) :
    Finishes ctx env ⟨client, now, st, .relay⟩ (close now (relay ctx.idle client.relayed st)) := by
  refine (Leads.step .here).finishes ?_
  simp only [Run.step, Run.goOn]
  rcases relay ctx.idle client.relayed st with ⟨relayed, _ | result⟩
  · exact ⟨_, .here, rfl, rfl⟩
  · exact finishes_tearDown relayed result

theorem finishes_reply (st : State σ) (result : Except ConnectionError Connected) :
    Finishes ctx env ⟨client, now, st, .reply result⟩
      (close now
        (match answer st result with
        | (st, .error e) => (st, some (.error e))
        | (st, .ok ()) => relay ctx.idle client.relayed st)) := by
  refine (Leads.step .here).finishes ?_
  simp only [Run.step, Run.goOn]
  rcases answer st result with ⟨answered, e | ⟨⟩⟩
  · exact finishes_tearDown answered _
  · exact finishes_relay answered

/-- What was reported of a session, and the stream that it holds. -/
def reported (st : State σ) : List ConnectEvent × Option Peer := (st.trace, st.outbound)

theorem reported_request (st : State σ) (incoming : Stream.Incoming) :
    reported (request st incoming).1 = reported st := by
  unfold request negotiate
  dsimp only
  repeat' split
  all_goals rfl

/-- **A run that has the world to itself does what `handle` does.** -/
theorem finishes_handle (ctx : Context) (env : Surroundings σ) (client : Client) (now : Moment)
    (s : Session) (w : σ) :
    Finishes ctx env (.start ctx client now s w) (handle ctx env client now s w) := by
  have hTrace := congrArg Prod.fst (reported_request (start ctx client s w) client.incoming)
  have hHandle : handle ctx env client now s w =
      close now (serve ctx env client (start ctx client s w)) := rfl
  rw [hHandle, serve]
  refine (Leads.step .here).finishes ?_
  simp only [Run.step, Run.goOn, Run.start]
  rcases hRequest : request (start ctx client s w) client.incoming with ⟨asked, e | ⟨⟩⟩
  · exact finishes_tearDown asked _
  · rw [hRequest] at hTrace
    refine (Leads.step .here).finishes ?_
    refine (leads_tried (route env asked) hTrace).finishes ?_
    dsimp only
    rw [connect_eq]
    exact finishes_reply _ _

end Handler

end SocksGateway
