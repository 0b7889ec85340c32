import SocksGateway.Proofs.Handler.Counts
import SocksGateway.Proofs.Relay.Exit

/-!
# What never goes wrong inside

Some errors stand for a state that the program's own steps never lead to: a session to
connect that has no route, or one without tunnels, rounds without an attempt, a reply
before the client has said which protocol it speaks.  None of them ever arises.

* `ConnectionError.Consistent`: a result that is not one of these errors.
* `Sane`: a handshake fails for reasons outside, as an attempt does.
* `Stage.Prepared`: what each stage of a run finds in place.
* `Steady.step`: one stage leaves in place what the next one needs; `steady_after`: so do
  the stages of many runs in any order.
* `never_inconsistent`: what follows for decisions, connections and replies.
-/

namespace SocksGateway

namespace ConnectionError

variable {α : Type}

/-- If it is a failure, it is not an internal one. -/
def Consistent (x : Except ConnectionError α) : Prop := ∀ e, x = .error e → e.isInternal = false

@[simp] theorem consistent_ok (a : α) : Consistent (.ok a : Except ConnectionError α) :=
  fun _ h => nomatch h

@[simp] theorem consistent_error {e : ConnectionError} :
    Consistent (.error e : Except ConnectionError α) ↔ e.isInternal = false := by
  constructor
  · intro h
    exact h e rfl
  · rintro h _ ⟨⟩
    exact h

end ConnectionError

open ConnectionError (Consistent consistent_ok consistent_error)

/-! ### Relays without a remote end -/

theorem Sink.failed_run {s : Sink} {inputs : List RelayInput} {e : ConnectionError}
    (hStart : ∀ e, s.exit = some (.failed e) → ∃ f, e = .stream f)
    (hFailed : (s.run inputs).exit = some (.failed e)) : ∃ f, e = .stream f := by
  induction inputs generalizing s with
  | nil => exact hStart e hFailed
  | cons input inputs ih =>
    refine ih (fun g hExit => ?_) hFailed
    unfold Sink.step at hExit
    split at hExit
    · cases input with
      | pass millis =>
        unfold Sink.checkIdle at hExit
        dsimp only at hExit
        repeat' split at hExit
        · exact hStart g hExit
        · cases hExit
        · exact hStart g hExit
      | read side result =>
        cases side with
        | remote => exact hStart g hExit
        | client =>
          dsimp only at hExit
          unfold Sink.onRead at hExit
          repeat' split at hExit
          · cases hExit
          · cases hExit
          · exact hStart g hExit
          · cases hExit
          · cases hExit
            exact ⟨_, rfl⟩
    · exact hStart g hExit

/-! ### Handshakes -/

namespace Socks

namespace Handshake

variable {h : Handshake}

/-- If the handshake has failed, it was for a reason outside. -/
def Sane (h : Handshake) : Prop := ∀ e, h.progress = .failed e → e.isInternal = false

theorem sane_fail {e : ConnectionError} (hError : e.isInternal = false) : (h.fail e).Sane := by
  rintro _ ⟨⟩
  exact hError

theorem sane_obey (h : Handshake) (v : Verdict) : (h.obey v).Sane := by
  cases v with
  | read phase =>
    intro e hFailed
    cases hFailed
  | acceptMethod =>
    rw [obey, mustWrite_eq]
    cases (h.writer.writeAll [Version.v5.number, methodNone]).fault with
    | none =>
      intro e hFailed
      cases hFailed
    | some f =>
      rintro _ ⟨⟩
      rfl
  | refuseMethods methods =>
    rw [obey, mustWrite_eq]
    cases (h.writer.writeAll [Version.v5.number, methodNoneAcceptable]).fault with
    | none =>
      rintro _ ⟨⟩
      rfl
    | some f =>
      rintro _ ⟨⟩
      rfl
  | unsupported version => exact sane_fail rfl
  | invalid fault => exact sane_fail rfl
  | request r =>
    unfold obey settle
    dsimp only
    split
    · intro e hFailed
      cases hFailed
    · rintro _ ⟨⟩
      rfl

theorem Sane.receive (hSane : h.Sane) (b : UInt8) : (h.receive b).Sane := by
  unfold Handshake.receive
  split
  · dsimp only
    split
    · intro e hFailed
      cases hFailed
    · exact sane_obey h _
  · exact hSane

theorem Sane.feed (hSane : h.Sane) (bytes : List UInt8) : (h.feed bytes).1.Sane := by
  induction bytes generalizing h with
  | nil => exact hSane
  | cons b bs ih =>
    unfold Handshake.feed
    split
    · exact ih (hSane.receive b)
    · exact hSane

end Handshake

end Socks

namespace Handler

open Connector (Progress Connected)

variable {σ : Type}

theorem sane_finishHandshake {h : Socks.Handshake} (hSane : h.Sane) (ending : Stream.Ending) :
    (finishHandshake h ending).Sane := by
  cases ending with
  | eof =>
    unfold finishHandshake Socks.Handshake.endOfInput
    dsimp only
    split
    · exact Socks.Handshake.sane_fail rfl
    · exact hSane
  | fault f =>
    unfold finishHandshake Socks.Handshake.readFault
    dsimp only
    repeat' split
    · exact Socks.Handshake.sane_fail rfl
    · exact Socks.Handshake.sane_fail rfl
    · exact hSane
  | silence =>
    unfold finishHandshake
    dsimp only
    split
    · exact Socks.Handshake.sane_fail rfl
    · exact hSane

theorem sane_handshake (st : State σ) (incoming : Stream.Incoming) :
    (handshake st incoming).Sane := by
  refine sane_finishHandshake (Socks.Handshake.Sane.feed ?_ incoming.bytes) incoming.ending
  intro e hFailed
  cases hFailed

theorem consistent_handshakeResult {h : Socks.Handshake} (hSane : h.Sane) :
    Consistent (handshakeResult h) := by
  unfold handshakeResult
  cases hProgress : h.progress with
  | accepted => exact consistent_ok _
  | failed e => exact consistent_error.mpr (hSane e hProgress)
  | reading => exact consistent_error.mpr rfl

/-- A handshake changes nothing of the status, and **if it is accepted it has settled which
protocol the client speaks**, whatever becomes of what is written to the client. -/
theorem session_handshake (st : State σ) (incoming : Stream.Incoming) :
    let h := handshake st incoming
    h.session.status.code = .okay ∧ (h.progress = .accepted → h.session.version ≠ none) := by
  intro h
  obtain ⟨taken, -, -, hStands⟩ : Socks.Handshake.StandsAmong
      (st.session.setStatus .okay "Negotiating" "") st.writer incoming.bytes h := by
    have hFed := (Socks.Handshake.standsAmong_start (st.session.setStatus .okay "Negotiating" "")
      st.writer).feed incoming.bytes
    exact hFed.stop (finishHandshake_stops _ incoming.ending)
  clear_value h
  cases hStands with
  | reading hAt _ _ _ hSession =>
    rw [hSession]
    exact ⟨rfl, fun hEnd => nomatch hAt.symm.trans hEnd⟩
  | failed hAt hSession =>
    rw [hSession]
    exact ⟨rfl, fun hEnd => nomatch hAt.symm.trans hEnd⟩
  | accepted _ _ _ hSession =>
    rw [hSession]
    exact ⟨by rw [Session.status_populate]; rfl, fun _ => by simp⟩
  | refused _ _ hAt hSession =>
    rw [hSession]
    exact ⟨by rw [Session.status_populate]; rfl, fun hEnd => nomatch hAt.symm.trans hEnd⟩

/-! ### The stages -/

/-- The client can be told what its connection has come to, if it waits for that. -/
def CanReply (s : Session) : Prop := s.isForward = true ∨ s.version ≠ none

/-- A tunnel has been tried. -/
def Attempted (trace : List ConnectEvent) : Prop := ∃ n t, .connecting n t ∈ trace

/-- No failure that was reported is an internal one. -/
def Clean (trace : List ConnectEvent) : Prop :=
  ∀ n t e, .failed n t e ∈ trace → e.isInternal = false

/-- **Rounds either have a tunnel to try, or have tried one.** -/
inductive Ready (n left i : Nat) (p : Progress σ) (trace : List ConnectEvent) : Prop
  | due (hLeft : 0 < left) (hFree : p.exhausted[i % n]? = some false)
  | tried {e : ConnectionError} (hError : p.lastError = some e) (hOutside : e.isInternal = false)
      (hTrace : p.trace.toList = trace) (hAttempted : Attempted trace)

/-- **What a stage finds in place**: a session whose client can be told something, a route
with tunnels to connect it by, an attempt that has led to the reply. -/
def Stage.Prepared (st : State σ) : Stage σ → Prop
  | .request | .relay | .relaying | .ended => True
  | .route => CanReply st.session
  | .connect =>
    CanReply st.session ∧ ∃ rule, st.session.route = some rule ∧ rule.tunnels ≠ []
  | .rounds tunnels left i p =>
    (CanReply st.session ∧ p.session = st.session) ∧ Clean p.trace.toList ∧
      p.exhausted.length = tunnels.length ∧ Ready tunnels.length left i p st.trace
  | .reply result => CanReply st.session ∧ Consistent result ∧ Attempted st.trace
  | .tearDown result => Consistent result

/-- **Nothing has gone wrong inside**, and the next stage finds what it needs. -/
structure Steady (r : Run σ) : Prop where
  status : r.state.session.status.code ≠ .internalError
  trace : Clean r.state.trace
  stage : r.stage.Prepared r.state

variable {ctx : Context} {env : Surroundings σ} {r q : Run σ} {st : State σ} {s t : Session}

theorem CanReply.congr (h : CanReply s) (hService : t.service = s.service)
    (hVersion : t.version = s.version) : CanReply t := by
  unfold CanReply Session.isForward at h ⊢
  rw [hService, hVersion]
  exact h

theorem isForward_prepareForward (s : Session) : s.prepareForward.isForward = s.isForward := by
  unfold Session.prepareForward
  split
  · rfl
  · rw [Session.isForward, Session.service_populate, ← Session.isForward]

theorem status_prepareForward (s : Session) : s.prepareForward.status = s.status := by
  unfold Session.prepareForward
  split
  · rfl
  · rw [Session.status_populate]

/-- **A session that has made its request can be told what comes of it.** -/
theorem steady_request (st : State σ) (incoming : Stream.Incoming)
    (hStatus : st.session.status.code ≠ .internalError) :
    let x := request st incoming
    x.1.session.status.code ≠ .internalError ∧ Consistent x.2 ∧
      (x.2 = .ok () → CanReply x.1.session) := by
  by_cases hForward : st.session.isForward = true
  · rw [request, if_pos hForward]
    refine ⟨?_, consistent_ok _, fun _ => Or.inl ?_⟩
    · rw [show st.session.prepareForward.status = _ from status_prepareForward _]
      exact hStatus
    · exact (isForward_prepareForward st.session).trans hForward
  · obtain ⟨hCode, hVersion⟩ := session_handshake st incoming
    rw [request_of_socks st incoming (by simpa using hForward)]
    refine ⟨by simp [hCode], consistent_handshakeResult (sane_handshake st incoming), fun hOk => ?_⟩
    refine Or.inr (hVersion ?_)
    unfold handshakeResult at hOk
    cases hProgress : (handshake st incoming).progress with
    | accepted => rfl
    | failed e => simp [hProgress] at hOk
    | reading => simp [hProgress] at hOk

theorem settled_attempt {t : Tunnel} {w w' : σ} {s' : Session}
    {result : Except ConnectionError Connected} (hReply : CanReply s)
    (hAttempt : Connector.attempt env (Connector.trying s t) t w = (result, s', w')) :
    CanReply (Connector.settled s' result) ∧
      (Connector.settled s' result).status.code ≠ .internalError := by
  obtain ⟨d, hSession⟩ := Connector.session_attempt env (Connector.trying s t) t w
  rw [hAttempt] at hSession
  obtain rfl : s' = { Connector.trying s t with destination := d } := hSession
  have hCode : (StatusCode.okay : StatusCode) ≠ .internalError := by decide
  cases result with
  | ok c => exact ⟨hReply.congr rfl rfl, hCode⟩
  | error e => exact ⟨hReply.congr rfl rfl, hCode⟩

theorem Clean.append {front back : List ConnectEvent} (hFront : Clean front) (hBack : Clean back) :
    Clean (front ++ back) := by
  intro n t e hMem
  rcases List.mem_append.mp hMem with h | h
  · exact hFront n t e h
  · exact hBack n t e h

/-- An event that is not a failure has nothing to hide. -/
theorem clean_events {i : Nat} {t : Tunnel} {result : Except ConnectionError Connected}
    (hOutside : Consistent result) : Clean (Connector.Try.events ⟨i, t, result⟩) := by
  intro n u e hMem
  cases result with
  | ok c =>
    cases t <;> simp [Connector.Try.events, Progress.openedEvent] at hMem
  | error f =>
    simp only [Connector.Try.events, List.mem_cons, reduceCtorEq, ConnectEvent.failed.injEq,
      List.not_mem_nil, or_false, false_or] at hMem
    obtain ⟨-, -, rfl⟩ := hMem
    exact consistent_error.mp hOutside

theorem clean_rest (p : Progress σ) (left : Nat) : Clean (Progress.rest p left) := by
  intro n t e hMem
  unfold Progress.rest at hMem
  split at hMem <;> simp at hMem

theorem attempted_events {front : List ConnectEvent} {i : Nat} {t : Tunnel}
    {result : Except ConnectionError Connected} (back : List ConnectEvent) :
    Attempted (front ++ Connector.Try.events ⟨i, t, result⟩ ++ back) :=
  ⟨i + 1, t, by simp [Connector.Try.events]⟩

/-- **One round** finds a tunnel to try, or one has been tried before. -/
theorem steady_round {tunnels : List Tunnel} {left i : Nat} {p : Progress σ}
    (hReply : CanReply p.session) (hStatus : p.session.status.code ≠ .internalError)
    (hClean : Clean p.trace.toList) (hSlots : p.exhausted.length = tunnels.length)
    (hReady : Ready tunnels.length (left + 1) i p st.trace) :
    let x := Connector.round env tunnels left i p
    Steady (r.goOn (st.follow x) (.afterRound tunnels left i x)) := by
  intro x
  have hEnds : Connector.RoundEnds env tunnels left i p x := Connector.round_ends env left i hSlots
  clear_value x
  cases hEnds with
  | skipped hOut =>
    cases hReady with
    | due _ hFree => exact absurd hFree hOut
    | tried hError hOutside hTrace hAttempted =>
      refine ⟨hStatus, hClean, ⟨hReply, rfl⟩, hClean, hSlots, .tried hError hOutside rfl ?_⟩
      show Attempted p.trace.toList
      rw [hTrace]
      exact hAttempted
  | @connected t c s w q hTurn hFree hAttempt hLeft hLog hReport =>
    obtain ⟨hCan, hCode⟩ := settled_attempt hReply hAttempt
    rw [← (Prod.mk.inj hLeft).1] at hCan hCode
    have hTrace : Clean q.trace.toList := by
      rw [hReport]
      exact hClean.append (clean_events (consistent_ok c))
    refine ⟨hCode, hTrace, hCan, consistent_ok c, ?_⟩
    show Attempted q.trace.toList
    rw [hReport]
    simpa using attempted_events []
  | @failed t e s w q hTurn hFree hAttempt hLeft hExhausted hLog hReport hError =>
    obtain ⟨hCan, hCode⟩ := settled_attempt hReply hAttempt
    rw [← (Prod.mk.inj hLeft).1] at hCan hCode
    have hResult : Consistent (.error e : Except ConnectionError Connected) := by
      have hOutside : Consistent _ :=
        (Connector.sound_attempt env (Connector.trying p.session t) t p.world).outside
      rwa [hAttempt] at hOutside
    have hTrace : Clean q.trace.toList := by
      rw [hReport]
      exact (hClean.append (clean_events hResult)).append (clean_rest q left)
    have hSlots' : q.exhausted.length = tunnels.length := by
      rw [hExhausted]
      split <;> simp [hSlots]
    refine ⟨hCode, hTrace, ⟨hCan, rfl⟩, hTrace, hSlots', ?_⟩
    refine .tried hError (consistent_error.mp hResult) rfl ?_
    show Attempted q.trace.toList
    rw [hReport]
    exact attempted_events _

/-- **Rounds end with a reply to an attempt**, and not for want of one. -/
theorem steady_unconnected {n left i : Nat} {p : Progress σ}
    (hStatus : r.state.session.status.code ≠ .internalError) (hTrace : Clean r.state.trace)
    (hReply : CanReply r.state.session) (hReady : Ready n left i p r.state.trace)
    (hOver : left = 0 ∨ p.isExhausted = true) :
    Steady (r.goOn r.state (.unconnected p)) := by
  cases hReady with
  | due hLeft hFree =>
    rcases hOver with rfl | hOut
    · exact absurd hLeft (Nat.lt_irrefl 0)
    · have hAll := List.all_eq_true.mp hOut false (List.mem_of_getElem? hFree)
      cases hAll
  | @tried e hError hOutside _ hAttempted =>
    refine ⟨hStatus, hTrace, hReply, ?_, hAttempted⟩
    rw [hError]
    exact consistent_error.mpr hOutside

/-- A reply fails on the way to the client, or because no version is known to write it in. -/
theorem failed_reply {code : Socks.ReplyCode} {bound : Option Endpoint} {e : ConnectionError}
    (hFailed : (reply st code bound).2 = .error e) :
    (∃ f, e = .stream f) ∨
      e = .inconsistency .noVersion ∧ st.session.isForward = false ∧ st.session.version = none := by
  unfold reply at hFailed
  split at hFailed
  · cases hFailed
  rename_i hSocks
  cases hVersion : st.session.version with
  | none =>
    rw [hVersion] at hFailed
    cases hFailed
    exact Or.inr ⟨rfl, by simpa using hSocks, rfl⟩
  | some version =>
    obtain ⟨bytes, hEncode⟩ : ∃ bytes, Socks.Reply.encode (some version)
        st.session.addressTypeRequested code bound = .ok bytes := by
      cases version <;> exact ⟨_, rfl⟩
    rw [hVersion] at hFailed
    simp only [Socks.Reply.send, hEncode] at hFailed
    split at hFailed
    · cases hFailed
    rename_i e' hSent
    cases hFailed
    unfold Socks.Reply.sendBytes at hSent
    dsimp only at hSent
    split at hSent
    · cases hSent
      exact Or.inl ⟨_, rfl⟩
    · obtain ⟨f, -, rfl⟩ := Option.map_eq_some_iff.mp hSent
      exact Or.inl ⟨f, rfl⟩

theorem consistent_reply (hReply : CanReply st.session) (code : Socks.ReplyCode)
    (bound : Option Endpoint) : Consistent (reply st code bound).2 := by
  intro e hFailed
  rcases failed_reply hFailed with ⟨f, rfl⟩ | ⟨-, hSocks, hNone⟩
  · rfl
  · rcases hReply with hForward | hVersion
    · rw [hSocks] at hForward
      cases hForward
    · exact absurd hNone hVersion

theorem failed_relay {idle : Option Nat} {inputs : List RelayInput} {e : ConnectionError}
    (hFailed : (relay idle inputs st).2 = some (.error e)) : ∃ f, e = .stream f := by
  have hExit {exit : Option RelayExit} (hResult : resultOf exit = some (.error e)) :
      exit = some (.failed e) := by
    obtain ⟨ended, hSome, hEnded⟩ := Option.map_eq_some_iff.mp hResult
    cases ended with
    | closed => cases hEnded
    | idle => cases hEnded
    | failed e' =>
      cases hEnded
      exact hSome
  unfold relay at hFailed
  dsimp only at hFailed
  split at hFailed
  · rename_i peer _
    have hHeard := (Relay.heard_start idle st.writer peer.writer).run inputs
    obtain ⟨-, -, f, -, -, hError⟩ := (hHeard.verdict.failed_iff e).mp (hExit hFailed)
    exact ⟨f, hError⟩
  · exact Sink.failed_run (by simp) (hExit hFailed)

theorem consistent_relay (idle : Option Nat) (inputs : List RelayInput) (st : State σ)
    {result : Except ConnectionError Unit} (hResult : (relay idle inputs st).2 = some result) :
    Consistent result := by
  rintro e rfl
  obtain ⟨f, rfl⟩ := failed_relay hResult
  rfl

/-! ### One stage -/

theorem status_record {result : Except ConnectionError Unit} (hOutside : Consistent result) :
    (record s result).status.code ≠ .internalError := by
  cases result with
  | ok => simp [record, Session.setStatus]
  | error e =>
    have hError := consistent_error.mp hOutside
    cases e with
    | inconsistency cause => cases hError
    | _ => simp [record, Session.setStatus, failureCode]

/-- The rounds of a route with tunnels have a tunnel to try. -/
theorem prepared_firstRound (policy : RetryPolicy) (hReply : CanReply st.session) {rule : Rule}
    (hRoute : st.session.route = some rule) (hTunnels : rule.tunnels ≠ []) :
    (Stage.firstRound policy st.session st.world).Prepared st := by
  have hPos : 0 < rule.tunnels.length := List.length_pos_iff.mpr hTunnels
  have hSome : rule.tunnels.isEmpty = false := by simpa using hTunnels
  have hFirst : Stage.firstRound policy st.session st.world =
      .rounds rule.tunnels (policy.limit rule.tunnels.length) 0
        { session := st.session, world := st.world
          exhausted := List.replicate rule.tunnels.length false } := by
    rw [Stage.firstRound, hRoute]
    exact if_neg (by simp [hSome])
  rw [hFirst]
  refine ⟨⟨hReply, rfl⟩, by simp [Clean], List.length_replicate, ?_⟩
  exact .due (policy.limit_pos _) (by simp [hPos])

theorem keeps_reply (st : State σ) (code : Socks.ReplyCode) (bound : Option Endpoint) :
    (reply st code bound).1.session = st.session ∧ (reply st code bound).1.trace = st.trace :=
  ⟨session_reply st code bound, congrArg Prod.fst (reported_reply st code bound)⟩

variable (ctx env) in
/-- **One stage leaves in place what the next one needs.** -/
theorem Steady.step (h : Steady r) : Steady (r.step ctx env) := by
  obtain ⟨client, now, st, stage⟩ := r
  obtain ⟨hStatus, hTrace, hStage⟩ := h
  cases stage with
  | request =>
    obtain ⟨hCode, hResult, hReply⟩ := steady_request st client.incoming hStatus
    have hSame := congrArg Prod.fst (reported_request st client.incoming)
    simp only [Run.step, Run.goOn]
    generalize request st client.incoming = x at hCode hResult hReply hSame
    obtain ⟨asked, result⟩ := x
    have hClean : Clean asked.trace := by
      rw [show asked.trace = st.trace from hSame]
      exact hTrace
    cases result with
    | ok => exact ⟨hCode, hClean, hReply rfl⟩
    | error e => exact ⟨hCode, hClean, hResult⟩
  | route =>
    obtain ⟨t, route, hSame, hSession⟩ := sameBut_route env st
    obtain ⟨hRoute, hTunnels⟩ := st.engine.tunnels_route env.resolve st.session st.world
    refine ⟨?_, hTrace, ?_, _, hRoute, hTunnels⟩
    · show (Handler.route env st).session.status.code ≠ _
      rw [hSession, hSame]
      exact hStatus
    · show CanReply (Handler.route env st).session
      rw [hSession, hSame]
      exact CanReply.congr hStage rfl rfl
  | connect =>
    obtain ⟨hReply, rule, hRoute, hTunnels⟩ := hStage
    exact ⟨hStatus, hTrace, prepared_firstRound ctx.policy hReply hRoute hTunnels⟩
  | rounds tunnels left i p =>
    obtain ⟨⟨hReply, hSession⟩, hClean, hSlots, hReady⟩ := hStage
    cases left with
    | zero => exact steady_unconnected hStatus hTrace hReply hReady (Or.inl rfl)
    | succ left =>
      rw [Run.step]
      dsimp only
      split
      · rename_i hOut
        exact steady_unconnected hStatus hTrace hReply hReady (Or.inr hOut)
      · rw [← hSession] at hReply hStatus
        refine steady_round (p := { p with world := st.world }) hReply hStatus hClean hSlots ?_
        cases hReady with
        | due hLeft hFree => exact .due hLeft hFree
        | tried hError hOutside hSame hAttempted => exact .tried hError hOutside hSame hAttempted
  | reply result =>
    obtain ⟨hReply, hResult, -⟩ := hStage
    cases result with
    | error e =>
      obtain ⟨hSession, hSame⟩ := keeps_reply st e.replyCode none
      simp only [Run.step, Run.goOn, answer]
      generalize (reply st e.replyCode none).1 = replied at hSession hSame
      rw [← hSession] at hStatus
      rw [← hSame] at hTrace
      exact ⟨hStatus, hTrace, consistent_error.mpr (consistent_error.mp hResult)⟩
    | ok c =>
      have hSent := consistent_reply hReply .succeeded c.bound
      obtain ⟨hSession, hSame⟩ := keeps_reply st .succeeded c.bound
      simp only [Run.step, Run.goOn, answer]
      generalize reply st .succeeded c.bound = x at hSent hSession hSame
      obtain ⟨replied, sent⟩ := x
      rw [← hSession] at hStatus
      rw [← hSame] at hTrace
      cases sent with
      | ok => exact ⟨hStatus, hTrace, trivial⟩
      | error e => exact ⟨hStatus, hTrace, hSent⟩
  | relay =>
    have hRelayed (result : Except ConnectionError Unit)
        (hResult : (Handler.relay ctx.idle client.relayed st).2 = some result) :
        Consistent result := consistent_relay ctx.idle client.relayed st hResult
    have hSame := congrArg Prod.fst (reported_relay ctx.idle client.relayed st)
    have hCode : (Handler.relay ctx.idle client.relayed st).1.session.status.code = .okay := by
      unfold Handler.relay
      split <;> rfl
    simp only [Run.step, Run.goOn]
    generalize Handler.relay ctx.idle client.relayed st = x at hRelayed hSame hCode
    obtain ⟨relayed, result⟩ := x
    have hClean : Clean relayed.trace := by
      rw [show relayed.trace = st.trace from hSame]
      exact hTrace
    refine ⟨by simp [show relayed.session.status.code = _ from hCode], hClean, ?_⟩
    cases result with
    | none => trivial
    | some result => exact hRelayed result rfl
  | relaying => exact ⟨hStatus, hTrace, trivial⟩
  | tearDown result =>
    refine ⟨status_record hStage, hTrace.append fun n t e hMem => ?_, trivial⟩
    unfold closedEvents at hMem
    split at hMem <;> simp at hMem
  | ended => exact ⟨hStatus, hTrace, trivial⟩

theorem steady_start (client : Client) (now : Moment) (w : σ)
    (hStatus : s.status.code ≠ .internalError) : Steady (.start ctx client now s w) :=
  ⟨hStatus, fun _ _ _ hMem => (nomatch hMem), trivial⟩

/-! ### Every run -/

/-- **What holds of a run at its start, and is kept by its stages, holds of all runs**, in
whichever order their stages come and whatever becomes of what they share. -/
theorem System.forall_after {P : Run σ → Prop} {moves : List (Move σ)} (w : σ)
    (hStart : ∀ client now s u, .accept client now s ∈ moves → P (.start ctx client now s u))
    (hLoad : ∀ r engine u, P r → P { r with state := { r.state with engine, world := u } })
    (hStep : ∀ r, P r → P (r.step ctx env)) : ∀ r ∈ (System.after ctx env w moves).runs, P r := by
  unfold System.after
  generalize hSys : ({ engine := ctx.engine, world := w } : System σ) = sys
  have hRuns : ∀ r ∈ sys.runs, P r := by
    rw [← hSys]
    exact fun r hr => nomatch hr
  clear hSys
  induction moves generalizing sys with
  | nil => exact hRuns
  | cons m moves ih =>
    refine ih (fun client now s u hMem => hStart client now s u (List.mem_cons_of_mem m hMem)) _ ?_
    cases m with
    | change u => exact hRuns
    | accept client now s =>
      intro r hr
      rcases List.mem_append.mp hr with hOld | hNew
      · exact hRuns r hOld
      · rw [List.mem_singleton.mp hNew]
        exact hStart client now s sys.world (List.mem_cons_self ..)
    | advance k =>
      cases hRun : sys.runs[k]? with
      | none => simpa only [System.move, hRun] using hRuns
      | some r =>
        have hNext : P (sys.turn ctx env r) :=
          hStep _ (hLoad r sys.engine sys.world (hRuns r (List.mem_of_getElem? hRun)))
        simp only [System.move, hRun]
        intro q hq
        rcases List.mem_or_eq_of_mem_set hq with hOld | rfl
        · exact hRuns q hOld
        · exact hNext

/-- What a stage finds in place does not depend on the rules or on the world outside. -/
theorem Steady.load (h : Steady r) (engine : Routing.Engine) (w : σ) :
    Steady { r with state := { r.state with engine, world := w } } := by
  obtain ⟨client, now, st, stage⟩ := r
  obtain ⟨hStatus, hTrace, hStage⟩ := h
  refine ⟨hStatus, hTrace, ?_⟩
  cases stage <;> exact hStage

theorem Leads.steady (hLeads : Leads ctx env r q) (h : Steady r) : Steady q := by
  induction hLeads with
  | here => exact h
  | step _ ih => exact ih (h.step ctx env)

theorem steady_handle (ctx : Context) (env : Surroundings σ) (client : Client) (now : Moment)
    (w : σ) (hStatus : s.status.code ≠ .internalError) :
    (handle ctx env client now s w).session.status.code ≠ .internalError ∧
      Clean (handle ctx env client now s w).trace := by
  obtain ⟨q, hLeads, -, hState⟩ := finishes_handle ctx env client now s w
  have hSteady := hLeads.steady (steady_start client now w hStatus)
  rw [← hState]
  exact ⟨hSteady.status, hSteady.trace⟩

/-- **The result that a session is served with is no internal error**: it would be in the
status. -/
theorem consistent_serve (ctx : Context) (env : Surroundings σ) (client : Client) (w : σ)
    (hStatus : s.status.code ≠ .internalError) {result : Except ConnectionError Unit}
    (hResult : (serve ctx env client (start ctx client s w)).2 = some result) :
    Consistent result := by
  have hHandled := (steady_handle ctx env client 0 w hStatus).1
  have hEnd : (handle ctx env client 0 s w).session.status =
      (record (serve ctx env client (start ctx client s w)).1.session result).status := by
    show (close 0 (serve ctx env client (start ctx client s w))).session.status = _
    generalize serve ctx env client (start ctx client s w) = served at hResult
    obtain ⟨st, outcome⟩ := served
    cases hResult
    rfl
  rw [hEnd] at hHandled
  rintro e rfl
  cases e with
  | inconsistency cause => exact absurd rfl hHandled
  | _ => rfl

/-- **A connection for which a decision was made is attempted**, and fails for reasons
outside. -/
theorem consistent_connect (env : Surroundings σ) (policy : RetryPolicy) (s : Session) (w : σ)
    {rule : Rule} (hRoute : s.route = some rule) (hTunnels : rule.tunnels ≠ []) :
    let o := Connector.connect env policy s w
    o.attempts ≠ [] ∧
      (∀ a ∈ o.attempts, ∀ e, a.error = some e → e.isInternal = false) ∧ Consistent o.result := by
  intro o
  obtain ⟨tries, hSome, hTried, -, hLog, -, hResult⟩ :=
    Connector.connectVia_tries env policy s w hTunnels
  rw [← Connector.connect_of_route hRoute hTunnels] at hTried hLog hResult
  have hTry : ∀ t ∈ tries, Consistent t.result := by
    intro t ht
    obtain ⟨s', w', hAttempt⟩ := hTried.attempt_of_mem ht
    rw [← hAttempt]
    exact (Connector.sound_attempt env s' t.tunnel w').outside
  refine ⟨?_, fun a ha e hError => ?_, ?_⟩
  · rw [show o.attempts = _ from hLog]
    simpa using hSome
  · rw [show o.attempts = _ from hLog] at ha
    obtain ⟨t, ht, rfl⟩ := List.mem_map.mp ha
    refine hTry t ht e ?_
    unfold Connector.Try.entry Connector.Try.error? at hError
    cases hOutcome : t.result with
    | ok c => simp [hOutcome] at hError
    | error f => simpa [hOutcome] using hError
  · rw [List.getLast?_eq_some_getLast hSome, Option.map_some, Option.some_inj] at hResult
    rw [show o.result = _ from hResult.symm]
    exact hTry _ (List.getLast_mem hSome)

/-- **No internal error ever arises.**  Whatever clients send, and whatever becomes of
lookups, attempts and writes, every stage of every run finds in place what it needs: a
decision leaves a route with tunnels, a connection is attempted at least once, and no reply
is made before the client has said which protocol it speaks.  So no failure that is reported
or that a session ends with is an internal one, and none is recorded in a status.  The
sessions need only not to begin with such a status. -/
theorem never_inconsistent (ctx : Context) (env : Surroundings σ) (w : σ) (moves : List (Move σ))
    (hFresh : ∀ client now s, .accept client now s ∈ moves → s.status.code ≠ .internalError) :
    (∀ r ∈ (System.after ctx env w moves).runs, Steady r ∧
        ∀ result, r.stage = .reply result → r.state.session.isForward = false →
          ∀ code bound, ∃ bytes, Socks.Reply.encode r.state.session.version
            r.state.session.addressTypeRequested code bound = .ok bytes) ∧
      (∀ (e : Routing.Engine) s u policy,
        let d := e.route env.resolve s u
        let o := Connector.connect env policy d.session d.world
        (d.session.route = some d.route ∧ d.route.tunnels ≠ []) ∧ o.attempts ≠ [] ∧
          (∀ a ∈ o.attempts, ∀ e, a.error = some e → e.isInternal = false) ∧
          Consistent o.result) ∧
      ∀ client now s u, s.status.code ≠ .internalError →
        (∀ result, (serve ctx env client (start ctx client s u)).2 = some result →
          Consistent result) ∧
        (handle ctx env client now s u).session.status.code ≠ .internalError ∧
        Clean (handle ctx env client now s u).trace := by
  refine ⟨fun r hr => ?_, fun e s u policy => ?_, fun client now s u hStatus => ?_⟩
  · have hSteady : Steady r :=
      System.forall_after w
        (fun client now s u hMem => steady_start client now u (hFresh client now s hMem))
        (fun r engine u h => h.load engine u) (fun r h => h.step ctx env) r hr
    refine ⟨hSteady, fun result hStage hSocks code bound => ?_⟩
    have hPrepared := hSteady.stage
    rw [hStage] at hPrepared
    have hVersion := hPrepared.1.resolve_left (by simp [hSocks])
    obtain ⟨version, hSome⟩ := Option.ne_none_iff_exists'.mp hVersion
    rw [hSome]
    cases version <;> exact ⟨_, rfl⟩
  · obtain ⟨hRoute, hTunnels⟩ := e.tunnels_route env.resolve s u
    exact ⟨⟨hRoute, hTunnels⟩, consistent_connect env policy _ _ hRoute hTunnels⟩
  · exact ⟨fun result => consistent_serve ctx env client u hStatus,
      steady_handle ctx env client now u hStatus⟩

/-- The only rule has no tunnels, its lookups fail, and no stream can be opened: the session
goes direct and ends with a failure of the network. -/
theorem never_inconsistent_unroutable :
    let env : Surroundings Unit :=
      .cutOff (fun _ w => (.error .noHostname, w)) ⟨.connectionRefused, "refused"⟩
    let ctx : Context :=
      { engine := ⟨[{ resolveDns := true, place := ⟨"rules", 1⟩ }], fun _ => 0⟩
        policy := .ofSettings { maxAttempts := 1 } }
    let s : Session := .accept 1 ⟨1, { port := 1080, kind := .socks }⟩ {} 0
    let client : Client := { incoming := { bytes := [5, 1, 0, 5, 1, 0, 1, 127, 0, 0, 1, 0, 80] } }
    let moves : List (Move Unit) := .accept client 0 s :: List.replicate 7 (.advance 0)
    (∀ client now s, .accept client now s ∈ moves → s.status.code ≠ .internalError) ∧
      (∀ r ∈ (System.after ctx env () moves).runs, Steady r ∧ r.stage.isEnded = true) ∧
      (handle ctx env client 0 s ()).session.status.code = .networkError := by
  intro env ctx s client moves
  have hFresh : ∀ client now s, .accept client now s ∈ moves → s.status.code ≠ .internalError := by
    intro client' now s' hMem
    obtain ⟨-, -, rfl⟩ : client' = client ∧ now = 0 ∧ s' = s := by simpa [moves] using hMem
    decide
  obtain ⟨hRuns, -, -⟩ := never_inconsistent ctx env () moves hFresh
  have hEnded : ∀ r ∈ (System.after ctx env () moves).runs, r.stage.isEnded = true := by
    have hAll : (System.after ctx env () moves).runs.all (fun r => r.stage.isEnded) = true := by
      decide +kernel
    exact List.all_eq_true.mp hAll
  exact ⟨hFresh, fun r hr => ⟨(hRuns r hr).1, hEnded r hr⟩, by decide +kernel⟩

end Handler

end SocksGateway
