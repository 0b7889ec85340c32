import SocksGateway.Proofs.Connector.Faults
import SocksGateway.Proofs.Handler.Consistency

/-!
# The status that a session ends with

A session that has failed keeps the error in its status, with a code for the kind of error and
not for the stage that has failed: a failure of the protocol is one with the client as well as
with a relay.

* `FailsHandshake`, `FailsToConnect`: where a session fails before it is connected.
* `serve_of_failsHandshake`, `serve_of_failsToConnect`: it is served with that error.
* `Ends`, `ends_serve`: what else it can be served with.
* `failure_codes`: which failures have which code.
-/

namespace SocksGateway

namespace Handler

open ConnectionError (Regular regular_ok regular_error)

variable {σ : Type} {ctx : Context} {env : Surroundings σ} {client : Client} {now : Moment}
  {s : Session} {w : σ} {e : ConnectionError}

/-- The client's request is not taken, for that error. -/
def FailsHandshake (ctx : Context) (client : Client) (s : Session) (w : σ)
    (e : ConnectionError) : Prop :=
  ∃ asked, request (start ctx client s w) client.incoming = (asked, .error e)

/-- The client's request is taken, and its connection fails with that error. -/
def FailsToConnect (ctx : Context) (env : Surroundings σ) (client : Client) (s : Session) (w : σ)
    (e : ConnectionError) : Prop :=
  ∃ asked, request (start ctx client s w) client.incoming = (asked, .ok ()) ∧
    (Connector.connect env ctx.policy (route env asked).session (route env asked).world).result =
      .error e

/-! ### What a session is served with -/

theorem serve_of_failsHandshake (h : FailsHandshake ctx client s w e) :
    (serve ctx env client (start ctx client s w)).2 = some (.error e) := by
  obtain ⟨asked, hRequest⟩ := h
  rw [serve, hRequest]

theorem serve_of_failsToConnect (h : FailsToConnect ctx env client s w e) :
    (serve ctx env client (start ctx client s w)).2 = some (.error e) := by
  obtain ⟨asked, hRequest, hFailed⟩ := h
  rw [serve, hRequest]
  simp only [connect_eq, hFailed, answer]

/-- What a session is served with: a failure of its handshake or of its connection, or else
something that is no failure of the protocol.  If there is no result its relay goes on. -/
inductive Ends (ctx : Context) (env : Surroundings σ) (client : Client) (s : Session) (w : σ) :
    State σ × Option (Except ConnectionError Unit) → Prop
  | handshake {st : State σ} {e : ConnectionError} (h : FailsHandshake ctx client s w e) :
      Ends ctx env client s w (st, some (.error e))
  | connect {st : State σ} {e : ConnectionError} (h : FailsToConnect ctx env client s w e) :
      Ends ctx env client s w (st, some (.error e))
  | connected {st : State σ} {result : Except ConnectionError Unit} (hRegular : Regular result) :
      Ends ctx env client s w (st, some result)
  | relaying {st : State σ} (hStatus : st.session.status.code = .okay) :
      Ends ctx env client s w (st, none)

theorem regular_reply (st : State σ) (code : Socks.ReplyCode) (bound : Option Endpoint) :
    Regular (reply st code bound).2 := by
  intro fault hFailed
  rcases failed_reply hFailed with ⟨f, hError⟩ | ⟨hError, -⟩ <;> cases hError

theorem ends_relay (st : State σ) :
    Ends ctx env client s w (relay ctx.idle client.relayed st) := by
  have hFailed (e : ConnectionError) (h : (relay ctx.idle client.relayed st).2 = some (.error e)) :=
    failed_relay h
  have hStatus : (relay ctx.idle client.relayed st).1.session.status.code = .okay := by
    unfold relay
    split <;> rfl
  generalize relay ctx.idle client.relayed st = relayed at hFailed hStatus ⊢
  obtain ⟨st, _ | e | ⟨⟩⟩ := relayed
  · exact .relaying hStatus
  · refine .connected (regular_error fun fault h => ?_)
    obtain ⟨f, hStream⟩ := hFailed e rfl
    rw [hStream] at h
    cases h
  · exact .connected (regular_ok _)

/-- **A session is served to one of these ends.** -/
theorem ends_serve (ctx : Context) (env : Surroundings σ) (client : Client) (s : Session) (w : σ) :
    Ends ctx env client s w (serve ctx env client (start ctx client s w)) := by
  rw [serve]
  rcases hRequest : request (start ctx client s w) client.incoming with ⟨asked, e | ⟨⟩⟩
  · exact .handshake ⟨asked, hRequest⟩
  dsimp only
  rw [connect_eq]
  cases hResult : (Connector.connect env ctx.policy (route env asked).session
      (route env asked).world).result with
  | error e => exact .connect ⟨asked, hRequest, hResult⟩
  | ok c =>
    rw [answer]
    have hReply := regular_reply (State.tried (route env asked) (Connector.connect env ctx.policy
      (route env asked).session (route env asked).world)) .succeeded c.bound
    rcases hSent : reply _ .succeeded c.bound with ⟨st, e | ⟨⟩⟩
    · rw [hSent] at hReply
      exact .connected hReply
    · exact ends_relay st

/-! ### The code of the status -/

theorem failureCode_eq_error_iff :
    failureCode e = .error ↔ ∃ fault, e = .protocol fault := by
  cases e <;> simp [failureCode]

theorem status_handle_of_error
    (h : (serve ctx env client (start ctx client s w)).2 = some (.error e)) :
    (handle ctx env client now s w).session.status = ⟨failureCode e, "Error", e.message⟩ := by
  show (close now (serve ctx env client (start ctx client s w))).session.status = _
  generalize serve ctx env client (start ctx client s w) = served at h
  obtain ⟨st, result⟩ := served
  cases h
  rfl

theorem failureCode_of_failsToConnect (h : FailsToConnect ctx env client s w e) :
    failureCode e = .networkError ∨ ∃ fault, e = .protocol fault := by
  obtain ⟨asked, -, hFailed⟩ := h
  obtain ⟨hRoute, hTunnels⟩ := asked.engine.tunnels_route env.resolve asked.session asked.world
  obtain ⟨-, -, hOutside⟩ := consistent_connect env ctx.policy _ (route env asked).world hRoute
    hTunnels
  have hInternal := hOutside e hFailed
  cases e with
  | protocol fault => exact Or.inr ⟨fault, rfl⟩
  | inconsistency cause => cases hInternal
  | _ => exact Or.inl rfl

/-- **The code goes by the kind of failure.**  A session whose connection fails ends with that
error in its status, as a failure of the network, unless the error is one of the protocol: then
the code is that of such an error.  This happens where, in the last attempt, a stream to the
relay of a chained tunnel was opened, and the name did not fit into a request or the relay
answered with other bytes than those of the protocol.  No session has that code for another
reason than such an error, of its handshake or of its connection. -/
theorem failure_codes (ctx : Context) (env : Surroundings σ) (client : Client) (now : Moment)
    (s : Session) (w : σ) :
    let final := (handle ctx env client now s w).session.status
    (∀ e, FailsToConnect ctx env client s w e →
        (final.name = "Error" ∧ final.description = e.message) ∧
          ((∃ fault, e = .protocol fault) → final.code = .error) ∧
          ((¬ ∃ fault, e = .protocol fault) → final.code = .networkError)) ∧
      (∀ fault, FailsToConnect ctx env client s w (.protocol fault) →
        ∃ (asked : State σ) (r : Rule) (c : ChainedTunnel) (t : Session) (u : σ) (p : Peer),
          request (start ctx client s w) client.incoming = (asked, .ok ()) ∧
            (route env asked).session.route = some r ∧ .chained c ∈ r.tunnels ∧
            Connector.SameBut (route env asked).session t ∧
            (env.dial ⟨IpAddress.loopback, c.socksPort⟩ u).1 = .opened p ∧
            Connector.Breaks c.name t.destination t.addressType p fault) ∧
      (final.code = .error ↔ ∃ fault,
        FailsHandshake ctx client s w (.protocol fault) ∨
          FailsToConnect ctx env client s w (.protocol fault)) := by
  intro final
  have hFinal {e : ConnectionError}
      (h : (serve ctx env client (start ctx client s w)).2 = some (.error e)) :
      final = ⟨failureCode e, "Error", e.message⟩ := status_handle_of_error h
  refine ⟨fun e hFails => ?_, fun fault hFails => ?_, ?_, ?_⟩
  · have hStatus := hFinal (serve_of_failsToConnect hFails)
    rw [hStatus]
    refine ⟨⟨rfl, rfl⟩, fun hProtocol => failureCode_eq_error_iff.mpr hProtocol, fun hNot => ?_⟩
    exact (failureCode_of_failsToConnect hFails).resolve_right hNot
  · obtain ⟨asked, hRequest, hFailed⟩ := hFails
    obtain ⟨hRoute, hTunnels⟩ := asked.engine.tunnels_route env.resolve asked.session asked.world
    obtain ⟨c, t, u, p, hMem, -, hSame, -, hDial, hBreaks⟩ :=
      Connector.exists_breaks_of_connect hRoute hTunnels hFailed
    exact ⟨asked, _, c, t, u, p, hRequest, hRoute, hMem, hSame, hDial, hBreaks⟩
  · intro hCode
    have hEnds := ends_serve ctx env client s w
    have hHandle : final =
        (close now (serve ctx env client (start ctx client s w))).session.status := rfl
    rw [hHandle] at hCode
    generalize serve ctx env client (start ctx client s w) = served at hEnds hCode
    cases hEnds with
    | handshake h =>
      obtain ⟨fault, rfl⟩ := failureCode_eq_error_iff.mp hCode
      exact ⟨fault, Or.inl h⟩
    | connect h =>
      obtain ⟨fault, rfl⟩ := failureCode_eq_error_iff.mp hCode
      exact ⟨fault, Or.inr h⟩
    | @connected st result hRegular =>
      cases result with
      | ok => cases hCode
      | error e =>
        obtain ⟨fault, rfl⟩ := failureCode_eq_error_iff.mp hCode
        exact absurd rfl (hRegular fault)
    | relaying hStatus =>
      rw [show (close now (_, none)).session.status.code = _ from hStatus] at hCode
      cases hCode
  · rintro ⟨fault, h | h⟩
    · rw [hFinal (serve_of_failsHandshake h)]
      rfl
    · rw [hFinal (serve_of_failsToConnect h)]
      rfl

/-- A relay refuses every method: the client's handshake goes well, its connection fails, and
the code is not that of a failure of the network. -/
theorem failure_codes_method_refused :
    let relay : Tunnel := .chained ⟨2, "relay1", 1081, none⟩
    let env : Surroundings Unit :=
      { resolve := fun d w => (.ok d, w)
        dial := fun _ w => (.opened { incoming := { bytes := [5, 0xFF] } }, w) }
    let ctx : Context :=
      { engine := ⟨[{ tunnels := [relay], place := ⟨"rules", 1⟩ }], fun _ => 0⟩
        policy := .ofSettings { maxAttempts := 1 } }
    let client : Client := { incoming := { bytes := [4, 1, 0, 80, 127, 0, 0, 1, 0] } }
    let s : Session := .accept 1 ⟨1, { port := 1080, kind := .socks }⟩ {} 0
    let e : ConnectionError := .protocol (.relayMethod "relay1" [5, 0xFF])
    FailsToConnect ctx env client s () e ∧ e.isInternal = false ∧
      (∀ e, ¬ FailsHandshake ctx client s () e) ∧
      (handle ctx env client 0 s ()).session.status.code = .error := by
  intro relay env ctx client s e
  have hRequest : (request (start ctx client s ()) client.incoming).2 = .ok () := by rfl
  have hFails : FailsToConnect ctx env client s () e :=
    ⟨_, Prod.ext rfl hRequest, by rfl⟩
  refine ⟨hFails, rfl, fun e' h => ?_, by decide +kernel⟩
  obtain ⟨asked, hError⟩ := h
  rw [hError] at hRequest
  cases hRequest

end Handler

end SocksGateway
