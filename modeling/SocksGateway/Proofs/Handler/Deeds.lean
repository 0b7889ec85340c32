import SocksGateway.Proofs.Connector.Addressing
import SocksGateway.Proofs.Handler.Counts
import SocksGateway.Proofs.Relay.Safety
import SocksGateway.Proofs.Routing.Changes

/-!
# What is done to a session

Once a client's request is known its session is worked on: rules and lookups send it elsewhere,
tunnels are tried, bytes are relayed, and at last it ends.  What was put on record of the
request stays.

* `Continues`: a later state of a session goes on with what an earlier one has on record.
* `Deed`, `Deed.continues`: whatever is done to a session whose request is known goes on with
  what is on record.
* `Populated`, `Handler.populated_request`: how a session's request becomes known.
* `Handler.leads_handle`, `Handler.leads_relay_append`: from then on a handler does such deeds
  only, and so does its relay from any of its inputs on.
-/

namespace SocksGateway

variable {σ : Type} {env : Surroundings σ} {s t u : Session}

/-! ### Byte counts -/

theorem add_toUInt64 (a : UInt64) (m n : Nat) :
    a + (m + n).toUInt64 = a + m.toUInt64 + n.toUInt64 := by
  rw [UInt64.add_assoc]
  exact congrArg _ (UInt64.ofNat_add m n)

theorem le_of_counted {a b c : UInt64} {m n : Nat} (hb : b = a + m.toUInt64)
    (hc : c = b + n.toUInt64) (hBound : a.toNat + (m + n) < 2 ^ 64) : b ≤ c := by
  have hAdd {a : UInt64} {n : Nat} (h : a.toNat + n < 2 ^ 64) :
      (a + n.toUInt64).toNat = a.toNat + n := by
    have hSmall : n.toUInt64.toNat = n :=
      UInt64.toNat_ofNat_of_lt' (Nat.lt_of_le_of_lt (Nat.le_add_left _ _) h)
    rw [UInt64.toNat_add, hSmall, Nat.mod_eq_of_lt h]
  have hBefore : b.toNat = a.toNat + m := by
    rw [hb]
    exact hAdd (by omega)
  have hAfter : c.toNat = b.toNat + n := by
    rw [hc]
    exact hAdd (by omega)
  rw [UInt64.le_iff_toNat_le, hAfter]
  exact Nat.le_add_right _ _

theorem Session.addTx_add (s : Session) (m n : Nat) :
    s.addTx (m + n) = (s.addTx m).addTx n := by
  simp only [addTx, add_toUInt64]

theorem Session.addRx_add (s : Session) (m n : Nat) :
    s.addRx (m + n) = (s.addRx m).addRx n := by
  simp only [addRx, add_toUInt64]

/-! ### Going on with what is on record -/

/-- **The second session goes on with what the first one has on record**, after this many more
bytes were sent and received.  The port stays under a condition of its own. -/
structure Continues (keepsPort : Prop) (sent received : Nat) (s t : Session) : Prop where
  id : t.id = s.id
  version : t.version = s.version
  command : t.commandRequested = s.commandRequested
  recorded : ∀ d, s.destinationRequested = some d → t.destinationRequested = some d
  ended : ∀ time, s.endTime = some time → t.endTime = some time
  port : keepsPort → t.destination.port = s.destination.port
  bytesTx : t.bytesTx = s.bytesTx + sent.toUInt64
  bytesRx : t.bytesRx = s.bytesRx + received.toUInt64

/-- The second session differs from the first one at most in where it goes and in what tells of
its outbound connection. -/
def Rerouted (s t : Session) : Prop :=
  t = { s with
    destination := t.destination
    addressType := t.addressType
    route := t.route
    tunnel := t.tunnel
    status := t.status
    outboundOpen := t.outboundOpen }

theorem Rerouted.trans (hst : Rerouted s t) (htu : Rerouted t u) : Rerouted s u := by
  rw [Rerouted, htu, hst]

namespace Continues

variable {keepsPort : Prop} {a b c d : Nat}

theorem refl (s : Session) : Continues keepsPort 0 0 s s :=
  ⟨rfl, rfl, rfl, fun _ h => h, fun _ h => h, fun _ => rfl, (UInt64.add_zero _).symm,
    (UInt64.add_zero _).symm⟩

theorem trans (hst : Continues keepsPort a b s t) (htu : Continues keepsPort c d t u) :
    Continues keepsPort (a + c) (b + d) s u where
  id := htu.id.trans hst.id
  version := htu.version.trans hst.version
  command := htu.command.trans hst.command
  recorded d h := htu.recorded d (hst.recorded d h)
  ended time h := htu.ended time (hst.ended time h)
  port h := (htu.port h).trans (hst.port h)
  bytesTx := by rw [htu.bytesTx, hst.bytesTx, add_toUInt64]
  bytesRx := by rw [htu.bytesRx, hst.bytesRx, add_toUInt64]

theorem of_rerouted (h : Rerouted s t)
    (hPort : keepsPort → t.destination.port = s.destination.port) :
    Continues keepsPort 0 0 s t where
  id := by rw [h]
  version := by rw [h]
  command := by rw [h]
  recorded d hRecorded := by rw [h]; exact hRecorded
  ended time hEnded := by rw [h]; exact hEnded
  port := hPort
  bytesTx := by rw [h]; exact (UInt64.add_zero _).symm
  bytesRx := by rw [h]; exact (UInt64.add_zero _).symm

end Continues

/-! ### Decisions and connections -/

namespace Routing

variable {resolver : Resolver σ}

theorem rerouted_relocate (target : Option Network) (s : Session) (f : Facts) :
    Rerouted s (relocate target s f).1 := by
  unfold relocate
  repeat' split
  all_goals rfl

theorem rerouted_resolve (resolver : Resolver σ) (rule : Rule) (s : Session) (f : Facts) (w : σ) :
    Rerouted s (resolve resolver rule s f w).1 := by
  unfold resolve
  repeat' split
  all_goals rfl

theorem rerouted_route (resolver : Resolver σ) (e : Engine) (s : Session) (w : σ) :
    Rerouted s (e.route resolver s w).session := by
  refine Engine.route_keeps (P := Rerouted s) ?_ (fun t route h => h.trans rfl) e w rfl
  intro rule t w h
  exact h.trans ((rerouted_relocate rule.target t _).trans (rerouted_resolve resolver rule _ _ w))

end Routing

namespace Connector

variable {x y : Session × σ}

theorem rerouted_attempt (env : Surroundings σ) (s : Session) (tunnel : Tunnel) (w : σ) :
    Rerouted s (attempt env s tunnel w).2.1 := by
  obtain ⟨d, hSession⟩ := session_attempt env s tunnel w
  rw [hSession]
  rfl

theorem port_attempt (env : Surroundings σ) (s : Session) (tunnel : Tunnel) (w : σ) :
    (attempt env s tunnel w).2.1.destination.port = s.destination.port := by
  cases tunnel with
  | null => rfl
  | chained c => rfl
  | direct =>
    rw [attempt, session_connectDirect]
    unfold directAddress
    repeat' split
    all_goals rfl

theorem rerouted_settled (s : Session) (result : Except ConnectionError Connected) :
    Rerouted s (settled s result) := by
  cases result <;> rfl

theorem port_settled (s : Session) (result : Except ConnectionError Connected) :
    (settled s result).destination.port = s.destination.port := by
  cases result <;> rfl

theorem Course.rerouted (h : Course env x y) : Rerouted x.1 y.1 := by
  induction h with
  | start => rfl
  | @decided s w prior e ih => exact ih.trans (Routing.rerouted_route env.resolve e s w)
  | @tried s s' w w' tunnel result prior hAttempt ih =>
    have hTrying : Rerouted s (trying s tunnel) := rfl
    have hLeft := rerouted_attempt env (trying s tunnel) tunnel w
    rw [hAttempt] at hLeft
    exact (ih.trans (hTrying.trans hLeft)).trans (rerouted_settled s' result)

theorem Course.port (hPort : Dns.KeepsPort env.resolve) (h : Course env x y) :
    y.1.destination.port = x.1.destination.port := by
  induction h with
  | start => rfl
  | @decided s w prior e ih => exact (Routing.port_route hPort e s w).trans ih
  | @tried s s' w w' tunnel result prior hAttempt ih =>
    have hLeft := port_attempt env (trying s tunnel) tunnel w
    rw [hAttempt] at hLeft
    exact (port_settled s' result).trans (hLeft.trans ih)

theorem rerouted_connect (env : Surroundings σ) (policy : RetryPolicy) (s : Session) (w : σ) :
    Rerouted s (connect env policy s w).session :=
  (Course.connect .start policy).rerouted

theorem port_connect (hPort : Dns.KeepsPort env.resolve) (policy : RetryPolicy) (s : Session)
    (w : σ) : (connect env policy s w).session.destination.port = s.destination.port :=
  (Course.connect .start policy).port hPort

end Connector

/-! ### What is done to a session -/

/-- **What is done to a session whose request is known**, as a whole and in the steps between
which documents may be made. -/
inductive Deed (σ : Type) where
  /-- Another destination is to be put on record. -/
  | record (d : Destination)
  | relocate (target : Option Network)
  | resolve (rule : Rule) (w : σ)
  /-- A whole decision. -/
  | decide (e : Routing.Engine) (w : σ)
  | announce (tunnel : Tunnel)
  | attempt (tunnel : Tunnel) (w : σ)
  | settle (result : Except ConnectionError Connector.Connected)
  /-- A whole connection, with all its attempts. -/
  | connect (policy : RetryPolicy) (w : σ)
  | send (n : Nat)
  | receive (n : Nat)
  | setStatus (code : StatusCode) (name description : String)
  | exit (now : Moment)

namespace Deed

/-- The session after the deed. -/
def apply (env : Surroundings σ) (s : Session) : Deed σ → Session
  | record d => s.recordDestination d
  | relocate target => (Routing.relocate target s (.of s.destination)).1
  | resolve rule w => (Routing.resolve env.resolve rule s (.of s.destination) w).1
  | decide e w => (e.route env.resolve s w).session
  | announce tunnel => Connector.trying s tunnel
  | attempt tunnel w => (Connector.attempt env s tunnel w).2.1
  | settle result => Connector.settled s result
  | connect policy w => (Connector.connect env policy s w).session
  | send n => s.addTx n
  | receive n => s.addRx n
  | setStatus code name description => s.setStatus code name description
  | exit now => s.markExited now

/-- How many bytes are sent to the remote end. -/
def sent : Deed σ → Nat
  | send n => n
  | _ => 0

/-- How many bytes are received from it. -/
def received : Deed σ → Nat
  | receive n => n
  | _ => 0

/-- **Whatever is done goes on with what is on record**, and keeps the port if lookups do. -/
theorem continues (env : Surroundings σ) (s : Session) (deed : Deed σ) :
    Continues (Dns.KeepsPort env.resolve) deed.sent deed.received s (deed.apply env s) := by
  cases deed with
  | record d =>
    simp only [apply, Session.recordDestination]
    cases hRequested : s.destinationRequested with
    | none =>
      refine { Continues.refl s with recorded := fun d h => ?_ }
      rw [hRequested] at h
      cases h
    | some first => exact .refl s
  | relocate target =>
    exact .of_rerouted (Routing.rerouted_relocate ..) fun _ => Routing.port_relocate ..
  | resolve rule w =>
    exact .of_rerouted (Routing.rerouted_resolve ..) fun h => Routing.port_resolve h ..
  | decide e w => exact .of_rerouted (Routing.rerouted_route ..) fun h => Routing.port_route h ..
  | announce tunnel => exact .of_rerouted rfl fun _ => rfl
  | attempt tunnel w =>
    exact .of_rerouted (Connector.rerouted_attempt ..) fun _ => Connector.port_attempt ..
  | settle result =>
    exact .of_rerouted (Connector.rerouted_settled ..) fun _ => Connector.port_settled ..
  | connect policy w =>
    exact .of_rerouted (Connector.rerouted_connect ..) fun h => Connector.port_connect h ..
  | send n => exact { Continues.refl s with bytesTx := rfl }
  | receive n => exact { Continues.refl s with bytesRx := rfl }
  | setStatus code name description => exact .of_rerouted rfl fun _ => rfl
  | exit now =>
    refine { Continues.refl s with ended := fun time h => ?_ }
    rw [apply, Session.markExited, h]
    rfl

theorem keeps_request (env : Surroundings σ) (s : Session) (deed : Deed σ) :
    (deed.apply env s).statusRequested = s.statusRequested ∧
      (deed.apply env s).statusDocument = s.statusDocument := by
  have hRerouted {t : Session} (h : Rerouted s t) :
      t.statusRequested = s.statusRequested ∧ t.statusDocument = s.statusDocument :=
    ⟨by rw [h], by rw [h]⟩
  cases deed with
  | record d =>
    simp only [apply, Session.recordDestination]
    cases s.destinationRequested <;> exact ⟨rfl, rfl⟩
  | relocate target => exact hRerouted (Routing.rerouted_relocate ..)
  | resolve rule w => exact hRerouted (Routing.rerouted_resolve ..)
  | decide e w => exact hRerouted (Routing.rerouted_route ..)
  | attempt tunnel w => exact hRerouted (Connector.rerouted_attempt ..)
  | settle result => exact hRerouted (Connector.rerouted_settled ..)
  | connect policy w => exact hRerouted (Connector.rerouted_connect ..)
  | announce => exact ⟨rfl, rfl⟩
  | send => exact ⟨rfl, rfl⟩
  | receive => exact ⟨rfl, rfl⟩
  | setStatus => exact ⟨rfl, rfl⟩
  | exit => exact ⟨rfl, rfl⟩

/-- The session after these deeds. -/
def applyAll (env : Surroundings σ) (s : Session) (deeds : List (Deed σ)) : Session :=
  deeds.foldl (apply env) s

/-- The second session is the first one after some deeds. -/
def Leads (env : Surroundings σ) (s t : Session) : Prop :=
  ∃ deeds : List (Deed σ), t = applyAll env s deeds

theorem Leads.refl (s : Session) : Leads env s s := ⟨[], rfl⟩

theorem Leads.deed (h : Leads env s t) (deed : Deed σ) : Leads env s (deed.apply env t) := by
  obtain ⟨deeds, rfl⟩ := h
  exact ⟨deeds ++ [deed], by simp [applyAll]⟩

end Deed

/-! ### Where it begins -/

/-- **The session has been populated**, by a handshake, whether its request was granted or
refused, or as that of a port forward. -/
inductive Populated : Session → Prop
  | byHandshake (s : Session) (w : Stream.Writer) (arrivals : List Socks.Handshake.Arrival)
      (hFresh : s.destinationRequested = none)
      (hDone : (({ session := s, writer := w } : Socks.Handshake).arriveAll
        arrivals).session.destinationRequested ≠ none) :
      Populated (({ session := s, writer := w } : Socks.Handshake).arriveAll arrivals).session
  | byForward {s : Session} {host : String} {port : UInt16}
      (hFresh : s.destinationRequested = none)
      (hKind : s.service.spec.kind = .forward host port) : Populated s.prepareForward

/-- **The session has this request on record.** -/
structure Recorded (r : Request) (s : Session) : Prop where
  version : s.version = some r.version
  command : s.commandRequested = r.command?
  destination : s.destination = r.destination
  requested : s.destinationRequested = some r.destination

theorem recorded_populate (r : Request) (hFresh : s.destinationRequested = none) :
    Recorded r (s.populate r) := by
  have hPopulate : s.populate r =
      { s with
        version := some r.version
        command := r.command?
        commandRequested := r.command?
        addressType := some r.addressType
        addressTypeRequested := some r.addressType
        destination := r.destination
        destinationRequested := some r.destination } := by
    simp only [Session.populate, Session.recordDestination, hFresh]
  rw [hPopulate]
  exact ⟨rfl, rfl, rfl, rfl⟩

theorem Socks.Handshake.session_arriveAll (s : Session) (w : Stream.Writer)
    (arrivals : List Arrival) :
    let h := ({ session := s, writer := w } : Handshake).arriveAll arrivals
    h.session = s ∨ ∃ r, h.session = s.populate r := by
  intro h
  obtain ⟨taken, -, -, hStands⟩ := standsAmong_arriveAll (standsAmong_start s w) arrivals
  cases hStands with
  | reading _ _ _ _ hSession => exact .inl hSession
  | failed _ hSession => exact .inl hSession
  | @accepted r _ _ _ hSession => exact .inr ⟨r, hSession⟩
  | @refused r _ _ _ _ _ _ hSession => exact .inr ⟨r, hSession⟩

theorem Populated.exists_recorded (h : Populated s) : ∃ r, Recorded r s := by
  cases h with
  | byHandshake s w arrivals hFresh hDone =>
    rcases Socks.Handshake.session_arriveAll s w arrivals with hSame | ⟨r, hSession⟩
    · rw [hSame] at hDone
      exact absurd hFresh hDone
    · rw [hSession]
      exact ⟨r, recorded_populate r hFresh⟩
  | @byForward s host port hFresh hKind =>
    rw [Session.prepareForward, hKind]
    exact ⟨_, recorded_populate _ hFresh⟩

/-- A handshake that has accepted a request has populated its session. -/
theorem Socks.Handshake.populated_of_accepted (w : Stream.Writer) (arrivals : List Arrival)
    (hFresh : s.destinationRequested = none)
    (hAccepted : (({ session := s, writer := w } : Handshake).arriveAll arrivals).progress =
      .accepted) :
    Populated (({ session := s, writer := w } : Handshake).arriveAll arrivals).session := by
  refine .byHandshake s w arrivals hFresh ?_
  obtain ⟨taken, -, -, hStands⟩ := standsAmong_arriveAll (standsAmong_start s w) arrivals
  cases hStands with
  | reading hAt => cases hAt.symm.trans hAccepted
  | failed hAt => cases hAt.symm.trans hAccepted
  | refused _ _ hAt => cases hAt.symm.trans hAccepted
  | @accepted r _ _ _ hSession =>
    rw [hSession, (recorded_populate r hFresh).requested]
    exact Option.some_ne_none _

/-! ### What a handler does -/

namespace Handler

variable {st : State σ}

/-- **A handler that is given a request has populated its session.** -/
theorem populated_request {incoming : Stream.Incoming}
    (hFresh : st.session.destinationRequested = none)
    (hOk : (request st incoming).2 = .ok ()) : Populated (request st incoming).1.session := by
  cases hForward : st.session.isForward with
  | true =>
    have hRequest : request st incoming =
        ({ st with session := st.session.prepareForward }, .ok ()) := if_pos hForward
    rw [hRequest]
    cases hKind : st.session.service.spec.kind with
    | socks => simp [Session.isForward, hKind] at hForward
    | forward host port => exact .byForward hFresh hKind
  | false =>
    rw [request_of_socks st incoming hForward] at hOk ⊢
    rcases finishHandshake_stops _ incoming.ending with hSame | ⟨-, e, hFailed⟩
    · rw [handshake, hSame] at hOk ⊢
      refine Socks.Handshake.populated_of_accepted st.writer [.bytes incoming.bytes] hFresh ?_
      unfold handshakeResult at hOk
      split at hOk
      · assumption
      · cases hOk
      · cases hOk
    · rw [handshake, hFailed] at hOk
      cases hOk

theorem leads_route (h : Deed.Leads env s st.session) : Deed.Leads env s (route env st).session :=
  h.deed (.decide st.engine st.world)

theorem leads_connect (policy : RetryPolicy) (h : Deed.Leads env s st.session) :
    Deed.Leads env s (connect env policy st).1.session := by
  rw [connect_eq]
  cases hResult : (Connector.connect env policy st.session st.world).result with
  | error e =>
    rw [answer, session_reply]
    exact h.deed (.connect policy st.world)
  | ok c =>
    rw [answer, session_reply]
    exact h.deed (.connect policy st.world)

theorem leads_relay (idle : Option Nat) (inputs : List RelayInput)
    (h : Deed.Leads env s st.session) :
    Deed.Leads env s (relay idle inputs st).1.session := by
  have hStatus := h.deed (.setStatus .okay "Connected" s!"Relaying via {tunnelName st.session}")
  unfold relay
  cases st.outbound with
  | some peer => exact (hStatus.deed (.send _)).deed (.receive _)
  | none => exact hStatus.deed (.receive _)

theorem leads_count (s : Session) (r : Relay) (inputs : List RelayInput) :
    Deed.Leads env (count s r) (count s (r.run inputs)) := by
  obtain ⟨sent, hSent⟩ := Nat.exists_eq_add_of_le (r.le_credited_run inputs .remote)
  obtain ⟨received, hReceived⟩ := Nat.exists_eq_add_of_le (r.le_credited_run inputs .client)
  have hRemote : (r.run inputs).remote.credited = r.remote.credited + sent := hSent
  have hClient : (r.run inputs).client.credited = r.client.credited + received := hReceived
  have hCount : count s (r.run inputs) = ((count s r).addTx sent).addRx received := by
    rw [count, hRemote, hClient, Session.addTx_add, Session.addRx_add]
    rfl
  rw [hCount]
  exact ((Deed.Leads.refl (count s r)).deed (.send sent)).deed (.receive received)

theorem leads_countDiscarded (s : Session) (r : Sink) (inputs : List RelayInput) :
    Deed.Leads env (countDiscarded s r) (countDiscarded s (r.run inputs)) := by
  rw [countDiscarded, countDiscarded, Sink.discarded_run, Session.addRx_add]
  exact (Deed.Leads.refl _).deed (.receive _)

/-- **A relay that goes on only adds to the counts**, from any of its inputs on. -/
theorem leads_relay_append (idle : Option Nat) (front back : List RelayInput) (st : State σ) :
    Deed.Leads env (relay idle front st).1.session (relay idle (front ++ back) st).1.session := by
  unfold relay
  cases st.outbound with
  | some peer =>
    have hRun : (Relay.start idle st.writer peer.writer).run (front ++ back) =
        ((Relay.start idle st.writer peer.writer).run front).run back := List.foldl_append
    dsimp only
    rw [hRun]
    exact leads_count ..
  | none =>
    have hRun : ({ idle : Sink }).run (front ++ back) = (({ idle : Sink }).run front).run back :=
      List.foldl_append
    dsimp only
    rw [hRun]
    exact leads_countDiscarded ..

theorem leads_close (now : Moment) {result : Option (Except ConnectionError Unit)}
    (h : Deed.Leads env s st.session) : Deed.Leads env s (close now (st, result)).session := by
  cases result with
  | none => exact h
  | some result =>
    cases result with
    | ok => exact (h.deed (.setStatus .okay "Closed" "")).deed (.exit now)
    | error e => exact (h.deed (.setStatus (failureCode e) "Error" e.message)).deed (.exit now)

/-- **Once it has the request a handler does such deeds**, and nothing else, to its session. -/
theorem leads_handle (ctx : Context) (env : Surroundings σ) (client : Client) (now : Moment)
    (s : Session) (w : σ) :
    Deed.Leads env (request (start ctx client s w) client.incoming).1.session
      (handle ctx env client now s w).session := by
  have hHandle : handle ctx env client now s w =
      close now (serve ctx env client (start ctx client s w)) := rfl
  rw [hHandle, serve]
  rcases request (start ctx client s w) client.incoming with ⟨asked, e | ⟨⟩⟩
  · exact leads_close now (.refl _)
  · have hConnected : Deed.Leads env asked.session
        (connect env ctx.policy (route env asked)).1.session :=
      leads_connect ctx.policy (leads_route (.refl asked.session))
    dsimp only
    generalize connect env ctx.policy (route env asked) = outcome at hConnected
    rcases outcome with ⟨connected, e | ⟨⟩⟩
    · exact leads_close now hConnected
    · exact leads_close now (leads_relay ctx.idle client.relayed hConnected)

end Handler

end SocksGateway
