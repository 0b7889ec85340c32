import SocksGateway.Proofs.Connector.Tries

/-!
# What an attempt comes to

* `failsOutside_readConnectReply`: a relay's reply is read as a failure that is handed on as
  one, whatever its bytes are.
* `sound_attempt`: an attempt leaves a stream, but for the null tunnel, or fails for a reason
  outside, with an error that is not told as a success; `truthful_connect`: nor is the error
  of a whole connection.
* `session_attempt`, `sameBut_connect`: what of a session they leave alone.
-/

namespace SocksGateway

/-! ### Failures that are told as failures -/

namespace ConnectionError

variable {α β : Type} {P : α → Prop}

/-- The value has the property, or the failure is told by a reply that does not say that
all went well. -/
structure Gives (P : α → Prop) (x : Except ConnectionError α) : Prop where
  value : ∀ a, x = .ok a → P a
  failure : ∀ e, x = .error e → e.replyCode.byte ≠ 0

/-- A failure is told as one. -/
abbrev Truthful (x : Except ConnectionError α) : Prop := Gives (fun _ => True) x

theorem Gives.ok {a : α} (h : P a) : Gives P (.ok a) := by
  refine ⟨?_, fun _ h => nomatch h⟩
  rintro _ ⟨⟩
  exact h

theorem Gives.error {e : ConnectionError} (h : e.replyCode.byte ≠ 0) :
    Gives P (.error e : Except ConnectionError α) := by
  refine ⟨fun _ h => (nomatch h), ?_⟩
  rintro _ ⟨⟩
  exact h

/-- The error stands for a state that is never reached. -/
def isInternal : ConnectionError → Bool
  | .inconsistency _ => true
  | _ => false

/-- The value has the property, or something outside has failed: the failure is told as one,
and is no internal one. -/
structure Sound (P : α → Prop) (x : Except ConnectionError α) : Prop extends Gives P x where
  outside : ∀ e, x = .error e → e.isInternal = false

/-- Something outside has failed, if anything has. -/
abbrev FailsOutside (x : Except ConnectionError α) : Prop := Sound (fun _ => True) x

theorem Sound.ok {a : α} (h : P a) : Sound P (.ok a) := ⟨.ok h, fun _ h => nomatch h⟩

theorem Sound.error {e : ConnectionError} (hReply : e.replyCode.byte ≠ 0)
    (hOutside : e.isInternal = false) : Sound P (.error e : Except ConnectionError α) := by
  refine ⟨.error hReply, ?_⟩
  rintro _ ⟨⟩
  exact hOutside

theorem Sound.rethrow {Q : β → Prop} {e : ConnectionError}
    (h : Sound P (.error e : Except ConnectionError α)) :
    Sound Q (.error e : Except ConnectionError β) :=
  .error (h.failure e rfl) (h.outside e rfl)

theorem Sound.bind {Q : β → Prop} {x : Except ConnectionError α}
    {f : α → Except ConnectionError β} (hx : FailsOutside x) (hf : ∀ a, Sound Q (f a)) :
    Sound Q (x >>= f) := by
  cases x with
  | error e => exact hx.rethrow
  | ok a => exact hf a

theorem sound_protocol (fault : ProtocolFault) :
    Sound P (.error (.protocol fault) : Except ConnectionError α) :=
  .error (by simp [replyCode, Socks.ReplyCode.byte]) rfl

theorem sound_stream (f : Stream.Fault) :
    Sound P (.error (.stream f) : Except ConnectionError α) := by
  refine .error ?_ rfl
  unfold replyCode
  dsimp only
  split <;> decide

theorem sound_ofConnect (f : Stream.Fault) :
    Sound P (.error (.ofConnect f) : Except ConnectionError α) := by
  unfold ofConnect
  split
  case h_4 => exact sound_stream f
  all_goals exact .error (by decide) rfl

end ConnectionError

namespace Socks

open ConnectionError (FailsOutside sound_protocol sound_ofConnect)

theorem ReplyCode.isSuccess_of_byte_ne {code : ReplyCode} (h : code.byte ≠ 0) :
    code.isSuccess = false := by
  cases code with
  | succeeded => exact absurd rfl h
  | _ => rfl

theorem ReplyCode.byte_ofByte_ne {b : UInt8} (h : (ofByte b).isSuccess = false) :
    (ofByte b).byte ≠ 0 := by
  rw [byte_ofByte]
  rintro rfl
  cases h

theorem failsOutside_connectRequest (d : Destination) (type : Option AddressType) :
    FailsOutside (connectRequest d type) := by
  unfold connectRequest
  dsimp only
  split
  · split
    · exact .ok trivial
    · exact sound_protocol _
  · split
    · exact .ok trivial
    · exact .error (by decide) rfl

theorem failsOutside_takeBytes (n : Nat) (i : Stream.Incoming) :
    FailsOutside (takeBytes n i) := by
  unfold takeBytes
  split
  · exact .ok trivial
  cases i.ending with
  | eof => exact .error (by decide) rfl
  | silence => exact .error (by decide) rfl
  | fault f =>
    dsimp only
    split
    · exact .error (by decide) rfl
    · exact sound_ofConnect f

theorem failsOutside_readMethod (tunnel : String) (i : Stream.Incoming) :
    FailsOutside (readMethod tunnel i) := by
  refine .bind (failsOutside_takeBytes 2 i) fun ⟨method, i⟩ => ?_
  dsimp only
  split
  · exact .ok trivial
  · exact sound_protocol _

theorem failsOutside_readBoundAddress (type : AddressType) (i : Stream.Incoming) :
    FailsOutside (readBoundAddress type i) := by
  cases type with
  | ipv4 => exact .bind (failsOutside_takeBytes 4 i) fun _ => .ok trivial
  | ipv6 => exact .bind (failsOutside_takeBytes 16 i) fun _ => .ok trivial
  | domain =>
    exact .bind (failsOutside_takeBytes 1 i) fun _ => .bind (failsOutside_takeBytes _ _) fun _ =>
      .ok trivial

theorem failsOutside_readBoundPort (i : Stream.Incoming) : FailsOutside (readBoundPort i) :=
  .bind (failsOutside_takeBytes 2 i) fun _ => .ok trivial

/-- **What a relay replies is not told as a success unless it is one**, whatever byte it
has sent for its code. -/
theorem failsOutside_readConnectReply (i : Stream.Incoming) :
    FailsOutside (readConnectReply i) := by
  refine .bind (failsOutside_takeBytes 4 i) fun ⟨header, i⟩ => ?_
  dsimp only
  split
  · exact sound_protocol _
  split
  · rename_i hFailure
    exact .error (ReplyCode.byte_ofByte_ne (by simpa using hFailure)) rfl
  split
  · exact sound_protocol _
  · exact .bind (failsOutside_readBoundAddress _ i) fun _ =>
      .bind (failsOutside_readBoundPort _) fun _ => .ok trivial

end Socks

namespace Connector

open ConnectionError (Gives Truthful Sound FailsOutside sound_stream sound_ofConnect)

variable {σ : Type}

theorem failsOutside_openStream (env : Surroundings σ) (e : Endpoint) (w : σ) :
    FailsOutside (env.openStream e w).1 := by
  unfold Surroundings.openStream
  split
  · exact .ok trivial
  · exact sound_ofConnect _
  · exact .error (by decide) rfl

/-- What a send has come to, for one that waits for it. -/
def SendOutcome.result (o : SendOutcome) : Except ConnectionError Unit :=
  match SendOutcome.error? o with
  | some e => .error e
  | none => .ok ()

theorem failsOutside_send (o : SendOutcome) : FailsOutside (SendOutcome.result o) := by
  cases o with
  | sent => exact .ok trivial
  | failed f => exact sound_stream f
  | stalled => exact .error (by decide) rfl

theorem negotiate_eq (tunnel : String) (d : Destination) (type : Option Socks.AddressType)
    (p : Peer) :
    negotiate tunnel d type p = (Socks.connectRequest d type >>= fun _ =>
      SendOutcome.result p.greeting >>= fun _ =>
      Socks.readMethod tunnel p.incoming >>= fun i =>
      SendOutcome.result p.request >>= fun _ =>
      Socks.readConnectReply i >>= fun (bound, i) =>
      .ok ⟨some { p with incoming := i }, bound⟩) := by
  unfold negotiate SendOutcome.result
  cases SendOutcome.error? p.greeting <;> cases SendOutcome.error? p.request <;> rfl

/-- **Speaking with a relay leaves the stream to it open**, or fails. -/
theorem sound_negotiate (tunnel : String) (d : Destination) (type : Option Socks.AddressType)
    (p : Peer) : Sound (fun c => c.outbound.isSome = true) (negotiate tunnel d type p) := by
  rw [negotiate_eq]
  exact .bind (Socks.failsOutside_connectRequest d type) fun _ =>
    .bind (failsOutside_send _) fun _ =>
    .bind (Socks.failsOutside_readMethod tunnel _) fun i => .bind (failsOutside_send _) fun _ =>
    .bind (Socks.failsOutside_readConnectReply i) fun _ => .ok rfl

theorem failsOutside_directAddress (env : Surroundings σ) (s : Session) (w : σ) :
    FailsOutside (directAddress env s w).1 := by
  unfold directAddress
  split
  · exact .ok trivial
  · exact .error (by decide) rfl
  split
  · exact .ok trivial
  split
  · exact .error (by simp [ConnectionError.replyCode, Socks.ReplyCode.byte]) rfl
  split
  · exact .error (by decide) rfl
  · exact .ok trivial

theorem sound_connectDirect (env : Surroundings σ) (s : Session) (w : σ) :
    Sound (fun c => c.outbound.isSome = true) (connectDirect env s w).1 := by
  have hAddress := failsOutside_directAddress env s w
  unfold connectDirect
  generalize directAddress env s w = found at hAddress
  obtain ⟨found, s, w⟩ := found
  cases found with
  | error e => exact hAddress.rethrow
  | ok a =>
    cases a with
    | v6 a => exact .error (by decide) rfl
    | v4 a =>
      have hOpened := failsOutside_openStream env ⟨.v4 a, s.destination.port⟩ w
      dsimp only
      generalize env.openStream ⟨.v4 a, s.destination.port⟩ w = opened at hOpened
      obtain ⟨opened, w⟩ := opened
      cases opened with
      | error e => exact hOpened.rethrow
      | ok p => exact .ok rfl

/-- **An attempt that connects leaves a stream open, unless it is on the null tunnel**, and
one that fails does so for a reason outside. -/
theorem sound_attempt (env : Surroundings σ) (s : Session) (t : Tunnel) (w : σ) :
    Sound (fun c => c.outbound.isSome = true ↔ t ≠ .null) (attempt env s t w).1 := by
  cases t with
  | null => exact .ok (by simp)
  | direct =>
    have hDirect := sound_connectDirect env s w
    exact ⟨⟨fun c hOk => by simpa using hDirect.value c hOk, hDirect.failure⟩, hDirect.outside⟩
  | chained t =>
    have hOpened := failsOutside_openStream env ⟨IpAddress.loopback, t.socksPort⟩ w
    unfold attempt connectChained
    dsimp only
    generalize env.openStream ⟨IpAddress.loopback, t.socksPort⟩ w = opened at hOpened
    obtain ⟨opened, w⟩ := opened
    cases opened with
    | error e => exact hOpened.rethrow
    | ok p =>
      have hNegotiated := sound_negotiate t.name s.destination s.addressType p
      exact ⟨⟨fun c hOk => by simpa using hNegotiated.value c hOk, hNegotiated.failure⟩,
        hNegotiated.outside⟩

/-! ### What is left alone -/

theorem session_directAddress (env : Surroundings σ) (s : Session) (w : σ) :
    ∃ d, (directAddress env s w).2.1 = { s with destination := d } := by
  unfold directAddress
  repeat' split
  all_goals exact ⟨_, rfl⟩

theorem session_connectDirect (env : Surroundings σ) (s : Session) (w : σ) :
    (connectDirect env s w).2.1 = (directAddress env s w).2.1 := by
  unfold connectDirect
  rcases directAddress env s w with ⟨found, s, w⟩
  cases found with
  | error e => rfl
  | ok a =>
    cases a with
    | v6 a => rfl
    | v4 a =>
      dsimp only
      split <;> rfl

theorem session_attempt (env : Surroundings σ) (s : Session) (t : Tunnel) (w : σ) :
    ∃ d, (attempt env s t w).2.1 = { s with destination := d } := by
  cases t with
  | null => exact ⟨_, rfl⟩
  | chained t => exact ⟨_, rfl⟩
  | direct =>
    rw [attempt, session_connectDirect]
    exact session_directAddress env s w

/-- The second session differs from the first one at most in the destination and in what
tells of its outbound connection. -/
def SameBut (s t : Session) : Prop :=
  t = { s with
    destination := t.destination
    tunnel := t.tunnel
    status := t.status
    outboundOpen := t.outboundOpen }

theorem SameBut.trans {s t u : Session} (hst : SameBut s t) (htu : SameBut t u) : SameBut s u := by
  rw [SameBut, htu, hst]

theorem sameBut_settled (s : Session) (result : Except ConnectionError Connected) :
    SameBut s (settled s result) := by
  cases result <;> rfl

variable {env : Surroundings σ} {tunnels : List Tunnel} {tries : List Try} {x y : Session × σ}

theorem sameBut_tried (h : Tried env tunnels x tries y) : SameBut x.1 y.1 := by
  induction h with
  | none => rfl
  | @next s s' w w' i t result tries y hTurn hAttempt hRest ih =>
    obtain ⟨d, hSession⟩ := session_attempt env (trying s t) t w
    rw [hAttempt] at hSession
    have hTried : SameBut s s' := by
      rw [show s' = { trying s t with destination := d } from hSession]
      rfl
    exact (hTried.trans (sameBut_settled s' result)).trans ih

/-- **Connecting changes nothing of a session but the destination and what tells of the
outbound connection.** -/
theorem sameBut_connect (env : Surroundings σ) (policy : RetryPolicy) (s : Session) (w : σ) :
    SameBut s (connect env policy s w).session := by
  unfold connect
  cases s.route with
  | none => rfl
  | some r =>
    dsimp only
    split
    · rfl
    · rename_i hTunnels
      obtain ⟨tries, -, hTried, -⟩ := connectVia_tries env policy s w (by simpa using hTunnels)
      exact sameBut_tried hTried

/-! ### The outcome -/

theorem Tried.attempt_of_mem (h : Tried env tunnels x tries y) {t : Try} (ht : t ∈ tries) :
    ∃ s w, (attempt env s t.tunnel w).1 = t.result := by
  induction h with
  | none => cases ht
  | @next s s' w w' i tunnel result tries y hTurn hAttempt hRest ih =>
    rcases List.mem_cons.mp ht with rfl | ht
    · exact ⟨trying s tunnel, w, by rw [hAttempt]⟩
    · exact ih ht

/-- **A failure to connect is told as one.** -/
theorem truthful_connect (env : Surroundings σ) (policy : RetryPolicy) (s : Session) (w : σ) :
    Truthful (connect env policy s w).result := by
  unfold connect
  cases s.route with
  | none => exact .error (by decide)
  | some r =>
    dsimp only
    split
    · exact .error (by decide)
    · rename_i hTunnels
      obtain ⟨tries, hSome, hTried, -, -, -, hResult⟩ :=
        connectVia_tries env policy s w (by simpa using hTunnels)
      rw [List.getLast?_eq_some_getLast hSome, Option.map_some, Option.some_inj] at hResult
      obtain ⟨s', w', hAttempt⟩ := hTried.attempt_of_mem (List.getLast_mem hSome)
      have hGives := sound_attempt env s' (tries.getLast hSome).tunnel w'
      rw [hAttempt, hResult] at hGives
      exact ⟨fun _ _ => trivial, hGives.failure⟩

end Connector

end SocksGateway
