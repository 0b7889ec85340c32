import SocksGateway.Handler
import SocksGateway.Proofs.Connector.Attempts
import SocksGateway.Proofs.Handshake.Commit
import SocksGateway.Proofs.Routing.FirstMatch

/-!
# What a client is told

Bytes are written to a client from three places before any are relayed to it: by its
handshake, after a failure to connect, and after a connection.

* `Tells`: a reply of either protocol, and whether it says that all went well.
* `Negotiates`, `negotiates`: how a handshake ends with a client to which everything can be
  written.
* `told_connect`: the reply that follows from connecting.
* `replies_once`: a client is told once, and the truth, if it has made a request.
-/

namespace SocksGateway

namespace Handler

open Socks (Asks ReplyCode)

/-! ### Replies -/

/-- **A reply in the protocol of that version**, which says that all went well exactly
when the client is connected. -/
inductive Tells (connected : Prop) : Socks.Version → List UInt8 → Prop
  | v4 {code : UInt8} {rest : List UInt8} (hLength : rest.length = 6)
      (hCode : code = 0x5A ∧ connected ∨ code = 0x5B ∧ ¬ connected) :
      Tells connected .v4 (0 :: code :: rest)
  | v5 {code : UInt8} {rest : List UInt8} (hLength : rest.length = 8)
      (hCode : code = 0 ↔ connected) :
      Tells connected .v5 (5 :: code :: rest)

/-- The code of a success, or one of a failure, as the client is connected or not. -/
def Fits (connected : Prop) (code : ReplyCode) : Prop :=
  code = .succeeded ∧ connected ∨ code.byte ≠ 0 ∧ ¬ connected

variable {connected : Prop} {code : ReplyCode} {version : Socks.Version}

theorem tells_encode (h : Fits connected code) (version : Socks.Version)
    (requested : Option Socks.AddressType) (bound : Option Endpoint) :
    ∃ bytes, Socks.Reply.encode (some version) requested code bound = .ok bytes ∧
      Tells connected version bytes := by
  cases version with
  | v4 =>
    refine ⟨_, rfl, .v4 rfl ?_⟩
    rcases h with ⟨rfl, hConnected⟩ | ⟨hByte, hNot⟩
    · exact Or.inl ⟨rfl, hConnected⟩
    · rw [ReplyCode.isSuccess_of_byte_ne hByte]
      exact Or.inr ⟨rfl, hNot⟩
  | v5 =>
    refine ⟨_, rfl, .v5 rfl ?_⟩
    rcases h with ⟨rfl, hConnected⟩ | ⟨hByte, hNot⟩
    · exact iff_of_true rfl hConnected
    · exact iff_of_false hByte hNot

theorem tells_send {w : Stream.Writer} (hWriter : w.Reliable) (h : Fits connected code)
    (version : Socks.Version) (requested : Option Socks.AddressType) (bound : Option Endpoint) :
    Tells connected version (Socks.Reply.send w (some version) requested code bound).bytes := by
  obtain ⟨bytes, hEncode, hTells⟩ := tells_encode h version requested bound
  rw [Socks.Reply.bytes_send w hEncode, (hWriter.writeAll bytes).1]
  exact hTells

/-! ### The handshake -/

variable {σ : Type} {st : State σ} {incoming : Stream.Incoming}

theorem finishHandshake_stops (h : Socks.Handshake) (ending : Stream.Ending) :
    finishHandshake h ending = h ∨
      h.isReading = true ∧ ∃ e, finishHandshake h ending = h.fail e := by
  cases ending with
  | eof => exact h.endOfInput_stops
  | fault f => exact h.readFault_stops f
  | silence =>
    unfold finishHandshake
    dsimp only
    split
    · rename_i hReading
      exact Or.inr ⟨hReading, _, rfl⟩
    · exact Or.inl rfl

/-- The handshake of a session with its client, up to its end. -/
def handshake (st : State σ) (incoming : Stream.Incoming) : Socks.Handshake :=
  finishHandshake
    (({ session := st.session.setStatus .okay "Negotiating" "",
        writer := st.writer : Socks.Handshake }).feed incoming.bytes).1
    incoming.ending

/-- The result of a handshake. -/
def handshakeResult (h : Socks.Handshake) : Except ConnectionError Unit :=
  match h.progress with
  | .accepted => .ok ()
  | .failed e => .error e
  | .reading _ _ => .error .timeout

theorem request_of_socks (st : State σ) (incoming : Stream.Incoming)
    (hSocks : st.session.isForward = false) :
    request st incoming =
      ({ st with
          session := (handshake st incoming).session
          writer := (handshake st incoming).writer
          answered := (handshake st incoming).written },
        handshakeResult (handshake st incoming)) := by
  rw [request, if_neg (by simp [hSocks]), negotiate, handshakeResult]
  dsimp only [handshake]
  cases (finishHandshake _ incoming.ending).progress <;> rfl

/-- **How the handshake of a session ends** with a client that sends these bytes, and to
which everything can be written. -/
inductive Negotiates (s : Session) (bytes : List UInt8) (h : Socks.Handshake) : Prop
  /-- There was no request. -/
  | unasked {e : ConnectionError} (hResult : handshakeResult h = .error e)
      (hVersion : h.session.version = s.version)
      (hWritten : h.written ∈ [[], [5, 0], [5, 0xFF]])
  | refused {taken : List UInt8} {r : Request} {e : ConnectionError} {reply : List UInt8}
      (hTaken : taken <+: bytes) (hAsks : Asks taken r) (hResult : handshakeResult h = .error e)
      (hVersion : h.session.version = some r.version)
      (hWritten : h.written = r.version.told ++ reply) (hReply : Tells False r.version reply)
  | accepted {taken : List UInt8} {r : Request} (hTaken : taken <+: bytes) (hAsks : Asks taken r)
      (hResult : handshakeResult h = .ok ()) (hVersion : h.session.version = some r.version)
      (hService : h.session.service = s.service) (hWritten : h.written = r.version.told)
      (hWriter : h.writer.Reliable)

theorem negotiates (st : State σ) (incoming : Stream.Incoming) (hWriter : st.writer.Reliable) :
    Negotiates st.session incoming.bytes (handshake st incoming) := by
  let s := st.session.setStatus .okay "Negotiating" ""
  obtain ⟨taken, hTaken, -, hStands⟩ : Socks.Handshake.StandsAmong s st.writer incoming.bytes
      (handshake st incoming) := by
    have hFed := (Socks.Handshake.standsAmong_start s st.writer).feed incoming.bytes
    exact hFed.stop (finishHandshake_stops _ incoming.ending)
  generalize handshake st incoming = h at hStands
  cases hStands with
  | @reading _ _ phase hAt _ _ _ hSession _ hWritten _ =>
    refine .unasked (by simp only [handshakeResult, hAt]; rfl) (by rw [hSession]; rfl) ?_
    rw [hWritten]
    exact Socks.Handshake.told_mem phase
  | failed hAt hSession _ _ hWhole =>
    exact .unasked (by simp only [handshakeResult, hAt]; rfl) (by rw [hSession]; rfl)
      (hWhole hWriter)
  | accepted hReads hRefusal hAt hSession _ hWritten hReliable =>
    refine .accepted hTaken (Socks.reads_iff_asks.mp hReads) (by simp only [handshakeResult, hAt])
      ?_ ?_ hWritten (hReliable hWriter)
    · rw [hSession, Session.version_populate]
    · rw [hSession, Session.service_populate]
      rfl
  | @refused r code fault v hReads hRefusal hAt hSession _ hWritten hReliable =>
    have hAsks := Socks.reads_iff_asks.mp hReads
    have hFits : Fits False code := by
      rw [(Socks.Handshake.refusal?_eq_some hAsks hRefusal).1, Socks.Handshake.refusalCode]
      split <;> exact Or.inr ⟨by decide, id⟩
    refine .refused hTaken hAsks (by simp only [handshakeResult, hAt]; rfl) ?_ hWritten
      (tells_send (hReliable hWriter) hFits r.version _ _)
    rw [hSession, Session.version_populate]

/-- **A request populates the session.** -/
theorem version_handshake_of_asks {taken : List UInt8} {r : Request} (hWriter : st.writer.Reliable)
    (hTaken : taken <+: incoming.bytes) (hAsks : Asks taken r) :
    (handshake st incoming).session.version = some r.version := by
  -- The request is settled when its last byte is there, and the rest is not read.
  obtain ⟨rest, hRest⟩ := hTaken
  let start : Socks.Handshake :=
    { session := st.session.setStatus .okay "Negotiating" "", writer := st.writer }
  obtain ⟨h, hSession, -, hFeed⟩ := (Socks.reads_iff_asks.mpr hAsks).feed (by decide)
    (show start.progress = .reading .version [] from rfl) hWriter
  have hFed := hFeed rest
  have hSettled : (h.settle r).session = h.session.populate r := by
    unfold Socks.Handshake.settle Socks.Handshake.refuse
    split <;> rfl
  have hStops := finishHandshake_stops (h.settle r) incoming.ending
  rw [Socks.Handshake.isReading_settle] at hStops
  rcases hStops with hSame | ⟨hReading, -⟩
  · rw [handshake, ← hRest, hFed]
    show (finishHandshake (h.settle r) incoming.ending).session.version = _
    rw [hSame, hSettled, Session.version_populate]
  · cases hReading

/-! ### The connection -/

/-- Connecting the session comes to a connection. -/
def Connects (env : Surroundings σ) (policy : RetryPolicy) (st : State σ) : Prop :=
  ∃ c, (Connector.connect env policy st.session st.world).result = .ok c

/-- What the client has been told, and the protocol that it speaks. -/
def told (st : State σ) : List UInt8 × Option Socks.Version := (st.answered, st.session.version)

theorem told_reply (st : State σ) (hSocks : st.session.isForward = false)
    (hVersion : st.session.version = some version) (hWriter : st.writer.Reliable)
    (hFits : Fits connected code) (bound : Option Endpoint) :
    ∃ bytes, told (reply st code bound).1 = (st.answered ++ bytes, some version) ∧
      Tells connected version bytes := by
  refine ⟨_, ?_, tells_send hWriter hFits version st.session.addressTypeRequested bound⟩
  unfold reply told
  rw [if_neg (by simp [hSocks]), hVersion]
  dsimp only
  split <;> simp [hVersion]

theorem told_reply_of_forward (hForward : st.session.isForward = true) (code : ReplyCode)
    (bound : Option Endpoint) : told (reply st code bound).1 = told st := by
  unfold reply
  rw [if_pos hForward]

variable {env : Surroundings σ} {policy : RetryPolicy}

theorem isForward_connect (env : Surroundings σ) (policy : RetryPolicy) (s : Session) (w : σ) :
    (Connector.connect env policy s w).session.isForward = s.isForward := by
  unfold Session.isForward
  rw [Connector.sameBut_connect env policy s w]

theorem version_connect (env : Surroundings σ) (policy : RetryPolicy) (s : Session) (w : σ) :
    (Connector.connect env policy s w).session.version = s.version := by
  rw [Connector.sameBut_connect env policy s w]

/-- **One reply follows from connecting**, and it tells what that has come to. -/
theorem told_connect (hSocks : st.session.isForward = false)
    (hVersion : st.session.version = some version) (hWriter : st.writer.Reliable) :
    ∃ bytes, told (connect env policy st).1 = (st.answered ++ bytes, some version) ∧
      Tells (Connects env policy st) version bytes := by
  have hTruthful := Connector.truthful_connect env policy st.session st.world
  rw [← isForward_connect env policy st.session st.world] at hSocks
  rw [← version_connect env policy st.session st.world] at hVersion
  unfold connect Connects
  dsimp only
  generalize Connector.connect env policy st.session st.world = o at *
  cases hResult : o.result with
  | error e =>
    have hFits : Fits (∃ c, o.result = .ok c) e.replyCode := by
      refine Or.inr ⟨hTruthful.failure e hResult, fun ⟨c, hOk⟩ => ?_⟩
      rw [hResult] at hOk
      cases hOk
    rw [hResult] at hFits
    exact told_reply { st with session := o.session, world := o.world, trace := o.trace }
      hSocks hVersion hWriter hFits none
  | ok c =>
    exact told_reply
      { st with session := o.session, world := o.world, trace := o.trace, outbound := c.outbound }
      hSocks hVersion hWriter (Or.inl ⟨rfl, c, rfl⟩) c.bound

theorem told_connect_of_forward (hForward : st.session.isForward = true) :
    told (connect env policy st).1 = told st := by
  have hVersion := version_connect env policy st.session st.world
  rw [← isForward_connect env policy st.session st.world] at hForward
  unfold connect
  dsimp only
  split
  · exact (told_reply_of_forward hForward _ _).trans (Prod.ext rfl hVersion)
  · exact (told_reply_of_forward hForward _ _).trans (Prod.ext rfl hVersion)

theorem sameBut_route (env : Surroundings σ) (st : State σ) :
    ∃ t route, Routing.SameBut st.session t ∧
      (Handler.route env st).session = { t with route := some route } :=
  ⟨_, _, Routing.sameBut_search env.resolve 0 st.engine.rules st.session st.world,
    Routing.Search.session_decision _ _⟩

theorem isForward_route (env : Surroundings σ) (st : State σ) :
    (route env st).session.isForward = st.session.isForward := by
  obtain ⟨t, r, hSame, hRoute⟩ := sameBut_route env st
  rw [hRoute, hSame]
  rfl

theorem told_route (env : Surroundings σ) (st : State σ) : told (route env st) = told st := by
  obtain ⟨t, r, hSame, hRoute⟩ := sameBut_route env st
  refine Prod.ext rfl ?_
  simp only [told]
  rw [hRoute, hSame]

/-! ### The whole session -/

theorem told_relay (idle : Option Nat) (inputs : List RelayInput) (st : State σ) :
    told (relay idle inputs st).1 = told st := by
  unfold relay
  split <;> rfl

theorem told_end (now : Moment) (st : State σ) (result : Except ConnectionError Unit) :
    told (tearDown now { st with session := record st.session result }) = told st := by
  cases result <;> rfl

/-- A session before anything has been done for it. -/
def start (ctx : Context) (client : Client) (s : Session) (w : σ) : State σ :=
  { session := s, engine := ctx.engine, world := w, writer := client.writer }

variable {ctx : Context} {client : Client} {s : Session} {w : σ} {now : Moment} {asked : State σ}

variable (env now) in
theorem told_handle_of_error {e : ConnectionError}
    (hRequest : request (start ctx client s w) client.incoming = (asked, .error e)) :
    told (handle ctx env client now s w) = told asked := by
  rw [start] at hRequest
  simp only [handle, serve, hRequest]
  exact told_end now asked _

variable (env now) in
/-- After a request all that is told to the client is told in connecting it. -/
theorem told_handle_of_ok
    (hRequest : request (start ctx client s w) client.incoming = (asked, .ok ())) :
    told (handle ctx env client now s w) =
      told (connect env ctx.policy (route env asked)).1 := by
  rw [start] at hRequest
  simp only [handle, serve, hRequest]
  rcases connect env ctx.policy (route env asked) with ⟨connected, e | ⟨⟩⟩
  · exact told_end now connected _
  · have hTold := told_relay ctx.idle client.relayed connected
    dsimp only
    rcases hRelay : relay ctx.idle client.relayed connected with ⟨relayed, _ | result⟩
    all_goals rw [hRelay] at hTold
    · exact hTold
    · exact (told_end now relayed result).trans hTold

/-- The session's request is taken, and its connection made. -/
def IsConnected (ctx : Context) (env : Surroundings σ) (client : Client) (s : Session) (w : σ) :
    Prop :=
  ∃ asked, request (start ctx client s w) client.incoming = (asked, .ok ()) ∧
    Connects env ctx.policy (route env asked)

theorem told_handle_of_forward (hForward : s.isForward = true) :
    (handle ctx env client now s w).answered = [] := by
  have hRequest : request (start ctx client s w) client.incoming =
      ({ start ctx client s w with session := s.prepareForward }, .ok ()) := if_pos hForward
  have hForward' : s.prepareForward.isForward = true := by
    unfold Session.prepareForward
    split
    · exact hForward
    · unfold Session.isForward
      rw [Session.service_populate]
      exact hForward
  have hTold := told_handle_of_ok env now hRequest
  rw [told_connect_of_forward ((isForward_route env _).trans hForward'), told_route] at hTold
  exact congrArg Prod.fst hTold

variable (env now) in
theorem told_handle_of_failed (hSocks : s.isForward = false) {e : ConnectionError}
    (hResult : handshakeResult (handshake (start ctx client s w) client.incoming) = .error e) :
    told (handle ctx env client now s w) =
        ((handshake (start ctx client s w) client.incoming).written,
          (handshake (start ctx client s w) client.incoming).session.version) ∧
      ¬ IsConnected ctx env client s w := by
  have hRequest := request_of_socks (start ctx client s w) client.incoming hSocks
  rw [hResult] at hRequest
  refine ⟨told_handle_of_error env now hRequest, ?_⟩
  rintro ⟨asked, hOk, -⟩
  rw [hRequest] at hOk
  cases hOk

variable (env now) in
theorem told_handle_of_accepted (hSocks : s.isForward = false)
    (hResult : handshakeResult (handshake (start ctx client s w) client.incoming) = .ok ())
    (hVersion : (handshake (start ctx client s w) client.incoming).session.version = some version)
    (hService : (handshake (start ctx client s w) client.incoming).session.service = s.service)
    (hWriter : (handshake (start ctx client s w) client.incoming).writer.Reliable) :
    ∃ reply, told (handle ctx env client now s w) =
        ((handshake (start ctx client s w) client.incoming).written ++ reply, some version) ∧
      Tells (IsConnected ctx env client s w) version reply := by
  have hRequest := request_of_socks (start ctx client s w) client.incoming hSocks
  generalize handshake (start ctx client s w) client.incoming = h at *
  rw [hResult] at hRequest
  let asked : State σ := { start ctx client s w with
    session := h.session, writer := h.writer, answered := h.written }
  have hConnected : IsConnected ctx env client s w ↔ Connects env ctx.policy (route env asked) := by
    refine ⟨?_, fun hConnects => ⟨asked, hRequest, hConnects⟩⟩
    rintro ⟨asked', hOk, hConnects⟩
    rw [hRequest] at hOk
    cases hOk
    exact hConnects
  have hVersion' : (route env asked).session.version = some version :=
    (congrArg Prod.snd (told_route env asked)).trans hVersion
  have hSocks' : (route env asked).session.isForward = false := by
    rw [isForward_route]
    unfold Session.isForward at hSocks ⊢
    rw [hService]
    exact hSocks
  rw [told_handle_of_ok env now hRequest, hConnected]
  exact told_connect hSocks' hVersion' hWriter

/-- **A client is told once, and the truth.**  The client of a port forward is told nothing.
A SOCKS client to which everything can be written is answered in its handshake.  If the
bytes that it sends do not begin with a request, its session is not populated and that is
all; otherwise its session is populated, and it gets one reply, of eight bytes in SOCKS4
and of ten in SOCKS5.  The reply says that all went well exactly when the connection has
been made: no failure to connect is told with the byte of a success, also where that byte
comes from a relay. -/
theorem replies_once (ctx : Context) (env : Surroundings σ) (client : Client) (now : Moment)
    (s : Session) (w : σ) :
    let after := handle ctx env client now s w
    let connected := IsConnected ctx env client s w
    (s.isForward = true → after.answered = []) ∧
      (s.isForward = false → s.version = none → client.writer.Reliable →
        ((∀ taken r, taken <+: client.incoming.bytes → ¬ Asks taken r) ∧
          after.session.version = none ∧ ¬ connected ∧
          after.answered ∈ [[], [5, 0], [5, 0xFF]]) ∨
        ∃ taken r reply, taken <+: client.incoming.bytes ∧ Asks taken r ∧
          after.session.version = some r.version ∧
          after.answered = r.version.told ++ reply ∧ Tells connected r.version reply) ∧
      ∀ policy t u e, (Connector.connect env policy t u).result = .error e →
        e.replyCode.byte ≠ 0 := by
  intro after connected
  refine ⟨told_handle_of_forward, fun hSocks hFresh hWriter => ?_,
    fun policy t u => (Connector.truthful_connect env policy t u).failure⟩
  cases negotiates (start ctx client s w) client.incoming hWriter with
  | unasked hResult hVersion hWritten =>
    obtain ⟨hTold, hNot⟩ := told_handle_of_failed env now hSocks hResult
    obtain ⟨hAnswered, hAfter⟩ := Prod.mk.inj hTold
    rw [hVersion] at hAfter
    refine Or.inl ⟨fun taken r hTaken hAsks => ?_, hAfter.trans hFresh, hNot, hAnswered ▸ hWritten⟩
    rw [version_handshake_of_asks hWriter hTaken hAsks] at hVersion
    exact nomatch hVersion.trans hFresh
  | refused hTaken hAsks hResult hVersion hWritten hReply =>
    obtain ⟨hTold, hNot⟩ := told_handle_of_failed env now hSocks hResult
    obtain ⟨hAnswered, hAfter⟩ := Prod.mk.inj hTold
    rw [← eq_false hNot] at hReply
    exact Or.inr ⟨_, _, _, hTaken, hAsks, hAfter.trans hVersion, hAnswered.trans hWritten, hReply⟩
  | accepted hTaken hAsks hResult hVersion hService hWritten hReliable =>
    obtain ⟨reply, hTold, hTells⟩ :=
      told_handle_of_accepted env now hSocks hResult hVersion hService hReliable
    obtain ⟨hAnswered, hAfter⟩ := Prod.mk.inj hTold
    rw [hWritten] at hAnswered
    exact Or.inr ⟨_, _, reply, hTaken, hAsks, hAfter, hAnswered, hTells⟩

/-- A relay refuses with a code that has no name, and the client is told that code. -/
theorem replies_once_unassigned :
    let env : Surroundings Unit :=
      { resolve := fun d w => (.ok d, w)
        dial := fun _ w =>
          (.opened { incoming := { bytes := [5, 0, 5, 0x42, 0, 1], ending := .silence } }, w) }
    let relay : Tunnel := .chained ⟨2, "relay", 1081, none⟩
    let ctx : Context :=
      { engine := ⟨[{ tunnels := [relay], place := ⟨"rules", 1⟩ }], fun _ => 0⟩
        policy := .ofSettings {} }
    let client : Client :=
      { incoming := { bytes := [5, 1, 0, 5, 1, 0, 1, 10, 0, 0, 1, 0, 80, 7, 7] } }
    let s : Session := .accept 1 ⟨1, { port := 1080, kind := .socks }⟩ {} 0
    (s.isForward = false ∧ s.version = none ∧ client.writer.Reliable) ∧
      ∃ reply, (handle ctx env client 0 s ()).answered = [5, 0] ++ reply ∧
        Tells (IsConnected ctx env client s ()) .v5 reply ∧
        reply = [5, 0x42, 0, 1, 0, 0, 0, 0, 0, 0] := by
  intro env relay ctx client s
  have hAnswered : (handle ctx env client 0 s ()).answered =
      [5, 0, 5, 0x42, 0, 1, 0, 0, 0, 0, 0, 0] := by decide +kernel
  have hVersion : (handle ctx env client 0 s ()).session.version = some .v5 := by decide +kernel
  refine ⟨⟨rfl, rfl, Stream.Writer.reliable_default⟩, ?_⟩
  obtain ⟨-, hSocks, -⟩ := replies_once ctx env client 0 s ()
  rcases hSocks rfl rfl Stream.Writer.reliable_default with
    ⟨-, hNone, -⟩ | ⟨_, r, reply, -, -, hSome, hTold, hTells⟩
  · exact nomatch hVersion.symm.trans hNone
  · rw [← Option.some.inj (hVersion.symm.trans hSome)] at hTold hTells
    exact ⟨reply, hTold, hTells, List.append_cancel_left (hTold.symm.trans hAnswered)⟩

end Handler

end SocksGateway
