import SocksGateway.Proofs.Connector.Episodes
import SocksGateway.Proofs.Socks.ReplyAgreement
import SocksGateway.Proofs.Socks.RequestAgreement

/-!
# Failures of the protocol on the way through a tunnel

The client's handshake is not the only place where the protocol can be broken.  An attempt on
a chained tunnel speaks it too, with the relay: the name may not fit into a request, and the
relay may answer with other bytes than those of the protocol.

* `ConnectionError.Regular`: a result that is no failure of the protocol; what reads, sends,
  dials and looks up is regular.
* `readMethod_eq_protocol_iff`, `readConnectReply_eq_protocol_iff`: which bytes are not.
* `Breaks`, `attempt_eq_protocol_iff`: exactly what makes an attempt fail so.
* `exists_breaks_of_connect`: and so a connection, which it is the last attempt of.
-/

namespace SocksGateway

namespace ConnectionError

variable {α β : Type} {x : Except ConnectionError α} {f : α → Except ConnectionError β}

theorem bind_eq_error_iff {e : ConnectionError} :
    (x >>= f) = .error e ↔ x = .error e ∨ ∃ a, x = .ok a ∧ f a = .error e := by
  cases x with
  | error e' =>
    show Except.error e' = Except.error e ↔ _
    simp
  | ok a =>
    show f a = .error e ↔ _
    simp

/-- It is no failure of the protocol. -/
def Regular (x : Except ConnectionError α) : Prop := ∀ fault, x ≠ .error (.protocol fault)

theorem regular_ok (a : α) : Regular (.ok a : Except ConnectionError α) := by
  intro fault h
  cases h

theorem regular_error {e : ConnectionError} (h : ∀ fault, e ≠ .protocol fault) :
    Regular (.error e : Except ConnectionError α) :=
  fun fault hError => h fault (Except.error.inj hError)

theorem Regular.bind_eq_iff (hx : Regular x) {fault : ProtocolFault} :
    (x >>= f) = .error (.protocol fault) ↔
      ∃ a, x = .ok a ∧ f a = .error (.protocol fault) := by
  rw [bind_eq_error_iff]
  exact or_iff_right (hx fault)

theorem Regular.bind (hx : Regular x) (hf : ∀ a, Regular (f a)) : Regular (x >>= f) := by
  intro fault h
  obtain ⟨a, -, hError⟩ := hx.bind_eq_iff.mp h
  exact hf a fault hError

theorem regular_ofConnect (f : Stream.Fault) :
    Regular (.error (.ofConnect f) : Except ConnectionError α) := by
  refine regular_error fun fault h => ?_
  unfold ofConnect at h
  split at h <;> cases h

end ConnectionError

open ConnectionError (Regular regular_ok regular_error regular_ofConnect bind_eq_error_iff)

namespace Socks

variable {n : Nat} {i j : Stream.Incoming} {bytes : List UInt8} {tunnel : String}
  {fault : ProtocolFault}

/-! ### What a relay sends -/

theorem regular_takeBytes (n : Nat) (i : Stream.Incoming) : Regular (takeBytes n i) := by
  unfold takeBytes
  split
  · exact regular_ok _
  split
  · exact regular_error (by simp)
  · exact regular_error (by simp)
  split
  · exact regular_error (by simp)
  · exact regular_ofConnect _

theorem regular_readBoundAddress (type : AddressType) (i : Stream.Incoming) :
    Regular (readBoundAddress type i) := by
  cases type with
  | ipv4 => exact (regular_takeBytes 4 i).bind fun _ => regular_ok _
  | ipv6 => exact (regular_takeBytes 16 i).bind fun _ => regular_ok _
  | domain =>
    exact (regular_takeBytes 1 i).bind fun _ => (regular_takeBytes _ _).bind fun _ => regular_ok _

theorem regular_readBoundPort (i : Stream.Incoming) : Regular (readBoundPort i) :=
  (regular_takeBytes 2 i).bind fun _ => regular_ok _

/-- **A choice of another method breaks the protocol.** -/
theorem readMethod_eq_protocol_iff :
    readMethod tunnel i = .error (.protocol fault) ↔
      ∃ a b rest, i.bytes = a :: b :: rest ∧ [a, b] ≠ [5, 0] ∧
        fault = .relayMethod tunnel [a, b] := by
  rw [readMethod, (regular_takeBytes 2 i).bind_eq_iff]
  constructor
  · rintro ⟨⟨method, j⟩, hTaken, h⟩
    obtain ⟨hLength, rfl⟩ := takeBytes_eq_ok_iff.mp hTaken
    rcases method with _ | ⟨a, _ | ⟨b, _ | _⟩⟩
    all_goals cases hLength
    dsimp only at h
    split at h
    · cases h
    · rename_i hOther
      cases h
      exact ⟨a, b, j.bytes, rfl, hOther, rfl⟩
  · rintro ⟨a, b, rest, hBytes, hOther, rfl⟩
    refine ⟨([a, b], ⟨rest, i.ending⟩), takeBytes_eq_ok_iff.mpr ⟨rfl, ?_⟩, if_neg hOther⟩
    show i = ⟨a :: b :: rest, i.ending⟩
    rw [← hBytes]

theorem readMethod_eq_ok_iff :
    readMethod tunnel i = .ok j ↔ i = ⟨5 :: 0 :: j.bytes, j.ending⟩ := by
  constructor
  · intro h
    unfold readMethod at h
    cases hTaken : takeBytes 2 i with
    | error e =>
      rw [hTaken] at h
      cases h
    | ok taken =>
      obtain ⟨method, rest⟩ := taken
      obtain ⟨-, rfl⟩ := takeBytes_eq_ok_iff.mp hTaken
      rw [hTaken] at h
      change (if method = [5, 0] then _ else _) = _ at h
      split at h
      · rename_i hMethod
        cases h
        rw [hMethod]
        rfl
      · cases h
  · intro h
    have hTaken : takeBytes 2 i = .ok ([5, 0], j) := takeBytes_eq_ok_iff.mpr ⟨rfl, h⟩
    rw [readMethod, hTaken]
    rfl

theorem takeBytes_four_eq_ok_iff {header : List UInt8} :
    takeBytes 4 i = .ok (header, j) ↔ ∃ version code reserved kind,
      header = [version, code, reserved, kind] ∧
        i = ⟨version :: code :: reserved :: kind :: j.bytes, j.ending⟩ := by
  rw [takeBytes_eq_ok_iff]
  constructor
  · rintro ⟨hLength, rfl⟩
    rcases header with _ | ⟨version, _ | ⟨code, _ | ⟨reserved, _ | ⟨kind, _ | _⟩⟩⟩⟩
    all_goals cases hLength
    exact ⟨version, code, reserved, kind, rfl, rfl⟩
  · rintro ⟨version, code, reserved, kind, rfl, rfl⟩
    exact ⟨rfl, rfl⟩

/-- **A reply of another version breaks the protocol**, and so does a success with an address
of no known type. -/
theorem readConnectReply_eq_protocol_iff :
    readConnectReply i = .error (.protocol fault) ↔
      ∃ version code reserved kind rest, i.bytes = version :: code :: reserved :: kind :: rest ∧
        (version ≠ 5 ∧ fault = .relayVersion version ∨
          version = 5 ∧ code = 0 ∧ kind ∉ ([1, 3, 4] : List UInt8) ∧
            fault = .relayAddressType kind) := by
  rw [readConnectReply, (regular_takeBytes 4 i).bind_eq_iff]
  constructor
  · rintro ⟨⟨header, j⟩, hTaken, h⟩
    obtain ⟨version, code, reserved, kind, rfl, rfl⟩ := takeBytes_four_eq_ok_iff.mp hTaken
    refine ⟨version, code, reserved, kind, j.bytes, rfl, ?_⟩
    simp only [List.getD_cons_zero, List.getD_cons_succ] at h
    split at h
    · rename_i hVersion
      cases h
      exact Or.inl ⟨hVersion, rfl⟩
    rename_i hVersion
    split at h
    · cases h
    rename_i hCode
    refine Or.inr ⟨Decidable.not_not.mp hVersion, ?_⟩
    refine ⟨ofByte_eq_succeeded_iff.mp (by simpa using hCode), ?_⟩
    split at h
    · rename_i hKind
      cases h
      exact ⟨ofByte?_eq_none_iff.mp hKind, rfl⟩
    · exact absurd h (((regular_readBoundAddress _ j).bind fun _ =>
        (regular_readBoundPort _).bind fun _ => regular_ok _) fault)
  · rintro ⟨version, code, reserved, kind, rest, hBytes, h⟩
    refine ⟨([version, code, reserved, kind], ⟨rest, i.ending⟩),
      takeBytes_four_eq_ok_iff.mpr ⟨_, _, _, _, rfl, by rw [← hBytes]⟩, ?_⟩
    simp only [List.getD_cons_zero, List.getD_cons_succ]
    rcases h with ⟨hVersion, rfl⟩ | ⟨rfl, rfl, hKind, rfl⟩
    · exact if_pos hVersion
    · rw [ofByte?_eq_none_iff.mpr hKind]
      rfl

end Socks

namespace Connector

variable {σ : Type} {env : Surroundings σ} {fault : ProtocolFault}

/-! ### What an attempt comes to -/

/-- **The protocol is broken on the way through a tunnel**: by a name that does not fit into a
request, or by a relay that answers with such bytes. -/
inductive Breaks (tunnel : String) (d : Destination) (type : Option Socks.AddressType) (p : Peer) :
    ProtocolFault → Prop
  | hostname {name : String} (hName : Socks.GoesByName d type name)
      (hLong : 255 < name.utf8ByteSize) :
      Breaks tunnel d type p (.hostnameTooLong name.utf8ByteSize)
  | method {request rest : List UInt8} {a b : UInt8}
      (hRequest : Socks.connectRequest d type = .ok request) (hGreeting : p.greeting = .sent)
      (hBytes : p.incoming.bytes = a :: b :: rest) (hOther : [a, b] ≠ [5, 0]) :
      Breaks tunnel d type p (.relayMethod tunnel [a, b])
  | version {request rest : List UInt8} {version code reserved kind : UInt8}
      (hRequest : Socks.connectRequest d type = .ok request) (hGreeting : p.greeting = .sent)
      (hSent : p.request = .sent)
      (hBytes : p.incoming.bytes = 5 :: 0 :: version :: code :: reserved :: kind :: rest)
      (hOther : version ≠ 5) :
      Breaks tunnel d type p (.relayVersion version)
  | addressType {request rest : List UInt8} {reserved kind : UInt8}
      (hRequest : Socks.connectRequest d type = .ok request) (hGreeting : p.greeting = .sent)
      (hSent : p.request = .sent)
      (hBytes : p.incoming.bytes = 5 :: 0 :: 5 :: 0 :: reserved :: kind :: rest)
      (hOther : kind ∉ ([1, 3, 4] : List UInt8)) :
      Breaks tunnel d type p (.relayAddressType kind)

theorem result_eq_ok_iff {o : SendOutcome} {u : Unit} :
    SendOutcome.result o = .ok u ↔ o = .sent := by
  cases o with
  | sent => exact ⟨fun _ => rfl, fun _ => rfl⟩
  | failed f => exact ⟨fun h => (nomatch h), fun h => (nomatch h)⟩
  | stalled => exact ⟨fun h => (nomatch h), fun h => (nomatch h)⟩

theorem regular_send (o : SendOutcome) : Regular (SendOutcome.result o) := by
  cases o with
  | sent => exact regular_ok _
  | failed f => exact regular_error (by simp)
  | stalled => exact regular_error (by simp)

/-- A failure of the reply is one of the whole, if everything in front of it goes well. -/
theorem negotiate_of_reply {tunnel : String} {d : Destination} {type : Option Socks.AddressType}
    {p : Peer} {request bytes : List UInt8} {e : ConnectionError}
    (hRequest : Socks.connectRequest d type = .ok request) (hGreeting : p.greeting = .sent)
    (hSent : p.request = .sent) (hBytes : p.incoming.bytes = 5 :: 0 :: bytes)
    (hReply : Socks.readConnectReply ⟨bytes, p.incoming.ending⟩ = .error e) :
    negotiate tunnel d type p = .error e := by
  have hMethod : Socks.readMethod tunnel p.incoming = .ok ⟨bytes, p.incoming.ending⟩ := by
    rw [Socks.readMethod_eq_ok_iff, ← hBytes]
  rw [negotiate_eq]
  refine bind_eq_error_iff.mpr (Or.inr ⟨_, hRequest, ?_⟩)
  refine bind_eq_error_iff.mpr (Or.inr ⟨(), result_eq_ok_iff.mpr hGreeting, ?_⟩)
  refine bind_eq_error_iff.mpr (Or.inr ⟨_, hMethod, ?_⟩)
  refine bind_eq_error_iff.mpr (Or.inr ⟨(), result_eq_ok_iff.mpr hSent, ?_⟩)
  exact bind_eq_error_iff.mpr (Or.inl hReply)

/-- **What makes speaking with a relay fail so.** -/
theorem negotiate_eq_protocol_iff {tunnel : String} {d : Destination}
    {type : Option Socks.AddressType} {p : Peer} :
    negotiate tunnel d type p = .error (.protocol fault) ↔ Breaks tunnel d type p fault := by
  constructor
  · intro h
    rw [negotiate_eq] at h
    rcases bind_eq_error_iff.mp h with hRequest | ⟨request, hRequest, h⟩
    · rcases Socks.connectRequest_eq_error_iff.mp hRequest with
        ⟨name, hName, hLong, hFault⟩ | ⟨-, -, hFault⟩
      · cases hFault
        exact .hostname hName hLong
      · cases hFault
    obtain ⟨u, hGreeting, h⟩ := (regular_send _).bind_eq_iff.mp h
    rw [result_eq_ok_iff] at hGreeting
    rcases bind_eq_error_iff.mp h with hMethod | ⟨i, hMethod, h⟩
    · obtain ⟨a, b, rest, hBytes, hOther, rfl⟩ := Socks.readMethod_eq_protocol_iff.mp hMethod
      exact .method hRequest hGreeting hBytes hOther
    rw [Socks.readMethod_eq_ok_iff] at hMethod
    obtain ⟨u, hSent, h⟩ := (regular_send _).bind_eq_iff.mp h
    rw [result_eq_ok_iff] at hSent
    rcases bind_eq_error_iff.mp h with hReply | ⟨reply, -, h⟩
    · obtain ⟨version, code, reserved, kind, rest, hBytes, hReply⟩ :=
        Socks.readConnectReply_eq_protocol_iff.mp hReply
      rw [hBytes] at hMethod
      have hIncoming : p.incoming.bytes = 5 :: 0 :: version :: code :: reserved :: kind :: rest :=
        congrArg Stream.Incoming.bytes hMethod
      rcases hReply with ⟨hOther, rfl⟩ | ⟨rfl, rfl, hOther, rfl⟩
      · exact .version hRequest hGreeting hSent hIncoming hOther
      · exact .addressType hRequest hGreeting hSent hIncoming hOther
    · cases h
  · intro h
    cases h with
    | hostname hName hLong =>
      rw [negotiate_eq]
      exact bind_eq_error_iff.mpr
        (Or.inl (Socks.connectRequest_eq_error_iff.mpr (Or.inl ⟨_, hName, hLong, rfl⟩)))
    | method hRequest hGreeting hBytes hOther =>
      rw [negotiate_eq]
      refine bind_eq_error_iff.mpr (Or.inr ⟨_, hRequest, ?_⟩)
      refine bind_eq_error_iff.mpr (Or.inr ⟨(), result_eq_ok_iff.mpr hGreeting, ?_⟩)
      exact bind_eq_error_iff.mpr
        (Or.inl (Socks.readMethod_eq_protocol_iff.mpr ⟨_, _, _, hBytes, hOther, rfl⟩))
    | version hRequest hGreeting hSent hBytes hOther =>
      exact negotiate_of_reply hRequest hGreeting hSent hBytes
        (Socks.readConnectReply_eq_protocol_iff.mpr ⟨_, _, _, _, _, rfl, Or.inl ⟨hOther, rfl⟩⟩)
    | addressType hRequest hGreeting hSent hBytes hOther =>
      exact negotiate_of_reply hRequest hGreeting hSent hBytes
        (Socks.readConnectReply_eq_protocol_iff.mpr
          ⟨_, _, _, _, _, rfl, Or.inr ⟨rfl, rfl, hOther, rfl⟩⟩)

theorem regular_openStream (env : Surroundings σ) (e : Endpoint) (w : σ) :
    Regular (env.openStream e w).1 := by
  unfold Surroundings.openStream
  split
  · exact regular_ok _
  · exact regular_ofConnect _
  · exact regular_error (by simp)

theorem openStream_eq_ok_iff {e : Endpoint} {w : σ} {p : Peer} :
    (env.openStream e w).1 = .ok p ↔ (env.dial e w).1 = .opened p := by
  unfold Surroundings.openStream
  rcases env.dial e w with ⟨dialed, w'⟩
  cases dialed <;> simp

theorem regular_directAddress (env : Surroundings σ) (s : Session) (w : σ) :
    Regular (directAddress env s w).1 := by
  unfold directAddress
  repeat' split
  · exact regular_ok _
  · exact regular_error (by simp)
  · exact regular_ok _
  · exact regular_error (by simp)
  · exact regular_error (by simp)
  · exact regular_ok _

/-- A direct attempt speaks no protocol. -/
theorem regular_connectDirect (env : Surroundings σ) (s : Session) (w : σ) :
    Regular (connectDirect env s w).1 := by
  have hAddress := regular_directAddress env s w
  unfold connectDirect
  generalize directAddress env s w = found at hAddress ⊢
  obtain ⟨found, t, u⟩ := found
  cases found with
  | error e => exact regular_error fun fault h => hAddress fault (congrArg Except.error h)
  | ok a =>
    cases a with
    | v6 a => exact regular_error (by simp)
    | v4 a =>
      have hOpened := regular_openStream env ⟨.v4 a, t.destination.port⟩ u
      dsimp only
      generalize env.openStream ⟨.v4 a, t.destination.port⟩ u = opened at hOpened ⊢
      obtain ⟨opened, v⟩ := opened
      cases opened with
      | error e => exact regular_error fun fault h => hOpened fault (congrArg Except.error h)
      | ok p => exact regular_ok _

/-- **An attempt fails so exactly when the protocol is broken with the relay of its tunnel.** -/
theorem attempt_eq_protocol_iff {s : Session} {t : Tunnel} {w : σ} :
    (attempt env s t w).1 = .error (.protocol fault) ↔
      ∃ c p, t = .chained c ∧ (env.dial ⟨IpAddress.loopback, c.socksPort⟩ w).1 = .opened p ∧
        Breaks c.name s.destination s.addressType p fault := by
  cases t with
  | null =>
    constructor
    · intro h
      cases h
    · rintro ⟨c, p, hTunnel, -⟩
      cases hTunnel
  | direct =>
    constructor
    · intro h
      exact absurd h (regular_connectDirect env s w fault)
    · rintro ⟨c, p, hTunnel, -⟩
      cases hTunnel
  | chained c =>
    have hRegular := regular_openStream env ⟨IpAddress.loopback, c.socksPort⟩ w
    have hOpened (p : Peer) : (env.openStream ⟨IpAddress.loopback, c.socksPort⟩ w).1 = .ok p ↔
        (env.dial ⟨IpAddress.loopback, c.socksPort⟩ w).1 = .opened p := openStream_eq_ok_iff
    unfold attempt connectChained
    dsimp only
    generalize env.openStream ⟨IpAddress.loopback, c.socksPort⟩ w = opened at hRegular hOpened ⊢
    obtain ⟨opened, u⟩ := opened
    cases opened with
    | error e =>
      constructor
      · intro h
        obtain rfl : e = .protocol fault := Except.error.inj h
        exact absurd rfl (hRegular fault)
      · rintro ⟨c', p, hTunnel, hDial, -⟩
        cases hTunnel
        cases (hOpened p).mpr hDial
    | ok p =>
      rw [negotiate_eq_protocol_iff]
      constructor
      · intro h
        exact ⟨c, p, rfl, (hOpened p).mp rfl, h⟩
      · rintro ⟨c', p', hTunnel, hDial, h⟩
        cases hTunnel
        cases (hOpened p').mpr hDial
        exact h

/-! ### What a connection comes to -/

/-- **A connection fails so where the protocol is broken in its last attempt**, which is on a
chained tunnel of the route and has opened a stream to the relay. -/
theorem exists_breaks_of_connect {policy : RetryPolicy} {s : Session} {w : σ} {r : Rule}
    (hRoute : s.route = some r) (hTunnels : r.tunnels ≠ [])
    (hFailed : (connect env policy s w).result = .error (.protocol fault)) :
    ∃ c t u p, .chained c ∈ r.tunnels ∧
      (connect env policy s w).attempts.getLast? = some ⟨c.name, some (.protocol fault)⟩ ∧
      SameBut s t ∧
      (t.destination = s.destination ∨ ∃ a, t.destination = s.destination.withAddress a) ∧
      (env.dial ⟨IpAddress.loopback, c.socksPort⟩ u).1 = .opened p ∧
      Breaks c.name t.destination t.addressType p fault := by
  obtain ⟨es, e, hChain, hLast, hResult, hLog, -, -, hMem, -⟩ :=
    connect_episodes env policy s w hRoute hTunnels
  have he := List.mem_of_getLast? hLast
  rw [hFailed] at hResult
  have hAttempt : (attempt env e.begun.1 e.tunnel e.begun.2).1 = .error (.protocol fault) := by
    rw [hChain.attempt_of_mem he, hResult]
  obtain ⟨c, p, hTunnel, hDial, hBreaks⟩ := attempt_eq_protocol_iff.mp hAttempt
  refine ⟨c, e.begun.1, e.begun.2, p, hTunnel ▸ hMem e he, ?_, hChain.sameBut_begun he,
    hChain.destination_begun he, hDial, hBreaks⟩
  rw [hLog, List.getLast?_map, hLast]
  simp only [Option.map_some, Try.entry, Try.error?, hResult, hTunnel]
  rfl

end Connector

end SocksGateway
