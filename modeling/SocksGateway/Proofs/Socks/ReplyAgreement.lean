import SocksGateway.Proofs.Socks.Octets
import SocksGateway.Proofs.Stream.Writer
import SocksGateway.Socks.Client

/-!
# Replies, written and read

A SOCKS5 reply is written for a client and read from a relay, which may be the same
program at another end of the network.

* `Takes`: a reader takes exactly these bytes, and gives up if one of them is missing.
* `Takes.bind`: so do two readers one after the other.
* `takes_readConnectReply`: a success reply with an address that is taken is taken.
* `reply_codecs_agree`: what is written is read as it was meant.
-/

namespace SocksGateway

namespace Socks

open SocksGateway.Stream (Incoming)

/-! ### Readers -/

section Readers

variable {α β : Type} {f : Incoming → Except ConnectionError (α × Incoming)}
  {g : α → Incoming → Except ConnectionError (β × Incoming)} {xs ys : List UInt8} {a : α} {b : β}

/-- **A reader takes exactly these bytes** and makes `a` of them.  What is behind them is
left, and where the stream ends before the last of them the relay is not there. -/
structure Takes (f : Incoming → Except ConnectionError (α × Incoming)) (bytes : List UInt8)
    (a : α) : Prop where
  whole : ∀ rest ending, f ⟨bytes ++ rest, ending⟩ = .ok (a, ⟨rest, ending⟩)
  cut : ∀ front, front <+: bytes → front ≠ bytes → f ⟨front, .eof⟩ = .error .connectionRefused

theorem takes_pure (a : α) : Takes (fun i => .ok (a, i)) [] a := by
  refine ⟨fun _ _ => rfl, ?_⟩
  intro front hFront hCut
  exact absurd (List.prefix_nil.mp hFront) hCut

theorem strict_prefix_cases {front : List UInt8} (hFront : front <+: xs ++ ys)
    (hCut : front ≠ xs ++ ys) :
    (front <+: xs ∧ front ≠ xs) ∨ ∃ back, front = xs ++ back ∧ back <+: ys ∧ back ≠ ys := by
  by_cases hEq : front = xs
  · subst hEq
    refine Or.inr ⟨[], (List.append_nil front).symm, List.nil_prefix, ?_⟩
    rintro rfl
    exact hCut (List.append_nil front).symm
  · rcases List.prefix_or_prefix_of_prefix hFront (List.prefix_append xs ys) with h | h
    · exact Or.inl ⟨h, hEq⟩
    · obtain ⟨back, rfl⟩ := h
      refine Or.inr ⟨back, rfl, (List.prefix_append_right_inj xs).mp hFront, ?_⟩
      rintro rfl
      exact hCut rfl

theorem Takes.behind {g h : Incoming → Except ConnectionError (β × Incoming)} (hg : Takes g ys b)
    (hWhole : ∀ rest ending, h ⟨xs ++ rest, ending⟩ = g ⟨rest, ending⟩)
    (hCut : ∀ front, front <+: xs → front ≠ xs → h ⟨front, .eof⟩ = .error .connectionRefused) :
    Takes h (xs ++ ys) b := by
  constructor
  · intro rest ending
    rw [List.append_assoc, hWhole]
    exact hg.whole rest ending
  · intro front hFront hStrict
    rcases strict_prefix_cases hFront hStrict with ⟨hIn, hShort⟩ | ⟨back, rfl, hIn, hShort⟩
    · exact hCut front hIn hShort
    · rw [hWhole]
      exact hg.cut back hIn hShort

theorem Takes.bind (hf : Takes f xs a) (hg : Takes (g a) ys b) :
    Takes (fun i => f i >>= fun x => g x.1 x.2) (xs ++ ys) b := by
  refine hg.behind ?_ ?_
  · intro rest ending
    rw [hf.whole]
    rfl
  · intro front hFront hCut
    rw [hf.cut front hFront hCut]
    rfl

theorem Takes.map (hf : Takes f xs a) (k : α → β) :
    Takes (fun i => f i >>= fun x => .ok (k x.1, x.2)) xs (k a) := by
  have hBind := hf.bind (g := fun a i => .ok (k a, i)) (takes_pure (k a))
  rwa [List.append_nil] at hBind

theorem takes_takeBytes {n : Nat} (bytes : List UInt8) (hLength : bytes.length = n) :
    Takes (takeBytes n) bytes bytes := by
  subst hLength
  constructor
  · intro rest ending
    have hEnough : bytes.length ≤ (bytes ++ rest).length := by
      rw [List.length_append]
      omega
    rw [takeBytes, if_pos hEnough, List.take_left, List.drop_left]
  · intro front hFront hCut
    have hShort : front.length < bytes.length := by
      refine Nat.lt_of_le_of_ne hFront.length_le ?_
      intro hLength
      exact hCut (hFront.eq_of_length hLength)
    rw [takeBytes, if_neg (Nat.not_le.mpr hShort)]

theorem takeBytes_eq_ok_iff {n : Nat} {bytes : List UInt8} {i j : Incoming} :
    takeBytes n i = .ok (bytes, j) ↔ bytes.length = n ∧ i = ⟨bytes ++ j.bytes, j.ending⟩ := by
  constructor
  · intro h
    unfold takeBytes at h
    split at h
    · cases h
      rename_i hEnough
      refine ⟨by rw [List.length_take, Nat.min_eq_left hEnough], ?_⟩
      rw [List.take_append_drop]
    · repeat' split at h
      all_goals cases h
  · rintro ⟨hLength, rfl⟩
    exact (takes_takeBytes bytes hLength).whole j.bytes j.ending

end Readers

/-! ### Reading a reply -/

theorem ofByte_eq_succeeded_iff {code : UInt8} : (ReplyCode.ofByte code).isSuccess = true ↔
    code = 0 := by
  constructor
  · intro h
    have hCode : ReplyCode.ofByte code = .succeeded := by simpa [ReplyCode.isSuccess] using h
    rw [← ReplyCode.byte_ofByte code, hCode]
    rfl
  · rintro rfl
    rfl

theorem ofByte?_eq_none_iff {kind : UInt8} :
    AddressType.ofByte? kind = none ↔ kind ∉ ([1, 3, 4] : List UInt8) := by
  unfold AddressType.ofByte?
  repeat' split
  all_goals simp_all

theorem takes_readBoundAddress_ipv4 (a : Ipv4) :
    Takes (readBoundAddress .ipv4) a.octets (some (.v4 a)) := by
  have hTakes := (takes_takeBytes (n := 4) a.octets rfl).map fun bytes =>
    (Ipv4.ofBytes? bytes).map IpAddress.v4
  rw [Ipv4.ofBytes?_octets] at hTakes
  exact hTakes

theorem takes_readBoundPort (port : UInt16) : Takes readBoundPort (portBytes port) port := by
  have hTakes := (takes_takeBytes (n := 2) (portBytes port) rfl).map fun bytes =>
    portOf (bytes.getD 0 0) (bytes.getD 1 0)
  have hPort : portOf ((portBytes port).getD 0 0) ((portBytes port).getD 1 0) = port :=
    portOf_bytes port
  rw [hPort] at hTakes
  exact hTakes

theorem takes_readConnectReply {type : AddressType} {octets : List UInt8}
    {address : Option IpAddress} (hAddress : Takes (readBoundAddress type) octets address)
    (reserved : UInt8) (port : UInt16) :
    Takes readConnectReply ([5, 0, reserved, type.byte] ++ (octets ++ portBytes port))
      (address.map fun a => ⟨a, port⟩) := by
  have hHeader : Takes (takeBytes 4) [5, 0, reserved, type.byte] [5, 0, reserved, type.byte] :=
    takes_takeBytes _ rfl
  have hBound := hAddress.bind
    (g := fun address i => readBoundPort i >>= fun x =>
      .ok (address.map fun a => (⟨a, x.1⟩ : Endpoint), x.2))
    ((takes_readBoundPort port).map fun port => address.map fun a => (⟨a, port⟩ : Endpoint))
  refine hBound.behind ?_ ?_
  · intro rest ending
    rw [readConnectReply, hHeader.whole]
    cases type <;> rfl
  · intro front hFront hCut
    rw [readConnectReply, hHeader.cut front hFront hCut]
    rfl

/-- Behind the code of a failure nothing counts. -/
theorem readConnectReply_of_failure {code : UInt8} (hCode : ReplyCode.ofByte code ≠ .succeeded)
    (reserved type : UInt8) (rest : List UInt8) (ending : Stream.Ending) :
    readConnectReply ⟨[5, code, reserved, type] ++ rest, ending⟩ =
      .error (.relayReply (ReplyCode.ofByte code)) := by
  have hFailure : (ReplyCode.ofByte code).isSuccess = false := by
    simpa [ReplyCode.isSuccess] using hCode
  rw [readConnectReply, (takes_takeBytes (n := 4) [5, code, reserved, type] rfl).whole]
  simp [Bind.bind, Except.bind, Version.number, hFailure]

/-! ### Both ends together -/

/-- The endpoint that a SOCKS5 reply tells to a client that asked in this way: the bound one
if that is IPv4 and the client did not ask by name, and otherwise none. -/
def echoed (requested : Option AddressType) (bound : Option Endpoint) : Endpoint :=
  match bound with
  | some ⟨.v4 a, port⟩ =>
    if requested = some .domain then ⟨.v4 .unspecified, 0⟩ else ⟨.v4 a, port⟩
  | _ => ⟨.v4 .unspecified, 0⟩

theorem echoed_eq_shown (requested : Option AddressType) (bound : Option Endpoint) :
    echoed requested bound =
      ⟨.v4 (Reply.shown requested bound).1, (Reply.shown requested bound).2⟩ := by
  cases requested with
  | none => rcases bound with _ | ⟨a | a, port⟩ <;> rfl
  | some type => cases type <;> rcases bound with _ | ⟨a | a, port⟩ <;> rfl

/-- **What is written as a reply is read as it was meant.**  In a session that negotiated
SOCKS5, however the client asked, whatever is bound, and for the code of any byte: the reply
has ten bytes, and a writer that lets everything through lets these through.  If the code is
success, they are read as the endpoint that the reply tells, what is behind them is left, and
without the last of them the relay is not there.  Any other code is the error that is read. -/
theorem reply_codecs_agree (s : Session) (hVersion : s.version = some .v5) (b : UInt8)
    (bound : Option Endpoint) :
    let code := ReplyCode.ofByte b
    ∃ reply, reply.length = 10 ∧
      (∀ w : Stream.Writer, w.Reliable →
        (Reply.send w s.version s.addressTypeRequested code bound).bytes = reply) ∧
      (code = .succeeded →
        (∀ rest ending, readConnectReply ⟨reply ++ rest, ending⟩ =
          .ok (some (echoed s.addressTypeRequested bound), ⟨rest, ending⟩)) ∧
        ∀ front, front <+: reply → front ≠ reply →
          readConnectReply ⟨front, .eof⟩ = .error .connectionRefused) ∧
      (code ≠ .succeeded → ∀ rest ending,
        readConnectReply ⟨reply ++ rest, ending⟩ = .error (.relayReply code)) := by
  intro code
  obtain ⟨a, port, hShown⟩ : ∃ a port, Reply.shown s.addressTypeRequested bound = (a, port) :=
    ⟨_, _, rfl⟩
  have hEncode : Reply.encode s.version s.addressTypeRequested code bound =
      .ok ([5, code.byte, 0, AddressType.ipv4.byte] ++ (a.octets ++ portBytes port)) := by
    rw [hVersion, Reply.encode, Reply.v5Bytes, hShown]
    rfl
  have hTold : echoed s.addressTypeRequested bound = ⟨.v4 a, port⟩ := by
    rw [echoed_eq_shown, hShown]
  refine ⟨[5, code.byte, 0, AddressType.ipv4.byte] ++ (a.octets ++ portBytes port), rfl, ?_, ?_, ?_⟩
  · intro w hWriter
    rw [Reply.bytes_send w hEncode]
    exact (hWriter.writeAll _).1
  · intro hSuccess
    have hTakes := takes_readConnectReply (takes_readBoundAddress_ipv4 a) 0 port
    rw [hSuccess, hTold]
    exact ⟨hTakes.whole, hTakes.cut⟩
  · intro hFailure rest ending
    have hByte : ReplyCode.ofByte code.byte = code :=
      congrArg ReplyCode.ofByte (ReplyCode.byte_ofByte b)
    have hCode : ReplyCode.ofByte code.byte ≠ .succeeded := by rwa [hByte]
    rw [List.append_assoc, readConnectReply_of_failure hCode, hByte]

/-- A client that asked for an address is told of 192.168.1.5:40000, and the first byte from
the other end is behind the reply. -/
theorem reply_codecs_agree_bound :
    let s : Session :=
      { service := ⟨1, { port := 1080, kind := .socks }⟩
        version := some .v5
        addressTypeRequested := some .ipv4 }
    let bound : Endpoint := ⟨.v4 (.ofOctets 192 168 1 5), 40000⟩
    s.version = some .v5 ∧
      (Reply.send {} s.version s.addressTypeRequested .succeeded bound).bytes =
        [5, 0, 0, 1, 192, 168, 1, 5, 156, 64] ∧
      readConnectReply ⟨[5, 0, 0, 1, 192, 168, 1, 5, 156, 64, 7], .silence⟩ =
        .ok (some bound, ⟨[7], .silence⟩) := by
  intro s bound
  obtain ⟨reply, -, hSent, hSuccess, -⟩ := reply_codecs_agree s rfl 0 (some bound)
  have hBytes : (Reply.send {} s.version s.addressTypeRequested .succeeded bound).bytes =
      [5, 0, 0, 1, 192, 168, 1, 5, 156, 64] := by decide +kernel
  have hReply : reply = [5, 0, 0, 1, 192, 168, 1, 5, 156, 64] :=
    (hSent {} Stream.Writer.reliable_default).symm.trans hBytes
  have hRead := (hSuccess rfl).1 [7] .silence
  rw [hReply] at hRead
  exact ⟨rfl, hBytes, hRead⟩

end Socks

end SocksGateway
