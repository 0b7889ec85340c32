import SocksGateway.Proofs.Socks.ReplyAgreement

/-!
# Replies, byte by byte

The reader of a relay's reply stops somewhere in what the relay sends.  Where it succeeds,
what it leaves is relayed to the client, so that a byte too many or too few would shift the
whole stream.

* `Body`: the three layouts of the bytes behind the header of a success reply.
* `Outcome`: what becomes of any bytes with the end of the stream behind them.
* `exists_body`, `exists_outcome`: no bytes are left out.
* `Leaving`: readers that also tell what they leave where they fail; `Mirrors.bind`: two of
  them one after the other.
* `mirrors_connectReply`: the reader of replies among them.
* `reply_layout`: it gives every bytes their outcome, and leaves what the outcome leaves.
-/

namespace SocksGateway

namespace Socks

open SocksGateway.Stream (Incoming)

/-! ### Layouts -/

/-- The bytes behind a header with this address type, up to the last one of the port, and
the endpoint that they tell: a word of 32 bits or eight groups of 16 bits, and the port, each
with its most significant byte first. -/
inductive Body : UInt8 → List UInt8 → Option Endpoint → Prop
  | ipv4 {a b c d hi lo : UInt8} {address : Ipv4} {port : UInt16}
      (hAddress : address.bits.toNat =
        2 ^ 24 * a.toNat + 2 ^ 16 * b.toNat + 2 ^ 8 * c.toNat + d.toNat)
      (hPort : port.toNat = 256 * hi.toNat + lo.toNat) :
      Body 1 ([a, b, c, d] ++ [hi, lo]) (some ⟨.v4 address, port⟩)
  | ipv6 {octets : List UInt8} {hi lo : UInt8} {address : Ipv6} {port : UInt16}
      (hLength : octets.length = 16)
      (hAddress : ∀ i : Fin 8, (address.groups.get i).toNat =
        256 * (octets.getD (2 * i.val) 0).toNat + (octets.getD (2 * i.val + 1) 0).toNat)
      (hPort : port.toNat = 256 * hi.toNat + lo.toNat) :
      Body 4 (octets ++ [hi, lo]) (some ⟨.v6 address, port⟩)
  | domain {length : UInt8} {name : List UInt8} {hi lo : UInt8}
      (hLength : name.length = length.toNat) :
      Body 3 (length :: name ++ [hi, lo]) none

/-- What becomes of bytes with the end of the stream behind them, where a reply is expected:
the result, and the bytes that are left. -/
inductive Outcome : List UInt8 → Except ConnectionError (Option Endpoint) → List UInt8 → Prop
  | short {bytes : List UInt8} (hShort : bytes.length < 4) :
      Outcome bytes (.error .connectionRefused) []
  | version {version code reserved type : UInt8} {rest : List UInt8} (hVersion : version ≠ 5) :
      Outcome ([version, code, reserved, type] ++ rest)
        (.error (.protocol (.relayVersion version))) rest
  | failure {code reserved type : UInt8} {rest : List UInt8} (hCode : code ≠ 0) :
      Outcome ([5, code, reserved, type] ++ rest) (.error (.relayReply (.ofByte code))) rest
  | addressType {reserved type : UInt8} {rest : List UInt8}
      (hType : type ∉ ([1, 3, 4] : List UInt8)) :
      Outcome ([5, 0, reserved, type] ++ rest)
        (.error (.protocol (.relayAddressType type))) rest
  | cut {reserved type : UInt8} {front body : List UInt8} {told : Option Endpoint}
      (hBody : Body type body told) (hFront : front <+: body) (hCut : front ≠ body) :
      Outcome ([5, 0, reserved, type] ++ front) (.error .connectionRefused) []
  | told {reserved type : UInt8} {body rest : List UInt8} {told : Option Endpoint}
      (hBody : Body type body told) :
      Outcome ([5, 0, reserved, type] ++ (body ++ rest)) (.ok told) rest

theorem exists_port (bytes : List UInt8) {n : Nat} (hn : n + 2 ≤ bytes.length) :
    ∃ front hi lo, front.length = n ∧ front ++ [hi, lo] <+: bytes := by
  refine ⟨bytes.take n, bytes[n], bytes[n + 1], ?_, ?_⟩
  · rw [List.length_take]
    omega
  · have hTake : bytes.take (n + 2) = bytes.take n ++ [bytes[n], bytes[n + 1]] := by
      rw [List.take_add_one, List.take_add_one, List.getElem?_eq_getElem,
        List.getElem?_eq_getElem, List.append_assoc]
      rfl
    rw [← hTake]
    exact List.take_prefix (n + 2) bytes

/-- Enough bytes behind a header begin with a body. -/
theorem exists_body {type : UInt8} (hType : type ∈ ([1, 3, 4] : List UInt8)) (bytes : List UInt8)
    (hEnough : 258 ≤ bytes.length) : ∃ body told, Body type body told ∧ body <+: bytes := by
  obtain rfl | rfl | rfl : type = 1 ∨ type = 3 ∨ type = 4 := by simpa using hType
  · obtain ⟨octets, hi, lo, hLength, hFront⟩ := exists_port bytes (n := 4) (by omega)
    rcases octets with _ | ⟨a, _ | ⟨b, _ | ⟨c, _ | ⟨d, _ | _⟩⟩⟩⟩
    all_goals cases hLength
    exact ⟨_, _, .ipv4 (Ipv4.toNat_ofOctets a b c d) (toNat_portOf hi lo), hFront⟩
  · obtain ⟨length, tail, rfl⟩ := List.exists_cons_of_length_pos (l := bytes) (by omega)
    have hByte := length.toNat_lt
    rw [List.length_cons] at hEnough
    obtain ⟨name, hi, lo, hLength, hFront⟩ :=
      exists_port tail (n := length.toNat) (by omega)
    exact ⟨_, none, .domain hLength, (List.prefix_cons_inj length).mpr hFront⟩
  · obtain ⟨octets, hi, lo, hLength, hFront⟩ := exists_port bytes (n := 16) (by omega)
    exact ⟨_, _, .ipv6 hLength ((Ipv6.eq_ofGroups_iff hLength).mp rfl) (toNat_portOf hi lo), hFront⟩

/-- **No bytes are left out.** -/
theorem exists_outcome (bytes : List UInt8) : ∃ result left, Outcome bytes result left := by
  rcases bytes with _ | ⟨version, _ | ⟨code, _ | ⟨reserved, _ | ⟨type, rest⟩⟩⟩⟩
  · exact ⟨_, _, .short (by simp)⟩
  · exact ⟨_, _, .short (by simp)⟩
  · exact ⟨_, _, .short (by simp)⟩
  · exact ⟨_, _, .short (by simp)⟩
  by_cases hVersion : version = 5
  case neg => exact ⟨_, _, .version hVersion⟩
  subst hVersion
  by_cases hCode : code = 0
  case neg => exact ⟨_, _, .failure hCode⟩
  subst hCode
  by_cases hType : type ∈ ([1, 3, 4] : List UInt8)
  case neg => exact ⟨_, _, .addressType hType⟩
  -- With enough bytes behind them the rest has a body, which either is in the rest or is cut.
  obtain ⟨body, told, hBody, hFront⟩ :=
    exists_body hType (rest ++ List.replicate 258 0)
      (by rw [List.length_append, List.length_replicate]; omega)
  rcases List.prefix_or_prefix_of_prefix hFront (List.prefix_append rest _) with hIn | hShort
  · obtain ⟨behind, rfl⟩ := hIn
    exact ⟨_, _, .told hBody⟩
  · by_cases hWhole : rest = body
    · subst hWhole
      have hTold : Outcome ([5, 0, reserved, type] ++ (rest ++ [])) (.ok told) [] := .told hBody
      rw [List.append_nil] at hTold
      exact ⟨_, _, hTold⟩
    · exact ⟨_, _, .cut hBody hShort hWhole⟩

/-! ### What is left -/

/-- A reader that also tells what it leaves where it fails. -/
abbrev Leaving (α : Type) := ExceptT ConnectionError (StateM Incoming) α

namespace Leaving

/-- Takes exactly `n` bytes.  Where they are not there, all that is there is taken. -/
def take (n : Nat) : Leaving (List UInt8) := fun i =>
  match takeBytes n i with
  | .ok (bytes, rest) => (.ok bytes, rest)
  | .error e => (.error e, { i with bytes := [] })

def boundAddress : AddressType → Leaving (Option IpAddress)
  | .ipv4 => do
    let octets ← take 4
    return (Ipv4.ofBytes? octets).map .v4
  | .ipv6 => do
    let octets ← take 16
    return (Ipv6.ofBytes? octets).map .v6
  | .domain => do
    let length ← take 1
    let _ ← take (length.headD 0).toNat
    return none

def boundPort : Leaving UInt16 := do
  let bytes ← take 2
  return portOf (bytes.getD 0 0) (bytes.getD 1 0)

/-- Judges a header by these fields, and reads what is behind it if that is a reply. -/
def body (version code type : UInt8) : Leaving (Option Endpoint) :=
  if version ≠ Version.v5.number then throw (.protocol (.relayVersion version))
  else if !(ReplyCode.ofByte code).isSuccess then throw (.relayReply (.ofByte code))
  else
    match AddressType.ofByte? type with
    | none => throw (.protocol (.relayAddressType type))
    | some type => do
      let address ← boundAddress type
      let port ← boundPort
      return address.map fun a => ⟨a, port⟩

/-- Reads a reply as `readConnectReply` does. -/
def connectReply : Leaving (Option Endpoint) := do
  let header ← take 4
  body (header.getD 0 0) (header.getD 1 0) (header.getD 3 0)

end Leaving

section Mirrors

variable {α β : Type} {x : Leaving α} {f : Incoming → Except ConnectionError (α × Incoming)}
  {y : α → Leaving β} {g : α × Incoming → Except ConnectionError (β × Incoming)}

/-- **The one reader does what the other does, and tells what is left.**  The end stays, and
where the relay is not there nothing is left. -/
structure Mirrors (x : Leaving α) (f : Incoming → Except ConnectionError (α × Incoming)) :
    Prop where
  result : ∀ i, f i = (x i).1.map fun a => (a, (x i).2)
  ending : ∀ i, (x i).2.ending = i.ending
  drained : ∀ i, (x i).1 = .error .connectionRefused → (x i).2.bytes = []

theorem Mirrors.of_ok (hx : Mirrors x f) {i j : Incoming} {a : α} (h : f i = .ok (a, j)) :
    x i = (.ok a, j) := by
  have hResult := (hx.result i).symm.trans h
  rcases hRun : x i with ⟨_ | b, k⟩
  · rw [hRun] at hResult
    cases hResult
  · rw [hRun] at hResult
    cases hResult
    rfl

theorem Mirrors.of_refused (hx : Mirrors x f) {i : Incoming}
    (h : f i = .error .connectionRefused) :
    x i = (.error .connectionRefused, ⟨[], i.ending⟩) := by
  have hResult := (hx.result i).symm.trans h
  have hEnding := hx.ending i
  have hDrained := hx.drained i
  rcases hRun : x i with ⟨e | a, bytes, ending⟩
  · rw [hRun] at hResult hEnding hDrained
    cases hResult
    cases hEnding
    cases hDrained rfl
    rfl
  · rw [hRun] at hResult
    cases hResult

theorem mirrors_take (n : Nat) : Mirrors (Leaving.take n) (takeBytes n) := by
  constructor
  · intro i
    unfold Leaving.take
    cases takeBytes n i <;> rfl
  · intro i
    unfold Leaving.take
    split
    · rename_i hTaken
      rw [(takeBytes_eq_ok_iff.mp hTaken).2]
    · rfl
  · intro i
    unfold Leaving.take
    split
    · intro h
      cases h
    · intro _
      rfl

theorem mirrors_pure (a : α) : Mirrors (pure a) (fun i => .ok (a, i)) := by
  refine ⟨fun _ => rfl, fun _ => rfl, ?_⟩
  intro i h
  cases h

theorem mirrors_throw {e : ConnectionError} (he : e ≠ .connectionRefused) :
    Mirrors (throw e : Leaving α) (fun _ => .error e) := by
  refine ⟨fun _ => rfl, fun _ => rfl, ?_⟩
  intro i h
  cases h
  exact absurd rfl he

theorem Leaving.bind_eq (x : Leaving α) (y : α → Leaving β) (i : Incoming) :
    (x >>= y) i = match x i with
      | (.ok a, j) => y a j
      | (.error e, j) => (.error e, j) := by
  show (ExceptT.bindCont y (x i).1 (x i).2) = _
  rcases x i with ⟨_ | a, j⟩ <;> rfl

theorem Mirrors.bind (hx : Mirrors x f) (hy : ∀ a, Mirrors (y a) fun i => g (a, i)) :
    Mirrors (x >>= y) fun i => f i >>= g := by
  constructor
  · intro i
    rw [Leaving.bind_eq, hx.result i]
    rcases x i with ⟨e | a, j⟩
    · rfl
    · exact (hy a).result j
  · intro i
    have hEnding := hx.ending i
    rw [Leaving.bind_eq]
    rcases hRun : x i with ⟨e | a, j⟩
    · rw [hRun] at hEnding
      exact hEnding
    · rw [hRun] at hEnding
      exact ((hy a).ending j).trans hEnding
  · intro i
    have hDrained := hx.drained i
    rw [Leaving.bind_eq]
    rcases hRun : x i with ⟨e | a, j⟩
    · intro h
      rw [hRun] at hDrained
      cases h
      exact hDrained rfl
    · exact (hy a).drained j

end Mirrors

theorem mirrors_boundAddress (type : AddressType) :
    Mirrors (Leaving.boundAddress type) (readBoundAddress type) := by
  cases type with
  | ipv4 => exact (mirrors_take 4).bind fun _ => mirrors_pure _
  | ipv6 => exact (mirrors_take 16).bind fun _ => mirrors_pure _
  | domain => exact (mirrors_take 1).bind fun _ => (mirrors_take _).bind fun _ => mirrors_pure _

theorem mirrors_boundPort : Mirrors Leaving.boundPort readBoundPort :=
  (mirrors_take 2).bind fun _ => mirrors_pure _

theorem mirrors_connectReply : Mirrors Leaving.connectReply readConnectReply := by
  refine (mirrors_take 4).bind fun header => ?_
  dsimp only [Leaving.body]
  split
  · exact mirrors_throw (by simp)
  split
  · exact mirrors_throw (by simp)
  cases AddressType.ofByte? (header.getD 3 0) with
  | none => exact mirrors_throw (by simp)
  | some type =>
    refine (mirrors_boundAddress type).bind fun address => ?_
    dsimp only
    refine mirrors_boundPort.bind fun port => ?_
    exact mirrors_pure (address.map fun a => (⟨a, port⟩ : Endpoint))

/-! ### Reading a body -/

theorem portBytes_eq {port : UInt16} {hi lo : UInt8}
    (hPort : port.toNat = 256 * hi.toNat + lo.toNat) : portBytes port = [hi, lo] := by
  have hHi := hi.toNat_lt
  have hLo := lo.toNat_lt
  have hFirst : (port >>> 8).toUInt8 = hi := by
    rw [← UInt8.toNat_inj, UInt16.toNat_toUInt8, UInt16.toNat_shiftRight, hPort,
      Nat.shiftRight_eq_div_pow, show UInt16.toNat 8 % 16 = 8 from rfl]
    omega
  have hSecond : port.toUInt8 = lo := by
    rw [← UInt8.toNat_inj, UInt16.toNat_toUInt8, hPort]
    omega
  rw [portBytes, hFirst, hSecond]

theorem Body.takes {type : UInt8} {body : List UInt8} {told : Option Endpoint}
    (hBody : Body type body told) (reserved : UInt8) :
    Takes readConnectReply ([5, 0, reserved, type] ++ body) told := by
  cases hBody with
  | ipv4 hBits hPort =>
    rename_i a b c d hi lo address port
    obtain rfl := Ipv4.eq_ofOctets_iff.mpr hBits
    have hAddress : Takes (readBoundAddress .ipv4) [a, b, c, d] (some (.v4 (.ofOctets a b c d))) :=
      (takes_takeBytes (n := 4) [a, b, c, d] rfl).map fun octets =>
        (Ipv4.ofBytes? octets).map IpAddress.v4
    rw [← portBytes_eq hPort]
    exact takes_readConnectReply hAddress reserved port
  | ipv6 hLength hGroups hPort =>
    rename_i octets hi lo address port
    obtain rfl := (Ipv6.eq_ofGroups_iff hLength).mpr hGroups
    have hAddress : Takes (readBoundAddress .ipv6) octets
        ((Ipv6.ofBytes? octets).map IpAddress.v6) :=
      (takes_takeBytes octets hLength).map fun octets => (Ipv6.ofBytes? octets).map IpAddress.v6
    rw [Ipv6.ofBytes?, if_pos hLength] at hAddress
    rw [← portBytes_eq hPort]
    exact takes_readConnectReply hAddress reserved port
  | domain hLength =>
    rename_i length name hi lo
    have hName : Takes (fun i => takeBytes ([length].headD 0).toNat i >>= fun x => .ok (none, x.2))
        name (none : Option IpAddress) :=
      (takes_takeBytes name hLength).map fun _ => none
    have hAddress := (takes_takeBytes (n := 1) [length] rfl).bind
      (g := fun length i => takeBytes (length.headD 0).toNat i >>= fun x => .ok (none, x.2)) hName
    rw [← portBytes_eq (toNat_portOf hi lo)]
    have hDomain : Takes (readBoundAddress .domain) ([length] ++ name) none := hAddress
    exact takes_readConnectReply hDomain reserved (portOf hi lo)

/-! ### Every reply -/

/-- What is behind a header is still there when the header is looked at. -/
theorem connectReply_eq_body (version code reserved type : UInt8) (rest : List UInt8) :
    Leaving.connectReply ⟨[version, code, reserved, type] ++ rest, .eof⟩ =
      Leaving.body version code type ⟨rest, .eof⟩ := by
  have hHeader := (takes_takeBytes (n := 4) [version, code, reserved, type] rfl).whole rest .eof
  rw [Leaving.connectReply, Leaving.bind_eq, (mirrors_take 4).of_ok hHeader]
  rfl

theorem Outcome.connectReply {bytes left : List UInt8}
    {result : Except ConnectionError (Option Endpoint)} (h : Outcome bytes result left) :
    Leaving.connectReply ⟨bytes, .eof⟩ = (result, ⟨left, .eof⟩) := by
  cases h with
  | short hShort =>
    refine mirrors_connectReply.of_refused ?_
    rw [readConnectReply, takeBytes, if_neg (Nat.not_le.mpr hShort)]
    rfl
  | version hVersion =>
    have hNumber : _ ≠ Version.v5.number := hVersion
    rw [connectReply_eq_body, Leaving.body, if_pos hNumber]
    rfl
  | failure hCode =>
    rename_i code reserved type
    have hFailure : (!(ReplyCode.ofByte code).isSuccess) = true := by
      rw [Bool.not_eq_true', ← Bool.not_eq_true, ofByte_eq_succeeded_iff]
      exact hCode
    have hNumber : ¬(5 : UInt8) ≠ Version.v5.number := not_not_intro rfl
    rw [connectReply_eq_body, Leaving.body, if_neg hNumber, if_pos hFailure]
    rfl
  | addressType hType =>
    rw [connectReply_eq_body, Leaving.body, ofByte?_eq_none_iff.mpr hType]
    rfl
  | cut hBody hFront hCut =>
    rename_i reserved type front body told
    refine mirrors_connectReply.of_refused ((hBody.takes reserved).cut _ ?_ ?_)
    · exact (List.prefix_append_right_inj _).mpr hFront
    · intro h
      exact hCut (List.append_cancel_left h)
  | told hBody =>
    rw [← List.append_assoc]
    exact mirrors_connectReply.of_ok ((hBody.takes _).whole _ .eof)

/-- **The reply of a relay, byte by byte.**  Whatever a relay sends before the end of the
stream, the reader gives its one outcome, and leaves what the outcome leaves: with a success
everything behind the last byte of the port, and with a failure told by the header everything
behind the header.  A reader that tells what it leaves agrees with the one that does not, on
any stream; and the code of a failure is told with the fourth byte, whatever is behind it and
however that ends. -/
theorem reply_layout (bytes : List UInt8) :
    (∃ result left,
      readConnectReply ⟨bytes, .eof⟩ = result.map (fun told => (told, ⟨left, .eof⟩)) ∧
      Leaving.connectReply ⟨bytes, .eof⟩ = (result, ⟨left, .eof⟩) ∧
      ∀ r l, Outcome bytes r l ↔ r = result ∧ l = left) ∧
    (∀ i, readConnectReply i =
      (Leaving.connectReply i).1.map fun told => (told, (Leaving.connectReply i).2)) ∧
    ∀ code reserved type rest ending, code ≠ 0 →
      readConnectReply ⟨[5, code, reserved, type] ++ rest, ending⟩ =
        .error (.relayReply (.ofByte code)) := by
  refine ⟨?_, mirrors_connectReply.result, ?_⟩
  · obtain ⟨result, left, hOutcome⟩ := exists_outcome bytes
    have hRun := hOutcome.connectReply
    refine ⟨result, left, ?_, hRun, ?_⟩
    · rw [mirrors_connectReply.result, hRun]
    · intro r l
      constructor
      · intro h
        cases h.connectReply.symm.trans hRun
        exact ⟨rfl, rfl⟩
      · rintro ⟨rfl, rfl⟩
        exact hOutcome
  · intro code reserved type rest ending hCode
    refine readConnectReply_of_failure ?_ reserved type rest ending
    intro hSuccess
    apply hCode
    rw [← ReplyCode.byte_ofByte code, hSuccess]
    rfl

/-- A name of one byte is passed over, and so is the port behind it. -/
example : readConnectReply ⟨[5, 0, 0, 3, 1, 97, 0, 80, 7], .eof⟩ = .ok (none, ⟨[7], .eof⟩) :=
  rfl

end Socks

end SocksGateway
