import SocksGateway.Proofs.Handshake.Commit
import SocksGateway.Socks.Client

/-!
# Requests, written and read

The CONNECT request that is sent to a relay is read there by a handshake.

* `connectRequest_eq_ok_iff`, `connectRequest_eq_error_iff`: what is written for a
  destination, by name or by address, and when nothing can be written.
* `opens_nameRequest`, `opens_addressRequest`: both kinds of requests are openings.
* `request_codecs_agree`: so a handshake accepts what is written, and has the destination.
-/

namespace SocksGateway

namespace Socks

open Destination (ipv4?_eq_some_iff)

variable {d : Destination} {type : Option AddressType} {name : String} {bytes : List UInt8}

/-! ### What is written -/

/-- A request for this destination carries this name. -/
def GoesByName (d : Destination) (type : Option AddressType) (name : String) : Prop :=
  d.hostname = some name ∧ (type = some .domain ∨ d.address = none)

theorem GoesByName.unique {other : String} (h : GoesByName d type name)
    (hOther : GoesByName d type other) : name = other :=
  Option.some.inj (h.1.symm.trans hOther.1)

/-- The request that carries a name. -/
def nameRequest (name : String) (port : UInt16) : List UInt8 :=
  [5, 1, 0, 3, name.utf8ByteSize.toUInt8] ++ (name.toUTF8.toList ++ portBytes port)

/-- The request that carries an IPv4 address. -/
def addressRequest (a : Ipv4) (port : UInt16) : List UInt8 :=
  [5, 1, 0, 1] ++ (a.octets ++ portBytes port)

theorem requestName_eq_some_iff : requestName d type = some name ↔ GoesByName d type name := by
  unfold requestName GoesByName
  cases d.hostname with
  | none => simp
  | some host => simp [and_comm]

theorem requestName_eq_none_iff :
    requestName d type = none ↔ ∀ name, ¬ GoesByName d type name := by
  simp only [Option.eq_none_iff_forall_ne_some, ne_eq, requestName_eq_some_iff]

theorem connectRequest_of_name (hName : GoesByName d type name) :
    connectRequest d type =
      if name.utf8ByteSize < 256 then .ok (nameRequest name d.port)
      else .error (.protocol (.hostnameTooLong name.utf8ByteSize)) := by
  simp only [connectRequest, requestName_eq_some_iff.mpr hName, length_toUTF8]
  rfl

theorem connectRequest_of_no_name (hNone : ∀ name, ¬ GoesByName d type name) :
    connectRequest d type =
      match d.ipv4? with
      | some a => .ok (addressRequest a d.port)
      | none => .error .addressTypeNotSupported := by
  simp only [connectRequest, requestName_eq_none_iff.mpr hNone]
  rfl

theorem connectRequest_eq_ok_iff :
    connectRequest d type = .ok bytes ↔
      (∃ name, GoesByName d type name ∧ name.utf8ByteSize < 256 ∧
        bytes = nameRequest name d.port) ∨
      ((∀ name, ¬ GoesByName d type name) ∧
        ∃ a, d.address = some (.v4 a) ∧ bytes = addressRequest a d.port) := by
  by_cases hName : ∃ name, GoesByName d type name
  · obtain ⟨name, hName⟩ := hName
    rw [connectRequest_of_name hName]
    constructor
    · intro hOk
      by_cases hShort : name.utf8ByteSize < 256
      · rw [if_pos hShort, Except.ok.injEq] at hOk
        exact Or.inl ⟨name, hName, hShort, hOk.symm⟩
      · rw [if_neg hShort] at hOk
        cases hOk
    · rintro (⟨other, hOther, hShort, rfl⟩ | ⟨hNone, -⟩)
      · obtain rfl := hOther.unique hName
        rw [if_pos hShort]
      · exact absurd hName (hNone name)
  · have hNone : ∀ name, ¬ GoesByName d type name := not_exists.mp hName
    rw [connectRequest_of_no_name hNone]
    constructor
    · intro hOk
      cases hAddress : d.ipv4? with
      | none => simp [hAddress] at hOk
      | some a =>
        simp only [hAddress, Except.ok.injEq] at hOk
        exact Or.inr ⟨hNone, a, ipv4?_eq_some_iff.mp hAddress, hOk.symm⟩
    · rintro (⟨other, hOther, -⟩ | ⟨-, a, hAddress, rfl⟩)
      · exact absurd hOther (hNone other)
      · rw [ipv4?_eq_some_iff.mpr hAddress]

/-- **When nothing can be written**, and what is said then. -/
theorem connectRequest_eq_error_iff {e : ConnectionError} :
    connectRequest d type = .error e ↔
      (∃ name, GoesByName d type name ∧ 255 < name.utf8ByteSize ∧
        e = .protocol (.hostnameTooLong name.utf8ByteSize)) ∨
      ((∀ name, ¬ GoesByName d type name) ∧ d.ipv4? = none ∧ e = .addressTypeNotSupported) := by
  by_cases hName : ∃ name, GoesByName d type name
  · obtain ⟨name, hName⟩ := hName
    rw [connectRequest_of_name hName]
    constructor
    · intro hError
      by_cases hShort : name.utf8ByteSize < 256
      · rw [if_pos hShort] at hError
        cases hError
      · rw [if_neg hShort, Except.error.injEq] at hError
        exact Or.inl ⟨name, hName, by omega, hError.symm⟩
    · rintro (⟨other, hOther, hLong, rfl⟩ | ⟨hNone, -⟩)
      · obtain rfl := hOther.unique hName
        rw [if_neg (by omega)]
      · exact absurd hName (hNone name)
  · have hNone : ∀ name, ¬ GoesByName d type name := not_exists.mp hName
    rw [connectRequest_of_no_name hNone]
    constructor
    · intro hError
      cases hAddress : d.ipv4? with
      | none =>
        simp only [hAddress, Except.error.injEq] at hError
        exact Or.inr ⟨hNone, rfl, hError.symm⟩
      | some a => simp [hAddress] at hError
    · rintro (⟨other, hOther, -⟩ | ⟨-, hAddress, rfl⟩)
      · exact absurd hOther (hNone other)
      · rw [hAddress]

/-! ### What is read -/

theorem opens_nameRequest (hSome : name ≠ "") (hShort : name.utf8ByteSize < 256)
    (port : UInt16) :
    Opens (greeting ++ nameRequest name port) ⟨.v5, 1, .domain, .named name port⟩ := by
  have hSize : name.utf8ByteSize.toUInt8.toNat = name.utf8ByteSize := Nat.mod_eq_of_lt hShort
  have hLength : name.toUTF8.toList.length = name.utf8ByteSize.toUInt8.toNat := by
    rw [length_toUTF8, hSize]
  have hPositive : name.utf8ByteSize.toUInt8 ≠ 0 := by
    intro hZero
    rw [hZero] at hSize
    exact hSome (String.utf8ByteSize_eq_zero_iff.mp hSize.symm)
  have hPort : HoldPort (port >>> 8).toUInt8 port.toUInt8 port :=
    holdPort_iff.mpr (portOf_bytes port).symm
  exact @Opens.v5Name 1 0 _ _ _ [0] _ _ _ rfl (by simp) hLength hPositive
    (toUTF8_eq_toList name) hPort

theorem opens_addressRequest (a : Ipv4) (port : UInt16) :
    Opens (greeting ++ addressRequest a port) ⟨.v5, 1, .ipv4, .ofIpv4 a port⟩ := by
  have hPort : HoldPort (port >>> 8).toUInt8 port.toUInt8 port :=
    holdPort_iff.mpr (portOf_bytes port).symm
  have hAddress := holdAddress_iff.mpr (Option.some.inj (Ipv4.ofBytes?_octets a)).symm
  exact @Opens.v5Address 1 0 _ _ _ _ _ _ [0] _ _ rfl (by simp) hAddress hPort

theorem Handshake.feed_of_opens {s : Session} {w : Stream.Writer} {taken : List UInt8}
    {r : Request} (hOpens : Opens taken r) (hWriter : w.Reliable) :
    ∃ h' : Handshake, h'.progress = .accepted ∧ h'.session = s.populate r ∧
      h'.written = r.version.told ∧
      ∀ rest, ({ session := s, writer := w } : Handshake).feed (taken ++ rest) = (h', rest) := by
  obtain ⟨h', hAccepted, hSession, hAll⟩ :=
    feedAll_of_opens (h := { session := s, writer := w }) hOpens rfl hWriter
  have hFeed (rest : List UInt8) :
      ({ session := s, writer := w } : Handshake).feed (taken ++ rest) = (h', rest) := by
    obtain ⟨hHandshake, hRest⟩ := Prod.mk.inj (hAll rest)
    refine Prod.ext ?_ hRest
    -- A handshake that still read would fail at the end of input.
    by_cases hReading :
        (({ session := s, writer := w } : Handshake).feed (taken ++ rest)).1.isReading = true
    · obtain ⟨e, hFailed⟩ := endOfInput_of_reading hReading
      rw [hHandshake, hAccepted] at hFailed
      cases hFailed
    · rwa [endOfInput_of_not_reading (by simpa using hReading)] at hHandshake
  refine ⟨h', hAccepted, hSession, ?_, hFeed⟩
  have hEnd := (standsAmong_start s w).feed taken
  rw [← List.append_nil taken, hFeed [], List.append_nil, List.nil_append] at hEnd
  obtain ⟨front, -, -, hStands⟩ := hEnd
  obtain ⟨r', -, hSession', hWritten⟩ := hStands.opens hAccepted
  have hVersion := congrArg Session.version (hSession'.symm.trans hSession)
  simp only [Session.version_populate, Option.some.injEq] at hVersion
  rw [hWritten, hVersion]

/-! ### Both ends together -/

/-- A request carries a name: its fourth byte says so. -/
def CarriesName (request : List UInt8) : Prop := request[3]? = some AddressType.domain.byte

theorem carriesName_nameRequest (name : String) (port : UInt16) :
    CarriesName (nameRequest name port) := rfl

theorem not_carriesName_addressRequest (a : Ipv4) (port : UInt16) :
    ¬ CarriesName (addressRequest a port) := by
  show some AddressType.ipv4.byte ≠ some AddressType.domain.byte
  decide

/-- **What is written as a request is read as it was meant.**  A request carries a name when
the destination has one, and was asked for by it or has no address.  Behind the greeting it
makes a handshake with any session and a reliable writer accept, unless the name is empty: the
client is told the method and nothing else, all that comes behind the request is left over,
and the destination in the session is that name or that IPv4 address, with the same port.  No
request can be written exactly when the name that would be carried has more than 255 bytes,
or there is none and the address is not IPv4. -/
theorem request_codecs_agree (d : Destination) (type : Option AddressType) (s : Session)
    (w : Stream.Writer) (hWriter : w.Reliable) :
    let start : Handshake := { session := s, writer := w }
    (∀ request, connectRequest d type = .ok request →
      (CarriesName request ↔ ∃ name, GoesByName d type name) ∧
      ((CarriesName request → d.hostname ≠ some "") →
        ∃ h' : Handshake, h'.progress = .accepted ∧ h'.written = [5, 0] ∧
          (∀ rest, start.feed ([5, 1, 0] ++ request ++ rest) = (h', rest)) ∧
          (CarriesName request →
            h'.session.addressType = some .domain ∧
              h'.session.destination =
                { hostname := d.hostname, address := none, port := d.port }) ∧
          (¬ CarriesName request →
            h'.session.addressType = some .ipv4 ∧ d.ipv4?.isSome ∧
              h'.session.destination =
                { hostname := none, address := d.address, port := d.port }))) ∧
    ((∃ e, connectRequest d type = .error e) ↔
      (∃ name, GoesByName d type name ∧ 255 < name.utf8ByteSize) ∨
      ((∀ name, ¬ GoesByName d type name) ∧ d.ipv4? = none)) := by
  intro start
  constructor
  · intro request hRequest
    rcases connectRequest_eq_ok_iff.mp hRequest with
      ⟨name, hName, hShort, rfl⟩ | ⟨hNone, a, hAddress, rfl⟩
    · have hCarries := carriesName_nameRequest name d.port
      refine ⟨iff_of_true hCarries ⟨name, hName⟩, ?_⟩
      intro hSome
      have hNotEmpty : name ≠ "" := by
        rintro rfl
        exact hSome hCarries hName.1
      obtain ⟨h', hAccepted, hSession, hWritten, hFeed⟩ :=
        Handshake.feed_of_opens (s := s) (opens_nameRequest hNotEmpty hShort d.port) hWriter
      refine ⟨h', hAccepted, hWritten, hFeed, ?_, fun hNot => absurd hCarries hNot⟩
      intro _
      rw [hSession, Session.addressType_populate, Session.destination_populate, hName.1]
      exact ⟨rfl, rfl⟩
    · have hNot := not_carriesName_addressRequest a d.port
      refine ⟨iff_of_false hNot (not_exists.mpr hNone), ?_⟩
      intro _
      obtain ⟨h', hAccepted, hSession, hWritten, hFeed⟩ :=
        Handshake.feed_of_opens (s := s) (opens_addressRequest a d.port) hWriter
      refine ⟨h', hAccepted, hWritten, hFeed, fun hCarries => absurd hCarries hNot, ?_⟩
      intro _
      rw [hSession, Session.addressType_populate, Session.destination_populate,
        ipv4?_eq_some_iff.mpr hAddress, hAddress]
      exact ⟨rfl, rfl, rfl⟩
  · simp only [connectRequest_eq_error_iff]
    constructor
    · rintro ⟨e, ⟨name, hName, hLong, -⟩ | ⟨hNone, hAddress, -⟩⟩
      · exact Or.inl ⟨name, hName, hLong⟩
      · exact Or.inr ⟨hNone, hAddress⟩
    · rintro (⟨name, hName, hLong⟩ | ⟨hNone, hAddress⟩)
      · exact ⟨_, Or.inl ⟨name, hName, hLong, rfl⟩⟩
      · exact ⟨_, Or.inr ⟨hNone, hAddress, rfl⟩⟩

/-- A request goes by name, and the first byte for the other end comes with it, while the way
back takes one byte a call. -/
theorem request_codecs_agree_name :
    let d : Destination := .named "hi" 443
    let s : Session := .accept 1 ⟨1, { port := 1080, kind := .socks }⟩ {} 0
    let w : Stream.Writer := { later := .takes 1 }
    w.Reliable ∧ connectRequest d (some .domain) = .ok [5, 1, 0, 3, 2, 104, 105, 1, 187] ∧
      ∃ h' : Handshake, h'.progress = .accepted ∧ h'.session.destination = d ∧
        ({ session := s, writer := w } : Handshake).feed
          [5, 1, 0, 5, 1, 0, 3, 2, 104, 105, 1, 187, 7] = (h', [7]) := by
  intro d s w
  have hWriter : w.Reliable := ⟨by simp [w], Nat.one_pos, rfl⟩
  have hBytes : [5, 1, 0, 3, 2, 104, 105, 1, 187] = nameRequest "hi" 443 := by decide +kernel
  have hRequest : connectRequest d (some .domain) = .ok [5, 1, 0, 3, 2, 104, 105, 1, 187] :=
    connectRequest_eq_ok_iff.mpr (Or.inl ⟨"hi", ⟨rfl, Or.inl rfl⟩, by decide, hBytes⟩)
  obtain ⟨-, hRead⟩ := (request_codecs_agree d (some .domain) s w hWriter).1 _ hRequest
  obtain ⟨h', hAccepted, -, hFeed, hByName, -⟩ := hRead fun _ => by decide
  exact ⟨hWriter, hRequest, h', hAccepted, (hByName rfl).2, hFeed [7]⟩

end Socks

end SocksGateway
