import SocksGateway.Proofs.Connector.Attempts
import SocksGateway.Proofs.Dns.Faithful
import SocksGateway.Proofs.Handshake.Commit
import SocksGateway.Proofs.Routing.FirstMatch
import SocksGateway.Proofs.Socks.RequestAgreement

/-!
# From what a client asks for to what a relay is asked for

The type of a session's address says what the destination is known by.  It is put down by a
handshake or by a port forward; rules relocate the destination, lookups fill in its address,
and the request to a relay is made from both.

* `Addressed`: the type fits the destination.
* `Addressed.route`, `Addressed.attempt`: decisions and attempts keep that.
* `Course`: a session in the course of decisions and attempts; `Course.addressed`.
* `addressed_throughout`: what that means for the request to a relay.
-/

namespace SocksGateway

variable {σ : Type} {P Q : String → Prop} {s t : Session}

/-! ### The type and the destination -/

/-- **The type of the address fits the destination**: it is IPv4 and the destination is an
IPv4 address without a name, or it is a name and the destination has one with the property. -/
inductive Addressed (P : String → Prop) (s : Session) : Prop
  | byAddress {a : Ipv4} (hType : s.addressType = some .ipv4)
      (hName : s.destination.hostname = none) (hAddress : s.destination.address = some (.v4 a))
  | byName {name : String} (hType : s.addressType = some .domain)
      (hName : s.destination.hostname = some name) (hProperty : P name)

namespace Addressed

theorem mono (h : Addressed P s) (hPQ : ∀ name, P name → Q name) : Addressed Q s := by
  cases h with
  | byAddress hType hName hAddress => exact .byAddress hType hName hAddress
  | byName hType hName hProperty => exact .byName hType hName (hPQ _ hProperty)

theorem congr (h : Addressed P s) (hType : t.addressType = s.addressType)
    (hDestination : t.destination = s.destination) : Addressed P t := by
  cases h with
  | byAddress hType' hName hAddress =>
    exact .byAddress (hType.trans hType') (hDestination ▸ hName) (hDestination ▸ hAddress)
  | byName hType' hName hProperty =>
    exact .byName (hType.trans hType') (hDestination ▸ hName) hProperty

theorem property (h : Addressed P s) {name : String} (hName : s.destination.hostname = some name) :
    P name := by
  cases h with
  | byAddress _ hNone _ => cases hNone.symm.trans hName
  | byName _ hSome hProperty =>
    obtain rfl := Option.some.inj (hSome.symm.trans hName)
    exact hProperty

theorem withAddress (h : Addressed P s) (hSome : s.destination.hostname ≠ none) {d : Destination}
    (hHost : d.hostname = s.destination.hostname) :
    Addressed P { s with destination := d } := by
  cases h with
  | byAddress _ hName _ => exact absurd hName hSome
  | byName hType hName hProperty => exact .byName hType (hHost.trans hName) hProperty

/-! ### Decisions -/

theorem relocate (h : Addressed P s) (target : Option Network) (f : Facts) :
    Addressed P (Routing.relocate target s f).1 := by
  unfold Routing.relocate
  cases target with
  | none => exact h
  | some n =>
    cases s.destination.ipv4? with
    | none => exact h
    | some a => exact .byAddress rfl rfl rfl

theorem resolve {resolver : Resolver σ} (hFaithful : Dns.Faithful resolver)
    (h : Addressed P s) (rule : Rule) (f : Facts) (w : σ) :
    Addressed P (Routing.resolve resolver rule s f w).1 := by
  unfold Routing.resolve
  split
  · have hKeeps := hFaithful.keeps s.destination
    have hFails := hFaithful.fails s.destination w
    rcases hResult : resolver s.destination w with ⟨result, v⟩
    rw [hResult] at hFails
    cases result with
    | error e => exact h
    | ok d =>
      have hSome : s.destination.hostname ≠ none := by
        intro hNone
        obtain ⟨e, hError⟩ := hFails hNone
        cases hError
      exact h.withAddress hSome (hKeeps d w (by rw [hResult])).1
  · exact h

theorem apply {resolver : Resolver σ} (hFaithful : Dns.Faithful resolver) (h : Addressed P s)
    (rule : Rule) (f : Facts) (w : σ) : Addressed P (Routing.apply resolver rule s f w).1 :=
  (h.relocate rule.target f).resolve hFaithful rule _ w

/-- **A decision keeps the type fitting**, whatever the rules are. -/
theorem route {resolver : Resolver σ} (hFaithful : Dns.Faithful resolver) (h : Addressed P s)
    (e : Routing.Engine) (w : σ) : Addressed P (e.route resolver s w).session := by
  refine Routing.Engine.route_keeps ?_ ?_ e w h
  · intro rule s w hs
    exact hs.apply hFaithful rule _ w
  · intro s route hs
    exact hs.congr rfl rfl

/-! ### Attempts -/

theorem directAddress (h : Addressed P s) (env : Surroundings σ) (w : σ) :
    Addressed P (Connector.directAddress env s w).2.1 := by
  unfold Connector.directAddress
  split
  · exact h
  · exact h
  · rename_i name hNone hName
    have hSome : s.destination.hostname ≠ none := by simp [hName]
    split
    · exact h
    · split
      · exact h
      · split
        · exact h
        · exact h.withAddress hSome rfl

theorem attempt (h : Addressed P s) (env : Surroundings σ) (tunnel : Tunnel) (w : σ) :
    Addressed P (Connector.attempt env s tunnel w).2.1 := by
  cases tunnel with
  | null => exact h
  | chained c => exact h
  | direct =>
    rw [Connector.attempt, Connector.session_connectDirect]
    exact h.directAddress env w

/-! ### Requests -/

/-- Nothing but a name that is too long keeps a request from being written. -/
theorem connectRequest_eq_error_iff (h : Addressed P s) {e : ConnectionError} :
    Socks.connectRequest s.destination s.addressType = .error e ↔
      ∃ name, s.destination.hostname = some name ∧ 255 < name.utf8ByteSize ∧
        e = .protocol (.hostnameTooLong name.utf8ByteSize) := by
  rw [Socks.connectRequest_eq_error_iff]
  cases h with
  | @byAddress a hType hName hAddress =>
    have hIpv4 : s.destination.ipv4? = some a := Destination.ipv4?_eq_some_iff.mpr hAddress
    simp [Socks.GoesByName, hName, hIpv4]
  | @byName name hType hName hProperty =>
    have hGoes : Socks.GoesByName s.destination s.addressType name := ⟨hName, Or.inl hType⟩
    constructor
    · rintro (⟨other, hOther, hLong, hError⟩ | ⟨hNone, -⟩)
      · exact ⟨other, hOther.1, hLong, hError⟩
      · exact absurd hGoes (hNone name)
    · rintro ⟨other, hOther, hLong, hError⟩
      exact Or.inl ⟨other, ⟨hOther, Or.inl hType⟩, hLong, hError⟩

theorem connectRequest_eq_ok (h : Addressed (fun name => name.utf8ByteSize ≤ 255) s) :
    ∃ request, Socks.connectRequest s.destination s.addressType = .ok request := by
  cases hRequest : Socks.connectRequest s.destination s.addressType with
  | ok request => exact ⟨request, rfl⟩
  | error e =>
    obtain ⟨name, hName, hLong, -⟩ := h.connectRequest_eq_error_iff.mp hRequest
    have hShort := h.property hName
    omega

end Addressed

/-! ### How it begins -/

/-- A handshake has left this session: it began with some session and has accepted what came
from its client. -/
def Negotiated (s : Session) : Prop :=
  ∃ (s₀ : Session) (w : Stream.Writer) (arrivals : List Socks.Handshake.Arrival),
    let h := ({ session := s₀, writer := w } : Socks.Handshake).arriveAll arrivals
    h.progress = .accepted ∧ h.session = s

/-- A port forward to this host has left this session. -/
def Forwarded (host : String) (s : Session) : Prop :=
  ∃ (s₀ : Session) (port : UInt16),
    s₀.service.spec.kind = .forward host port ∧ s₀.prepareForward = s

theorem addressed_of_opens {bytes : List UInt8} {r : Request} (hOpens : Socks.Opens bytes r)
    (s : Session) :
    Addressed (fun name => name ≠ "" ∧ name.utf8ByteSize ≤ 255) (s.populate r) := by
  have hType := s.addressType_populate r
  have hDestination := s.destination_populate r
  cases hOpens with
  | v4 => exact .byAddress hType (by rw [hDestination]; rfl) (by rw [hDestination]; rfl)
  | v5Address => exact .byAddress hType (by rw [hDestination]; rfl) (by rw [hDestination]; rfl)
  | @v5Name _ _ length _ _ _ name _ text _ _ hLength hSome hText _ =>
    have hSize : text.utf8ByteSize = length.toNat := by
      rw [← hLength]
      exact congrArg ByteArray.size hText
    have hName : (s.populate ⟨.v5, 1, .domain, .named text _⟩).destination.hostname = some text :=
      congrArg Destination.hostname hDestination
    refine .byName hType hName ⟨?_, ?_⟩
    · rintro rfl
      exact hSome (UInt8.toNat_inj.mp hSize.symm)
    · have hByte := length.toNat_lt
      omega

theorem Negotiated.addressed (h : Negotiated s) :
    Addressed (fun name => name ≠ "" ∧ name.utf8ByteSize ≤ 255) s := by
  obtain ⟨s₀, w, arrivals, hAccepted, rfl⟩ := h
  obtain ⟨taken, -, -, hStands⟩ := Socks.Handshake.standsAmong_arriveAll
    (Socks.Handshake.standsAmong_start s₀ w) arrivals
  obtain ⟨r, hOpens, hSession, -⟩ := hStands.opens hAccepted
  rw [hSession]
  exact addressed_of_opens hOpens s₀

theorem Forwarded.addressed {host : String} (h : Forwarded host s) : Addressed (· = host) s := by
  obtain ⟨s₀, port, hKind, rfl⟩ := h
  have hPrepared : s₀.prepareForward = s₀.populate (Session.forwardRequest host port) := by
    rw [Session.prepareForward, hKind]
  have hType := s₀.addressType_populate (Session.forwardRequest host port)
  have hDestination := s₀.destination_populate (Session.forwardRequest host port)
  have hName : (s₀.populate (Session.forwardRequest host port)).destination.hostname = some host :=
    congrArg Destination.hostname hDestination
  rw [hPrepared]
  exact .byName hType hName rfl

/-! ### How it goes on -/

namespace Connector

variable {env : Surroundings σ} {x y z : Session × σ}

/-- **A session in the course of decisions and attempts**, in any order and number: each
decision by any rules, and each attempt on any tunnel and with any outcome. -/
inductive Course (env : Surroundings σ) (x : Session × σ) : Session × σ → Prop
  | start : Course env x x
  | decided {s : Session} {w : σ} (prior : Course env x (s, w)) (e : Routing.Engine) :
      Course env x ((e.route env.resolve s w).session, (e.route env.resolve s w).world)
  | tried {s s' : Session} {w w' : σ} {tunnel : Tunnel} {result : Except ConnectionError Connected}
      (prior : Course env x (s, w))
      (hAttempt : attempt env (trying s tunnel) tunnel w = (result, s', w')) :
      Course env x (settled s' result, w')

theorem Course.tries {tunnels : List Tunnel} {tries : List Try} (h : Course env x y)
    (hTried : Tried env tunnels y tries z) : Course env x z := by
  induction hTried with
  | none => exact h
  | next hTurn hAttempt hRest ih => exact ih (h.tried hAttempt)

theorem Course.connect {s : Session} {w : σ} (h : Course env x (s, w)) (policy : RetryPolicy) :
    Course env x ((connect env policy s w).session, (connect env policy s w).world) := by
  unfold Connector.connect
  cases s.route with
  | none => exact h
  | some r =>
    dsimp only
    split
    · exact h
    · rename_i hTunnels
      obtain ⟨tries, -, hTried, -⟩ := connectVia_tries env policy s w (by simpa using hTunnels)
      exact h.tries hTried

/-- **The type fits throughout the course.** -/
theorem Course.addressed (hFaithful : Dns.Faithful env.resolve) (h : Course env x y)
    (hStart : Addressed P x.1) : Addressed P y.1 := by
  induction h with
  | start => exact hStart
  | @decided s w prior e ih => exact ih.route hFaithful e w
  | @tried s s' w w' tunnel result prior hAttempt ih =>
    have hTrying : Addressed P (trying s tunnel) := ih.congr rfl rfl
    have hLeft := hTrying.attempt env tunnel w
    rw [hAttempt] at hLeft
    cases result with
    | ok c => exact hLeft.congr rfl rfl
    | error e => exact hLeft.congr rfl rfl

/-- **From the client to the relay, the type of the address fits the destination.**  Take a
session that a handshake has left, or a port forward to a host with a name, and lookups that
keep to the name.  Whatever decisions and attempts come, a whole connection among them: the
type is IPv4 and the destination is an IPv4 address without a name, or the type is a name and
there is one that is not empty.  So a request to a relay never fails for the type of the
address.  After a handshake it can always be written; for a port forward it fails exactly when
the host has more than 255 bytes and no relocation has taken its name away. -/
theorem addressed_throughout (env : Surroundings σ) (hFaithful : Dns.Faithful env.resolve)
    {s : Session} {w : σ} (hStart : Negotiated s ∨ ∃ host, host ≠ "" ∧ Forwarded host s)
    {t : Session} {v : σ} (hCourse : Course env (s, w) (t, v)) :
    let request := Socks.connectRequest t.destination t.addressType
    Addressed (· ≠ "") t ∧ request ≠ .error .addressTypeNotSupported ∧
      (Negotiated s → ∃ bytes, request = .ok bytes) ∧
      (∀ host, Forwarded host s → ((∃ e, request = .error e) ↔
        255 < host.utf8ByteSize ∧ t.destination.hostname = some host)) ∧
      ∀ policy, Course env (s, w)
        ((connect env policy t v).session, (connect env policy t v).world) := by
  intro request
  have hAddressed : Addressed (· ≠ "") t := by
    refine hCourse.addressed hFaithful ?_
    rcases hStart with hNegotiated | ⟨host, hSome, hForwarded⟩
    · exact hNegotiated.addressed.mono fun name h => h.1
    · refine hForwarded.addressed.mono ?_
      rintro name rfl
      exact hSome
  refine ⟨hAddressed, ?_, ?_, ?_, hCourse.connect⟩
  · intro hError
    obtain ⟨name, -, -, hOther⟩ := hAddressed.connectRequest_eq_error_iff.mp hError
    cases hOther
  · intro hNegotiated
    have hShort := hCourse.addressed hFaithful hNegotiated.addressed
    exact (hShort.mono fun name h => h.2).connectRequest_eq_ok
  · intro host hForwarded
    have hHost := hCourse.addressed hFaithful hForwarded.addressed
    constructor
    · rintro ⟨e, hError⟩
      obtain ⟨name, hName, hLong, -⟩ := hHost.connectRequest_eq_error_iff.mp hError
      obtain rfl : name = host := hHost.property hName
      exact ⟨hLong, hName⟩
    · rintro ⟨hLong, hName⟩
      exact ⟨_, hHost.connectRequest_eq_error_iff.mpr ⟨host, hName, hLong, rfl⟩⟩

/-- A client asks for a name that turns out to stand for an IPv6 address, so that it cannot be
reached directly; a relay can still be asked for it. -/
theorem addressed_throughout_ipv6 :
    let env : Surroundings Unit :=
      { resolve := Dns.table [("hi", some (.v6 .unspecified))]
        dial := fun _ w => (.timedOut, w) }
    let s₀ : Session := .accept 1 ⟨1, { port := 1080, kind := .socks }⟩ {} 0
    let s := (({ session := s₀ } : Socks.Handshake).arriveAll
      [.bytes [5, 1, 0, 5, 1], .bytes [0, 3, 2, 104, 105, 0, 80]]).session
    let e : Routing.Engine :=
      { rules := [{ resolveDns := true, tunnels := [.direct], place := ⟨"rules", 1⟩ }] }
    let d := e.route env.resolve s ()
    let o := connect env (.ofSettings {}) d.session d.world
    (Dns.Faithful env.resolve ∧ Negotiated s ∧ Course env (s, ()) (o.session, o.world)) ∧
      o.session.destination.address = some (.v6 .unspecified) ∧
      ∃ bytes, Socks.connectRequest o.session.destination o.session.addressType = .ok bytes := by
  intro env s₀ s e d o
  have hFaithful : Dns.Faithful env.resolve := Dns.faithful_table _
  have hNegotiated : Negotiated s := ⟨s₀, {}, _, by decide +kernel, rfl⟩
  have hCourse : Course env (s, ()) (o.session, o.world) :=
    (Course.start.decided e).connect (.ofSettings {})
  obtain ⟨-, -, hRequest, -⟩ :=
    addressed_throughout env hFaithful (Or.inl hNegotiated) hCourse
  exact ⟨⟨hFaithful, hNegotiated, hCourse⟩, by decide +kernel, hRequest hNegotiated⟩

end Connector

end SocksGateway
