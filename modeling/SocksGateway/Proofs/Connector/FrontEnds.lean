import SocksGateway.Proofs.Connector.Attempts
import SocksGateway.Proofs.Routing.FirstMatch
import SocksGateway.Proofs.Socks.RequestAgreement

/-!
# The same destination, asked for in different ways

An IPv4 address can be asked for in either version of the protocol, and a name in SOCKS5
or by a port forward.  Three places fill in a session for that, each by hand.

* `Agree`: two sessions ask for the same.
* `Leaves`: what a handshake that accepts a request leaves in its session.
* `alike_search`, `together_rounds`: rule by rule and round by round, the same is done for
  sessions that agree.
* `requests`: what is asked of the relays on the way.
* `front_ends_agree`: what follows for clients that ask for the same.
-/

namespace SocksGateway

/-- **The two sessions ask for the same**, in whichever version of the protocol. -/
structure Agree (s t : Session) : Prop where
  command : t.command = s.command
  commandRequested : t.commandRequested = s.commandRequested
  addressType : t.addressType = s.addressType
  addressTypeRequested : t.addressTypeRequested = s.addressTypeRequested
  destination : t.destination = s.destination
  destinationRequested : t.destinationRequested = s.destinationRequested

variable {σ : Type} {s t : Session}

/-! ### What leaves sessions in agreement -/

namespace Agree

theorem withDestination (h : Agree s t) (d : Destination) :
    Agree { s with destination := d } { t with destination := d } :=
  ⟨h.command, h.commandRequested, h.addressType, h.addressTypeRequested, rfl,
    h.destinationRequested⟩

theorem relocated (h : Agree s t) (d : Destination) :
    Agree { s with destination := d, addressType := some .ipv4 }
      { t with destination := d, addressType := some .ipv4 } :=
  ⟨h.command, h.commandRequested, rfl, h.addressTypeRequested, rfl, h.destinationRequested⟩

theorem congr {s' t' : Session} (h : Agree s t)
    (hs : s' = { s with
      route := s'.route
      tunnel := s'.tunnel
      status := s'.status
      outboundOpen := s'.outboundOpen })
    (ht : t' = { t with
      route := t'.route
      tunnel := t'.tunnel
      status := t'.status
      outboundOpen := t'.outboundOpen }) : Agree s' t' := by
  rw [hs, ht]
  exact ⟨h.command, h.commandRequested, h.addressType, h.addressTypeRequested, h.destination,
    h.destinationRequested⟩

theorem withRoute (h : Agree s t) (route : Option Rule) :
    Agree { s with route } { t with route } := h.congr rfl rfl

theorem trying (h : Agree s t) (tunnel : Tunnel) :
    Agree (Connector.trying s tunnel) (Connector.trying t tunnel) := h.congr rfl rfl

theorem settled (h : Agree s t) (result : Except ConnectionError Connector.Connected) :
    Agree (Connector.settled s result) (Connector.settled t result) := by
  cases result with
  | ok c => exact h.congr rfl rfl
  | error e => exact h.congr rfl rfl

end Agree

/-! ### Requests -/

namespace Session

theorem populate_of_fresh (hFresh : s.destinationRequested = none) (r : Request) :
    s.populate r =
      { s with
        version := some r.version
        command := r.command?
        commandRequested := r.command?
        addressType := some r.addressType
        addressTypeRequested := some r.addressType
        destination := r.destination
        destinationRequested := some r.destination } := by
  simp only [populate, recordDestination, hFresh]

end Session

theorem agree_populate (hs : s.destinationRequested = none) (ht : t.destinationRequested = none)
    {r q : Request} (hSame : q = { r with version := q.version }) :
    Agree (s.populate r) (t.populate q) := by
  rw [Session.populate_of_fresh hs, Session.populate_of_fresh ht, hSame]
  exact ⟨rfl, rfl, rfl, rfl, rfl, rfl⟩

/-- The request to connect to an IPv4 address, in either version. -/
def Request.toAddress (version : Socks.Version) (a : Ipv4) (port : UInt16) : Request :=
  ⟨version, Socks.Command.connect.byte, .ipv4, .ofIpv4 a port⟩

namespace Socks

open Handshake (Arrival standsAmong_start standsAmong_arriveAll)

variable {taken front all : List UInt8} {r q : Request}

theorem Opens.commandByte_eq (h : Opens taken r) : r.commandByte = 1 := by
  cases h <;> rfl

/-- **Bytes begin with one opening at most.** -/
theorem Opens.unique (hTaken : Opens taken r) (hFront : Opens front q) (hAll : taken <+: all)
    (hAll' : front <+: all) : r = q := by
  obtain ⟨rest, hRest⟩ := hAll
  obtain ⟨rest', hRest'⟩ := hAll'
  let s : Session := .accept 1 ⟨1, { port := 1080, kind := .socks }⟩ {} 0
  have hFresh : s.destinationRequested = none := rfl
  obtain ⟨h, -, hSession, -, hFeed⟩ :=
    Handshake.feed_of_opens (s := s) hTaken Stream.Writer.reliable_default
  obtain ⟨h', -, hSession', -, hFeed'⟩ :=
    Handshake.feed_of_opens (s := s) hFront Stream.Writer.reliable_default
  -- Both are what the handshake takes of the same bytes.
  have hSame : h = h' := by
    have hBoth := (hFeed rest).symm.trans ((congrArg _ (hRest.trans hRest'.symm)).trans
      (hFeed' rest'))
    exact congrArg Prod.fst hBoth
  have hPopulate : s.populate r = s.populate q := by rw [← hSession, ← hSession', hSame]
  have hVersion := congrArg Session.version hPopulate
  have hType := congrArg Session.addressType hPopulate
  have hDestination := congrArg Session.destination hPopulate
  simp only [Session.version_populate, Session.addressType_populate, Session.destination_populate,
    Option.some.injEq] at hVersion hType hDestination
  have hCommand : r.commandByte = q.commandByte :=
    hTaken.commandByte_eq.trans hFront.commandByte_eq.symm
  obtain ⟨version, command, type, destination⟩ := r
  obtain ⟨version', command', type', destination'⟩ := q
  cases hVersion
  cases hCommand
  cases hType
  cases hDestination
  rfl

/-- **A handshake leaves this session when it accepts this request.**  It began with the
session `s₀`; the bytes came in whatever pieces, with whatever failures to read and to write
between them. -/
def Leaves (s₀ : Session) (r : Request) (s : Session) : Prop :=
  ∃ (taken : List UInt8) (w : Stream.Writer) (arrivals : List Arrival),
    Opens taken r ∧ taken <+: arrivals.flatMap Arrival.payload ∧
      let h := ({ session := s₀, writer := w } : Handshake).arriveAll arrivals
      h.progress = .accepted ∧ h.session = s

theorem Leaves.eq_populate {s₀ : Session} (h : Leaves s₀ r s) : s = s₀.populate r := by
  obtain ⟨taken, w, arrivals, hOpens, hTaken, hAccepted, rfl⟩ := h
  obtain ⟨front, hFront, -, hStands⟩ :=
    standsAmong_arriveAll (standsAmong_start s₀ w) arrivals
  obtain ⟨q, hOpens', hSession, -⟩ := hStands.opens hAccepted
  rw [hSession, hOpens.unique hOpens' hTaken hFront]

/-- An opening that comes in one piece, over a reliable way back, is accepted. -/
theorem leaves_of_opens (s₀ : Session) (hOpens : Opens taken r) : Leaves s₀ r (s₀.populate r) := by
  obtain ⟨h, hAccepted, hSession, -, hFeed⟩ :=
    Handshake.feed_of_opens (s := s₀) hOpens Stream.Writer.reliable_default
  have hArrived : ({ session := s₀ } : Handshake).arriveAll [.bytes taken] = h := by
    have hAll := hFeed []
    rw [List.append_nil] at hAll
    exact congrArg Prod.fst hAll
  refine ⟨taken, {}, [.bytes taken], hOpens, by simp [Arrival.payload], ?_⟩
  rw [hArrived]
  exact ⟨hAccepted, hSession⟩

/-- **Every IPv4 address can be asked for in either version.** -/
theorem exists_leaves_toAddress (s₀ : Session) (version : Version) (a : Ipv4) (port : UInt16) :
    ∃ s, Leaves s₀ (.toAddress version a port) s := by
  have hPort : HoldPort (port >>> 8).toUInt8 port.toUInt8 port :=
    holdPort_iff.mpr (portOf_bytes port).symm
  have hAddress := holdAddress_iff.mpr (Option.some.inj (Ipv4.ofBytes?_octets a)).symm
  cases version with
  | v4 =>
    have hOpens := @Opens.v4 _ _ _ _ _ _ _ _ [] hPort hAddress (by simp) (by decide)
    exact ⟨_, leaves_of_opens s₀ hOpens⟩
  | v5 => exact ⟨_, leaves_of_opens s₀ (opens_addressRequest a port)⟩

/-- **Every name of one to 255 bytes can be asked for.** -/
theorem exists_leaves_forwardRequest (s₀ : Session) {host : String} (hSome : host ≠ "")
    (hShort : host.utf8ByteSize ≤ 255) (port : UInt16) :
    ∃ s, Leaves s₀ (Session.forwardRequest host port) s :=
  ⟨_, leaves_of_opens s₀ (opens_nameRequest hSome (by omega) port)⟩

end Socks

/-! ### Decisions -/

namespace Routing

theorem alike_relocate (h : Agree s t) (target : Option Network) (f : Facts) :
    ∃ s' t' g log, relocate target s f = (s', g, log) ∧ relocate target t f = (t', g, log) ∧
      Agree s' t' := by
  unfold relocate
  rw [h.destination]
  cases target with
  | none => exact ⟨s, t, f, [], rfl, rfl, h⟩
  | some n =>
    cases s.destination.ipv4? with
    | none => exact ⟨s, t, f, _, rfl, rfl, h⟩
    | some a => exact ⟨_, _, _, _, rfl, rfl, h.relocated _⟩

theorem alike_resolve (h : Agree s t) (resolver : Resolver σ) (rule : Rule) (f : Facts) (w : σ) :
    ∃ s' t' g log v, resolve resolver rule s f w = (s', g, log, v) ∧
      resolve resolver rule t f w = (t', g, log, v) ∧ Agree s' t' := by
  unfold resolve
  rw [h.destination]
  cases rule.resolveDns with
  | false => exact ⟨s, t, f, [], w, rfl, rfl, h⟩
  | true =>
    rcases resolver s.destination w with ⟨result, v⟩
    cases result with
    | ok d => exact ⟨_, _, _, _, v, rfl, rfl, h.withDestination d⟩
    | error e => exact ⟨s, t, f, _, v, rfl, rfl, h⟩

theorem alike_apply (h : Agree s t) (resolver : Resolver σ) (rule : Rule) (f : Facts) (w : σ) :
    ∃ s' t' g log v, apply resolver rule s f w = (s', g, log, v) ∧
      apply resolver rule t f w = (t', g, log, v) ∧ Agree s' t' := by
  obtain ⟨s₁, t₁, f₁, relocateLog, hs₁, ht₁, h₁⟩ := alike_relocate h rule.target f
  obtain ⟨s₂, t₂, f₂, resolveLog, v, hs₂, ht₂, h₂⟩ := alike_resolve h₁ resolver rule f₁ w
  refine ⟨s₂, t₂, f₂, .applies rule :: (relocateLog ++ resolveLog), v, ?_, ?_, h₂⟩
  · simp only [apply, hs₁, hs₂]
  · simp only [apply, ht₁, ht₂]

/-- **Rule by rule, sessions that agree find the same**, and go on agreeing. -/
theorem alike_search (h : Agree s t) (resolver : Resolver σ) (i : Nat) (rules : List Rule)
    (f : Facts) (w : σ) :
    ∃ s' t' found log v, search resolver i rules s f w = ⟨s', found, log, v⟩ ∧
      search resolver i rules t f w = ⟨t', found, log, v⟩ ∧ Agree s' t' := by
  induction rules generalizing i s t f w with
  | nil => exact ⟨s, t, none, [], w, rfl, rfl, h⟩
  | cons rule rest ih =>
    by_cases hHolds : rule.holds f = true
    · obtain ⟨s₁, t₁, g, log, v, hs, ht, h₁⟩ := alike_apply h resolver rule f w
      by_cases hTerminal : rule.isTerminal = true
      · rw [search_of_terminal hHolds hTerminal hs, search_of_terminal hHolds hTerminal ht]
        exact ⟨s₁, t₁, _, log, v, rfl, rfl, h₁⟩
      · obtain ⟨s₂, t₂, found, later, u, hs₂, ht₂, h₂⟩ := ih h₁ (i + 1) g v
        rw [search_of_not_terminal hHolds hTerminal hs, search_of_not_terminal hHolds hTerminal ht,
          hs₂, ht₂]
        exact ⟨s₂, t₂, found, log ++ later, u, rfl, rfl, h₂⟩
    · rw [search_of_not_holds hHolds, search_of_not_holds hHolds]
      exact ih h (i + 1) f w

/-- Two decisions are the same, and leave sessions that agree. -/
structure Alike (d d' : Decision σ) : Prop where
  route : d'.route = d.route
  explicit : d'.explicit = d.explicit
  engine : d'.engine = d.engine
  log : d'.log = d.log
  world : d'.world = d.world
  sessionRoute : d'.session.route = d.session.route
  agree : Agree d.session d'.session

theorem alike_route (h : Agree s t) (resolver : Resolver σ) (e : Engine) (w : σ) :
    Alike (e.route resolver s w) (e.route resolver t w) := by
  obtain ⟨s', t', found, log, v, hs, ht, hAgree⟩ :=
    alike_search h resolver 0 e.rules (.of s.destination) w
  rw [Engine.route_eq, Engine.route_eq, h.destination, hs, ht]
  cases found with
  | none =>
    rw [Search.decision_of_none rfl, Search.decision_of_none rfl]
    exact ⟨rfl, rfl, rfl, rfl, rfl, rfl, hAgree.withRoute _⟩
  | some found =>
    rw [Search.decision_of_found rfl, Search.decision_of_found rfl]
    exact ⟨rfl, rfl, rfl, rfl, rfl, rfl, hAgree.withRoute _⟩

end Routing

/-! ### Attempts -/

namespace Connector

variable {env : Surroundings σ}

theorem withDestination_eq {d : Destination} (h : t.destination = d) :
    { t with destination := d } = t := by
  rw [← h]

/-- An address is found for one of two destinations that are the same as it is for the
other. -/
theorem alike_directAddress (env : Surroundings σ) (h : t.destination = s.destination) (w : σ) :
    ∃ result d v, directAddress env s w = (result, { s with destination := d }, v) ∧
      directAddress env t w = (result, { t with destination := d }, v) := by
  have hKept (result : Except ConnectionError IpAddress) (v : σ) :
      ∃ result' d v', (result, s, v) = (result', { s with destination := d }, v') ∧
        (result, t, v) = (result', { t with destination := d }, v') :=
    ⟨result, s.destination, v, rfl, by rw [withDestination_eq h]⟩
  unfold directAddress
  rw [h]
  cases s.destination.address with
  | some a => exact hKept _ w
  | none =>
    cases s.destination.hostname with
    | none => exact hKept _ w
    | some name =>
      dsimp only
      cases Ipv4.parse? name.toList with
      | some a => exact hKept _ w
      | none =>
        rcases env.resolve s.destination w with ⟨found, v⟩
        cases found with
        | error e => exact hKept _ v
        | ok d =>
          dsimp only
          cases d.address with
          | none => exact hKept _ v
          | some a => exact ⟨_, _, v, rfl, rfl⟩

theorem alike_connectDirect (env : Surroundings σ) (h : t.destination = s.destination) (w : σ) :
    ∃ result d v, connectDirect env s w = (result, { s with destination := d }, v) ∧
      connectDirect env t w = (result, { t with destination := d }, v) := by
  obtain ⟨found, d, v, hs, ht⟩ := alike_directAddress env h w
  unfold connectDirect
  rw [hs, ht]
  cases found with
  | error e => exact ⟨_, d, v, rfl, rfl⟩
  | ok a =>
    cases a with
    | v6 a => exact ⟨_, d, v, rfl, rfl⟩
    | v4 a =>
      dsimp only
      rcases env.openStream ⟨.v4 a, d.port⟩ v with ⟨opened, u⟩
      cases opened with
      | error e => exact ⟨_, d, u, rfl, rfl⟩
      | ok p => exact ⟨_, d, u, rfl, rfl⟩

theorem alike_attempt (env : Surroundings σ) (h : Agree s t) (tunnel : Tunnel) (w : σ) :
    ∃ result s' t' v, attempt env s tunnel w = (result, s', v) ∧
      attempt env t tunnel w = (result, t', v) ∧ Agree s' t' := by
  cases tunnel with
  | null => exact ⟨_, s, t, w, rfl, rfl, h⟩
  | direct =>
    obtain ⟨result, d, v, hs, ht⟩ := alike_connectDirect env h.destination w
    exact ⟨result, _, _, v, hs, ht, h.withDestination d⟩
  | chained c =>
    refine ⟨_, s, t, _, rfl, ?_, h⟩
    unfold attempt connectChained
    rw [h.destination, h.addressType]

/-! ### Rounds -/

/-- **Two attempts have come equally far**, for sessions that agree. -/
structure Abreast (p p' : Progress σ) : Prop where
  rest : p' = { p with session := p'.session, sights := p'.sights }
  agree : Agree p.session p'.session

theorem Abreast.isExhausted {p p' : Progress σ} (h : Abreast p p') :
    p'.isExhausted = p.isExhausted := by
  rw [h.rest]
  rfl

/-- A pause leaves the session alone, and does not depend on it. -/
theorem Abreast.pause {p p' : Progress σ} (h : Abreast p p') (left : Nat) :
    Abreast (p.pause left) (p'.pause left) := by
  refine ⟨?_, ?_⟩
  · unfold Progress.pause
    rw [h.isExhausted]
    split
    · exact h.rest
    · rw [h.rest]
      rfl
  · rw [Progress.session_pause, Progress.session_pause]
    exact h.agree

/-- The progress in which an attempt on a tunnel has ended. -/
def tried (p : Progress σ) (i : Nat) (tunnel : Tunnel) (s : Session) (w : σ) : Progress σ :=
  { (p.announce i tunnel).look (.trying (i + 1) tunnel) with session := s, world := w }.look
    (.trying (i + 1) tunnel)

theorem tryTunnel_of_ok {p : Progress σ} {tunnel : Tunnel} {c : Connected} {w : σ}
    (h : attempt env (trying p.session tunnel) tunnel p.world = (.ok c, s, w))
    (i slot left : Nat) :
    p.tryTunnel env i slot left tunnel = ((tried p i tunnel s w).succeed tunnel c, some c) := by
  have hAttempt : attempt env (p.announce i tunnel).session tunnel (p.announce i tunnel).world =
      (.ok c, s, w) := h
  simp only [Progress.tryTunnel, Progress.look, tried, hAttempt]

theorem tryTunnel_of_error {p : Progress σ} {tunnel : Tunnel} {e : ConnectionError} {w : σ}
    (h : attempt env (trying p.session tunnel) tunnel p.world = (.error e, s, w))
    (i slot left : Nat) :
    p.tryTunnel env i slot left tunnel =
      ((((tried p i tunnel s w).fail i slot tunnel e).look (.between (i + 1))).pause left,
        none) := by
  have hAttempt : attempt env (p.announce i tunnel).session tunnel (p.announce i tunnel).world =
      (.error e, s, w) := h
  simp only [Progress.tryTunnel, Progress.look, tried, hAttempt]

/-- **What two attempts make of the same tries**, which they both make. -/
structure Together (env : Surroundings σ) (tunnels : List Tunnel) (p p' : Progress σ)
    (out out' : Progress σ × Option Connected) (tries : List Try) : Prop where
  abreast : Abreast out.1 out'.1
  connected : out'.2 = out.2
  tried : Tried env tunnels (p.session, p.world) tries (out.1.session, out.1.world)
  tried' : Tried env tunnels (p'.session, p'.world) tries (out'.1.session, out'.1.world)
  attempts : out.1.attempts.toList = p.attempts.toList ++ tries.map Try.entry

theorem Together.nil {tunnels : List Tunnel} {p p' : Progress σ} (h : Abreast p p') :
    Together env tunnels p p' (p, none) (p', none) [] :=
  ⟨h, rfl, .none, .none, (List.append_nil _).symm⟩

/-- **One try**: attempts that have come equally far do so again. -/
theorem together_tryTunnel {tunnels : List Tunnel} {p p' : Progress σ} {i : Nat} {tunnel : Tunnel}
    (h : Abreast p p') (hTurn : tunnels[i % tunnels.length]? = some tunnel) (slot left : Nat) :
    ∃ result, Together env tunnels p p' (p.tryTunnel env i slot left tunnel)
      (p'.tryTunnel env i slot left tunnel) [⟨i, tunnel, result⟩] := by
  have hWorld : p'.world = p.world := by rw [h.rest]
  obtain ⟨result, u, u', v, hs, ht, hNext⟩ :=
    alike_attempt env (h.agree.trying tunnel) tunnel p.world
  rw [← hWorld] at ht
  have hSettled := hNext.settled result
  cases result with
  | ok c =>
    rw [tryTunnel_of_ok hs, tryTunnel_of_ok ht]
    refine ⟨.ok c, ⟨?_, hSettled⟩, rfl, .next hTurn hs .none, .next hTurn ht .none, ?_⟩
    · rw [h.rest]
      rfl
    · exact Transcript.toList_push _ _
  | error e =>
    rw [tryTunnel_of_error hs, tryTunnel_of_error ht]
    refine ⟨.error e, Abreast.pause ⟨?_, hSettled⟩ left, rfl, ?_, ?_, ?_⟩
    · rw [h.rest]
      rfl
    · refine .next hTurn hs ?_
      simp only [Progress.session_pause, Progress.world_pause]
      exact .none
    · refine .next hTurn ht ?_
      simp only [Progress.session_pause, Progress.world_pause]
      exact .none
    · rw [Progress.attempts_pause]
      exact Transcript.toList_push _ _

theorem Tried.append {tunnels : List Tunnel} {x y z : Session × σ} {tries later : List Try}
    (h : Tried env tunnels x tries y) (hLater : Tried env tunnels y later z) :
    Tried env tunnels x (tries ++ later) z := by
  induction h with
  | none => exact hLater
  | next hTurn hAttempt _ ih => exact .next hTurn hAttempt (ih hLater)

theorem Together.trans {tunnels : List Tunnel} {p p' q q' : Progress σ}
    {out out' : Progress σ × Option Connected} {c c' : Option Connected} {tries later : List Try}
    (h : Together env tunnels p p' (q, c) (q', c') tries)
    (hLater : Together env tunnels q q' out out' later) :
    Together env tunnels p p' out out' (tries ++ later) := by
  refine ⟨hLater.abreast, hLater.connected, h.tried.append hLater.tried,
    h.tried'.append hLater.tried', ?_⟩
  rw [hLater.attempts, h.attempts, List.map_append, List.append_assoc]

theorem together_round (env : Surroundings σ) {p p' : Progress σ} (h : Abreast p p')
    (tunnels : List Tunnel) (left i : Nat) :
    ∃ tries, Together env tunnels p p' (round env tunnels left i p) (round env tunnels left i p')
      tries := by
  have hSlots : p'.exhausted = p.exhausted := by rw [h.rest]
  unfold round
  rw [hSlots]
  split
  · rename_i tunnel hTurn _
    obtain ⟨result, hTry⟩ := together_tryTunnel h hTurn (i % tunnels.length) left
    exact ⟨_, hTry⟩
  · exact ⟨[], .nil h⟩

theorem together_rounds (env : Surroundings σ) {p p' : Progress σ} (h : Abreast p p')
    (tunnels : List Tunnel) (left i : Nat) :
    ∃ tries, Together env tunnels p p' (rounds env tunnels left i p)
      (rounds env tunnels left i p') tries := by
  induction left generalizing i p p' with
  | zero => exact ⟨[], .nil h⟩
  | succ left ih =>
    rw [rounds_succ, rounds_succ, h.isExhausted]
    by_cases hOut : p.isExhausted = true
    · rw [if_pos hOut, if_pos hOut]
      exact ⟨[], .nil h⟩
    rw [if_neg hOut, if_neg hOut]
    obtain ⟨tries, hRound⟩ := together_round env h tunnels left i
    generalize round env tunnels left i p = out at hRound ⊢
    generalize round env tunnels left i p' = out' at hRound ⊢
    obtain ⟨q, c⟩ := out
    obtain ⟨q', c'⟩ := out'
    obtain rfl : c' = c := hRound.connected
    cases c' with
    | some c => exact ⟨tries, hRound⟩
    | none =>
      obtain ⟨later, hLater⟩ := ih hRound.abreast (i + 1)
      exact ⟨tries ++ later, hRound.trans hLater⟩

/-! ### Connections -/

/-- What is asked of the relays, one try after the other: the request for the destination
that the session has when a chained tunnel's turn comes. -/
def requests (env : Surroundings σ) :
    List Try → Session × σ → List (Except ConnectionError (List UInt8))
  | [], _ => []
  | t :: tries, (s, w) =>
    let (result, next, v) := attempt env (trying s t.tunnel) t.tunnel w
    let later := requests env tries (settled next result, v)
    match t.tunnel with
    | .chained _ => Socks.connectRequest s.destination s.addressType :: later
    | _ => later

theorem requests_eq (env : Surroundings σ) (h : Agree s t) (tries : List Try) (w : σ) :
    requests env tries (t, w) = requests env tries (s, w) := by
  induction tries generalizing s t w with
  | nil => rfl
  | cons u tries ih =>
    obtain ⟨result, s', t', v, hs, ht, hNext⟩ := alike_attempt env (h.trying u.tunnel) u.tunnel w
    simp only [requests, hs, ht]
    rw [ih (hNext.settled result) v, h.destination, h.addressType]

/-- **The same comes of connecting two sessions**, by the same tries, at which the same is
asked of the relays. -/
structure Alike (env : Surroundings σ) (tunnels : List Tunnel) (s t : Session) (w : σ)
    (o o' : Outcome σ) : Prop where
  result : o'.result = o.result
  attempts : o'.attempts = o.attempts
  trace : o'.trace = o.trace
  world : o'.world = o.world
  agree : Agree o.session o'.session
  tries : ∃ tries : List Try, o.attempts = tries.map Try.entry ∧
    Tried env tunnels (s, w) tries (o.session, o.world) ∧
    Tried env tunnels (t, w) tries (o'.session, o'.world) ∧
    requests env tries (t, w) = requests env tries (s, w)

/-- **The same comes of connecting sessions that agree** and have the same route. -/
theorem alike_connect (env : Surroundings σ) (policy : RetryPolicy) (h : Agree s t) {rule : Rule}
    (hs : s.route = some rule) (ht : t.route = some rule) (hTunnels : rule.tunnels ≠ []) (w : σ) :
    Alike env rule.tunnels s t w (connect env policy s w) (connect env policy t w) := by
  rw [connect_of_route hs hTunnels, connect_of_route ht hTunnels]
  let start (s : Session) : Progress σ :=
    { session := s, world := w, exhausted := List.replicate rule.tunnels.length false }
  have hStart : Abreast (start s) (start t) := ⟨rfl, h⟩
  obtain ⟨tries, hRounds⟩ := together_rounds env hStart rule.tunnels
    (policy.limit rule.tunnels.length) 0
  unfold connectVia
  dsimp only
  change Together env rule.tunnels (start s) (start t) (rounds env _ _ 0 (start s))
    (rounds env _ _ 0 (start t)) tries at hRounds
  generalize rounds env _ _ 0 (start s) = out at hRounds ⊢
  generalize rounds env _ _ 0 (start t) = out' at hRounds ⊢
  obtain ⟨q, c⟩ := out
  obtain ⟨q', c'⟩ := out'
  obtain ⟨⟨hRest, hAgree⟩, rfl, hTried, hTried', hLog⟩ := hRounds
  dsimp only at hRest hAgree hTried hTried' hLog
  refine ⟨?_, ?_, ?_, ?_, hAgree, tries, hLog, hTried, hTried', requests_eq env h tries w⟩
  · rw [hRest]
  · rw [hRest]
  · rw [hRest]
  · rw [hRest]

end Connector

/-! ### Front ends -/

open Socks

/-- **The two sessions are served alike**: they get the same route, and the same comes of
connecting them over it. -/
def ServedAlike (env : Surroundings σ) (policy : RetryPolicy) (e : Routing.Engine) (w : σ)
    (s t : Session) : Prop :=
  let d := e.route env.resolve s w
  let d' := e.route env.resolve t w
  Routing.Alike d d' ∧
    Connector.Alike env d.route.tunnels d.session d'.session d.world
      (Connector.connect env policy d.session d.world)
      (Connector.connect env policy d'.session d'.world)

/-- **Sessions that agree are served alike**, under all rules and in all surroundings. -/
theorem Agree.servedAlike (h : Agree s t) (env : Surroundings σ) (policy : RetryPolicy)
    (e : Routing.Engine) (w : σ) : ServedAlike env policy e w s t := by
  have hAlike := Routing.alike_route h env.resolve e w
  obtain ⟨hs, hTunnels⟩ := e.tunnels_route env.resolve s w
  obtain ⟨ht, -⟩ := e.tunnels_route env.resolve t w
  rw [hAlike.route] at ht
  refine ⟨hAlike, ?_⟩
  rw [hAlike.world]
  exact Connector.alike_connect env policy hAlike.agree hs ht hTunnels _

/-- **The front ends agree.**  However a client of SOCKS4 and a client of SOCKS5 ask for the
same IPv4 address and port, their handshakes leave sessions that ask for the same and differ
in their version; and a port forward asks for its host in the way in which a client of SOCKS5
does that names it.  Whatever the rules, the name lookups and the outcomes of the attempts
are, both sessions are then served alike.  Every address can be asked for in either version,
and every name that has a byte and at most 255 of them. -/
theorem front_ends_agree (env : Surroundings σ) (policy : RetryPolicy) (e : Routing.Engine)
    (w : σ) {s₀ t₀ : Session} (hs : s₀.destinationRequested = none)
    (ht : t₀.destinationRequested = none) :
    (∀ a port s t, Leaves s₀ (.toAddress .v4 a port) s → Leaves t₀ (.toAddress .v5 a port) t →
      Agree s t ∧ s.version = some .v4 ∧ t.version = some .v5 ∧
        (t₀ = s₀ → t = { s with version := some .v5 }) ∧ ServedAlike env policy e w s t) ∧
      (∀ host port s, t₀.service.spec.kind = .forward host port →
        Leaves s₀ (Session.forwardRequest host port) s →
        Agree s t₀.prepareForward ∧ t₀.prepareForward.version = s.version ∧
          ServedAlike env policy e w s t₀.prepareForward) ∧
      (∀ version a port, ∃ s, Leaves s₀ (.toAddress version a port) s) ∧
      ∀ host port, host ≠ "" → host.utf8ByteSize ≤ 255 →
        ∃ s, Leaves s₀ (Session.forwardRequest host port) s := by
  refine ⟨?_, ?_, exists_leaves_toAddress s₀,
    fun host port hSome hShort => exists_leaves_forwardRequest s₀ hSome hShort port⟩
  · intro a port s t hv4 hv5
    obtain rfl := hv4.eq_populate
    obtain rfl := hv5.eq_populate
    have hAgree := agree_populate hs ht (r := .toAddress .v4 a port) (q := .toAddress .v5 a port)
      rfl
    refine ⟨hAgree, Session.version_populate _ _, Session.version_populate _ _, ?_,
      hAgree.servedAlike env policy e w⟩
    rintro rfl
    rw [Session.populate_of_fresh hs, Session.populate_of_fresh hs]
    rfl
  · intro host port s hKind hNamed
    obtain rfl := hNamed.eq_populate
    have hPrepared : t₀.prepareForward = t₀.populate (Session.forwardRequest host port) := by
      simp only [Session.prepareForward, hKind]
    rw [hPrepared]
    have hAgree := agree_populate hs ht (r := Session.forwardRequest host port)
      (q := Session.forwardRequest host port) rfl
    refine ⟨hAgree, ?_, hAgree.servedAlike env policy e w⟩
    rw [Session.version_populate, Session.version_populate]

/-- One client asks for 10.0.0.1:80 in SOCKS4 and gives its name, another one in SOCKS5 with
two methods to choose from and a reserved byte that is not zero.  Both go through the same
relay. -/
theorem front_ends_agree_asked_twice :
    let relay : Tunnel := .chained ⟨2, "relay", 1081, none⟩
    let env : Surroundings Unit :=
      { resolve := fun _ w => (.error .noHostname, w)
        dial := fun _ w =>
          (.opened { incoming := { bytes := [5, 0, 5, 0, 0, 1, 127, 0, 0, 1, 0, 80] } }, w) }
    let policy : RetryPolicy := .ofSettings {}
    let e : Routing.Engine := ⟨[{ tunnels := [relay], place := ⟨"rules", 1⟩ }], fun _ => 0⟩
    let a := Ipv4.ofOctets 10 0 0 1
    let s₀ : Session := .accept 1 ⟨1, { port := 1080, kind := .socks }⟩ {} 0
    let s := (({ session := s₀ } : Handshake).arriveAll
      [.bytes [4, 1, 0, 80, 10, 0, 0, 1, 98, 111, 98, 0]]).session
    let t := (({ session := s₀ } : Handshake).arriveAll
      [.bytes [5, 2, 2, 0], .bytes [5, 1, 7, 1, 10, 0, 0, 1, 0, 80]]).session
    let d := e.route env.resolve s ()
    s₀.destinationRequested = none ∧ Leaves s₀ (.toAddress .v4 a 80) s ∧
      Leaves s₀ (.toAddress .v5 a 80) t ∧ t = { s with version := some .v5 } ∧
      ServedAlike env policy e () s t ∧
      (Connector.connect env policy d.session ()).attempts = [⟨"relay", none⟩] ∧
      (Connector.requests env [⟨0, relay, .ok ⟨none, none⟩⟩] (d.session, ())).map Except.toOption =
        [some [5, 1, 0, 1, 10, 0, 0, 1, 0, 80]] := by
  intro relay env policy e a s₀ s t d
  have hFresh : s₀.destinationRequested = none := rfl
  have hPort : HoldPort 0 80 80 := holdPort_iff.mpr (by decide)
  have hAddress : HoldAddress 10 0 0 1 a := holdAddress_iff.mpr rfl
  have hv4 : Leaves s₀ (.toAddress .v4 a 80) s :=
    ⟨_, {}, _, @Opens.v4 _ _ _ _ _ _ _ _ [98, 111, 98] hPort hAddress (by decide) (by decide),
      by decide, by decide +kernel, rfl⟩
  have hv5 : Leaves s₀ (.toAddress .v5 a 80) t :=
    ⟨_, {}, _, @Opens.v5Address 2 7 _ _ _ _ _ _ [2, 0] _ _ rfl (by decide) hAddress hPort,
      by decide, by decide +kernel, rfl⟩
  obtain ⟨hAgree, -⟩ := front_ends_agree env policy e () hFresh hFresh
  obtain ⟨-, -, -, hVersion, hServed⟩ := hAgree a 80 s t hv4 hv5
  exact ⟨hFresh, hv4, hv5, hVersion rfl, hServed, by decide +kernel, by decide +kernel⟩

end SocksGateway
