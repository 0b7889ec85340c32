import SocksGateway.Config.Spec
import SocksGateway.Config.Validity
import SocksGateway.Proofs.Network.Dotted
import SocksGateway.Proofs.Tunnel.Registry

/-!
# The grammar of command-line specifications

Services and tunnels are spelled in parts with colons between them.  A listener's parts are
told from the end, those of a port forward by their number, and those of a tunnel from the
front, which leaves the colons of its command alone.

* `IsPort`: a number that one can listen on.
* `ServiceSpec.Listener`, `ServiceSpec.PortForward`, `TunnelSpec.Spelled`: the three grammars.
* `ServiceSpec.parseSocks_eq_ok_iff`, `ServiceSpec.parseForward_eq_ok_iff`,
  `TunnelSpec.parse_eq_ok_iff`: the readers know them.
* `ServiceSpec.chars`, `TunnelSpec.chars`: how specifications are written.
* `specs_in_text`: what is read, and that it is what was written and passes the checks.
-/

namespace SocksGateway

open Text

variable {s : List Char} {p : UInt16}

/-! ### Ports and addresses -/

/-- **A port** is a 16-bit number in decimal, other than zero. -/
def IsPort (s : List Char) (p : UInt16) : Prop := readUInt16 s = some p ∧ p ≠ 0

theorem readPort_eq_ok_iff {role : PortRole} : readPort role s = .ok p ↔ IsPort s p := by
  rw [readPort, IsPort]
  cases readUInt16 s with
  | none => simp
  | some q =>
    dsimp only
    rw [Option.some.injEq]
    by_cases hZero : q = 0
    · rw [if_pos hZero]
      refine iff_of_false (fun h => nomatch h) ?_
      rintro ⟨rfl, hSome⟩
      exact hSome hZero
    · rw [if_neg hZero, Except.ok.injEq]
      exact ⟨fun h => ⟨h, h ▸ hZero⟩, And.left⟩

theorem ofPort_eq_ok_iff {α : Type} {role : PortRole} {make : UInt16 → α} {x : α} :
    (match readPort role s with
      | .ok p => .ok (make p)
      | .error e => .error e : Except ConfigFault α) = .ok x ↔
      ∃ p, IsPort s p ∧ x = make p := by
  constructor
  · intro h
    split at h
    case h_1 p hPort =>
      cases h
      exact ⟨p, readPort_eq_ok_iff.mp hPort, rfl⟩
    case h_2 => cases h
  · rintro ⟨p, hPort, rfl⟩
    rw [readPort_eq_ok_iff.mpr hPort]

theorem readBind_eq_ok_iff {a : IpAddress} : readBind s = .ok a ↔ IpAddress.parse? s = some a := by
  rw [readBind]
  cases IpAddress.parse? s <;> simp

theorem colon_not_mem_decimal (n : Nat) : ':' ∉ decimal n := fun hMem =>
  absurd (isDigit_of_mem_decimal hMem) (by decide)

theorem IsPort.colon_not_mem (h : IsPort s p) : ':' ∉ s := by
  have hRead := h.1
  unfold readUInt16 at hRead
  cases hNat : readNat s with
  | none =>
    rw [hNat] at hRead
    cases hRead
  | some n =>
    intro hMem
    rcases isDigit_of_readNat hNat ':' hMem with hDigit | hSign
    · exact absurd hDigit (by decide)
    · exact absurd hSign (by decide)

theorem isPort_decimal (hPort : p ≠ 0) : IsPort (decimal p.toNat) p :=
  ⟨readUInt16_decimal p, hPort⟩

theorem IpAddress.parse?_chars (a : Ipv4) : parse? a.chars = some (.v4 a) := by
  rw [parse?, Ipv4.parse?_chars]

theorem Ipv4.colon_not_mem_chars (a : Ipv4) : ':' ∉ a.chars := by
  intro hMem
  rcases mem_chars hMem with hDigit | hPoint
  · exact absurd hDigit (by decide)
  · exact absurd hPoint (by decide)

/-! ### Services -/

namespace ServiceSpec

variable {spec : ServiceSpec}

/-- **The spellings of a listener**: a port, or a literal address and a port, parted at the
last colon. -/
inductive Listener : List Char → ServiceSpec → Prop
  | here {port : List Char} {p : UInt16} (hPort : IsPort port p) :
      Listener port ⟨IpAddress.loopback, p, .socks⟩
  | bound {bind port : List Char} {a : IpAddress} {p : UInt16}
      (hBind : IpAddress.parse? bind = some a) (hLast : ':' ∉ port) (hPort : IsPort port p) :
      Listener (bind ++ ':' :: port) ⟨a, p, .socks⟩

/-- **The spellings of a port forward**, parted at every colon: a port, a host that is not
empty, and a port; or a literal address and then these. -/
inductive PortForward : List Char → ServiceSpec → Prop
  | here {s lport host rport : List Char} {p q : UInt16}
      (hParts : s.splitOn ':' = [lport, host, rport]) (hPort : IsPort lport p)
      (hHost : host ≠ []) (hRemote : IsPort rport q) :
      PortForward s ⟨IpAddress.loopback, p, .forward (String.ofList host) q⟩
  | bound {s bind lport host rport : List Char} {a : IpAddress} {p q : UInt16}
      (hParts : s.splitOn ':' = [bind, lport, host, rport])
      (hBind : IpAddress.parse? bind = some a) (hPort : IsPort lport p)
      (hHost : host ≠ []) (hRemote : IsPort rport q) :
      PortForward s ⟨a, p, .forward (String.ofList host) q⟩

theorem parseSocks_eq_ok_iff : parseSocks s = .ok spec ↔ Listener s spec := by
  rw [parseSocks]
  cases hCut : cutLast ':' s with
  | none =>
    have hFree := cutLast_eq_none_iff.mp hCut
    dsimp only
    constructor
    · intro h
      obtain ⟨p, hPort, rfl⟩ := ofPort_eq_ok_iff.mp h
      exact .here hPort
    · intro h
      cases h with
      | here hPort => exact ofPort_eq_ok_iff.mpr ⟨_, hPort, rfl⟩
      | bound => exact absurd (by simp) hFree
  | some parts =>
    obtain ⟨bind, port⟩ := parts
    obtain ⟨rfl, hLast⟩ := cutLast_eq_some_iff.mp hCut
    dsimp only
    constructor
    · intro h
      split at h
      case h_1 => cases h
      case h_2 a hBind =>
        obtain ⟨p, hPort, rfl⟩ := ofPort_eq_ok_iff.mp h
        exact .bound (readBind_eq_ok_iff.mp hBind) hLast hPort
    · intro h
      generalize hText : bind ++ ':' :: port = text at h hCut
      cases h with
      | here hPort => exact absurd (hText ▸ by simp) hPort.colon_not_mem
      | bound hBind hLast' hPort =>
        have hSame := hCut.symm.trans (cutLast_eq_some_iff.mpr ⟨rfl, hLast'⟩)
        cases hSame
        rw [readBind_eq_ok_iff.mpr hBind]
        exact ofPort_eq_ok_iff.mpr ⟨_, hPort, rfl⟩

theorem forwardTo_eq_ok_iff {bind : IpAddress} {lport host rport : List Char} :
    forwardTo s bind lport host rport = .ok spec ↔ host ≠ [] ∧ ∃ p q, IsPort lport p ∧
      IsPort rport q ∧ spec = ⟨bind, p, .forward (String.ofList host) q⟩ := by
  rw [forwardTo]
  by_cases hHost : host = []
  · simp [hHost]
  · rw [if_neg (by simpa using hHost)]
    constructor
    · intro h
      split at h
      case h_1 => cases h
      case h_2 p hPort =>
        split at h
        case h_1 => cases h
        case h_2 q hRemote =>
          cases h
          exact ⟨hHost, p, q, readPort_eq_ok_iff.mp hPort, readPort_eq_ok_iff.mp hRemote, rfl⟩
    · rintro ⟨-, p, q, hPort, hRemote, rfl⟩
      rw [readPort_eq_ok_iff.mpr hPort]
      dsimp only
      rw [readPort_eq_ok_iff.mpr hRemote]

theorem parseForward_eq_ok_iff : parseForward s = .ok spec ↔ PortForward s spec := by
  have hSplit : split (· == ':') s = s.splitOn ':' := by
    rw [split_eq_splitOnP, List.splitOn_eq_splitOnP]
  rw [parseForward, hSplit]
  constructor
  · intro h
    split at h
    case h_1 hParts =>
      obtain ⟨hHost, p, q, hPort, hRemote, rfl⟩ := forwardTo_eq_ok_iff.mp h
      exact .here hParts hPort hHost hRemote
    case h_2 hParts =>
      split at h
      case h_1 a hBind =>
        obtain ⟨hHost, p, q, hPort, hRemote, rfl⟩ := forwardTo_eq_ok_iff.mp h
        exact .bound hParts (readBind_eq_ok_iff.mp hBind) hPort hHost hRemote
      case h_2 => cases h
    case h_3 => cases h
  · intro h
    cases h with
    | here hParts hPort hHost hRemote =>
      rw [hParts]
      exact forwardTo_eq_ok_iff.mpr ⟨hHost, _, _, hPort, hRemote, rfl⟩
    | bound hParts hBind hPort hHost hRemote =>
      rw [hParts]
      dsimp only
      rw [readBind_eq_ok_iff.mpr hBind]
      exact forwardTo_eq_ok_iff.mpr ⟨hHost, _, _, hPort, hRemote, rfl⟩

/-- The parts of a specification behind the address. -/
def parts (spec : ServiceSpec) : List (List Char) :=
  match spec.kind with
  | .socks => [decimal spec.port.toNat]
  | .forward host port => [decimal spec.port.toNat, host.toList, decimal port.toNat]

/-- The specification with its address. -/
def chars (spec : ServiceSpec) : List Char :=
  [':'].intercalate (spec.bind.text.toList :: spec.parts)

/-- The specification without its address. -/
def shortChars (spec : ServiceSpec) : List Char := [':'].intercalate spec.parts

/-- The reader for this kind of service. -/
def parseAs : ServiceKind → List Char → Except ConfigFault ServiceSpec
  | .socks => parseSocks
  | .forward _ _ => parseForward

/-- **What can be written**: an IPv4 address, ports other than zero, and a host that is not
empty and has no colon. -/
structure Writable (spec : ServiceSpec) : Prop where
  bind : ∃ a, spec.bind = .v4 a
  port : spec.port ≠ 0
  remote : ∀ host port, spec.kind = .forward host port →
    host ≠ "" ∧ ':' ∉ host.toList ∧ port ≠ 0

theorem toList_text (a : Ipv4) : (IpAddress.v4 a).text.toList = a.chars := String.toList_ofList

/-- **What is written is read again**, and so it is without the address that is the default. -/
theorem Writable.parse (h : spec.Writable) :
    parseAs spec.kind spec.chars = .ok spec ∧
      (spec.bind = IpAddress.loopback → parseAs spec.kind spec.shortChars = .ok spec) := by
  obtain ⟨bind, p, kind⟩ := spec
  obtain ⟨⟨a, rfl⟩, hPort, hRemote⟩ := h
  have hBind := IpAddress.parse?_chars a
  cases kind with
  | socks =>
    have hLong : chars ⟨.v4 a, p, .socks⟩ = a.chars ++ ':' :: decimal p.toNat := by
      rw [chars, toList_text]
      simp [parts]
    have hShort : shortChars ⟨.v4 a, p, .socks⟩ = decimal p.toNat := List.append_nil _
    dsimp only [parseAs]
    rw [hLong, hShort, parseSocks_eq_ok_iff, parseSocks_eq_ok_iff]
    refine ⟨.bound hBind (colon_not_mem_decimal _) (isPort_decimal hPort), fun hDefault => ?_⟩
    rw [hDefault]
    exact .here (isPort_decimal hPort)
  | forward host q =>
    obtain ⟨hHost, hFree, hOther⟩ := hRemote host q rfl
    have hSome : host.toList ≠ [] := by simpa using hHost
    have hLong : (chars ⟨.v4 a, p, .forward host q⟩).splitOn ':' =
        [a.chars, decimal p.toNat, host.toList, decimal q.toNat] := by
      rw [chars, toList_text]
      refine List.splitOn_intercalate _ ?_ (List.cons_ne_nil _ _)
      simp [parts, a.colon_not_mem_chars, colon_not_mem_decimal, hFree]
    have hShort : (shortChars ⟨.v4 a, p, .forward host q⟩).splitOn ':' =
        [decimal p.toNat, host.toList, decimal q.toNat] := by
      refine List.splitOn_intercalate _ ?_ (List.cons_ne_nil _ _)
      simp [parts, colon_not_mem_decimal, hFree]
    have hBound := PortForward.bound hLong hBind (isPort_decimal hPort) hSome
      (isPort_decimal hOther)
    have hHere := PortForward.here hShort (isPort_decimal hPort) hSome (isPort_decimal hOther)
    rw [String.ofList_toList] at hBound hHere
    dsimp only [parseAs]
    rw [parseForward_eq_ok_iff, parseForward_eq_ok_iff]
    refine ⟨hBound, fun hDefault => ?_⟩
    rw [← hDefault] at hHere
    exact hHere

theorem Listener.validate (h : Listener s spec) : spec.validate = .ok () := by
  cases h with
  | here hPort => exact if_neg hPort.2
  | bound _ _ hPort => exact if_neg hPort.2

theorem PortForward.validate (h : PortForward s spec) : spec.validate = .ok () := by
  have hChecked {bind : IpAddress} {p q : UInt16} {host : List Char} (hPort : p ≠ 0)
      (hHost : host ≠ []) (hRemote : q ≠ 0) :
      ServiceSpec.validate ⟨bind, p, .forward (String.ofList host) q⟩ = .ok () := by
    have hNamed : String.ofList host ≠ "" := by simpa using hHost
    rw [ServiceSpec.validate, if_neg hPort]
    exact if_neg (not_or.mpr ⟨hNamed, hRemote⟩)
  cases h with
  | here _ hPort hHost hRemote => exact hChecked hPort.2 hHost hRemote.2
  | bound _ _ hPort hHost hRemote => exact hChecked hPort.2 hHost hRemote.2

end ServiceSpec

/-! ### Tunnels -/

namespace TunnelSpec

variable {spec : TunnelSpec}

/-- **The spellings of a tunnel**: a name that is not empty up to the first colon, and a port up
to the second one, or to the end; whatever is behind the second colon is the command, unless it
is empty. -/
inductive Spelled : List Char → TunnelSpec → Prop
  | bare {name port : List Char} {p : UInt16} (hFirst : ':' ∉ name) (hName : name ≠ [])
      (hPort : IsPort port p) : Spelled (name ++ ':' :: port) ⟨String.ofList name, p, none⟩
  | blank {name port : List Char} {p : UInt16} (hFirst : ':' ∉ name) (hName : name ≠ [])
      (hPort : IsPort port p) :
      Spelled (name ++ ':' :: (port ++ [':'])) ⟨String.ofList name, p, none⟩
  | command {name port command : List Char} {p : UInt16} (hFirst : ':' ∉ name) (hName : name ≠ [])
      (hPort : IsPort port p) (hCommand : command ≠ []) :
      Spelled (name ++ ':' :: (port ++ ':' :: command))
        ⟨String.ofList name, p, some (String.ofList command)⟩

section Parse

variable {name port command : List Char}

theorem parse_bare_eq_ok_iff (hFirst : ':' ∉ name) (hName : name ≠ []) (hPlain : ':' ∉ port) :
    parse (name ++ ':' :: port) = .ok spec ↔
      ∃ p, IsPort port p ∧ spec = ⟨String.ofList name, p, none⟩ := by
  rw [parse, cutFirst_append_cons hFirst]
  dsimp only
  rw [if_neg (by simpa using hName), cutFirst_eq_none_iff.mpr hPlain]
  exact ofPort_eq_ok_iff

theorem parse_command_eq_ok_iff (hFirst : ':' ∉ name) (hName : name ≠ []) (hPlain : ':' ∉ port) :
    parse (name ++ ':' :: (port ++ ':' :: command)) = .ok spec ↔
      ∃ p, IsPort port p ∧ spec = ⟨String.ofList name, p, commandOf command⟩ := by
  rw [parse, cutFirst_append_cons hFirst]
  dsimp only
  rw [if_neg (by simpa using hName), cutFirst_append_cons hPlain]
  exact ofPort_eq_ok_iff

end Parse

theorem parse_eq_ok_iff : parse s = .ok spec ↔ Spelled s spec := by
  constructor
  · intro h
    cases hCut : cutFirst ':' s with
    | none =>
      rw [parse, hCut] at h
      cases h
    | some parts =>
      obtain ⟨name, rest⟩ := parts
      obtain ⟨rfl, hFirst⟩ := cutFirst_eq_some_iff.mp hCut
      have hName : name ≠ [] := by
        rintro rfl
        rw [parse, hCut] at h
        cases h
      cases hRest : cutFirst ':' rest with
      | none =>
        have hPlain := cutFirst_eq_none_iff.mp hRest
        obtain ⟨p, hPort, rfl⟩ := (parse_bare_eq_ok_iff hFirst hName hPlain).mp h
        exact .bare hFirst hName hPort
      | some parts =>
        obtain ⟨port, command⟩ := parts
        obtain ⟨rfl, hPlain⟩ := cutFirst_eq_some_iff.mp hRest
        obtain ⟨p, hPort, rfl⟩ := (parse_command_eq_ok_iff hFirst hName hPlain).mp h
        cases command with
        | nil => exact .blank hFirst hName hPort
        | cons c cs => exact .command hFirst hName hPort (List.cons_ne_nil c cs)
  · intro h
    cases h with
    | bare hFirst hName hPort =>
      exact (parse_bare_eq_ok_iff hFirst hName hPort.colon_not_mem).mpr ⟨_, hPort, rfl⟩
    | blank hFirst hName hPort =>
      exact (parse_command_eq_ok_iff hFirst hName hPort.colon_not_mem).mpr ⟨_, hPort, rfl⟩
    | command hFirst hName hPort hCommand =>
      refine (parse_command_eq_ok_iff hFirst hName hPort.colon_not_mem).mpr ⟨_, hPort, ?_⟩
      rw [commandOf, if_neg (by simpa using hCommand)]

/-- The specification of a tunnel, with its command if it has one. -/
def chars (spec : TunnelSpec) : List Char :=
  spec.name.toList ++ ':' :: (decimal spec.socksPort.toNat ++
    match spec.command with
    | none => []
    | some command => ':' :: command.toList)

/-- **What can be written**: a name that is not empty and has no colon, a port other than zero,
and a command that is not empty, if there is one. -/
structure Writable (spec : TunnelSpec) : Prop where
  name : spec.name ≠ ""
  first : ':' ∉ spec.name.toList
  port : spec.socksPort ≠ 0
  command : spec.command ≠ some ""

theorem Writable.parse (h : spec.Writable) : TunnelSpec.parse spec.chars = .ok spec := by
  obtain ⟨name, port, command⟩ := spec
  obtain ⟨hName, hFirst, hPort, hCommand⟩ := h
  have hSome : name.toList ≠ [] := by simpa using hName
  refine parse_eq_ok_iff.mpr ?_
  cases command with
  | none =>
    have h := Spelled.bare hFirst hSome (isPort_decimal hPort)
    rw [String.ofList_toList] at h
    rw [chars, List.append_nil]
    exact h
  | some command =>
    have hGiven : command.toList ≠ [] := by simpa using hCommand
    have h := Spelled.command hFirst hSome (isPort_decimal hPort) hGiven
    rw [String.ofList_toList, String.ofList_toList] at h
    exact h

theorem Spelled.port_ne_zero (h : Spelled s spec) : spec.socksPort ≠ 0 := by
  cases h with
  | bare _ _ hPort => exact hPort.2
  | blank _ _ hPort => exact hPort.2
  | command _ _ hPort => exact hPort.2

end TunnelSpec

theorem TunnelRegistry.add_ne_tunnelWithoutPort {r : TunnelRegistry} {spec : TunnelSpec}
    (hPort : spec.socksPort ≠ 0) (name : String) :
    r.add spec ≠ .error (.tunnelWithoutPort name) := by
  have hOther : r.refusal? spec ≠ some (.tunnelWithoutPort name) := by
    unfold refusal?
    rw [if_neg hPort]
    split
    · simp
    · split <;> simp
  intro h
  rw [add] at h
  split at h
  case h_1 hRefused =>
    cases h
    exact hOther hRefused
  case h_2 => cases h

/-- **Command-line specifications.**  For every text: a listener is read exactly when the text is
a port, or a literal address and behind the last colon a port; a port forward exactly when the
colons part it into a port, a host that is not empty and a port, or a literal address and then
these; a tunnel exactly when it has a name that is not empty in front of the first colon and a
port between that and the second colon or the end.  Then these are the parts, with the loopback
address where none is given, and with all that stands behind the second colon as the command, if
there is anything.  So whatever can be written is read again.  A service that is read passes the
checks of a service, and no registry refuses a tunnel that is read for want of a port. -/
theorem specs_in_text :
    (∀ s spec, ServiceSpec.parseSocks s = .ok spec ↔ ServiceSpec.Listener s spec) ∧
    (∀ s spec, ServiceSpec.parseForward s = .ok spec ↔ ServiceSpec.PortForward s spec) ∧
    (∀ s spec, TunnelSpec.parse s = .ok spec ↔ TunnelSpec.Spelled s spec) ∧
    (∀ spec : ServiceSpec, spec.Writable →
      ServiceSpec.parseAs spec.kind spec.chars = .ok spec ∧
        (spec.bind = IpAddress.loopback →
          ServiceSpec.parseAs spec.kind spec.shortChars = .ok spec)) ∧
    (∀ spec : TunnelSpec, spec.Writable → TunnelSpec.parse spec.chars = .ok spec) ∧
    (∀ s spec, ServiceSpec.parseSocks s = .ok spec ∨ ServiceSpec.parseForward s = .ok spec →
      spec.validate = .ok ()) ∧
    ∀ s spec, TunnelSpec.parse s = .ok spec → spec.socksPort ≠ 0 ∧
      ∀ (r : TunnelRegistry) name, r.add spec ≠ .error (.tunnelWithoutPort name) := by
  refine ⟨fun s spec => ServiceSpec.parseSocks_eq_ok_iff,
    fun s spec => ServiceSpec.parseForward_eq_ok_iff, fun s spec => TunnelSpec.parse_eq_ok_iff,
    fun spec => ServiceSpec.Writable.parse, fun spec => TunnelSpec.Writable.parse, ?_, ?_⟩
  · rintro s spec (hSocks | hForward)
    · exact (ServiceSpec.parseSocks_eq_ok_iff.mp hSocks).validate
    · exact (ServiceSpec.parseForward_eq_ok_iff.mp hForward).validate
  · intro s spec h
    have hPort := (TunnelSpec.parse_eq_ok_iff.mp h).port_ne_zero
    exact ⟨hPort, fun r name => TunnelRegistry.add_ne_tunnelWithoutPort hPort name⟩

example : TunnelSpec.parse "corp:1081:ssh -o ProxyCommand=nc:x bastion".toList =
    .ok ⟨"corp", 1081, some "ssh -o ProxyCommand=nc:x bastion"⟩ := rfl

end SocksGateway
