import SocksGateway.Proofs.Handshake.Reading
import SocksGateway.Proofs.Socks.Octets

/-!
# The openings that a handshake accepts

`Asks` lists the byte strings that make a request, form by form, with any command
and any type of address; `Opens` lists those among them with which a client opens a
connection, and which are not refused.  `accepts_iff_opens` says that a handshake
accepts exactly these, takes no byte behind them, and is over after 1008 bytes at
the latest.

On the way the readings of `Reads` that end in a request are put into closed
form, one phase after the other, from the last field backwards.
-/

namespace SocksGateway

namespace Socks

variable {bytes : List UInt8} {r : Request}

/-! ### Readings that end in a request -/

theorem Reads.of_next {phase : Phase} (hSize : bytes.length = phase.size)
    (hNext : phase.next bytes = .request r) : Reads phase bytes (.request r) := by
  have hReads := Reads.last hSize (by rw [hNext]; rfl)
  rwa [hNext] at hReads

/-- A field completes the request, or it asks for another one. -/
theorem Reads.request_cases {phase : Phase} (h : Reads phase bytes (.request r)) :
    phase.Completes bytes r ∨
      ∃ field rest next, bytes = field ++ rest ∧ field.length = phase.size ∧
        phase.Follows field next ∧ Reads next rest (.request r) := by
  generalize hVerdict : Verdict.request r = v at h
  cases h with
  | last hSize hEnd => exact Or.inl (Phase.completes_of_next hVerdict.symm)
  | more field next hSize hNext hRest =>
    subst hVerdict
    exact Or.inr ⟨_, _, _, rfl, hSize, Phase.follows_of_next hNext, hRest⟩

theorem reads_ipv4Port_iff {command : UInt8} {address : Ipv4} :
    Reads (.ipv4Port command address) bytes (.request r) ↔
      ∃ p q, bytes = [p, q] ∧ r = ⟨.v5, command, .ipv4, .ofIpv4 address (portOf p q)⟩ := by
  constructor
  · intro h
    rcases h.request_cases with hLast | ⟨_, _, _, -, -, hFollows, -⟩
    · cases hLast
      exact ⟨_, _, rfl, rfl⟩
    · cases hFollows
  · rintro ⟨p, q, rfl, rfl⟩
    exact .of_next rfl rfl

theorem reads_domainPort_iff {command : UInt8} {name : String} :
    Reads (.domainPort command name) bytes (.request r) ↔
      ∃ p q, bytes = [p, q] ∧ r = ⟨.v5, command, .domain, .named name (portOf p q)⟩ := by
  constructor
  · intro h
    rcases h.request_cases with hLast | ⟨_, _, _, -, -, hFollows, -⟩
    · cases hLast
      exact ⟨_, _, rfl, rfl⟩
    · cases hFollows
  · rintro ⟨p, q, rfl, rfl⟩
    exact .of_next rfl rfl

theorem reads_ipv4_iff {command : UInt8} :
    Reads (.ipv4 command) bytes (.request r) ↔
      ∃ a b c d p q, bytes = [a, b, c, d, p, q] ∧
        r = ⟨.v5, command, .ipv4, .ofIpv4 (.ofOctets a b c d) (portOf p q)⟩ := by
  constructor
  · intro h
    rcases h.request_cases with hLast | ⟨_, _, _, rfl, -, hFollows, hRest⟩
    · cases hLast
    · cases hFollows
      obtain ⟨p, q, rfl, rfl⟩ := reads_ipv4Port_iff.mp hRest
      exact ⟨_, _, _, _, p, q, rfl, rfl⟩
  · rintro ⟨a, b, c, d, p, q, rfl, rfl⟩
    exact .more [a, b, c, d] _ rfl rfl (reads_ipv4Port_iff.mpr ⟨p, q, rfl, rfl⟩)

theorem nameOf?_eq_some_iff {bytes : List UInt8} {name : String} :
    nameOf? bytes = some name ↔ name.toUTF8 = ⟨bytes.toArray⟩ := by
  unfold nameOf? String.fromUTF8?
  split
  · rw [Option.some.injEq, ← String.toByteArray_inj]
    exact eq_comm
  · rename_i hValid
    refine ⟨fun h => (nomatch h), fun h => absurd ?_ hValid⟩
    rw [← h]
    exact name.isValidUTF8

theorem reads_domainLength_iff {command : UInt8} :
    Reads (.domainLength command) bytes (.request r) ↔
      ∃ (length : UInt8) (name : List UInt8) (text : String) (p q : UInt8),
        bytes = length :: (name ++ [p, q]) ∧ name.length = length.toNat ∧ length ≠ 0 ∧
          text.toUTF8 = ⟨name.toArray⟩ ∧
          r = ⟨.v5, command, .domain, .named text (portOf p q)⟩ := by
  constructor
  · intro h
    rcases h.request_cases with hLast | ⟨_, _, _, rfl, -, hFollows, hRest⟩
    · cases hLast
    cases hFollows with
    | domainLength hLength =>
      rcases hRest.request_cases with hLast | ⟨_, _, _, rfl, hSize, hFollows, hRest⟩
      · cases hLast
      cases hFollows with
      | domainName hName =>
        obtain ⟨p, q, rfl, rfl⟩ := reads_domainPort_iff.mp hRest
        exact ⟨_, _, _, p, q, rfl, hSize, hLength, nameOf?_eq_some_iff.mp hName, rfl⟩
  · rintro ⟨length, name, text, p, q, rfl, hSize, hLength, hText, rfl⟩
    refine .more [length] (.domain command length) rfl ?_ <|
      .more name (.domainPort command text) hSize ?_ <|
        reads_domainPort_iff.mpr ⟨p, q, rfl, rfl⟩
    · simp [Phase.next, Phase.ofByte, hLength, Verdict.next?]
    · simp [Phase.next, nameOf?_eq_some_iff.mpr hText, Verdict.next?]

theorem reads_ipv6_iff {command : UInt8} :
    Reads (.ipv6 command) bytes (.request r) ↔
      ∃ octets address p q, bytes = octets ++ [p, q] ∧ Ipv6.ofBytes? octets = some address ∧
        r = ⟨.v5, command, .ipv6, .ofIpv6 address (portOf p q)⟩ := by
  constructor
  · intro h
    rcases h.request_cases with hLast | ⟨octets, rest, _, rfl, -, hFollows, hRest⟩
    · cases hLast
    cases hFollows with
    | ipv6Address hAddress =>
      rcases hRest.request_cases with hLast | ⟨_, _, _, rfl, -, hFollows, -⟩
      · cases hLast
        exact ⟨octets, _, _, _, rfl, hAddress, rfl⟩
      · cases hFollows
  · rintro ⟨octets, address, p, q, rfl, hAddress, rfl⟩
    have hSize : octets.length = 16 := by
      unfold Ipv6.ofBytes? at hAddress
      split at hAddress
      · assumption
      · cases hAddress
    refine .more octets (.ipv6Port command address) hSize ?_ (.of_next rfl rfl)
    simp [Phase.next, hAddress, Verdict.next?]

theorem reads_header_cases :
    Reads .header bytes (.request r) ↔
      ∃ command reserved rest,
        (bytes = 5 :: command :: reserved :: 1 :: rest ∧ Reads (.ipv4 command) rest (.request r)) ∨
        (bytes = 5 :: command :: reserved :: 3 :: rest ∧
          Reads (.domainLength command) rest (.request r)) ∨
        (bytes = 5 :: command :: reserved :: 4 :: rest ∧
          Reads (.ipv6 command) rest (.request r)) := by
  constructor
  · intro h
    rcases h.request_cases with hLast | ⟨_, rest, _, rfl, -, hFollows, hRest⟩
    · cases hLast
    cases hFollows with
    | @ipv4 command reserved => exact ⟨command, reserved, rest, Or.inl ⟨rfl, hRest⟩⟩
    | @domain command reserved => exact ⟨command, reserved, rest, Or.inr (Or.inl ⟨rfl, hRest⟩)⟩
    | @ipv6 command reserved => exact ⟨command, reserved, rest, Or.inr (Or.inr ⟨rfl, hRest⟩)⟩
  · rintro ⟨command, reserved, rest, ⟨rfl, hRest⟩ | ⟨rfl, hRest⟩ | ⟨rfl, hRest⟩⟩
    · exact .more [5, command, reserved, 1] _ rfl rfl hRest
    · exact .more [5, command, reserved, 3] _ rfl rfl hRest
    · exact .more [5, command, reserved, 4] _ rfl rfl hRest

theorem reads_methodCount_iff :
    Reads .methodCount bytes (.request r) ↔
      ∃ (count : UInt8) (methods rest : List UInt8), bytes = count :: (methods ++ rest) ∧
        methods.length = count.toNat ∧ 0 ∈ methods ∧ Reads .header rest (.request r) := by
  constructor
  · intro h
    rcases h.request_cases with hLast | ⟨_, _, _, rfl, -, hFollows, hRest⟩
    · cases hLast
    cases hFollows with
    | @methodCount count hCount =>
      rcases hRest.request_cases with hLast | ⟨methods, rest, _, rfl, hSize, hFollows, hRest⟩
      · cases hLast
      cases hFollows with
      | methods hNone => exact ⟨count, methods, rest, rfl, hSize, hNone, hRest⟩
  · rintro ⟨count, methods, rest, rfl, hSize, hNone, hRest⟩
    have hCount : count ≠ 0 := by
      rintro rfl
      rw [List.length_eq_zero_iff.mp hSize] at hNone
      cases hNone
    refine .more [count] (.methods count) rfl ?_ (.more methods .header hSize ?_ hRest)
    · simp [Phase.next, Phase.ofByte, hCount, Verdict.next?]
    · simp [Phase.next, Verdict.ofMethods, methodNone, hNone, Verdict.next?]

theorem reads_v4UserId_iff {command : UInt8} {destination : Destination} {left : Nat} :
    Reads (.v4UserId command destination left) bytes (.request r) ↔
      ∃ userId, bytes = userId ++ [0] ∧ 0 ∉ userId ∧ userId.length ≤ left ∧
        r = ⟨.v4, command, .ipv4, destination⟩ := by
  constructor
  · intro h
    induction left using Nat.strongRecOn generalizing bytes with
    | ind left ih =>
      rcases h.request_cases with hLast | ⟨_, _, _, rfl, -, hFollows, hRest⟩
      · cases hLast
        exact ⟨[], rfl, by simp, by simp, rfl⟩
      cases hFollows with
      | @v4UserId _ b _ _ hByte hLeft =>
        obtain ⟨userId, rfl, hNul, hShort, rfl⟩ := ih (left - 1) (by omega) hRest
        refine ⟨b :: userId, rfl, ?_, ?_, rfl⟩
        · simpa [hNul] using hByte.symm
        · rw [List.length_cons]
          omega
  · rintro ⟨userId, rfl, hNul, hShort, rfl⟩
    induction userId generalizing left with
    | nil => exact .of_next rfl rfl
    | cons b userId ih =>
      rw [List.mem_cons, not_or] at hNul
      rw [List.length_cons] at hShort
      have hLeft : left ≠ 0 := by omega
      refine .more [b] (.v4UserId command destination (left - 1)) rfl ?_
        (ih hNul.2 (by omega))
      simp [Phase.next, Phase.ofByte, Ne.symm hNul.1, hLeft, Verdict.next?]

theorem reads_v4Command_iff :
    Reads .v4Command bytes (.request r) ↔
      ∃ (command p q a b c d : UInt8) (userId : List UInt8),
        bytes = command :: p :: q :: a :: b :: c :: d :: (userId ++ [0]) ∧ 0 ∉ userId ∧
          userId.length < userIdLimit ∧
          r = ⟨.v4, command, .ipv4, .ofIpv4 (.ofOctets a b c d) (portOf p q)⟩ := by
  constructor
  · intro h
    rcases h.request_cases with hLast | ⟨_, _, _, rfl, -, hFollows, hRest⟩
    · cases hLast
    cases hFollows
    rcases hRest.request_cases with hLast | ⟨_, _, _, rfl, -, hFollows, hRest⟩
    · cases hLast
    cases hFollows
    rcases hRest.request_cases with hLast | ⟨_, _, _, rfl, -, hFollows, hRest⟩
    · cases hLast
    cases hFollows
    obtain ⟨userId, rfl, hNul, hShort, rfl⟩ := reads_v4UserId_iff.mp hRest
    exact ⟨_, _, _, _, _, _, _, userId, rfl, hNul, Nat.lt_succ_of_le hShort, rfl⟩
  · rintro ⟨command, p, q, a, b, c, d, userId, rfl, hNul, hShort, rfl⟩
    exact .more [command] _ rfl rfl <| .more [p, q] _ rfl rfl <|
      .more [a, b, c, d] _ rfl rfl <|
        reads_v4UserId_iff.mpr ⟨userId, rfl, hNul, Nat.le_of_lt_succ hShort, rfl⟩

theorem reads_version_iff :
    Reads .version bytes (.request r) ↔
      (∃ rest, bytes = 4 :: rest ∧ Reads .v4Command rest (.request r)) ∨
        ∃ rest, bytes = 5 :: rest ∧ Reads .methodCount rest (.request r) := by
  constructor
  · intro h
    rcases h.request_cases with hLast | ⟨_, rest, _, rfl, -, hFollows, hRest⟩
    · cases hLast
    cases hFollows with
    | v4 => exact Or.inl ⟨rest, rfl, hRest⟩
    | v5 => exact Or.inr ⟨rest, rfl, hRest⟩
  · rintro (⟨rest, rfl, hRest⟩ | ⟨rest, rfl, hRest⟩)
    · exact .more [4] _ rfl rfl hRest
    · exact .more [5] _ rfl rfl hRest

/-! ### Requests -/

/-- Two bytes hold a port, the more significant one first. -/
def HoldPort (p q : UInt8) (port : UInt16) : Prop := port.toNat = 256 * p.toNat + q.toNat

/-- Four bytes hold an address, the most significant one first. -/
def HoldAddress (a b c d : UInt8) (address : Ipv4) : Prop :=
  address.bits.toNat = 2 ^ 24 * a.toNat + 2 ^ 16 * b.toNat + 2 ^ 8 * c.toNat + d.toNat

/-- Sixteen bytes hold an address of eight groups, the more significant byte of each first. -/
def HoldGroups (octets : List UInt8) (address : Ipv6) : Prop :=
  octets.length = 16 ∧ ∀ i : Fin 8, (address.groups.get i).toNat =
    256 * (octets.getD (2 * i.val) 0).toNat + (octets.getD (2 * i.val + 1) 0).toNat

theorem holdPort_iff {p q : UInt8} {port : UInt16} : HoldPort p q port ↔ port = portOf p q := by
  rw [HoldPort, ← toNat_portOf, UInt16.toNat_inj]

theorem holdAddress_iff {a b c d : UInt8} {address : Ipv4} :
    HoldAddress a b c d address ↔ address = .ofOctets a b c d := by
  rw [HoldAddress, Ipv4.eq_ofOctets_iff]

theorem holdGroups_iff {octets : List UInt8} {address : Ipv6} :
    HoldGroups octets address ↔ Ipv6.ofBytes? octets = some address := by
  rw [Ipv6.ofBytes?]
  by_cases hLength : octets.length = 16
  · rw [if_pos hLength, Option.some.injEq, eq_comm, Ipv6.eq_ofGroups_iff hLength]
    exact ⟨fun h => h.2, fun h => ⟨hLength, h⟩⟩
  · rw [if_neg hLength]
    exact ⟨fun h => absurd h.1 hLength, fun h => nomatch h⟩

/-- **The byte strings that make a request**, whatever it asks for. -/
inductive Asks : List UInt8 → Request → Prop
  | v4 {command p q a b c d : UInt8} {port : UInt16} {address : Ipv4} {userId : List UInt8}
      (hPort : HoldPort p q port) (hAddress : HoldAddress a b c d address) (hNul : 0 ∉ userId)
      (hShort : userId.length < userIdLimit) :
      Asks (4 :: command :: p :: q :: a :: b :: c :: d :: (userId ++ [0]))
        ⟨.v4, command, .ipv4, .ofIpv4 address port⟩
  | v5Address {count command reserved a b c d p q : UInt8} {methods : List UInt8}
      {port : UInt16} {address : Ipv4} (hCount : methods.length = count.toNat)
      (hNone : 0 ∈ methods) (hAddress : HoldAddress a b c d address) (hPort : HoldPort p q port) :
      Asks (5 :: count :: (methods ++ [5, command, reserved, 1, a, b, c, d, p, q]))
        ⟨.v5, command, .ipv4, .ofIpv4 address port⟩
  | v5Name {count command reserved length p q : UInt8} {methods name : List UInt8}
      {port : UInt16} {text : String} (hCount : methods.length = count.toNat)
      (hNone : 0 ∈ methods) (hLength : name.length = length.toNat) (hSome : length ≠ 0)
      (hText : text.toUTF8 = ⟨name.toArray⟩) (hPort : HoldPort p q port) :
      Asks (5 :: count :: (methods ++ 5 :: command :: reserved :: 3 :: length :: (name ++ [p, q])))
        ⟨.v5, command, .domain, .named text port⟩
  | v5Ipv6 {count command reserved p q : UInt8} {methods octets : List UInt8} {port : UInt16}
      {address : Ipv6} (hCount : methods.length = count.toNat) (hNone : 0 ∈ methods)
      (hAddress : HoldGroups octets address) (hPort : HoldPort p q port) :
      Asks (5 :: count :: (methods ++ 5 :: command :: reserved :: 4 :: (octets ++ [p, q])))
        ⟨.v5, command, .ipv6, .ofIpv6 address port⟩

/-- **The readings that end in a request are the byte strings that make one.** -/
theorem reads_iff_asks : Reads .version bytes (.request r) ↔ Asks bytes r := by
  constructor
  · intro h
    rcases reads_version_iff.mp h with ⟨rest, rfl, hRest⟩ | ⟨rest, rfl, hRest⟩
    · obtain ⟨command, p, q, a, b, c, d, userId, rfl, hNul, hShort, rfl⟩ :=
        reads_v4Command_iff.mp hRest
      exact .v4 (holdPort_iff.mpr rfl) (holdAddress_iff.mpr rfl) hNul hShort
    · obtain ⟨count, methods, rest, rfl, hCount, hNone, hRest⟩ := reads_methodCount_iff.mp hRest
      obtain ⟨command, reserved, rest, ⟨rfl, hTail⟩ | ⟨rfl, hTail⟩ | ⟨rfl, hTail⟩⟩ :=
        reads_header_cases.mp hRest
      · obtain ⟨a, b, c, d, p, q, rfl, rfl⟩ := reads_ipv4_iff.mp hTail
        exact .v5Address hCount hNone (holdAddress_iff.mpr rfl) (holdPort_iff.mpr rfl)
      · obtain ⟨length, name, text, p, q, rfl, hLength, hSome, hText, rfl⟩ :=
          reads_domainLength_iff.mp hTail
        exact .v5Name hCount hNone hLength hSome hText (holdPort_iff.mpr rfl)
      · obtain ⟨octets, address, p, q, rfl, hAddress, rfl⟩ := reads_ipv6_iff.mp hTail
        exact .v5Ipv6 hCount hNone (holdGroups_iff.mpr hAddress) (holdPort_iff.mpr rfl)
  · intro h
    cases h with
    | @v4 command p q a b c d _ _ userId hPort hAddress hNul hShort =>
      rw [holdPort_iff.mp hPort, holdAddress_iff.mp hAddress]
      exact reads_version_iff.mpr (Or.inl ⟨_, rfl, reads_v4Command_iff.mpr
        ⟨command, p, q, a, b, c, d, userId, rfl, hNul, hShort, rfl⟩⟩)
    | @v5Address count command reserved a b c d p q methods _ _ hCount hNone hAddress hPort =>
      rw [holdPort_iff.mp hPort, holdAddress_iff.mp hAddress]
      have hHeader := reads_header_cases.mpr ⟨command, reserved, _, Or.inl ⟨rfl,
        reads_ipv4_iff.mpr ⟨a, b, c, d, p, q, rfl, rfl⟩⟩⟩
      exact reads_version_iff.mpr (Or.inr ⟨_, rfl, reads_methodCount_iff.mpr
        ⟨count, methods, _, rfl, hCount, hNone, hHeader⟩⟩)
    | @v5Name count command reserved length p q methods name _ text hCount hNone hLength hSome
        hText hPort =>
      rw [holdPort_iff.mp hPort]
      have hHeader := reads_header_cases.mpr ⟨command, reserved, _, Or.inr (Or.inl ⟨rfl,
        reads_domainLength_iff.mpr ⟨length, name, text, p, q, rfl, hLength, hSome, hText, rfl⟩⟩)⟩
      exact reads_version_iff.mpr (Or.inr ⟨_, rfl, reads_methodCount_iff.mpr
        ⟨count, methods, _, rfl, hCount, hNone, hHeader⟩⟩)
    | @v5Ipv6 count command reserved p q methods octets _ address hCount hNone hAddress hPort =>
      rw [holdPort_iff.mp hPort]
      have hHeader := reads_header_cases.mpr ⟨command, reserved, _, Or.inr (Or.inr ⟨rfl,
        reads_ipv6_iff.mpr ⟨octets, address, p, q, rfl, holdGroups_iff.mp hAddress, rfl⟩⟩)⟩
      exact reads_version_iff.mpr (Or.inr ⟨_, rfl, reads_methodCount_iff.mpr
        ⟨count, methods, _, rfl, hCount, hNone, hHeader⟩⟩)

/-! ### The openings -/

/-- **The openings that are accepted, byte by byte**, with the request that each
one makes. -/
inductive Opens : List UInt8 → Request → Prop
  | v4 {p q a b c d : UInt8} {port : UInt16} {address : Ipv4} {userId : List UInt8}
      (hPort : HoldPort p q port) (hAddress : HoldAddress a b c d address) (hNul : 0 ∉ userId)
      (hShort : userId.length < userIdLimit) :
      Opens (4 :: 1 :: p :: q :: a :: b :: c :: d :: (userId ++ [0]))
        ⟨.v4, 1, .ipv4, .ofIpv4 address port⟩
  | v5Address {count reserved a b c d p q : UInt8} {methods : List UInt8} {port : UInt16}
      {address : Ipv4} (hCount : methods.length = count.toNat) (hNone : 0 ∈ methods)
      (hAddress : HoldAddress a b c d address) (hPort : HoldPort p q port) :
      Opens (5 :: count :: (methods ++ [5, 1, reserved, 1, a, b, c, d, p, q]))
        ⟨.v5, 1, .ipv4, .ofIpv4 address port⟩
  | v5Name {count reserved length p q : UInt8} {methods name : List UInt8} {port : UInt16}
      {text : String} (hCount : methods.length = count.toNat) (hNone : 0 ∈ methods)
      (hLength : name.length = length.toNat) (hSome : length ≠ 0)
      (hText : text.toUTF8 = ⟨name.toArray⟩) (hPort : HoldPort p q port) :
      Opens (5 :: count :: (methods ++ 5 :: 1 :: reserved :: 3 :: length :: (name ++ [p, q])))
        ⟨.v5, 1, .domain, .named text port⟩

/-- **A request is not refused** when it is a CONNECT, and not for an IPv6 address. -/
theorem refusal?_eq_none_iff :
    refusal? r = none ↔ r.commandByte = 1 ∧ (r.version = .v5 → r.addressType ≠ .ipv6) := by
  have hConnect : r.command? = some .connect ↔ r.commandByte = 1 :=
    ⟨Command.eq_byte_of_ofByte?, fun h => by rw [Request.command?, h]; rfl⟩
  unfold refusal?
  cases r.version with
  | v4 => simp [hConnect]
  | v5 =>
    by_cases hType : r.addressType = .ipv6
    · simp [hType]
    · simp [hType, hConnect]

/-- The openings are the requests that are not refused. -/
theorem opens_iff_asks : Opens bytes r ↔ Asks bytes r ∧ refusal? r = none := by
  constructor
  · intro h
    cases h with
    | v4 hPort hAddress hNul hShort => exact ⟨.v4 hPort hAddress hNul hShort, rfl⟩
    | v5Address hCount hNone hAddress hPort =>
      exact ⟨.v5Address hCount hNone hAddress hPort, rfl⟩
    | v5Name hCount hNone hLength hSome hText hPort =>
      exact ⟨.v5Name hCount hNone hLength hSome hText hPort, rfl⟩
  · rintro ⟨h, hAccepted⟩
    obtain ⟨hCommand, hType⟩ := refusal?_eq_none_iff.mp hAccepted
    cases h with
    | v4 hPort hAddress hNul hShort =>
      cases hCommand
      exact .v4 hPort hAddress hNul hShort
    | v5Address hCount hNone hAddress hPort =>
      cases hCommand
      exact .v5Address hCount hNone hAddress hPort
    | v5Name hCount hNone hLength hSome hText hPort =>
      cases hCommand
      exact .v5Name hCount hNone hLength hSome hText hPort
    | v5Ipv6 => exact absurd rfl (hType rfl)

/-- **The readings that end in a request which is not refused are the openings.** -/
theorem reads_iff_opens :
    Reads .version bytes (.request r) ∧ refusal? r = none ↔ Opens bytes r := by
  rw [reads_iff_asks, opens_iff_asks]

/-! ### Handshakes to their end -/

namespace Handshake

/-- The client sends these bytes and then nothing more: the handshake afterwards,
and the bytes that are left over. -/
def feedAll (h : Handshake) (bytes : List UInt8) : Handshake × List UInt8 :=
  ((h.feed bytes).1.endOfInput, (h.feed bytes).2)

theorem endOfInput_of_not_reading {h : Handshake} (hEnd : h.isReading = false) :
    h.endOfInput = h := by
  cases hAt : h.progress with
  | reading phase got => simp [isReading, hAt] at hEnd
  | _ => simp only [endOfInput, hAt]

theorem endOfInput_of_reading {h : Handshake} (hReading : h.isReading = true) :
    ∃ e, h.endOfInput.progress = .failed e := by
  cases hAt : h.progress with
  | reading phase got =>
    simp only [endOfInput, hAt]
    exact ⟨_, rfl⟩
  | _ => simp [isReading, hAt] at hReading

theorem obey_of_end {v : Verdict} (h : Handshake) (hEnd : v.next? = none) :
    (∃ r, v = .request r ∧ refusal? r = none ∧
      h.obey v = { h with session := h.session.populate r, progress := .accepted }) ∨
    ((∃ e, (h.obey v).progress = .failed e) ∧ ∀ r, v = .request r → refusal? r ≠ none) := by
  cases v with
  | read phase => cases hEnd
  | acceptMethod => cases hEnd
  | refuseMethods methods =>
    refine Or.inr ⟨?_, fun r hr => by cases hr⟩
    rw [obey, mustWrite_eq]
    cases (h.writer.writeAll [Version.v5.number, methodNoneAcceptable]).fault <;> exact ⟨_, rfl⟩
  | unsupported version => exact Or.inr ⟨⟨_, rfl⟩, fun r hr => by cases hr⟩
  | invalid fault => exact Or.inr ⟨⟨_, rfl⟩, fun r hr => by cases hr⟩
  | request r =>
    cases hRefusal : refusal? r with
    | none =>
      refine Or.inl ⟨r, rfl, hRefusal, ?_⟩
      simp only [obey, settle, hRefusal]
    | some refused =>
      refine Or.inr ⟨?_, fun r' hr => ?_⟩
      · simp only [obey, settle, hRefusal]
        exact ⟨_, rfl⟩
      · cases hr
        simp [hRefusal]

theorem feedAll_of_opens {h : Handshake} {taken : List UInt8} {r : Request}
    (hOpens : Opens taken r) (hAt : h.progress = .reading .version [])
    (hWriter : h.writer.Reliable) :
    ∃ h' : Handshake, h'.progress = .accepted ∧ h'.session = h.session.populate r ∧
      ∀ rest, h.feedAll (taken ++ rest) = (h', rest) := by
  obtain ⟨hReads, hAccepted⟩ := reads_iff_opens.mpr hOpens
  obtain ⟨h', hSession, -, hFeed⟩ := hReads.feed (by decide) hAt hWriter
  rcases obey_of_end h' hReads.next?_eq_none with ⟨r', hr, -, hObey⟩ | ⟨-, hRefused⟩
  · cases hr
    refine ⟨h'.obey (.request r), by rw [hObey], by rw [hObey, ← hSession], fun rest => ?_⟩
    rw [feedAll, hFeed, endOfInput_of_not_reading (isReading_obey rfl)]
  · exact absurd hAccepted (hRefused r rfl)

/-- **Bytes that begin with no opening are not accepted**: the handshake fails. -/
theorem feedAll_cases {h : Handshake} (bytes : List UInt8)
    (hAt : h.progress = .reading .version []) (hWriter : h.writer.Reliable) :
    (∃ taken rest r, bytes = taken ++ rest ∧ Opens taken r) ∨
      ∃ e, (h.feedAll bytes).1.progress = .failed e := by
  rcases reads_or_waits bytes (show 0 < Phase.version.size by decide) with
    ⟨taken, rest, v, rfl, hReads⟩ | hWaits
  · obtain ⟨h', -, -, hFeed⟩ := hReads.feed (by decide) hAt hWriter
    rcases obey_of_end h' hReads.next?_eq_none with ⟨r, rfl, hAccepted, -⟩ | ⟨hFailed, -⟩
    · exact Or.inl ⟨taken, rest, r, rfl, reads_iff_opens.mp ⟨hReads, hAccepted⟩⟩
    · rw [feedAll, hFeed, endOfInput_of_not_reading (isReading_obey hReads.next?_eq_none)]
      exact Or.inr hFailed
  · obtain ⟨h', hReading, hFeed⟩ := hWaits h hAt hWriter
    rw [feedAll, hFeed]
    exact Or.inr (endOfInput_of_reading hReading)

theorem length_le_feedAll {h : Handshake} (bytes : List UInt8)
    (hAt : h.progress = .reading .version []) :
    bytes.length ≤ (h.feedAll bytes).2.length + 1008 := by
  have hIn : h.InField := by
    intro phase got hAt'
    rw [hAt] at hAt'
    cases hAt'
    decide
  have hTaken := length_le_feed hIn bytes
  rw [hAt] at hTaken
  simp only [feedAll, Progress.budget, Phase.budget, List.length_nil] at hTaken ⊢
  omega

end Handshake

open Handshake

/-- **A handshake accepts exactly the openings.**  In a session without a
destination on record and with a reliable writer, the bytes `taken` are what an
accepted handshake has read exactly when they are an opening that the bytes begin
with.  The session then holds what the opening asks for, and what is behind the
opening is left over and changes nothing.  Bytes that begin with no opening make
the handshake fail.  Whatever the writer does, at most 1008 bytes are read. -/
theorem accepts_iff_opens (s : Session) (hFresh : s.destinationRequested = none)
    (w : Stream.Writer) (hWriter : w.Reliable) (bytes : List UInt8) :
    let start : Handshake := { session := s, writer := w }
    (∀ taken, (start.feedAll bytes).1.progress = .accepted ∧
        bytes = taken ++ (start.feedAll bytes).2 ↔ taken <+: bytes ∧ ∃ r, Opens taken r) ∧
      (∀ taken r, Opens taken r →
        ∃ h' : Handshake, h'.progress = .accepted ∧
          h'.session =
            { s with
              version := some r.version
              command := some .connect
              commandRequested := some .connect
              addressType := some r.addressType
              addressTypeRequested := some r.addressType
              destination := r.destination
              destinationRequested := some r.destination } ∧
          ∀ rest, start.feedAll (taken ++ rest) = (h', rest)) ∧
      ((∀ taken r, taken <+: bytes → ¬ Opens taken r) →
        ∃ e, (start.feedAll bytes).1.progress = .failed e) ∧
      ∀ w' : Stream.Writer,
        bytes.length ≤
          (({ session := s, writer := w' } : Handshake).feedAll bytes).2.length + 1008 := by
  intro start
  refine ⟨fun taken => ⟨?_, ?_⟩, fun taken r hOpens => ?_, fun hNone => ?_, fun w' => ?_⟩
  · rintro ⟨hAccepted, hBytes⟩
    rcases feedAll_cases (h := start) bytes rfl hWriter with
      ⟨taken', rest, r, rfl, hOpens⟩ | ⟨e, hFailed⟩
    · obtain ⟨h', -, -, hFeed⟩ := feedAll_of_opens (h := start) hOpens rfl hWriter
      rw [hFeed, List.append_cancel_right_eq] at hBytes
      subst hBytes
      exact ⟨List.prefix_append taken' rest, r, hOpens⟩
    · rw [hFailed] at hAccepted
      cases hAccepted
  · rintro ⟨⟨rest, rfl⟩, r, hOpens⟩
    obtain ⟨h', hAccepted, -, hFeed⟩ := feedAll_of_opens (h := start) hOpens rfl hWriter
    rw [hFeed]
    exact ⟨hAccepted, rfl⟩
  · obtain ⟨h', hAccepted, hSession, hFeed⟩ := feedAll_of_opens (h := start) hOpens rfl hWriter
    refine ⟨h', hAccepted, ?_, hFeed⟩
    have hCommand : r.command? = some .connect := by cases hOpens <;> rfl
    rw [hSession, Session.populate, Session.recordDestination, hCommand]
    simp only [start, hFresh]
  · rcases feedAll_cases (h := start) bytes rfl hWriter with
      ⟨taken, rest, r, rfl, hOpens⟩ | hFailed
    · exact absurd hOpens (hNone taken r (List.prefix_append taken rest))
    · exact hFailed
  · exact length_le_feedAll bytes rfl

/-- A client asks by SOCKS4 for port 80 of 93.184.216.34 and goes on at once, while
the way back takes one byte a call. -/
theorem accepts_iff_opens_v4 :
    let s : Session := .accept 1 ⟨1, { port := 1080, kind := .socks }⟩ {} 0
    let w : Stream.Writer := { later := .takes 1 }
    (s.destinationRequested = none ∧ w.Reliable) ∧
      ∃ h' : Handshake, h'.progress = .accepted ∧
        h'.session.destination = .ofIpv4 (.ofOctets 93 184 216 34) 80 ∧
        ({ session := s, writer := w } : Handshake).feedAll
          [4, 1, 0, 80, 93, 184, 216, 34, 98, 0, 1, 2] = (h', [1, 2]) := by
  intro s w
  have hWriter : w.Reliable := ⟨by simp [w], Nat.one_pos, rfl⟩
  have hOpens : Opens [4, 1, 0, 80, 93, 184, 216, 34, 98, 0]
      ⟨.v4, 1, .ipv4, .ofIpv4 (.ofOctets 93 184 216 34) 80⟩ :=
    @Opens.v4 0 80 93 184 216 34 80 _ [98] rfl rfl (by decide) (by decide)
  obtain ⟨h', hAccepted, hSession, hFeed⟩ :=
    (accepts_iff_opens s rfl w hWriter [4, 1, 0, 80, 93, 184, 216, 34, 98, 0, 1, 2]).2.1 _ _ hOpens
  exact ⟨⟨rfl, hWriter⟩, h', hAccepted, by rw [hSession], hFeed [1, 2]⟩

end Socks

end SocksGateway
