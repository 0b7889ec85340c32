import SocksGateway.Proofs.Stream.Writer
import SocksGateway.Socks.Handshake

/-!
# A handshake, field by field

`Handshake.feed` takes one byte at a time.  This file says what it does with
whole fields: `Reads phase bytes verdict` cuts `bytes` into fields, the first of
them that of `phase`, each of which but the last asks for the next one, while the
last gives the verdict that ends the handshake.

* `Phase.follows_of_next`, `Phase.completes_of_next`: every way in which a field
  asks for another one, or completes a request.
* `Reads.feed`: bytes that read to a verdict are taken, all of them and none
  behind them, and the verdict is obeyed.
* `reads_or_waits`: bytes either begin with such bytes, or are all taken and
  leave the handshake in the middle of a field.
* `length_le_feed`: whatever comes, and whatever the writer does, no more bytes
  are taken than the budget of the phase.
-/

namespace SocksGateway

namespace Socks

/-- The field that a verdict asks for, if it does not end the handshake. -/
def Verdict.next? : Verdict → Option Phase
  | .read phase => some phase
  | .acceptMethod => some .header
  | _ => none

/-! ### What a field leads to -/

namespace Phase

/-- A field with these bytes asks for that field. -/
inductive Follows : Phase → List UInt8 → Phase → Prop
  | v4 : Follows .version [4] .v4Command
  | v5 : Follows .version [5] .methodCount
  | v4Command {command : UInt8} : Follows .v4Command [command] (.v4Port command)
  | v4Port {command hi lo : UInt8} :
      Follows (.v4Port command) [hi, lo] (.v4Address command (portOf hi lo))
  | v4Address {command a b c d : UInt8} {port : UInt16} :
      Follows (.v4Address command port) [a, b, c, d]
        (.v4UserId command (.ofIpv4 (.ofOctets a b c d) port) (userIdLimit - 1))
  | v4UserId {command b : UInt8} {destination : Destination} {left : Nat} (hByte : b ≠ 0)
      (hLeft : left ≠ 0) :
      Follows (.v4UserId command destination left) [b]
        (.v4UserId command destination (left - 1))
  | methodCount {count : UInt8} (hCount : count ≠ 0) :
      Follows .methodCount [count] (.methods count)
  | methods {count : UInt8} {offered : List UInt8} (hNone : methodNone ∈ offered) :
      Follows (.methods count) offered .header
  | ipv4 {command reserved : UInt8} : Follows .header [5, command, reserved, 1] (.ipv4 command)
  | domain {command reserved : UInt8} :
      Follows .header [5, command, reserved, 3] (.domainLength command)
  | ipv6 {command reserved : UInt8} : Follows .header [5, command, reserved, 4] (.ipv6 command)
  | ipv4Address {command a b c d : UInt8} :
      Follows (.ipv4 command) [a, b, c, d] (.ipv4Port command (.ofOctets a b c d))
  | domainLength {command length : UInt8} (hLength : length ≠ 0) :
      Follows (.domainLength command) [length] (.domain command length)
  | domainName {command length : UInt8} {bytes : List UInt8} {name : String}
      (hName : nameOf? bytes = some name) :
      Follows (.domain command length) bytes (.domainPort command name)
  | ipv6Address {command : UInt8} {bytes : List UInt8} {address : Ipv6}
      (hAddress : Ipv6.ofBytes? bytes = some address) :
      Follows (.ipv6 command) bytes (.ipv6Port command address)

theorem follows_of_header {version command reserved type : UInt8} {next : Phase}
    (h : (Verdict.ofHeader version command type).next? = some next) :
    Follows .header [version, command, reserved, type] next := by
  unfold Verdict.ofHeader at h
  split at h
  · cases h
  rename_i hVersion
  have hVersion : version = 5 := Decidable.not_not.mp hVersion
  subst hVersion
  split at h
  · cases h
  all_goals
    rename_i hType
    have hByte := AddressType.eq_byte_of_ofByte? hType
    subst hByte
    cases h
  · exact .ipv4
  · exact .domain
  · exact .ipv6

/-! The verdict on a field of a fixed number of bytes asks for a field, or
completes a request, only if the bytes are so many. -/

variable {phase next : Phase} {bytes : List UInt8} {r : Request}

theorem ofByte_next {v : UInt8 → Verdict} (h : (phase.ofByte v bytes).next? = some next) :
    ∃ b, bytes = [b] ∧ (v b).next? = some next := by
  unfold ofByte at h
  split at h
  · exact ⟨_, rfl, h⟩
  · cases h

theorem ofPort_next {v : UInt16 → Verdict} (h : (phase.ofPort v bytes).next? = some next) :
    ∃ hi lo, bytes = [hi, lo] ∧ (v (portOf hi lo)).next? = some next := by
  unfold ofPort at h
  split at h
  · exact ⟨_, _, rfl, h⟩
  · cases h

theorem ofFour_next {v : UInt8 → UInt8 → UInt8 → UInt8 → Verdict}
    (h : (phase.ofFour v bytes).next? = some next) :
    ∃ a b c d, bytes = [a, b, c, d] ∧ (v a b c d).next? = some next := by
  unfold ofFour at h
  split at h
  · exact ⟨_, _, _, _, rfl, h⟩
  · cases h

/-- **Every way in which a field asks for another one.** -/
theorem follows_of_next (h : (phase.next bytes).next? = some next) :
    phase.Follows bytes next := by
  unfold Phase.next at h
  cases phase with
  | version =>
    obtain ⟨b, rfl, hVerdict⟩ := ofByte_next h
    split at hVerdict
    · rename_i hVersion
      subst hVersion
      cases hVerdict
      exact .v4
    split at hVerdict
    · rename_i hVersion
      subst hVersion
      cases hVerdict
      exact .v5
    · cases hVerdict
  | v4Command =>
    obtain ⟨command, rfl, hVerdict⟩ := ofByte_next h
    cases hVerdict
    exact .v4Command
  | v4Port command =>
    obtain ⟨hi, lo, rfl, hVerdict⟩ := ofPort_next h
    cases hVerdict
    exact .v4Port
  | v4Address command port =>
    obtain ⟨a, b, c, d, rfl, hVerdict⟩ := ofFour_next h
    cases hVerdict
    exact .v4Address
  | v4UserId command destination left =>
    obtain ⟨b, rfl, hVerdict⟩ := ofByte_next h
    split at hVerdict
    · cases hVerdict
    rename_i hByte
    split at hVerdict
    · cases hVerdict
    rename_i hLeft
    cases hVerdict
    exact .v4UserId hByte hLeft
  | methodCount =>
    obtain ⟨count, rfl, hVerdict⟩ := ofByte_next h
    split at hVerdict
    · cases hVerdict
    rename_i hCount
    cases hVerdict
    exact .methodCount hCount
  | methods count =>
    dsimp only [Verdict.ofMethods] at h
    split at h
    · rename_i hNone
      cases h
      exact .methods (by simpa using hNone)
    · cases h
  | header =>
    obtain ⟨version, command, reserved, type, rfl, hVerdict⟩ := ofFour_next h
    exact follows_of_header hVerdict
  | ipv4 command =>
    obtain ⟨a, b, c, d, rfl, hVerdict⟩ := ofFour_next h
    cases hVerdict
    exact .ipv4Address
  | domainLength command =>
    obtain ⟨length, rfl, hVerdict⟩ := ofByte_next h
    split at hVerdict
    · cases hVerdict
    rename_i hLength
    cases hVerdict
    exact .domainLength hLength
  | domain command length =>
    dsimp only at h
    split at h
    · rename_i hName
      cases h
      exact .domainName hName
    · cases h
  | ipv6 command =>
    dsimp only at h
    split at h
    · rename_i hAddress
      cases h
      exact .ipv6Address hAddress
    · cases h
  | ipv4Port command address =>
    obtain ⟨hi, lo, rfl, hVerdict⟩ := ofPort_next h
    cases h
  | domainPort command name =>
    obtain ⟨hi, lo, rfl, hVerdict⟩ := ofPort_next h
    cases h
  | ipv6Port command address =>
    obtain ⟨hi, lo, rfl, hVerdict⟩ := ofPort_next h
    cases hVerdict

/-- A field with these bytes completes that request. -/
inductive Completes : Phase → List UInt8 → Request → Prop
  | v4 {command : UInt8} {destination : Destination} {left : Nat} :
      Completes (.v4UserId command destination left) [0] ⟨.v4, command, .ipv4, destination⟩
  | ipv4 {command hi lo : UInt8} {address : Ipv4} :
      Completes (.ipv4Port command address) [hi, lo]
        ⟨.v5, command, .ipv4, .ofIpv4 address (portOf hi lo)⟩
  | domain {command hi lo : UInt8} {name : String} :
      Completes (.domainPort command name) [hi, lo]
        ⟨.v5, command, .domain, .named name (portOf hi lo)⟩
  | ipv6 {command hi lo : UInt8} {address : Ipv6} :
      Completes (.ipv6Port command address) [hi, lo]
        ⟨.v5, command, .ipv6, .ofIpv6 address (portOf hi lo)⟩

/-- **Every way in which a field completes a request.** -/
theorem completes_of_next (h : phase.next bytes = .request r) : phase.Completes bytes r := by
  unfold Phase.next ofByte ofPort ofFour malformed Verdict.ofMethods Verdict.ofHeader at h
  split at h
  all_goals
    split at h <;> try dsimp only at h
  all_goals
    repeat' split at h
  all_goals cases h
  · rename_i hByte
    subst hByte
    exact .v4
  · exact .ipv4
  · exact .domain
  · exact .ipv6

theorem Follows.size_pos (h : phase.Follows bytes next) : 0 < next.size := by
  have hPos {n : UInt8} (hn : n ≠ 0) : 0 < n.toNat :=
    Nat.pos_of_ne_zero fun h0 => hn (UInt8.toNat_inj.mp h0)
  cases h with
  | methodCount hCount => exact hPos hCount
  | domainLength hLength => exact hPos hLength
  | _ => exact Nat.succ_pos _

end Phase

/-- From the start of the field of `phase` on, these bytes lead to the verdict. -/
inductive Reads : Phase → List UInt8 → Verdict → Prop
  | last {phase : Phase} {field : List UInt8} (hSize : field.length = phase.size)
      (hEnd : (phase.next field).next? = none) : Reads phase field (phase.next field)
  | more {phase : Phase} {rest : List UInt8} {verdict : Verdict} (field : List UInt8)
      (next : Phase) (hSize : field.length = phase.size)
      (hNext : (phase.next field).next? = some next) (hRest : Reads next rest verdict) :
      Reads phase (field ++ rest) verdict

theorem Reads.next?_eq_none {phase : Phase} {bytes : List UInt8} {verdict : Verdict}
    (h : Reads phase bytes verdict) : verdict.next? = none := by
  induction h with
  | last _ hEnd => exact hEnd
  | more _ _ _ _ _ ih => exact ih

namespace Handshake

variable {h : Handshake} {phase : Phase} {got : List UInt8}

/-! ### What a verdict does -/

theorem mustWrite_eq (h : Handshake) (bytes : List UInt8) (progress : Progress) :
    h.mustWrite bytes progress =
      { h with
        writer := (h.writer.writeAll bytes).writer
        written := h.written ++ (h.writer.writeAll bytes).bytes
        progress :=
          match (h.writer.writeAll bytes).fault with
          | none => progress
          | some f => .failed (.stream f) } := by
  simp only [mustWrite, write]
  split
  · rename_i hWrite
    obtain ⟨rfl, hFault⟩ := Prod.mk.inj hWrite
    simp [hFault]
  · rename_i hWrite
    obtain ⟨rfl, hFault⟩ := Prod.mk.inj hWrite
    simp [hFault, fail]

theorem settle_progress (h : Handshake) (progress : Progress) (r : Request) :
    ({ h with progress } : Handshake).settle r = h.settle r := by
  unfold settle
  cases refusal? r <;> rfl

theorem isReading_settle (h : Handshake) (r : Request) : (h.settle r).isReading = false := by
  unfold settle
  cases refusal? r <;> rfl

/-- What a verdict does does not depend on how far the handshake was. -/
theorem obey_progress (h : Handshake) (progress : Progress) (v : Verdict) :
    ({ h with progress } : Handshake).obey v = h.obey v := by
  cases v with
  | acceptMethod => simp only [obey, mustWrite_eq]
  | refuseMethods methods => simp only [obey, mustWrite_eq]
  | request r => exact settle_progress h progress r
  | _ => rfl

theorem isReading_obey {v : Verdict} (hEnd : v.next? = none) : (h.obey v).isReading = false := by
  cases v with
  | read phase => cases hEnd
  | acceptMethod => cases hEnd
  | refuseMethods methods =>
    rw [obey, mustWrite_eq]
    cases (h.writer.writeAll _).fault <;> rfl
  | request r => exact isReading_settle h r
  | _ => rfl

/-- A verdict that asks for a field leads to it, if the writer is reliable. -/
theorem obey_of_next {v : Verdict} {next : Phase} (hNext : v.next? = some next)
    (hWriter : h.writer.Reliable) :
    (h.obey v).progress = .reading next [] ∧ (h.obey v).session = h.session ∧
      (h.obey v).writer.Reliable := by
  cases v with
  | read phase =>
    cases hNext
    exact ⟨rfl, rfl, hWriter⟩
  | acceptMethod =>
    cases hNext
    obtain ⟨-, hFault, hReliable⟩ := hWriter.writeAll [Version.v5.number, methodNone]
    rw [obey, mustWrite_eq, hFault]
    exact ⟨rfl, rfl, hReliable⟩
  | _ => cases hNext

/-! ### Bytes of one field -/

theorem feed_of_not_reading (hEnd : h.isReading = false) (bytes : List UInt8) :
    h.feed bytes = (h, bytes) := by
  cases bytes with
  | nil => rfl
  | cons b bs => rw [feed, if_neg (by simp [hEnd])]

theorem feed_cons (hAt : h.progress = .reading phase got) (b : UInt8) (bytes : List UInt8) :
    h.feed (b :: bytes) = (h.receive b).feed bytes := by
  rw [feed, if_pos (by rw [isReading, hAt])]

theorem receive_of_lt (hAt : h.progress = .reading phase got) {b : UInt8}
    (hShort : (got ++ [b]).length < phase.size) :
    h.receive b = { h with progress := .reading phase (got ++ [b]) } := by
  simp only [receive, hAt, if_pos hShort]

theorem receive_of_eq (hAt : h.progress = .reading phase got) {b : UInt8}
    (hFull : (got ++ [b]).length = phase.size) :
    h.receive b = h.obey (phase.next (got ++ [b])) := by
  simp only [receive, hAt, if_neg (Nat.not_lt.mpr (Nat.le_of_eq hFull.symm))]

theorem feed_of_lt (bytes : List UInt8) (hAt : h.progress = .reading phase got)
    (hShort : got.length + bytes.length < phase.size) :
    h.feed bytes = ({ h with progress := .reading phase (got ++ bytes) }, []) := by
  induction bytes generalizing h got with
  | nil => simp [feed, ← hAt]
  | cons b bs ih =>
    simp only [List.length_cons] at hShort
    rw [feed_cons hAt, receive_of_lt hAt (by simp; omega), ih rfl (by simp; omega)]
    simp

theorem feed_field (field : List UInt8) (hAt : h.progress = .reading phase got)
    (hField : field ≠ []) (hSize : got.length + field.length = phase.size)
    (rest : List UInt8) :
    h.feed (field ++ rest) = (h.obey (phase.next (got ++ field))).feed rest := by
  induction field generalizing h got with
  | nil => exact absurd rfl hField
  | cons b bs ih =>
    simp only [List.length_cons] at hSize
    rw [List.cons_append, feed_cons hAt]
    by_cases hLast : bs = []
    · subst hLast
      rw [receive_of_eq hAt (by simpa using hSize), List.nil_append]
    · have hMore : 0 < bs.length := List.length_pos_iff.mpr hLast
      rw [receive_of_lt hAt (by simp; omega), ih rfl hLast (by simp; omega), obey_progress]
      simp

end Handshake

/-! ### Bytes of many fields -/

variable {phase : Phase}

/-- **Bytes that read to a verdict are taken, and the verdict is obeyed**, whatever
is behind them. -/
theorem Reads.feed {bytes : List UInt8} {v : Verdict} (hReads : Reads phase bytes v)
    (hSize : 0 < phase.size) {h : Handshake} (hAt : h.progress = .reading phase [])
    (hWriter : h.writer.Reliable) :
    ∃ h' : Handshake, h'.session = h.session ∧ h'.writer.Reliable ∧
      ∀ rest, h.feed (bytes ++ rest) = (h'.obey v, rest) := by
  induction hReads generalizing h with
  | @last phase field hField hEnd =>
    refine ⟨h, rfl, hWriter, fun rest => ?_⟩
    rw [Handshake.feed_field field hAt (List.ne_nil_of_length_pos (by omega))
        (by simpa using hField),
      Handshake.feed_of_not_reading (Handshake.isReading_obey (by simpa using hEnd))]
    rfl
  | more field next hField hNext hRest ih =>
    obtain ⟨hAt', hSession', hWriter'⟩ := Handshake.obey_of_next hNext hWriter
    obtain ⟨h', hSession, hReliable, hFeed⟩ :=
      ih (Phase.follows_of_next hNext).size_pos hAt' hWriter'
    refine ⟨h', hSession.trans hSession', hReliable, fun more => ?_⟩
    rw [List.append_assoc, Handshake.feed_field field hAt (List.ne_nil_of_length_pos (by omega))
      (by simpa using hField)]
    exact hFeed more

/-- **Bytes begin with some that read to a verdict, or they are all taken** and
leave the handshake in the middle of a field. -/
theorem reads_or_waits (bytes : List UInt8) (hSize : 0 < phase.size) :
    (∃ taken rest v, bytes = taken ++ rest ∧ Reads phase taken v) ∨
      ∀ h : Handshake, h.progress = .reading phase [] → h.writer.Reliable →
        ∃ h' : Handshake, h'.isReading = true ∧ h.feed bytes = (h', []) := by
  induction hLength : bytes.length using Nat.strongRecOn generalizing bytes phase with
  | ind n ih =>
    by_cases hShort : bytes.length < phase.size
    · refine Or.inr fun h hAt hWriter => ⟨_, rfl, Handshake.feed_of_lt bytes hAt ?_⟩
      simpa using hShort
    · have hField : (bytes.take phase.size).length = phase.size := by
        rw [List.length_take]
        omega
      have hSplit : bytes = bytes.take phase.size ++ bytes.drop phase.size :=
        (List.take_append_drop phase.size bytes).symm
      cases hNext : (phase.next (bytes.take phase.size)).next? with
      | none => exact Or.inl ⟨_, _, _, hSplit, .last hField hNext⟩
      | some next =>
        have hFewer : (bytes.drop phase.size).length < n := by
          rw [List.length_drop]
          omega
        rcases ih _ hFewer (bytes.drop phase.size) (Phase.follows_of_next hNext).size_pos rfl with
          ⟨taken, rest, v, hRest, hReads⟩ | hWaits
        · refine Or.inl ⟨_, rest, v, ?_, .more _ next hField hNext hReads⟩
          rw [List.append_assoc, ← hRest]
          exact hSplit
        · refine Or.inr fun h hAt hWriter => ?_
          obtain ⟨hAt', -, hWriter'⟩ := Handshake.obey_of_next hNext hWriter
          obtain ⟨h', hReading, hFeed⟩ := hWaits _ hAt' hWriter'
          refine ⟨h', hReading, ?_⟩
          rw [hSplit, Handshake.feed_field _ hAt (List.ne_nil_of_length_pos (by omega))
            (by simpa using hField)]
          exact hFeed

/-! ### How much is read -/

namespace Phase

/-- No more bytes than these are read from the start of the field on. -/
def budget : Phase → Nat
  | version => 1008
  | v4Command => 1007
  | v4Port _ => 1006
  | v4Address _ _ => 1004
  | v4UserId _ _ left => left + 1
  | methodCount => 518
  | methods count => count.toNat + 262
  | header => 262
  | ipv4 _ => 6
  | ipv4Port _ _ => 2
  | domainLength _ => 258
  | domain _ length => length.toNat + 2
  | domainPort _ _ => 2
  | ipv6 _ => 18
  | ipv6Port _ _ => 2

theorem size_le_budget (phase : Phase) : phase.size ≤ phase.budget := by
  cases phase <;> simp [size, budget]

theorem Follows.size_add_budget_le {phase next : Phase} {field : List UInt8}
    (h : phase.Follows field next) : phase.size + next.budget ≤ phase.budget := by
  cases h with
  | @methodCount count hCount =>
    have := count.toNat_lt
    simp only [size, budget]
    omega
  | @domainLength command length hLength =>
    have := length.toNat_lt
    simp only [size, budget]
    omega
  | v4UserId hByte hLeft =>
    simp only [size, budget]
    omega
  | _ => simp [size, budget, userIdLimit]

end Phase

/-- What is left of the budget. -/
def Progress.budget : Progress → Nat
  | .reading phase got => phase.budget - got.length
  | _ => 0

namespace Handshake

/-- A handshake that has not ended has some bytes of its field still to come. -/
def InField (h : Handshake) : Prop :=
  ∀ phase got, h.progress = .reading phase got → got.length < phase.size

theorem inField_of_not_reading {h : Handshake} (hEnd : h.isReading = false) : h.InField := by
  intro phase got hAt
  simp [isReading, hAt] at hEnd

theorem budget_of_not_reading {h : Handshake} (hEnd : h.isReading = false) :
    h.progress.budget = 0 := by
  cases hAt : h.progress with
  | reading phase got => simp [isReading, hAt] at hEnd
  | _ => rfl

/-- Whatever the writer does, a verdict leads to the field that it asks for or
ends the handshake. -/
theorem obey_cases (h : Handshake) (v : Verdict) :
    (∃ next, v.next? = some next ∧ (h.obey v).progress = .reading next []) ∨
      (h.obey v).isReading = false := by
  cases v with
  | read phase => exact Or.inl ⟨phase, rfl, rfl⟩
  | acceptMethod =>
    rw [obey, mustWrite_eq]
    cases (h.writer.writeAll [Version.v5.number, methodNone]).fault with
    | none => exact Or.inl ⟨.header, rfl, rfl⟩
    | some f => exact Or.inr rfl
  | _ => exact Or.inr (isReading_obey rfl)

/-- **A byte that is taken is one byte of the budget.** -/
theorem budget_receive {h : Handshake} (hIn : h.InField) (hReading : h.isReading = true)
    (b : UInt8) :
    (h.receive b).InField ∧ (h.receive b).progress.budget + 1 ≤ h.progress.budget := by
  cases hAt : h.progress with
  | accepted => simp [isReading, hAt] at hReading
  | failed e => simp [isReading, hAt] at hReading
  | reading phase got =>
    have hGot := hIn phase got hAt
    have hBudget := phase.size_le_budget
    by_cases hShort : (got ++ [b]).length < phase.size
    · rw [receive_of_lt hAt hShort]
      refine ⟨fun phase' got' hAt' => ?_, ?_⟩
      · cases hAt'
        exact hShort
      · simp only [Progress.budget, List.length_append, List.length_singleton]
        omega
    · have hFull : (got ++ [b]).length = phase.size := by
        simp only [List.length_append, List.length_singleton] at hShort ⊢
        omega
      rw [receive_of_eq hAt hFull]
      rcases obey_cases h (phase.next (got ++ [b])) with ⟨next, hNext, hAt'⟩ | hEnd
      · have hFollows := Phase.follows_of_next hNext
        have hLess := hFollows.size_add_budget_le
        refine ⟨fun phase' got' hAt'' => ?_, ?_⟩
        · rw [hAt'] at hAt''
          cases hAt''
          exact hFollows.size_pos
        · rw [hAt']
          simp only [Progress.budget, List.length_nil]
          omega
      · refine ⟨inField_of_not_reading hEnd, ?_⟩
        rw [budget_of_not_reading hEnd]
        simp only [Progress.budget]
        omega

/-- **No more bytes are taken than the budget**, whatever the writer does. -/
theorem length_le_feed {h : Handshake} (hIn : h.InField) (bytes : List UInt8) :
    bytes.length + (h.feed bytes).1.progress.budget ≤
      (h.feed bytes).2.length + h.progress.budget := by
  induction bytes generalizing h with
  | nil => simp [feed]
  | cons b bs ih =>
    cases hReading : h.isReading with
    | false => simp [feed_of_not_reading hReading]
    | true =>
      obtain ⟨hIn', hTaken⟩ := budget_receive hIn hReading b
      have hRest := ih hIn'
      rw [feed, if_pos hReading, List.length_cons]
      omega

end Handshake

end Socks

end SocksGateway
