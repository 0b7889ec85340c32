import SocksGateway.Proofs.Handshake.Commit

/-!
# How long a user id may be

A SOCKS4 client ends its user id with a NUL.  For both of them together a handshake reads at
most `userIdLimit` bytes, so the longest id that it takes is one byte short of the limit.

* `feed_userId`: the bytes of an id are taken one by one while any more may be read.
* `Overlong`, `overlong_of_reads`: the bytes that end in an id that is too long, told from any
  field on.
* `Blamed`, `blamed_arriveAll`: nothing but such bytes makes a handshake end in that error.
* `userId_bounded`: which ids are taken, and which ones are too long.
-/

namespace SocksGateway

namespace Socks

variable {phase : Phase} {bytes : List UInt8}

/-! ### Bytes that end in an id that is too long -/

/-- From the start of the field on, these bytes end in a user id of which no more bytes may be
read, and which has not ended. -/
inductive Overlong : Phase → List UInt8 → Prop
  | userId {command : UInt8} {destination : Destination} {left : Nat} {userId : List UInt8}
      (hNul : 0 ∉ userId) (hLength : userId.length = left + 1) :
      Overlong (.v4UserId command destination left) userId
  | address {command a b c d : UInt8} {port : UInt16} {userId : List UInt8} (hNul : 0 ∉ userId)
      (hLength : userId.length = userIdLimit) :
      Overlong (.v4Address command port) (a :: b :: c :: d :: userId)
  | port {command p q a b c d : UInt8} {userId : List UInt8} (hNul : 0 ∉ userId)
      (hLength : userId.length = userIdLimit) :
      Overlong (.v4Port command) (p :: q :: a :: b :: c :: d :: userId)
  | command {command p q a b c d : UInt8} {userId : List UInt8} (hNul : 0 ∉ userId)
      (hLength : userId.length = userIdLimit) :
      Overlong .v4Command (command :: p :: q :: a :: b :: c :: d :: userId)
  | version {command p q a b c d : UInt8} {userId : List UInt8} (hNul : 0 ∉ userId)
      (hLength : userId.length = userIdLimit) :
      Overlong .version (4 :: command :: p :: q :: a :: b :: c :: d :: userId)

/-- Only the last byte that may be read of an id tells that it is too long. -/
theorem overlong_of_next (h : phase.next bytes = .invalid .userIdTooLong) :
    Overlong phase bytes := by
  unfold Phase.next Phase.ofByte Phase.ofPort Phase.ofFour Phase.malformed Verdict.ofMethods
    Verdict.ofHeader at h
  split at h
  all_goals
    split at h <;> try dsimp only at h
  all_goals
    repeat' split at h
  all_goals cases h
  rename_i hByte hLeft
  subst hLeft
  exact .userId (by simpa using Ne.symm hByte) rfl

/-- **The bytes that read to an id that is too long.** -/
theorem overlong_of_reads (h : Reads phase bytes (.invalid .userIdTooLong)) :
    Overlong phase bytes := by
  generalize hVerdict : Verdict.invalid .userIdTooLong = v at h
  induction h with
  | last hSize hEnd => exact overlong_of_next hVerdict.symm
  | more field next hSize hNext hRest ih =>
    -- A field of SOCKS5 asks for another one of SOCKS5, which has no user id.
    have hFollows := Phase.follows_of_next hNext
    cases ih hVerdict with
    | userId hNul hLength =>
      cases hFollows with
      | v4Address => exact .address hNul hLength
      | v4UserId hByte hLeft =>
        refine .userId ?_ ?_
        · simpa [hNul] using hByte.symm
        · simp only [List.singleton_append, List.length_cons, hLength]
          omega
    | address hNul hLength =>
      cases hFollows
      exact .port hNul hLength
    | port hNul hLength =>
      cases hFollows
      exact .command hNul hLength
    | command hNul hLength =>
      cases hFollows
      exact .version hNul hLength
    | version => cases hFollows

namespace Handshake

variable {s : Session} {w : Stream.Writer} {h : Handshake} {taken came : List UInt8}

/-! ### The handshakes that end in the error -/

/-- The error comes from the verdict on a user id, and from nothing else. -/
theorem eq_tooLong_of_obey {v : Verdict}
    (hFailed : (h.obey v).progress = .failed (.protocol .userIdTooLong)) :
    v = .invalid .userIdTooLong := by
  cases v with
  | read phase => cases hFailed
  | acceptMethod =>
    rw [obey, mustWrite_eq] at hFailed
    dsimp only at hFailed
    split at hFailed <;> cases hFailed
  | refuseMethods methods =>
    rw [obey, mustWrite_eq] at hFailed
    dsimp only at hFailed
    split at hFailed <;> cases hFailed
  | unsupported version => cases hFailed
  | invalid fault =>
    cases hFailed
    rfl
  | request r =>
    unfold obey settle refusal? at hFailed
    dsimp only at hFailed
    split at hFailed
    · cases hFailed
    · rename_i code fault hRefusal
      cases hFailed
      repeat' split at hRefusal
      all_goals cases hRefusal

/-- If the handshake has ended in the error, the bytes that came begin with some that read to
it. -/
def Blamed (came : List UInt8) (h : Handshake) : Prop :=
  h.progress = .failed (.protocol .userIdTooLong) →
    ∃ taken, taken <+: came ∧ Reads .version taken (.invalid .userIdTooLong)

theorem Blamed.append (hBlamed : Blamed came h) (more : List UInt8) :
    Blamed (came ++ more) h := by
  intro hFailed
  obtain ⟨taken, hTaken, hReads⟩ := hBlamed hFailed
  exact ⟨taken, hTaken.trans (List.prefix_append _ _), hReads⟩

/-- One byte makes a handshake end in the error only if all bytes up to it read to it. -/
theorem Stands.blamed_receive (hStands : Stands s w taken h) (hReading : h.isReading = true)
    (b : UInt8) : Blamed (taken ++ [b]) (h.receive b) := by
  cases hStands with
  | @reading front got phase hAt hShort hTaken hLeads =>
    intro hFailed
    by_cases hMore : (got ++ [b]).length < phase.size
    · rw [receive_of_lt hAt hMore] at hFailed
      cases hFailed
    · have hFull : (got ++ [b]).length = phase.size := by
        simp only [List.length_append, List.length_singleton] at hMore ⊢
        omega
      rw [receive_of_eq hAt hFull] at hFailed
      have hNext := eq_tooLong_of_obey hFailed
      have hReads := Reads.last hFull (by rw [hNext]; rfl)
      rw [hNext] at hReads
      refine ⟨_, List.prefix_rfl, ?_⟩
      rw [hTaken, List.append_assoc]
      exact hLeads _ _ hReads
  | failed hAt => simp [isReading, hAt] at hReading
  | accepted _ _ hAt => simp [isReading, hAt] at hReading
  | refused _ _ hAt => simp [isReading, hAt] at hReading

theorem StandsAmong.blamed_feed (hStands : StandsAmong s w came h) (hBlamed : Blamed came h)
    (bytes : List UInt8) : Blamed (came ++ bytes) (h.feed bytes).1 := by
  induction bytes generalizing h came with
  | nil => simpa [Handshake.feed] using hBlamed
  | cons b bs ih =>
    cases hReading : h.isReading with
    | false =>
      rw [feed_of_not_reading hReading]
      exact hBlamed.append _
    | true =>
      obtain ⟨taken, -, hTaken, hStands⟩ := hStands
      obtain rfl := hTaken hReading
      rw [Handshake.feed, if_pos hReading, List.append_cons]
      exact ih ⟨_, List.prefix_rfl, fun _ => rfl, hStands.receive hReading b⟩
        (hStands.blamed_receive hReading b)

theorem Blamed.arrive (hStands : StandsAmong s w came h) (hBlamed : Blamed came h)
    (arrival : Arrival) : Blamed (came ++ arrival.payload) (h.arrive arrival) := by
  cases arrival with
  | bytes bytes => exact hStands.blamed_feed hBlamed bytes
  | eof =>
    rw [Arrival.payload, List.append_nil]
    intro hFailed
    simp only [Handshake.arrive, endOfInput] at hFailed
    split at hFailed
    · cases hFailed
    · exact hBlamed hFailed
  | fault f =>
    rw [Arrival.payload, List.append_nil]
    intro hFailed
    simp only [Handshake.arrive, readFault] at hFailed
    repeat' split at hFailed
    · cases hFailed
    · cases hFailed
    · exact hBlamed hFailed

/-- **Nothing but an id that is too long makes a handshake end in that error**, whatever comes
and whatever becomes of what is written. -/
theorem blamed_arriveAll (hStands : StandsAmong s w came h) (hBlamed : Blamed came h)
    (arrivals : List Arrival) :
    Blamed (came ++ arrivals.flatMap Arrival.payload) (h.arriveAll arrivals) := by
  induction arrivals generalizing h came with
  | nil => simpa [arriveAll] using hBlamed
  | cons arrival arrivals ih =>
    have hNext := standsAmong_arriveAll hStands [arrival]
    rw [List.flatMap_singleton] at hNext
    rw [List.flatMap_cons, ← List.append_assoc]
    exact ih hNext (hBlamed.arrive hStands arrival)

/-! ### Feeding an id -/

/-- **The bytes of an id are taken one by one** while any more may be read. -/
theorem feed_userId {command : UInt8} {destination : Destination} {left : Nat}
    (hAt : h.progress = .reading (.v4UserId command destination left) []) {userId : List UInt8}
    (hNul : 0 ∉ userId) (hShort : userId.length ≤ left) (rest : List UInt8) :
    h.feed (userId ++ rest) =
      ({ h with
          progress := .reading (.v4UserId command destination (left - userId.length)) [] } :
        Handshake).feed rest := by
  induction userId generalizing h left with
  | nil => rw [List.nil_append, List.length_nil, Nat.sub_zero, ← hAt]
  | cons b userId ih =>
    rw [List.mem_cons, not_or] at hNul
    rw [List.length_cons] at hShort
    have hLeft : left ≠ 0 := by omega
    have hByte : h.receive b =
        { h with progress := .reading (.v4UserId command destination (left - 1)) [] } := by
      rw [receive_of_eq hAt rfl]
      simp [Phase.next, Phase.ofByte, Ne.symm hNul.1, hLeft, obey]
    rw [List.cons_append, feed_cons hAt, hByte, ih rfl hNul.2 (by omega), List.length_cons,
      Nat.sub_sub, Nat.add_comm 1]

theorem feed_front (hAt : h.progress = .reading .version []) (command p q a b c d : UInt8)
    (rest : List UInt8) :
    h.feed (4 :: command :: p :: q :: a :: b :: c :: d :: rest) =
      ({ h with
          progress := .reading (.v4UserId command (.ofIpv4 (.ofOctets a b c d) (portOf p q))
            (userIdLimit - 1)) [] } : Handshake).feed rest := by
  have hFields : 4 :: command :: p :: q :: a :: b :: c :: d :: rest =
      [4] ++ ([command] ++ ([p, q] ++ ([a, b, c, d] ++ rest))) := rfl
  rw [hFields, feed_field [4] hAt (by simp) rfl]
  show Handshake.feed { h with progress := .reading .v4Command [] } _ = _
  rw [feed_field [command] rfl (by simp) rfl]
  show Handshake.feed { h with progress := .reading (.v4Port command) [] } _ = _
  rw [feed_field [p, q] rfl (by simp) rfl]
  show Handshake.feed { h with progress := .reading (.v4Address command (portOf p q)) [] } _ = _
  rw [feed_field [a, b, c, d] rfl (by simp) rfl]
  rfl

theorem feed_of_userId_lt (hAt : h.progress = .reading .version []) (command p q a b c d : UInt8)
    {userId : List UInt8} (hNul : 0 ∉ userId) (hShort : userId.length < userIdLimit)
    (rest : List UInt8) :
    h.feed (4 :: command :: p :: q :: a :: b :: c :: d :: (userId ++ 0 :: rest)) =
      (h.settle ⟨.v4, command, .ipv4, .ofIpv4 (.ofOctets a b c d) (portOf p q)⟩, rest) := by
  rw [feed_front hAt, feed_userId rfl hNul (by omega), feed_cons rfl, receive_of_eq rfl rfl]
  have hNext (destination : Destination) (left : Nat) :
      (Phase.v4UserId command destination left).next ([] ++ [0]) =
        .request ⟨.v4, command, .ipv4, destination⟩ := rfl
  rw [hNext, obey_progress, feed_of_not_reading (isReading_obey rfl)]
  rfl

theorem feed_of_userId_eq (hAt : h.progress = .reading .version []) (command p q a b c d : UInt8)
    {userId : List UInt8} (hNul : 0 ∉ userId) (hLength : userId.length = userIdLimit)
    (rest : List UInt8) :
    h.feed (4 :: command :: p :: q :: a :: b :: c :: d :: (userId ++ rest)) =
      (h.fail (.protocol .userIdTooLong), rest) := by
  have hSome : userId ≠ [] := by
    rintro rfl
    cases hLength
  obtain ⟨front, last, rfl⟩ := (List.eq_nil_or_concat userId).resolve_left hSome
  rw [List.concat_eq_append] at hNul hLength ⊢
  simp only [List.mem_append, List.mem_singleton, not_or] at hNul
  rw [List.length_append, List.length_singleton] at hLength
  have hLeft : userIdLimit - 1 - front.length = 0 := by omega
  rw [List.append_assoc, feed_front hAt, feed_userId rfl hNul.1 (by omega), hLeft,
    List.singleton_append, feed_cons rfl, receive_of_eq rfl rfl]
  have hNext (destination : Destination) :
      (Phase.v4UserId command destination 0).next ([] ++ [last]) = .invalid .userIdTooLong := by
    simp [Phase.next, Phase.ofByte, Ne.symm hNul.2]
  rw [hNext, feed_of_not_reading rfl]
  rfl

/-! ### What follows -/

/-- **A user id is taken up to one byte less than the limit.**  A SOCKS4 request to connect
whose id has no NUL and fewer than `userIdLimit` bytes is accepted, and what is behind its
NUL is left over.  Where that many bytes other than NUL follow the address, with or without
a NUL behind them, the handshake fails without reading on; and it ends in that error for
nothing else that may come.  The way to the client plays no part in this. -/
theorem userId_bounded (s : Session) (w : Stream.Writer) :
    let start : Handshake := { session := s, writer := w }
    (∀ (p q a b c d : UInt8) (port : UInt16) (address : Ipv4) (userId : List UInt8),
        HoldPort p q port → HoldAddress a b c d address → 0 ∉ userId →
        userId.length < userIdLimit →
        ∃ h' : Handshake, h'.progress = .accepted ∧
          h'.session = s.populate ⟨.v4, 1, .ipv4, .ofIpv4 address port⟩ ∧
          ∀ rest, start.feedAll (4 :: 1 :: p :: q :: a :: b :: c :: d :: (userId ++ 0 :: rest)) =
            (h', rest)) ∧
      (∀ (command p q a b c d : UInt8) (userId rest : List UInt8), 0 ∉ userId →
        userId.length = userIdLimit →
        start.feedAll (4 :: command :: p :: q :: a :: b :: c :: d :: (userId ++ rest)) =
          (start.fail (.protocol .userIdTooLong), rest)) ∧
      (∀ arrivals,
        (start.arriveAll arrivals).progress = .failed (.protocol .userIdTooLong) →
        ∃ (command p q a b c d : UInt8) (userId : List UInt8),
          4 :: command :: p :: q :: a :: b :: c :: d :: userId <+:
              arrivals.flatMap Arrival.payload ∧
            0 ∉ userId ∧ userId.length = userIdLimit) ∧
      ProtocolFault.userIdTooLong.message = "SOCKS4 user id longer than 1000 bytes" := by
  intro start
  refine ⟨fun p q a b c d port address userId hPort hAddress hNul hShort => ?_,
    fun command p q a b c d userId rest hNul hLength => ?_, fun arrivals hFailed => ?_,
    by decide +kernel⟩
  · rw [holdPort_iff.mp hPort, holdAddress_iff.mp hAddress]
    refine ⟨start.settle ⟨.v4, 1, .ipv4, .ofIpv4 (.ofOctets a b c d) (portOf p q)⟩, rfl, rfl,
      fun rest => ?_⟩
    rw [feedAll, feed_of_userId_lt rfl 1 p q a b c d hNul hShort,
      endOfInput_of_not_reading (isReading_settle _ _)]
  · rw [feedAll, feed_of_userId_eq rfl command p q a b c d hNul hLength,
      endOfInput_of_not_reading rfl]
  · have hBlamed : Blamed [] start := by
      intro h
      cases h
    obtain ⟨taken, hTaken, hReads⟩ :=
      blamed_arriveAll (standsAmong_start s w) hBlamed arrivals hFailed
    cases overlong_of_reads hReads with
    | version hNul hLength => exact ⟨_, _, _, _, _, _, _, _, hTaken, hNul, hLength⟩

/-- The longest id is taken, and what the client sends behind it is left over. -/
theorem userId_bounded_longest :
    let s : Session := .accept 1 ⟨1, { port := 1080, kind := .socks }⟩ {} 0
    let userId : List UInt8 := List.replicate 999 117
    (0 ∉ userId ∧ userId.length < userIdLimit) ∧
      ∃ h' : Handshake, h'.progress = .accepted ∧
        h'.session.destination = .ofIpv4 (.ofOctets 127 0 0 1) 80 ∧
        ({ session := s } : Handshake).feedAll
          (4 :: 1 :: 0 :: 80 :: 127 :: 0 :: 0 :: 1 :: (userId ++ 0 :: [1, 2])) = (h', [1, 2]) := by
  intro s userId
  have hNul : 0 ∉ userId := fun h => absurd (List.eq_of_mem_replicate h) (by decide)
  have hShort : userId.length < userIdLimit := by
    rw [show userId.length = 999 from List.length_replicate]
    decide
  obtain ⟨h', hAccepted, hSession, hFeed⟩ :=
    (userId_bounded s {}).1 0 80 127 0 0 1 80 (.ofOctets 127 0 0 1) userId rfl rfl hNul hShort
  refine ⟨⟨hNul, hShort⟩, h', hAccepted, ?_, hFeed [1, 2]⟩
  rw [hSession, Session.destination_populate]

/-- An id as long as the limit is called too long, although its NUL is right behind it: it has
not more bytes than the error says an id may have. -/
theorem userId_at_limit :
    let s : Session := .accept 1 ⟨1, { port := 1080, kind := .socks }⟩ {} 0
    let userId : List UInt8 := List.replicate 1000 117
    (0 ∉ userId ∧ userId.length ≤ userIdLimit) ∧
      ({ session := s } : Handshake).feedAll
          (4 :: 1 :: 0 :: 80 :: 127 :: 0 :: 0 :: 1 :: (userId ++ [0])) =
        (({ session := s } : Handshake).fail (.protocol .userIdTooLong), [0]) := by
  intro s userId
  have hNul : 0 ∉ userId := fun h => absurd (List.eq_of_mem_replicate h) (by decide)
  have hLength : userId.length = userIdLimit := List.length_replicate
  refine ⟨⟨hNul, Nat.le_of_eq hLength⟩, ?_⟩
  rw [feedAll, feed_of_userId_eq rfl 1 0 80 127 0 0 1 hNul hLength, endOfInput_of_not_reading rfl]

end Handshake

end Socks

end SocksGateway
