import SocksGateway.Proofs.Handshake.Grammar

/-!
# What a handshake leaves in its session

A session is populated in one go, when the last byte of a request is there.  This file
follows a handshake through bytes, failures to read, the end of input and failures to
write, in any order.

* `Stands`: how a handshake stands after the bytes that it has taken.
* `Stands.receive`, `standsAmong_arriveAll`: one byte keeps that, and so does everything that
  comes from the client's side.
* `commits_all_or_nothing`: what follows for the session and for the reply.
-/

namespace SocksGateway

namespace Socks

variable {bytes : List UInt8} {r : Request}

/-! ### What the client is told on the way -/

/-- What a client of that version has been told when its request is there. -/
def Version.told : Version → List UInt8
  | .v4 => []
  | .v5 => [5, methodNone]

namespace Phase

/-- What the client has been told when the field is read. -/
def told : Phase → List UInt8
  | version | v4Command | v4Port _ | v4Address _ _ | v4UserId _ _ _ | methodCount | methods _ => []
  | header | ipv4 _ | ipv4Port _ _ | domainLength _ | domain _ _ | domainPort _ _ | ipv6 _
  | ipv6Port _ _ => [5, methodNone]

variable {phase next : Phase}

theorem told_of_read (h : phase.next bytes = .read next) : next.told = phase.told := by
  have hFollows : phase.Follows bytes next := follows_of_next (by rw [h]; rfl)
  cases hFollows with
  | methods hNone =>
    simp only [Phase.next, Verdict.ofMethods] at h
    split at h <;> cases h
  | _ => rfl

theorem told_of_acceptMethod (h : phase.next bytes = .acceptMethod) : phase.told = [] := by
  have hFollows : phase.Follows bytes .header := follows_of_next (by rw [h]; rfl)
  cases hFollows
  rfl

theorem told_of_request (h : phase.next bytes = .request r) : phase.told = r.version.told := by
  cases completes_of_next h <;> rfl

/-- Only at the start, and at the list of methods, a client is sent away with an
answer. -/
theorem told_of_rejected
    (h : (∃ offered, phase.next bytes = .refuseMethods offered) ∨
      ∃ version, phase.next bytes = .unsupported version) : phase.told = [] := by
  unfold Phase.next ofByte ofPort ofFour malformed Verdict.ofMethods Verdict.ofHeader at h
  cases phase with
  | version | v4Command | v4Port | v4Address | v4UserId | methodCount | methods => rfl
  | _ =>
    exfalso
    rcases h with ⟨_, h⟩ | ⟨_, h⟩
    all_goals
      dsimp only at h
      repeat' split at h
      all_goals cases h

end Phase

/-! ### How a handshake stands -/

/-- Bytes that lead to a field: what is behind them is read from there. -/
def Leads (front : List UInt8) (phase : Phase) : Prop :=
  ∀ rest v, Reads phase rest v → Reads .version (front ++ rest) v

theorem leads_version : Leads [] .version := fun _ _ h => h

theorem Leads.next {front field : List UInt8} {phase next : Phase} (h : Leads front phase)
    (hSize : field.length = phase.size) (hNext : (phase.next field).next? = some next) :
    Leads (front ++ field) next := by
  intro rest v hRest
  rw [List.append_assoc]
  exact h _ _ (.more field next hSize hNext hRest)

namespace Handshake

open Reply (bytes_send)

/-- **How a handshake stands** that has begun with the session `s` and the writer `w`, and
has taken these bytes. -/
inductive Stands (s : Session) (w : Stream.Writer) (taken : List UInt8) (h : Handshake) : Prop
  | reading {front got : List UInt8} {phase : Phase} (hAt : h.progress = .reading phase got)
      (hShort : got.length < phase.size) (hTaken : taken = front ++ got)
      (hLeads : Leads front phase) (hSession : h.session = s) (hReply : h.refused = none)
      (hWritten : h.written = phase.told) (hWriter : w.Reliable → h.writer.Reliable)
  /-- It has failed before a request was there. -/
  | failed {e : ConnectionError} (hAt : h.progress = .failed e) (hSession : h.session = s)
      (hReply : h.refused = none)
      (hWritten : h.written <+: [5, methodNone] ∨ h.written <+: [5, methodNoneAcceptable])
      (hWhole : w.Reliable →
        h.written ∈ [[], [5, methodNone], [5, methodNoneAcceptable]])
  | accepted {r : Request} (hReads : Reads .version taken (.request r))
      (hRefusal : refusal? r = none) (hAt : h.progress = .accepted)
      (hSession : h.session = s.populate r) (hReply : h.refused = none)
      (hWritten : h.written = r.version.told) (hWriter : w.Reliable → h.writer.Reliable)
  /-- A request was there and was refused; `v` is the way to the client at that time. -/
  | refused {r : Request} {code : ReplyCode} {fault : ProtocolFault} {v : Stream.Writer}
      (hReads : Reads .version taken (.request r)) (hRefusal : refusal? r = some (code, fault))
      (hAt : h.progress = .failed (.protocol fault)) (hSession : h.session = s.populate r)
      (hReply : h.refused = some code)
      (hWritten : h.written = r.version.told ++
        (Reply.send v (some r.version) (some r.addressType) code none).bytes)
      (hWriter : w.Reliable → v.Reliable)

variable {s : Session} {w : Stream.Writer} {taken front field : List UInt8} {phase : Phase}
  {h : Handshake}

theorem told_mem (phase : Phase) :
    phase.told ∈ [[], [5, methodNone], [5, methodNoneAcceptable]] := by
  cases phase <;> simp [Phase.told]

theorem told_prefix (phase : Phase) : phase.told <+: [5, methodNone] := by
  cases phase <;> simp [Phase.told]

theorem stands_fail (hSession : h.session = s) (hReply : h.refused = none)
    (hWritten : h.written = phase.told) (e : ConnectionError) : Stands s w taken (h.fail e) := by
  refine .failed rfl hSession hReply (Or.inl ?_) fun _ => ?_
  · rw [show (h.fail e).written = h.written from rfl, hWritten]
    exact told_prefix phase
  · rw [show (h.fail e).written = h.written from rfl, hWritten]
    exact told_mem phase

theorem stands_rejected {e : ConnectionError} {q : Handshake} (hAt : q.progress = .failed e)
    (hSession : q.session = s) (hReply : q.refused = none)
    (hWritten : q.written = (h.writer.writeAll [5, methodNoneAcceptable]).bytes)
    (hWriter : w.Reliable → h.writer.Reliable) : Stands s w taken q := by
  refine .failed hAt hSession hReply (Or.inr ?_) fun hReliable => ?_
  · rw [hWritten]
    exact Stream.Writer.writeAll_prefix _ _
  · rw [hWritten, ((hWriter hReliable).writeAll _).1]
    simp

theorem stands_greeted (hSession : h.session = s) (hReply : h.refused = none)
    (hWritten : h.written = []) (hWriter : w.Reliable → h.writer.Reliable)
    (hLeads : Leads taken .header) :
    Stands s w taken (h.mustWrite [5, methodNone] (.reading .header [])) := by
  have hFront := Stream.Writer.writeAll_prefix h.writer [5, methodNone]
  rw [mustWrite_eq]
  cases hFault : (h.writer.writeAll [5, methodNone]).fault with
  | none =>
    refine .reading rfl (by decide) (List.append_nil _).symm hLeads hSession hReply ?_
      fun hReliable => ((hWriter hReliable).writeAll _).2.2
    simp only [hWritten, (Stream.Writer.writeAll_bytes_eq_iff _ _).mpr hFault]
    rfl
  | some f =>
    refine .failed rfl hSession hReply (Or.inl ?_) fun hReliable => ?_
    · simpa [hWritten] using hFront
    · rw [((hWriter hReliable).writeAll _).2.1] at hFault
      cases hFault

theorem stands_settle {r : Request} (hReads : Reads .version taken (.request r))
    (hSession : h.session = s) (hReply : h.refused = none)
    (hWritten : h.written = r.version.told) (hWriter : w.Reliable → h.writer.Reliable) :
    Stands s w taken (h.settle r) := by
  unfold settle
  cases hRefusal : refusal? r with
  | none => exact .accepted hReads hRefusal rfl (by rw [← hSession]) hReply hWritten hWriter
  | some refused =>
    obtain ⟨code, fault⟩ := refused
    refine .refused (v := h.writer) hReads hRefusal rfl ?_ rfl ?_ hWriter
    · simp only [refuse, hSession]
    · simp only [refuse, hWritten]

/-- **The verdict on a field is obeyed**: the session is populated when it is a request,
and left alone otherwise. -/
theorem stands_obey (hLeads : Leads front phase) (hSize : field.length = phase.size)
    (hSession : h.session = s) (hReply : h.refused = none) (hWritten : h.written = phase.told)
    (hWriter : w.Reliable → h.writer.Reliable) :
    Stands s w (front ++ field) (h.obey (phase.next field)) := by
  cases hNext : phase.next field with
  | read next =>
    have hSome : (phase.next field).next? = some next := by rw [hNext]; rfl
    exact .reading rfl (Phase.follows_of_next hSome).size_pos (List.append_nil _).symm
      (hLeads.next hSize hSome) hSession hReply (by rw [Phase.told_of_read hNext, ← hWritten]; rfl)
      hWriter
  | acceptMethod =>
    rw [Phase.told_of_acceptMethod hNext] at hWritten
    exact stands_greeted hSession hReply hWritten hWriter
      (hLeads.next hSize (by rw [hNext]; rfl))
  | refuseMethods offered =>
    rw [Phase.told_of_rejected (Or.inl ⟨_, hNext⟩)] at hWritten
    rw [obey, mustWrite_eq]
    cases (h.writer.writeAll [Version.v5.number, methodNoneAcceptable]).fault with
    | none => exact stands_rejected rfl hSession hReply (by rw [hWritten]; rfl) hWriter
    | some f => exact stands_rejected rfl hSession hReply (by rw [hWritten]; rfl) hWriter
  | unsupported version =>
    rw [Phase.told_of_rejected (Or.inr ⟨_, hNext⟩)] at hWritten
    exact stands_rejected rfl hSession hReply
      (by rw [obey, sayAndFail, fail, write, hWritten]; rfl) hWriter
  | invalid fault => exact stands_fail hSession hReply hWritten _
  | request r =>
    rw [Phase.told_of_request hNext] at hWritten
    exact stands_settle (hLeads _ _ (.of_next hSize hNext)) hSession hReply hWritten hWriter

theorem Stands.receive (hStands : Stands s w taken h) (hReading : h.isReading = true)
    (b : UInt8) : Stands s w (taken ++ [b]) (h.receive b) := by
  cases hStands with
  | @reading front got phase hAt hShort hTaken hLeads hSession hReply hWritten hWriter =>
    have hTaken' : taken ++ [b] = front ++ (got ++ [b]) := by rw [hTaken, List.append_assoc]
    rw [hTaken']
    by_cases hMore : (got ++ [b]).length < phase.size
    · rw [receive_of_lt hAt hMore]
      exact .reading rfl hMore rfl hLeads hSession hReply hWritten hWriter
    · have hFull : (got ++ [b]).length = phase.size := by
        simp only [List.length_append, List.length_singleton] at hMore ⊢
        omega
      rw [receive_of_eq hAt hFull]
      exact stands_obey hLeads hFull hSession hReply hWritten hWriter
  | failed hAt => simp [isReading, hAt] at hReading
  | accepted _ _ hAt => simp [isReading, hAt] at hReading
  | refused _ _ hAt => simp [isReading, hAt] at hReading

/-! ### Everything that comes from the client's side -/

/-- What comes from the client's side. -/
inductive Arrival where
  | bytes (bytes : List UInt8)
  | eof
  | fault (fault : Stream.Fault)
deriving DecidableEq, Repr

/-- The bytes that come. -/
def Arrival.payload : Arrival → List UInt8
  | .bytes bytes => bytes
  | .eof => []
  | .fault _ => []

/-- The bytes that come before the input ends or a read fails. -/
def heard : List Arrival → List UInt8
  | .bytes bytes :: arrivals => bytes ++ heard arrivals
  | _ => []

/-- Takes what comes from the client's side. -/
def arrive (h : Handshake) : Arrival → Handshake
  | .bytes bytes => (h.feed bytes).1
  | .eof => h.endOfInput
  | .fault f => h.readFault f

/-- Takes one thing after the other. -/
def arriveAll (h : Handshake) (arrivals : List Arrival) : Handshake := arrivals.foldl arrive h

/-- A handshake has taken the first of the bytes that came, and all of them as long as it
reads. -/
def StandsAmong (s : Session) (w : Stream.Writer) (came : List UInt8) (h : Handshake) : Prop :=
  ∃ taken, taken <+: came ∧ (h.isReading = true → taken = came) ∧ Stands s w taken h

variable {came : List UInt8}

theorem standsAmong_start (s : Session) (w : Stream.Writer) :
    StandsAmong s w [] { session := s, writer := w } :=
  ⟨[], List.prefix_rfl, fun _ => rfl,
    .reading rfl (by decide) (List.append_nil []).symm leads_version rfl rfl rfl id⟩

theorem StandsAmong.over (hStands : StandsAmong s w came h) (hOver : h.isReading = false)
    (more : List UInt8) : StandsAmong s w (came ++ more) h := by
  obtain ⟨taken, hPrefix, -, hStands⟩ := hStands
  exact ⟨taken, hPrefix.trans (List.prefix_append _ _),
    fun hReading => by simp [hOver] at hReading, hStands⟩

theorem StandsAmong.feed (hStands : StandsAmong s w came h) (bytes : List UInt8) :
    StandsAmong s w (came ++ bytes) (h.feed bytes).1 := by
  induction bytes generalizing h came with
  | nil => simpa [Handshake.feed] using hStands
  | cons b bs ih =>
    cases hReading : h.isReading with
    | false =>
      rw [feed_of_not_reading hReading]
      exact hStands.over hReading _
    | true =>
      obtain ⟨taken, -, hTaken, hStands⟩ := hStands
      obtain rfl := hTaken hReading
      rw [Handshake.feed, if_pos hReading, List.append_cons]
      exact ih ⟨_, List.prefix_rfl, fun _ => rfl, hStands.receive hReading b⟩

theorem StandsAmong.stop (hStands : StandsAmong s w came h) {q : Handshake}
    (hStop : q = h ∨ h.isReading = true ∧ ∃ e, q = h.fail e) : StandsAmong s w came q := by
  rcases hStop with rfl | ⟨hReading, e, rfl⟩
  · exact hStands
  · obtain ⟨taken, hPrefix, -, hStands⟩ := hStands
    refine ⟨taken, hPrefix, fun h => (nomatch h), ?_⟩
    cases hStands with
    | reading _ _ _ _ hSession hReply hWritten _ => exact stands_fail hSession hReply hWritten e
    | failed hAt => simp [isReading, hAt] at hReading
    | accepted _ _ hAt => simp [isReading, hAt] at hReading
    | refused _ _ hAt => simp [isReading, hAt] at hReading

theorem endOfInput_stops (h : Handshake) :
    h.endOfInput = h ∨ h.isReading = true ∧ ∃ e, h.endOfInput = h.fail e := by
  unfold endOfInput isReading
  cases h.progress with
  | reading phase got => exact Or.inr ⟨rfl, _, rfl⟩
  | _ => exact Or.inl rfl

theorem readFault_stops (h : Handshake) (f : Stream.Fault) :
    h.readFault f = h ∨ h.isReading = true ∧ ∃ e, h.readFault f = h.fail e := by
  unfold readFault isReading
  cases h.progress with
  | reading phase got =>
    refine Or.inr ⟨rfl, ?_⟩
    dsimp only
    split <;> exact ⟨_, rfl⟩
  | _ => exact Or.inl rfl

/-- **Whatever comes, a handshake stands in one of these ways.** -/
theorem standsAmong_arriveAll (hStands : StandsAmong s w came h) (arrivals : List Arrival) :
    StandsAmong s w (came ++ arrivals.flatMap Arrival.payload) (h.arriveAll arrivals) := by
  induction arrivals generalizing h came with
  | nil => simpa [arriveAll] using hStands
  | cons arrival arrivals ih =>
    have hStep : StandsAmong s w (came ++ arrival.payload) (h.arrive arrival) := by
      cases arrival with
      | bytes bytes => exact hStands.feed bytes
      | eof =>
        rw [Arrival.payload, List.append_nil]
        exact hStands.stop h.endOfInput_stops
      | fault f =>
        rw [Arrival.payload, List.append_nil]
        exact hStands.stop (h.readFault_stops f)
    rw [List.flatMap_cons, ← List.append_assoc]
    exact ih hStep

/-- What an accepted handshake has taken is an opening, and the session holds what it asks
for. -/
theorem Stands.opens (hStands : Stands s w taken h) (hAccepted : h.progress = .accepted) :
    ∃ r, Opens taken r ∧ h.session = s.populate r ∧ h.written = r.version.told := by
  cases hStands with
  | reading hAt => cases hAccepted.symm.trans hAt
  | failed hAt => cases hAccepted.symm.trans hAt
  | refused _ _ hAt => cases hAccepted.symm.trans hAt
  | @accepted r hReads hRefusal _ hSession _ hWritten =>
    exact ⟨r, reads_iff_opens.mp ⟨hReads, hRefusal⟩, hSession, hWritten⟩

/-! ### What follows -/

/-- The code that refuses a request: the type of its address comes before its command. -/
def refusalCode (r : Request) : ReplyCode :=
  if r.addressType = .ipv6 then .addressTypeNotSupported else .commandNotSupported

/-- The reply that refuses a request, byte by byte. -/
def refusalReply (r : Request) : List UInt8 :=
  match r.version with
  | .v4 => [0, 0x5B, 0, 0, 0, 0, 0, 0]
  | .v5 => [5, if r.addressType = .ipv6 then 8 else 7, 0, 1, 0, 0, 0, 0, 0, 0]

theorem refusal?_eq_some {r : Request} {code : ReplyCode} {fault : ProtocolFault}
    (hAsks : Asks taken r) (hRefusal : refusal? r = some (code, fault)) :
    code = refusalCode r ∧ (r.addressType = .ipv6 ∨ r.commandByte ≠ 1) := by
  have hReason : r.addressType = .ipv6 ∨ r.commandByte ≠ 1 := by
    by_cases hType : r.addressType = .ipv6
    · exact Or.inl hType
    · refine Or.inr fun hByte => ?_
      rw [refusal?_eq_none_iff.mpr ⟨hByte, fun _ => hType⟩] at hRefusal
      cases hRefusal
  refine ⟨?_, hReason⟩
  cases hAsks with
  | v5Ipv6 =>
    simp only [refusal?, if_true, Option.some.injEq, Prod.mk.injEq] at hRefusal
    exact hRefusal.1.symm
  | _ =>
    simp only [refusal?, reduceCtorEq, if_false, Option.ite_none_left_eq_some, Option.some.injEq,
      Prod.mk.injEq] at hRefusal
    exact hRefusal.2.1.symm

/-- The session is as it was, and nothing but the choice of a method was said. -/
structure Untouched (s : Session) (h : Handshake) : Prop where
  session : h.session = s
  notAccepted : h.progress ≠ .accepted
  noReply : h.refused = none
  written : h.written <+: [5, 0] ∨ h.written <+: [5, 0xFF]

/-- The request is accepted. -/
structure Accepts (r : Request) (h : Handshake) : Prop where
  progress : h.progress = .accepted
  connects : r.commandByte = 1 ∧ r.addressType ≠ .ipv6
  noReply : h.refused = none
  written : h.written = r.version.told

/-- The request is refused.  Its reply is written once, as far as the way to the client at
that time lets it through. -/
structure Refuses (r : Request) (h : Handshake) : Prop where
  reason : r.addressType = .ipv6 ∨ r.commandByte ≠ 1
  error : ∃ fault, h.progress = .failed (.protocol fault)
  code : h.refused = some (refusalCode r)
  written : ∃ v : Stream.Writer,
    h.written = r.version.told ++ (v.writeAll (refusalReply r)).bytes

end Handshake

end Socks

end SocksGateway
