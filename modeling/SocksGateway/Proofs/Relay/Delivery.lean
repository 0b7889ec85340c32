import SocksGateway.Handler
import SocksGateway.Proofs.Relay.Safety
import SocksGateway.Relay.Source

/-!
# A relay in which nothing fails

Two streams that end, cut into pieces in some way, are relayed through some
buffer by some schedule, to writers that take at least one byte a call.  This
file says that the relay then ends, and that how it ends is determined by the two
streams alone.

* `Pumped.Reaches`: what some schedule leads to, with the number of its reads.
* `Delivering`: the invariant, for each side that what it has sent is through and
  that the way to the other side is open as long as it may send more.
* `Reaches.delivering`: every schedule keeps it, and uses up its reads.
* `relay_delivers`: how every such relay ends.
-/

namespace SocksGateway

/-! ### Sources that hold a stream -/

def SourceItem.bytes : SourceItem → List UInt8
  | .piece bytes => bytes
  | .fault _ => []

namespace Source

variable {buffer : Nat} {s : Source}

/-- The stream that consists of these pieces, all of which have arrived. -/
def ofPieces (pieces : List (List UInt8)) : Source :=
  { queue := pieces.map .piece, ended := true }

/-- The bytes that are still to be read. -/
def pending (s : Source) : List UInt8 := s.queue.flatMap SourceItem.bytes

/-- The source holds pieces that have bytes, and the end behind them. -/
structure Intact (s : Source) : Prop where
  ended : s.ended = true
  pieces : ∀ item ∈ s.queue, ∃ bytes, bytes ≠ [] ∧ item = .piece bytes

theorem pending_ofPieces (pieces : List (List UInt8)) :
    (ofPieces pieces).pending = pieces.flatten := by
  induction pieces with
  | nil => rfl
  | cons piece pieces ih => exact congrArg (piece ++ ·) ih

theorem intact_ofPieces {pieces : List (List UInt8)} (hPieces : ∀ piece ∈ pieces, piece ≠ []) :
    (ofPieces pieces).Intact := by
  refine ⟨rfl, fun item hItem => ?_⟩
  obtain ⟨piece, hPiece, rfl⟩ := List.mem_map.mp hItem
  exact ⟨piece, hPieces piece hPiece, rfl⟩

/-- **A read of such a source gives the end, or some bytes from its front.** -/
theorem Intact.read? (hIntact : s.Intact) (hBuffer : 0 < buffer) :
    (s.pending = [] ∧ s.read? buffer = some (.eof, s)) ∨
      ∃ piece rest, piece ≠ [] ∧ s.read? buffer = some (.data piece, rest) ∧ rest.Intact ∧
        s.pending = piece ++ rest.pending := by
  obtain ⟨queue, ended⟩ := s
  obtain ⟨hEnded, hPieces⟩ := hIntact
  cases queue with
  | nil => exact Or.inl ⟨rfl, by simp [Source.read?, show ended = true from hEnded]⟩
  | cons item queue =>
    obtain ⟨bytes, hSome, rfl⟩ := hPieces item (by simp)
    have hRest : ∀ item ∈ queue, ∃ bytes, bytes ≠ [] ∧ item = .piece bytes :=
      fun item h => hPieces item (List.mem_cons_of_mem _ h)
    have hFront : bytes.take buffer ≠ [] := by
      rw [Ne, List.take_eq_nil_iff]
      rintro (h | h)
      · omega
      · exact hSome h
    refine Or.inr ⟨bytes.take buffer, _, hFront, rfl, ?_, ?_⟩
    · refine ⟨hEnded, ?_⟩
      dsimp only
      split
      · exact hRest
      · rename_i hLeft
        intro item h
        rcases List.mem_cons.mp h with rfl | h
        · exact ⟨_, by simpa using hLeft, rfl⟩
        · exact hRest item h
    · simp only [pending, List.flatMap_cons, SourceItem.bytes]
      split
      · rename_i hLeft
        rw [List.isEmpty_iff, List.drop_eq_nil_iff] at hLeft
        rw [List.take_of_length_le hLeft]
      · rw [List.flatMap_cons, ← List.append_assoc]
        exact congrArg (· ++ _) (List.take_append_drop buffer bytes).symm

end Source

namespace Pumped

/-! ### Schedules -/

/-- What is still to come from a side. -/
def source (p : Pumped) : Side → Source
  | .client => p.client
  | .remote => p.remote

/-- A relay that has just started, with the pieces that come from either side. -/
def ofPieces (idle : Option Nat) (client remote : Stream.Writer)
    (pieces : Side → List (List UInt8)) : Pumped :=
  { relay := .start idle client remote
    client := .ofPieces (pieces .client)
    remote := .ofPieces (pieces .remote) }

/-- **Some schedule leads there**, in so many reads.  It reads whichever side it
likes of those that can be read, and waits in between. -/
inductive Reaches (buffer : Nat) (p : Pumped) : Nat → Pumped → Prop
  | refl : Reaches buffer p 0 p
  | read {reads : Nat} {q next : Pumped} (side : Side) (hReaches : Reaches buffer p reads q)
      (hRead : q.readSide? buffer side = some next) : Reaches buffer p (reads + 1) next
  | wait {reads : Nat} {q : Pumped} (millis : Nat) (hReaches : Reaches buffer p reads q) :
      Reaches buffer p reads { q with relay := q.relay.step (.pass millis) }

variable {buffer : Nat} {p q : Pumped} {side : Side}

/-- **What one read does**, and when it can be done. -/
theorem readSide?_eq_some_iff :
    p.readSide? buffer side = some q ↔
      p.relay.exit = none ∧ (p.relay.leg side).readable = true ∧
        ∃ result, (p.source side).read? buffer = some (result, q.source side) ∧
          q.relay = p.relay.step (.read side result) ∧
          q.source side.other = p.source side.other := by
  have hWaiting : p.relay.isWaiting = true ↔ p.relay.exit = none := Option.isNone_iff_eq_none
  unfold readSide?
  by_cases hOpen : (p.relay.isWaiting && (p.relay.leg side).readable) = true
  · rw [if_pos hOpen]
    rw [Bool.and_eq_true, hWaiting] at hOpen
    obtain ⟨relay, client, remote⟩ := q
    cases side with
    | client =>
      rw [Option.map_eq_some_iff]
      constructor
      · rintro ⟨⟨result, s⟩, hRead, hNext⟩
        cases hNext
        exact ⟨hOpen.1, hOpen.2, result, hRead, rfl, rfl⟩
      · rintro ⟨-, -, result, hRead, hRelay, hOther⟩
        cases hRelay
        cases hOther
        exact ⟨(result, client), hRead, rfl⟩
    | remote =>
      rw [Option.map_eq_some_iff]
      constructor
      · rintro ⟨⟨result, s⟩, hRead, hNext⟩
        cases hNext
        exact ⟨hOpen.1, hOpen.2, result, hRead, rfl, rfl⟩
      · rintro ⟨-, -, result, hRead, hRelay, hOther⟩
        cases hRelay
        cases hOther
        exact ⟨(result, remote), hRead, rfl⟩
  · rw [if_neg hOpen]
    rw [Bool.and_eq_true, hWaiting] at hOpen
    refine ⟨fun h => (nomatch h), fun h => absurd ⟨h.1, h.2.1⟩ hOpen⟩

/-! ### The invariant -/

/-- **What holds of one side's stream while nothing fails.** -/
structure Delivers (stream : List UInt8) (p : Pumped) (side : Side) : Prop where
  intact : (p.source side).Intact
  cut : p.relay.readFrom side ++ (p.source side).pending = stream
  through : p.relay.writtenTo side.other = p.relay.readFrom side
  counted : (p.relay.leg side.other).credited = (p.relay.writtenTo side.other).length
  reliable : (p.relay.leg side.other).writer.Reliable
  /-- The way to the other side is open as long as this one is read. -/
  opened : (p.relay.leg side.other).writable = (p.relay.leg side).readable
  shutdowns : (p.relay.leg side.other).shutdowns = if (p.relay.leg side).readable then 0 else 1
  drained : (p.relay.leg side).readable = false → (p.source side).pending = []

/-- The relay goes on as long as a side is read. -/
def Ends (r : Relay) : Prop :=
  r.exit = if r.client.readable || r.remote.readable then none else some .closed

/-- **The invariant of a relay in which nothing fails**, up to an idle timeout. -/
structure Delivering (stream : Side → List UInt8) (p : Pumped) : Prop where
  delivers : ∀ side, Delivers (stream side) p side
  ends : p.relay.exit = some .idle ∨ Ends p.relay

variable {stream : Side → List UInt8}

theorem Ends.ended {r : Relay} {exit : RelayExit} (hEnds : Ends r) (hExit : r.exit = some exit) :
    exit = .closed ∧ ∀ side, (r.leg side).readable = false := by
  rw [Ends, hExit] at hEnds
  cases hReadable : (r.client.readable || r.remote.readable) with
  | true => simp [hReadable] at hEnds
  | false =>
    rw [Bool.or_eq_false_iff] at hReadable
    simp only [hReadable, Bool.or_self, Bool.false_eq_true, if_false, Option.some.injEq] at hEnds
    refine ⟨hEnds, fun side => ?_⟩
    cases side with
    | client => exact hReadable.1
    | remote => exact hReadable.2

theorem Delivers.stay {bytes : List UInt8} (hDelivers : Delivers bytes p side)
    (hSource : q.source side = p.source side) (hUntouched : p.relay.Untouched q.relay side) :
    Delivers bytes q side := by
  obtain ⟨hIntact, hCut, hThrough, hCounted, hReliable, hOpened, hShut, hDrained⟩ := hDelivers
  obtain ⟨hRead, hReadable, hWritten, hCredited, hWriter, hWritable, hShutdowns⟩ := hUntouched
  simp only [Relay.readFrom, Relay.writtenTo] at hCut hThrough hCounted
  constructor
  · rwa [hSource]
  · rwa [Relay.readFrom, hRead, hSource]
  · rwa [Relay.writtenTo, Relay.readFrom, hRead, hWritten]
  · rwa [Relay.writtenTo, hWritten, hCredited]
  · rwa [hWriter]
  · rwa [hWritable, hReadable]
  · rwa [hShutdowns, hReadable]
  · rwa [hReadable, hSource]

/-! ### One read -/

theorem hand_of_reliable {l : Leg} (hOpen : l.writable = true) (hReliable : l.writer.Reliable)
    (piece : List UInt8) :
    ∃ writer : Stream.Writer, writer.Reliable ∧
      l.hand piece =
        ({ l with
            writer
            written := l.written.extend piece
            credited := l.credited + piece.length }, none) := by
  obtain ⟨hBytes, hFault, hStill⟩ := hReliable.writeAll piece
  refine ⟨_, hStill, ?_⟩
  unfold Leg.hand
  rw [if_pos hOpen]
  simp only [hFault, hBytes]

theorem Delivers.eof {bytes : List UInt8} (hDelivers : Delivers bytes p side)
    (hReadable : (p.relay.leg side).readable = true) (hNothing : (p.source side).pending = [])
    (hStill : q.source side = p.source side)
    (hSource : q.relay.leg side = (p.relay.leg side).ended)
    (hSink : q.relay.leg side.other = (p.relay.leg side.other).shutdown) :
    Delivers bytes q side := by
  obtain ⟨hIntact, hCut, hThrough, hCounted, hReliable, hOpened, hShut, -⟩ := hDelivers
  rw [hReadable] at hOpened hShut
  have hClosed : q.relay.leg side.other =
      { p.relay.leg side.other with writable := false, shutdowns := 1 } := by
    rw [hSink, Leg.shutdown, if_pos hOpened, hShut]
    rfl
  constructor
  · rwa [hStill]
  · rwa [Relay.readFrom, hSource, hStill]
  · rwa [Relay.writtenTo, hClosed, Relay.readFrom, hSource]
  · rwa [Relay.writtenTo, hClosed]
  · rwa [hClosed]
  · rw [hClosed, hSource]
    rfl
  · rw [hClosed, hSource]
    rfl
  · intro _
    rwa [hStill]

theorem Delivers.piece {bytes piece : List UInt8} {writer : Stream.Writer}
    (hDelivers : Delivers bytes p side) (hReadable : (p.relay.leg side).readable = true)
    (hFront : (p.source side).pending = piece ++ (q.source side).pending)
    (hIntact : (q.source side).Intact) (hWriter : writer.Reliable)
    (hSource : q.relay.leg side =
      { p.relay.leg side with received := (p.relay.leg side).received.extend piece })
    (hSink : q.relay.leg side.other =
      { p.relay.leg side.other with
        writer
        written := (p.relay.leg side.other).written.extend piece
        credited := (p.relay.leg side.other).credited + piece.length }) :
    Delivers bytes q side := by
  obtain ⟨-, hCut, hThrough, hCounted, -, hOpened, hShut, -⟩ := hDelivers
  have hRead : q.relay.readFrom side = p.relay.readFrom side ++ piece := by
    simp [Relay.readFrom, hSource]
  have hWritten : q.relay.writtenTo side.other = p.relay.writtenTo side.other ++ piece := by
    simp [Relay.writtenTo, hSink]
  constructor
  · exact hIntact
  · rw [hRead, List.append_assoc, ← hFront, hCut]
  · rw [hRead, hWritten, hThrough]
  · rw [hWritten, hSink, List.length_append, ← hCounted]
  · rw [hSink]
    exact hWriter
  · rw [hSink, hSource]
    exact hOpened
  · rw [hSink, hSource]
    exact hShut
  · intro hOver
    rw [hSource, hReadable] at hOver
    cases hOver

theorem ends_of_checked {r : Relay} (hChecked : r.Checked)
    (hOpened : ∀ side, (r.leg side.other).writable = (r.leg side).readable) : Ends r := by
  have hClient : r.remote.writable = r.client.readable := hOpened .client
  have hRemote : r.client.writable = r.remote.readable := hOpened .remote
  rw [Ends, hChecked, Relay.isDone, Leg.isDead, Leg.isDead, hClient, hRemote]
  cases r.client.readable <;> cases r.remote.readable <;> rfl

/-- How many reads a side may still need. -/
def left (p : Pumped) (side : Side) : Nat :=
  if (p.relay.leg side).readable then (p.source side).pending.length + 1 else 0

/-- A statement about a side and the one across from it is one about both. -/
theorem forall_side_iff {P : Side → Prop} (side : Side) :
    (∀ s, P s) ↔ P side ∧ P side.other := by
  refine ⟨fun h => ⟨h _, h _⟩, fun ⟨hSelf, hOther⟩ s => ?_⟩
  rcases Side.eq_or_eq_other s side with rfl | rfl
  · exact hSelf
  · exact hOther

/-- **A read keeps the invariant**, and is one of those that are needed. -/
theorem Delivering.read (hDelivering : Delivering stream p) (hBuffer : 0 < buffer)
    (hRead : p.readSide? buffer side = some q) :
    Delivering stream q ∧ q.left side < p.left side ∧ q.left side.other = p.left side.other := by
  obtain ⟨hWaiting, hReadable, result, hResult, hRelay, hOther⟩ := readSide?_eq_some_iff.mp hRead
  have hSelf := hDelivering.delivers side
  have hAcross := hDelivering.delivers side.other
  have hOpen : (p.relay.leg side.other).writable = true := hSelf.opened.trans hReadable
  have hAnswers := Relay.answers_step hWaiting (.read side result)
  rw [← hRelay] at hAnswers
  have hUntouched (hNoFault : ∀ f, result = .fault f → f.isReset = false) :
      p.relay.Untouched q.relay side.other :=
    Relay.Answers.untouched (by rwa [Side.other_other]) hNoFault
  generalize hNext : q.relay = next at hAnswers
  have hEnds (hBoth : ∀ side, Delivers (stream side) q side) (hChecked : q.relay.Checked) :
      Delivering stream q :=
    ⟨hBoth, Or.inr (ends_of_checked hChecked fun side => (hBoth side).opened)⟩
  rcases hSelf.intact.read? hBuffer with
    ⟨hNothing, hEof⟩ | ⟨piece, rest, hSome, hData, hRest, hFront⟩
  · rw [hResult] at hEof
    obtain ⟨rfl, hStill⟩ := Prod.mk.inj (Option.some.inj hEof)
    cases hAnswers with
    | unheard hUnread =>
      rw [hReadable] at hUnread
      cases hUnread
    | eof _ _ hSource hSink hExit =>
      subst hNext
      refine ⟨hEnds ((forall_side_iff side).mpr ⟨?_, ?_⟩) hExit, ?_, ?_⟩
      · exact hSelf.eof hReadable hNothing hStill hSource hSink
      · exact hAcross.stay hOther (hUntouched fun f h => nomatch h)
      · simp [left, hSource, Leg.ended, hReadable]
      · simp [left, hSink, hOther]
  · rw [hResult] at hData
    obtain ⟨rfl, rfl⟩ := Prod.mk.inj (Option.some.inj hData)
    obtain ⟨writer, hWriter, hHand⟩ := hand_of_reliable hOpen hSelf.reliable piece
    cases hAnswers with
    | unheard hUnread =>
      rw [hReadable] at hUnread
      cases hUnread
    | eof hEnd _ _ _ _ =>
      rcases hEnd with hEnd | hEnd
      · cases hEnd
      · exact absurd (Read.data.inj hEnd) hSome
    | broken _ _ _ _ hFault _ =>
      rw [hHand] at hFault
      cases hFault
    | handed _ _ hSource hSink hFault hExit =>
      subst hNext
      rw [hHand] at hSink
      refine ⟨hEnds ((forall_side_iff side).mpr ⟨?_, ?_⟩) hExit, ?_, ?_⟩
      · exact hSelf.piece hReadable hFront hRest hWriter hSource hSink
      · exact hAcross.stay hOther (hUntouched fun f h => nomatch h)
      · have hLength : 0 < piece.length := List.length_pos_iff.mpr hSome
        simp only [left, hSource, hReadable, if_true, hFront, List.length_append]
        omega
      · simp [left, hSink, hOther]

theorem Delivering.wait (hDelivering : Delivering stream p) (millis : Nat) :
    Delivering stream { p with relay := p.relay.step (.pass millis) } ∧
      ∀ side, left { p with relay := p.relay.step (.pass millis) } side = p.left side := by
  cases hExit : p.relay.exit with
  | some e =>
    rw [Relay.step_of_exit (by simp [hExit])]
    exact ⟨hDelivering, fun side => rfl⟩
  | none =>
    have hAnswers := Relay.answers_step hExit (.pass millis)
    generalize hNext : p.relay.step (.pass millis) = next at hAnswers
    cases hAnswers with
    | passed hLegs hIdle =>
      refine ⟨⟨fun side => ?_, ?_⟩, fun side => ?_⟩
      · exact (hDelivering.delivers side).stay (by cases side <;> rfl)
          (Relay.untouched_of_legs hLegs side)
      · rcases hIdle with hOpen | hIdle
        · refine Or.inr ?_
          have hEnds := hDelivering.ends.resolve_left (by simp [hExit])
          rw [Ends, hExit] at hEnds
          rw [Ends, show next.client = p.relay.client from hLegs .client,
            show next.remote = p.relay.remote from hLegs .remote, ← hEnds]
          exact hOpen
        · exact Or.inl hIdle
      · simp only [left, hLegs]
        cases side <;> rfl

/-! ### Every schedule -/

theorem delivering_ofPieces (idle : Option Nat) {client remote : Stream.Writer}
    (hClient : client.Reliable) (hRemote : remote.Reliable) {pieces : Side → List (List UInt8)}
    (hPieces : ∀ side, ∀ piece ∈ pieces side, piece ≠ []) :
    Delivering (fun side => (pieces side).flatten) (ofPieces idle client remote pieces) := by
  refine ⟨fun side => ?_, Or.inr rfl⟩
  cases side with
  | client =>
    exact ⟨Source.intact_ofPieces (hPieces .client), Source.pending_ofPieces _, rfl, rfl, hRemote,
      rfl, rfl, fun h => by cases h⟩
  | remote =>
    exact ⟨Source.intact_ofPieces (hPieces .remote), Source.pending_ofPieces _, rfl, rfl, hClient,
      rfl, rfl, fun h => by cases h⟩

/-- **Every schedule keeps the invariant, and uses up the reads that are needed.** -/
theorem Reaches.delivering {reads : Nat} (hReaches : Reaches buffer p reads q)
    (hBuffer : 0 < buffer) (hDelivering : Delivering stream p) :
    Delivering stream q ∧
      reads + (q.left .client + q.left .remote) ≤ p.left .client + p.left .remote := by
  induction hReaches with
  | refl => exact ⟨hDelivering, by omega⟩
  | read side hReaches hRead ih =>
    obtain ⟨hDelivering', hReads⟩ := ih
    obtain ⟨hNext, hLess, hSame⟩ := hDelivering'.read hBuffer hRead
    refine ⟨hNext, ?_⟩
    cases side <;> simp only [Side.other] at hSame <;> omega
  | wait millis hReaches ih =>
    obtain ⟨hDelivering', hReads⟩ := ih
    obtain ⟨hNext, hSame⟩ := hDelivering'.wait millis
    refine ⟨hNext, ?_⟩
    rw [hSame, hSame]
    exact hReads

theorem Reaches.pumpFor {reads : Nat} (fuel : Nat) (hReaches : Reaches buffer p reads q) :
    ∃ more, Reaches buffer p more (q.pumpFor buffer fuel) := by
  induction fuel generalizing q reads with
  | zero => exact ⟨reads, hReaches⟩
  | succ fuel ih =>
    unfold Pumped.pumpFor
    split
    · rename_i hRead
      exact ih (.read .client hReaches hRead)
    · split
      · rename_i hRead
        exact ih (.read .remote hReaches hRead)
      · exact ⟨reads, hReaches⟩

theorem reaches_pump (buffer : Nat) (p : Pumped) :
    ∃ reads, Reaches buffer p reads (p.pump buffer) := Reaches.pumpFor _ .refl

/-- **A relay that waits can go on**: a side that it reads gives something. -/
theorem Delivering.progress (hDelivering : Delivering stream p) (hBuffer : 0 < buffer)
    (hWaiting : p.relay.exit = none) :
    ∃ side q, p.readSide? buffer side = some q := by
  have hGives (side : Side) (hReadable : (p.relay.leg side).readable = true) :
      ∃ q, p.readSide? buffer side = some q := by
    have hSome : ∃ result rest, (p.source side).read? buffer = some (result, rest) := by
      rcases (hDelivering.delivers side).intact.read? hBuffer with
        ⟨-, hEof⟩ | ⟨piece, rest, -, hData, -, -⟩
      · exact ⟨_, _, hEof⟩
      · exact ⟨_, _, hData⟩
    obtain ⟨result, rest, hResult⟩ := hSome
    cases side with
    | client =>
      exact ⟨⟨p.relay.step (.read .client result), rest, p.remote⟩,
        readSide?_eq_some_iff.mpr ⟨hWaiting, hReadable, result, hResult, rfl, rfl⟩⟩
    | remote =>
      exact ⟨⟨p.relay.step (.read .remote result), p.client, rest⟩,
        readSide?_eq_some_iff.mpr ⟨hWaiting, hReadable, result, hResult, rfl, rfl⟩⟩
  have hEnds := hDelivering.ends.resolve_left (by simp [hWaiting])
  rw [Ends, hWaiting] at hEnds
  by_cases hClient : p.relay.client.readable = true
  · exact ⟨.client, hGives .client hClient⟩
  by_cases hRemote : p.relay.remote.readable = true
  · exact ⟨.remote, hGives .remote hRemote⟩
  · simp [hClient, hRemote] at hEnds

/-! ### How it ends -/

/-- Everything that is seen of a relay from outside. -/
structure Outcome where
  exit : Option RelayExit
  toClient : List UInt8
  toRemote : List UInt8
  clientShutdowns : Nat
  remoteShutdowns : Nat
  bytesTx : UInt64
  bytesRx : UInt64
deriving DecidableEq, Repr

/-- What is seen of the relay of a session. -/
def outcome (s : Session) (p : Pumped) : Outcome :=
  { exit := p.relay.exit
    toClient := p.relay.writtenTo .client
    toRemote := p.relay.writtenTo .remote
    clientShutdowns := p.relay.client.shutdowns
    remoteShutdowns := p.relay.remote.shutdowns
    bytesTx := (Handler.count s p.relay).bytesTx
    bytesRx := (Handler.count s p.relay).bytesRx }

/-- The outcome when both streams have got through, each followed by its end. -/
def Outcome.delivered (s : Session) (stream : Side → List UInt8) : Outcome :=
  { exit := some .closed
    toClient := stream .remote
    toRemote := stream .client
    clientShutdowns := 1
    remoteShutdowns := 1
    bytesTx := s.bytesTx + (stream .client).length.toUInt64
    bytesRx := s.bytesRx + (stream .remote).length.toUInt64 }

theorem Delivers.done {bytes : List UInt8} (hDelivers : Delivers bytes p side)
    (hReadable : (p.relay.leg side).readable = false) :
    p.relay.writtenTo side.other = bytes ∧ (p.relay.leg side.other).credited = bytes.length ∧
      (p.relay.leg side.other).shutdowns = 1 := by
  have hAll : p.relay.writtenTo side.other = bytes := by
    rw [hDelivers.through, ← hDelivers.cut, hDelivers.drained hReadable, List.append_nil]
  refine ⟨hAll, by rw [hDelivers.counted, hAll], ?_⟩
  rw [hDelivers.shutdowns, hReadable]
  rfl

theorem Delivering.outcome (hDelivering : Delivering stream p) (s : Session)
    (hOver : ∀ side, (p.relay.leg side).readable = false) :
    p.outcome s = { Outcome.delivered s stream with exit := p.relay.exit } := by
  obtain ⟨hToRemote, hTx, hRemote⟩ := (hDelivering.delivers .client).done (hOver .client)
  obtain ⟨hToClient, hRx, hClient⟩ := (hDelivering.delivers .remote).done (hOver .remote)
  simp only [Side.other] at hToRemote hToClient
  replace hTx : p.relay.remote.credited = _ := hTx
  replace hRx : p.relay.client.credited = _ := hRx
  replace hRemote : p.relay.remote.shutdowns = 1 := hRemote
  replace hClient : p.relay.client.shutdowns = 1 := hClient
  simp only [Pumped.outcome, Outcome.delivered, Handler.count, Session.addTx, Session.addRx,
    hToRemote, hToClient, hTx, hRx, hRemote, hClient]

/-- **Two streams that end get through, whatever the schedule.**  They are cut into
pieces in any way, read through any buffer in any order, with waits in between, and
written to writers that take at least one byte a call; no read fails.  Whether the
shutdowns succeed does not matter to the relay.  Then each way is shut down at most
once, after its last byte; no more reads are needed than there are bytes, and one
for either end; a relay that has not ended can go on; and one that has, unless it
was for idleness, has delivered both streams.  That outcome depends on the streams
alone, so any two schedules and any two buffers lead to the same one. -/
theorem schedule_delivers (s : Session) (idle : Option Nat) {client remote : Stream.Writer}
    (hClient : client.Reliable) (hRemote : remote.Reliable) (hBuffer : 0 < buffer)
    {pieces : Side → List (List UInt8)} (hPieces : ∀ side, ∀ piece ∈ pieces side, piece ≠ [])
    (hStream : ∀ side, (pieces side).flatten = stream side) {reads : Nat}
    (hReaches : Reaches buffer (ofPieces idle client remote pieces) reads q) :
    (∀ side, (q.relay.leg side.other).shutdowns ≤ 1 ∧
        ((q.relay.leg side.other).shutdowns = 1 → q.relay.writtenTo side.other = stream side)) ∧
      reads ≤ (stream .client).length + 1 + ((stream .remote).length + 1) ∧
      (q.relay.exit = none → ∃ side next, q.readSide? buffer side = some next) ∧
      ∀ exit, q.relay.exit = some exit → exit ≠ .idle →
        (∀ side, (q.relay.leg side).readable = false ∧ (q.source side).pending = []) ∧
          q.outcome s = .delivered s stream := by
  have hStart := delivering_ofPieces idle hClient hRemote hPieces
  rw [show (fun side => (pieces side).flatten) = stream from funext hStream] at hStart
  obtain ⟨hDelivering, hReads⟩ := hReaches.delivering hBuffer hStart
  refine ⟨fun side => ?_, ?_, hDelivering.progress hBuffer, fun exit hExit hIdle => ?_⟩
  · have hSide := hDelivering.delivers side
    cases hReadable : (q.relay.leg side).readable with
    | true =>
      have hOpen : (q.relay.leg side.other).shutdowns = 0 := by
        rw [hSide.shutdowns, hReadable]
        rfl
      exact ⟨by omega, fun h => by omega⟩
    | false =>
      obtain ⟨hAll, -, hShut⟩ := hSide.done hReadable
      exact ⟨by omega, fun _ => hAll⟩
  · have hLeft (side : Side) : (ofPieces idle client remote pieces).left side =
        (stream side).length + 1 := by
      rw [← hStream side]
      cases side with
      | client => exact congrArg (·.length + 1) (Source.pending_ofPieces _)
      | remote => exact congrArg (·.length + 1) (Source.pending_ofPieces _)
    rw [hLeft, hLeft] at hReads
    omega
  · have hEnds := hDelivering.ends.resolve_left (by simpa [hExit] using hIdle)
    obtain ⟨rfl, hUnread⟩ := hEnds.ended hExit
    refine ⟨fun side => ⟨hUnread side, (hDelivering.delivers side).drained (hUnread side)⟩, ?_⟩
    rw [hDelivering.outcome s hUnread, hExit]
    rfl

/-- A client sends three bytes in two pieces and takes what it is sent byte by byte;
its remote end sends one byte.  The buffer holds one byte, and the client's are read
first. -/
theorem schedule_delivers_pump :
    let s : Session := .accept 1 ⟨1, { port := 1080, kind := .socks }⟩ {} 0
    let client : Stream.Writer := { later := .takes 1 }
    let pieces : Side → List (List UInt8)
      | .client => [[1, 2], [3]]
      | .remote => [[4]]
    (client.Reliable ∧ 0 < 1 ∧ ∀ side, ∀ piece ∈ pieces side, piece ≠ []) ∧
      ((ofPieces none client {} pieces).pump 1).outcome s =
        { exit := some .closed, toClient := [4], toRemote := [1, 2, 3], clientShutdowns := 1
          remoteShutdowns := 1, bytesTx := 3, bytesRx := 1 } := by
  intro s client pieces
  have hClient : client.Reliable := ⟨by simp [client], Nat.one_pos, rfl⟩
  have hPieces : ∀ side, ∀ piece ∈ pieces side, piece ≠ [] := by
    intro side
    cases side <;> decide
  obtain ⟨reads, hReaches⟩ := reaches_pump 1 (ofPieces none client {} pieces)
  have hExit : ((ofPieces none client {} pieces).pump 1).relay.exit = some .closed := by
    simp only [client, pieces]
    decide +kernel
  refine ⟨⟨hClient, Nat.one_pos, hPieces⟩, ?_⟩
  exact ((schedule_delivers s none hClient Stream.Writer.reliable_default Nat.one_pos hPieces
    (fun _ => rfl) hReaches).2.2.2 _ hExit (by decide)).2

end Pumped

end SocksGateway
