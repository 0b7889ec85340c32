import SocksGateway.Handler
import SocksGateway.Proofs.Relay.Step
import SocksGateway.Proofs.Stream.Writer

/-!
# What a relay hands on

A relay may be cut off at any point, on either side, by a failed write, a reset
or an end of input.  This file follows the bytes of one side through all of it.

* `Transfer`, `Relay.transfers`: the pieces that were read from a side, each with
  what became of it on the other side.
* `Flow`: the invariant that ties the transfers to the two legs.
* `Flow.answers`: one input keeps it; `flow_run`: so does every run.
* `relay_hands_on`: what follows for the bytes and for the counts of a session.
-/

namespace SocksGateway

/-- A piece that was read from one side, and what became of it on the other. -/
structure Transfer where
  piece : List UInt8
  /-- The bytes of the piece that were written. -/
  written : List UInt8
  /-- The failure that stopped the writing, if one did. -/
  fault : Option Stream.Fault
deriving DecidableEq, Repr

/-- The piece was written completely. -/
def Transfer.isWhole (t : Transfer) : Bool := t.written == t.piece

namespace Leg

variable {l : Leg} {piece : List UInt8}

/-- What becomes of a piece that is handed to the side. -/
def offer (l : Leg) (piece : List UInt8) : Transfer :=
  if l.writable then
    ⟨piece, (l.writer.writeAll piece).bytes, (l.writer.writeAll piece).fault⟩
  else ⟨piece, [], none⟩

/-- **The ways in which a side takes a piece.** -/
inductive Takes (l : Leg) (piece : List UInt8) : Leg × Option Stream.Fault → Transfer → Prop
  /-- The way to the side is closed, and the piece is thrown away. -/
  | dropped (hClosed : l.writable = false) : Takes l piece (l, none) ⟨piece, [], none⟩
  | whole {writer : Stream.Writer} (hOpen : l.writable = true) :
      Takes l piece
        ({ l with
            writer
            written := l.written.extend piece
            credited := l.credited + piece.length }, none)
        ⟨piece, piece, none⟩
  /-- The peer is gone, and the way to the side is closed from now on. -/
  | cut {writer : Stream.Writer} {front : List UInt8} {f : Stream.Fault}
      (hOpen : l.writable = true) (hFront : front <+: piece)
      (hShort : front.length < piece.length) :
      Takes l piece ({ l with writer, written := l.written.extend front, writable := false }, none)
        ⟨piece, front, some f⟩
  /-- The failure is one that ends the relay. -/
  | broken {writer : Stream.Writer} {front : List UInt8} {f : Stream.Fault}
      (hOpen : l.writable = true) (hFront : front <+: piece)
      (hShort : front.length < piece.length) :
      Takes l piece ({ l with writer, written := l.written.extend front }, some f)
        ⟨piece, front, some f⟩

theorem takes_hand (l : Leg) (piece : List UInt8) :
    l.Takes piece (l.hand piece) (l.offer piece) := by
  unfold hand offer
  by_cases hWritable : l.writable = true
  · rw [if_pos hWritable, if_pos hWritable]
    dsimp only
    have hFront := Stream.Writer.writeAll_prefix l.writer piece
    cases hFault : (l.writer.writeAll piece).fault with
    | none =>
      rw [(Stream.Writer.writeAll_bytes_eq_iff l.writer piece).mpr hFault]
      exact .whole hWritable
    | some f =>
      have hShort : (l.writer.writeAll piece).bytes.length < piece.length :=
        Stream.Writer.length_writeAll_lt (by simp [hFault])
      dsimp only
      split
      · exact .cut hWritable hFront hShort
      · exact .broken hWritable hFront hShort
  · rw [if_neg hWritable, if_neg hWritable]
    exact .dropped (by simpa using hWritable)

theorem hand_of_closed (hClosed : l.writable = false) (piece : List UInt8) :
    l.hand piece = (l, none) := by
  rw [hand, if_neg (by simp [hClosed])]

end Leg

namespace Relay

/-- The bytes that were read from a side. -/
def readFrom (r : Relay) (side : Side) : List UInt8 := (r.leg side).received.toList

/-- The bytes that were written to a side. -/
def writtenTo (r : Relay) (side : Side) : List UInt8 := (r.leg side).written.toList

/-- The transfer that an input brings about, if it is a piece from that side. -/
def transfer? (r : Relay) (side : Side) : RelayInput → Option Transfer
  | .read origin (.data piece) =>
    if r.isWaiting ∧ origin = side ∧ (r.leg side).readable ∧ piece ≠ [] then
      some ((r.leg side.other).offer piece)
    else none
  | _ => none

/-- The transfers of a run, of the pieces from that side. -/
def transfers (r : Relay) (side : Side) : List RelayInput → List Transfer
  | [] => []
  | input :: inputs => (r.transfer? side input).toList ++ (r.step input).transfers side inputs

/-! ### The invariant -/

/-- No write has failed. -/
def Unfailing (ts : List Transfer) : Prop := ∀ t ∈ ts, t.fault = none

instance (ts : List Transfer) : Decidable (Unfailing ts) :=
  inferInstanceAs (Decidable (∀ t ∈ ts, t.fault = none))

/-- The size of the pieces that were written completely. -/
def credit (ts : List Transfer) : Nat :=
  ((ts.filter Transfer.isWhole).flatMap Transfer.piece).length

/-- Nothing is written to the side any more. -/
def Stopped (r : Relay) (side : Side) : Prop := r.exit ≠ none ∨ (r.leg side).writable = false

/-- **What holds of the bytes of one side while they are handed on**, with the
transfers so far. -/
structure Flow (buffer : Nat) (r : Relay) (side : Side) (ts : List Transfer) : Prop where
  read : r.readFrom side = ts.flatMap Transfer.piece
  written : r.writtenTo side.other = ts.flatMap Transfer.written
  credited : (r.leg side.other).credited = credit ts
  /-- Before a write has failed, everything is through. -/
  intact : Unfailing ts → r.writtenTo side.other = r.readFrom side ∧
    (r.leg side.other).credited = (r.writtenTo side.other).length
  /-- Afterwards, one piece may be through in part. -/
  failed : ¬ Unfailing ts → r.writtenTo side.other <+: r.readFrom side ∧
    (r.leg side.other).credited ≤ (r.writtenTo side.other).length ∧
    (r.writtenTo side.other).length < (r.leg side.other).credited + buffer ∧
    r.Stopped side.other
  /-- A piece is thrown away only when a write has failed. -/
  opened : r.exit = none → Unfailing ts → (r.leg side).readable = true →
    (r.leg side.other).writable = true
  shut : (r.leg side.other).shutdowns ≠ 0 → (r.leg side.other).writable = false

variable {buffer : Nat} {r q : Relay} {side : Side} {ts : List Transfer}

theorem flow_start (buffer : Nat) (idle : Option Nat) (client remote : Stream.Writer)
    (side : Side) : Flow buffer (start idle client remote) side [] := by
  have hNone : Unfailing [] := by simp [Unfailing]
  cases side with
  | client => exact ⟨rfl, rfl, rfl, fun _ => ⟨rfl, rfl⟩, fun h => absurd hNone h,
      fun _ _ _ => rfl, fun h => absurd rfl h⟩
  | remote => exact ⟨rfl, rfl, rfl, fun _ => ⟨rfl, rfl⟩, fun h => absurd hNone h,
      fun _ _ _ => rfl, fun h => absurd rfl h⟩

theorem Flow.stay (hFlow : Flow buffer r side ts) (hWaiting : r.exit = none)
    (hUntouched : Untouched r q side) : Flow buffer q side ts := by
  obtain ⟨hIn, hOut, hCount, hIntact, hFailed, hOpened, hShut⟩ := hFlow
  obtain ⟨hRead, hReadable, hWritten, hCredited, -, hWritable, hShutdowns⟩ := hUntouched
  simp only [readFrom, writtenTo, ← hRead, ← hWritten, ← hCredited] at hIn hOut hCount
  simp only [readFrom, writtenTo, ← hRead, ← hWritten, ← hCredited] at hIntact hFailed
  rw [← hReadable, ← hWritable] at hOpened
  rw [← hWritable, ← hShutdowns] at hShut
  refine ⟨hIn, hOut, hCount, hIntact, fun h => ?_, fun _ => hOpened hWaiting, hShut⟩
  obtain ⟨hPrefix, hLe, hLt, hStop⟩ := hFailed h
  refine ⟨hPrefix, hLe, hLt, Or.inr ?_⟩
  rw [hWritable]
  exact hStop.resolve_left fun hExit => hExit hWaiting

theorem Flow.stop (hFlow : Flow buffer r side ts)
    (hRead : (q.leg side).received = (r.leg side).received)
    (hWritten : (q.leg side.other).written = (r.leg side.other).written)
    (hCredited : (q.leg side.other).credited = (r.leg side.other).credited)
    (hStopped : q.Stopped side.other) (hEnded : q.exit = none → (q.leg side).readable = false)
    (hShut : (q.leg side.other).shutdowns ≠ 0 → (q.leg side.other).writable = false) :
    Flow buffer q side ts := by
  obtain ⟨hIn, hOut, hCount, hIntact, hFailed, -, -⟩ := hFlow
  simp only [readFrom, writtenTo, ← hRead, ← hWritten, ← hCredited] at hIn hOut hCount
  simp only [readFrom, writtenTo, ← hRead, ← hWritten, ← hCredited] at hIntact hFailed
  refine ⟨hIn, hOut, hCount, hIntact, fun h => ?_, fun hExit _ hReadable => ?_, hShut⟩
  · obtain ⟨hPrefix, hLe, hLt, -⟩ := hFailed h
    exact ⟨hPrefix, hLe, hLt, hStopped⟩
  · rw [hEnded hExit] at hReadable
    cases hReadable

/-! ### One input -/

theorem unfailing_concat {t : Transfer} :
    Unfailing (ts ++ [t]) ↔ Unfailing ts ∧ t.fault = none := by
  simp [Unfailing, or_imp, forall_and]

theorem credit_concat (ts : List Transfer) (t : Transfer) :
    credit (ts ++ [t]) = credit ts + if t.isWhole then t.piece.length else 0 := by
  unfold credit
  cases hWhole : t.isWhole <;> simp [List.filter_append, hWhole]

theorem Checked.exit_of_dead (hChecked : q.Checked) (side : Side)
    (hDead : (q.leg side).isDead = true) :
    q.exit = some .closed := by
  have hDone : q.isDone = true := by
    cases side with
    | client => simp [isDone, show q.client.isDead = true from hDead]
    | remote => simp [isDone, show q.remote.isDead = true from hDead]
  rw [hChecked, if_pos hDone]

theorem Flow.unfailing (hFlow : Flow buffer r side ts) (hWaiting : r.exit = none)
    (hOpen : (r.leg side.other).writable = true) : Unfailing ts := by
  refine Decidable.not_not.mp fun hFailed => ?_
  rcases (hFlow.failed hFailed).2.2.2 with hExit | hClosed
  · exact hExit hWaiting
  · rw [hOpen] at hClosed
    cases hClosed

/-- A piece that has stopped the writing, or come after it, is not written whole. -/
theorem not_isWhole {piece front : List UInt8} {fault : Option Stream.Fault}
    (hShort : front.length < piece.length) :
    (⟨piece, front, fault⟩ : Transfer).isWhole = false := by
  have hNe : front ≠ piece := fun h => by simp [h] at hShort
  simpa [Transfer.isWhole] using hNe

theorem Flow.fail {piece front : List UInt8} {f : Stream.Fault}
    (hFlow : Flow buffer r side ts) (hWaiting : r.exit = none) (hSize : piece.length ≤ buffer)
    (hOpen : (r.leg side.other).writable = true) (hFront : front <+: piece)
    (hShort : front.length < piece.length) (hRead : q.readFrom side = r.readFrom side ++ piece)
    (hWritten : q.writtenTo side.other = r.writtenTo side.other ++ front)
    (hCredited : (q.leg side.other).credited = (r.leg side.other).credited)
    (hStopped : q.Stopped side.other)
    (hShut : (q.leg side.other).shutdowns ≠ 0 → (q.leg side.other).writable = false) :
    Flow buffer q side (ts ++ [⟨piece, front, some f⟩]) := by
  obtain ⟨hSame, hCount⟩ := hFlow.intact (hFlow.unfailing hWaiting hOpen)
  have hFailed : ¬ Unfailing (ts ++ [⟨piece, front, some f⟩]) := by
    simp [unfailing_concat]
  refine ⟨?_, ?_, ?_, fun h => absurd h hFailed, fun _ => ⟨?_, ?_, ?_, hStopped⟩,
    fun _ h => absurd h hFailed, hShut⟩
  · simp [hRead, hFlow.read]
  · simp [hWritten, hFlow.written]
  · simp [hCredited, hFlow.credited, credit_concat, not_isWhole hShort]
  · rw [hWritten, hRead, hSame]
    exact (List.prefix_append_right_inj _).mpr hFront
  · rw [hWritten, hCredited, hCount, List.length_append]
    omega
  · rw [hWritten, hCredited, hCount, List.length_append]
    omega

theorem Flow.hand {piece : List UInt8} {outcome : Leg × Option Stream.Fault} {t : Transfer}
    (hFlow : Flow buffer r side ts) (hWaiting : r.exit = none)
    (hReadable : (r.leg side).readable = true) (hSome : piece ≠ []) (hSize : piece.length ≤ buffer)
    (hTakes : (r.leg side.other).Takes piece outcome t)
    (hRead : q.readFrom side = r.readFrom side ++ piece)
    (hSink : q.leg side.other = outcome.1) (hFault : outcome.2 ≠ none → q.exit ≠ none) :
    Flow buffer q side (ts ++ [t]) := by
  cases hTakes with
  | dropped hClosed =>
    have hFailed : ¬ Unfailing ts := fun h => by
      have hOpen := hFlow.opened hWaiting h hReadable
      rw [hClosed] at hOpen
      cases hOpen
    have hWritten : q.writtenTo side.other = r.writtenTo side.other := by
      rw [writtenTo, hSink, writtenTo]
    have hShort : ([] : List UInt8).length < piece.length := List.length_pos_iff.mpr hSome
    obtain ⟨hPrefix, hLe, hLt, -⟩ := hFlow.failed hFailed
    have hStill : ¬ Unfailing (ts ++ [⟨piece, [], none⟩]) :=
      fun h => hFailed (unfailing_concat.mp h).1
    refine ⟨?_, ?_, ?_, fun h => absurd h hStill, fun _ => ⟨?_, ?_, ?_, ?_⟩,
      fun _ h => absurd h hStill, ?_⟩
    · simp [hRead, hFlow.read]
    · simp [hWritten, hFlow.written]
    · simp [hSink, hFlow.credited, credit_concat, not_isWhole hShort]
    · rw [hWritten, hRead]
      exact hPrefix.trans (List.prefix_append _ _)
    · rwa [hWritten, hSink]
    · rwa [hWritten, hSink]
    · exact Or.inr (by rw [hSink]; exact hClosed)
    · rw [hSink]
      exact hFlow.shut
  | @whole writer hOpen =>
    have hUnfailing := hFlow.unfailing hWaiting hOpen
    obtain ⟨hSame, hCount⟩ := hFlow.intact hUnfailing
    have hWritten : q.writtenTo side.other = r.writtenTo side.other ++ piece := by
      rw [writtenTo, hSink, writtenTo]
      simp
    have hCredited : (q.leg side.other).credited =
        (r.leg side.other).credited + piece.length := by rw [hSink]
    have hWhole : Transfer.isWhole ⟨piece, piece, none⟩ = true := by simp [Transfer.isWhole]
    have hStill : Unfailing (ts ++ [⟨piece, piece, none⟩]) :=
      unfailing_concat.mpr ⟨hUnfailing, rfl⟩
    refine ⟨?_, ?_, ?_, fun _ => ⟨?_, ?_⟩, fun h => absurd hStill h, ?_, ?_⟩
    · simp [hRead, hFlow.read]
    · simp [hWritten, hFlow.written]
    · simp [hCredited, hFlow.credited, credit_concat, hWhole]
    · rw [hWritten, hRead, hSame]
    · rw [hCredited, hCount, hWritten, List.length_append]
    · intro _ _ _
      rw [hSink]
      exact hOpen
    · rw [hSink]
      exact hFlow.shut
  | @cut writer front f hOpen hFront hShort =>
    refine hFlow.fail hWaiting hSize hOpen hFront hShort hRead ?_ (by rw [hSink]) ?_ ?_
    · rw [writtenTo, hSink, writtenTo]
      simp
    · exact Or.inr (by rw [hSink])
    · intro _
      rw [hSink]
  | @broken writer front f hOpen hFront hShort =>
    refine hFlow.fail hWaiting hSize hOpen hFront hShort hRead ?_ (by rw [hSink]) ?_ ?_
    · rw [writtenTo, hSink, writtenTo]
      simp
    · exact Or.inl (hFault (by simp))
    · rw [hSink]
      exact hFlow.shut

theorem transfer?_other {origin : Side} (hOther : origin ≠ side) (result : Read) :
    r.transfer? side (.read origin result) = none := by
  cases result <;> simp [transfer?, hOther]

theorem transfer?_piece {piece : List UInt8} (hWaiting : r.exit = none)
    (hReadable : (r.leg side).readable = true) (hSome : piece ≠ []) :
    r.transfer? side (.read side (.data piece)) = some ((r.leg side.other).offer piece) := by
  simp [transfer?, isWaiting, hWaiting, hReadable, hSome]

theorem Flow.answers_other {result : Read} (hFlow : Flow buffer r side ts)
    (hWaiting : r.exit = none) (hAnswers : Answers r (.read side.other result) q) :
    Flow buffer q side ts := by
  cases result with
  | eof => exact hFlow.stay hWaiting (hAnswers.untouched fun f h => nomatch h)
  | data piece => exact hFlow.stay hWaiting (hAnswers.untouched fun f h => nomatch h)
  | fault f =>
    cases hReset : f.isReset with
    | false => exact hFlow.stay hWaiting (hAnswers.untouched fun g h => by cases h; exact hReset)
    | true =>
      cases hAnswers with
      | unheard hReadable => exact hFlow
      | eof hResult _ _ _ _ => rcases hResult with h | h <;> cases h
      | fault hNot _ _ _ =>
        rw [hReset] at hNot
        cases hNot
      | reset _ hReadable hSource hSink hExit =>
        -- The other side is gone, and nothing is left to relay.
        rw [Side.other_other] at hSink
        have hClosed := hExit.exit_of_dead side.other (by rw [hSource]; rfl)
        have hStopped : q.Stopped side.other := Or.inl (by simp [hClosed])
        refine hFlow.stop (by rw [hSink]) (by rw [hSource]; rfl) (by rw [hSource]; rfl) hStopped
          (by simp [hClosed]) fun _ => ?_
        rw [hSource]
        rfl

theorem Flow.answers_self {result : Read} (hFlow : Flow buffer r side ts)
    (hWaiting : r.exit = none) (hAnswers : Answers r (.read side result) q)
    (hSize : ∀ piece, result = .data piece → piece.length ≤ buffer) :
    Flow buffer q side (ts ++ (r.transfer? side (.read side result)).toList) := by
  cases hAnswers with
  | unheard hReadable =>
    have hNone : r.transfer? side (.read side result) = none := by
      cases result <;> simp [transfer?, hReadable]
    simpa [hNone] using hFlow
  | eof hResult hReadable hSource hSink hExit =>
    have hNone : r.transfer? side (.read side result) = none := by
      rcases hResult with rfl | rfl <;> simp [transfer?]
    rw [hNone, Option.toList_none, List.append_nil]
    refine hFlow.stop (by rw [hSource]; rfl) (by simp [hSink]) (by simp [hSink]) ?_ ?_ ?_
    · exact Or.inr (by simp [hSink])
    · intro _
      rw [hSource]
      rfl
    · intro _
      simp [hSink]
  | @handed _ piece _ hSome hReadable hSource hSink hFault hExit =>
    rw [transfer?_piece hWaiting hReadable hSome]
    refine hFlow.hand hWaiting hReadable hSome (hSize piece rfl)
      ((r.leg side.other).takes_hand piece) ?_ hSink fun h => absurd hFault h
    simp [readFrom, hSource]
  | @broken _ piece _ f hSome hReadable hSource hSink hFault hExit =>
    rw [transfer?_piece hWaiting hReadable hSome]
    refine hFlow.hand hWaiting hReadable hSome (hSize piece rfl)
      ((r.leg side.other).takes_hand piece) ?_ hSink fun _ => by simp [hExit]
    simp [readFrom, hSource]
  | reset hReset hReadable hSource hSink hExit =>
    have hClosed := hExit.exit_of_dead side (by rw [hSource]; rfl)
    have hStopped : q.Stopped side.other := Or.inl (by simp [hClosed])
    simpa [transfer?] using hFlow.stop (by rw [hSource]; rfl) (by rw [hSink]) (by rw [hSink])
      hStopped (by simp [hClosed]) (by rw [hSink]; exact hFlow.shut)
  | fault hReset hReadable hLegs hExit =>
    simpa [transfer?] using hFlow.stay hWaiting (untouched_of_legs hLegs side)

theorem Flow.step (hFlow : Flow buffer r side ts) (input : RelayInput)
    (hSize : ∀ origin piece, input = .read origin (.data piece) → piece.length ≤ buffer) :
    Flow buffer (r.step input) side (ts ++ (r.transfer? side input).toList) := by
  cases hExit : r.exit with
  | some e =>
    have hEnded : r.exit ≠ none := by simp [hExit]
    have hNone : r.transfer? side input = none := by
      cases input with
      | pass millis => rfl
      | read origin result => cases result <;> simp [transfer?, isWaiting, hExit]
    rw [step_of_exit hEnded, hNone, Option.toList_none, List.append_nil]
    exact hFlow
  | none =>
    have hAnswers := answers_step hExit input
    cases input with
    | pass millis =>
      cases hAnswers with
      | passed hLegs hIdle =>
        simpa [transfer?] using hFlow.stay hExit (untouched_of_legs hLegs side)
    | read origin result =>
      rcases Side.eq_or_eq_other origin side with rfl | rfl
      · exact hFlow.answers_self hExit hAnswers fun piece h => hSize _ piece (by rw [h])
      · rw [transfer?_other side.other_ne, Option.toList_none, List.append_nil]
        exact hFlow.answers_other hExit hAnswers

theorem flow_run (hFlow : Flow buffer r side ts) (inputs : List RelayInput)
    (hSize : ∀ origin piece, .read origin (.data piece) ∈ inputs → piece.length ≤ buffer) :
    Flow buffer (r.run inputs) side (ts ++ r.transfers side inputs) := by
  induction inputs generalizing r ts with
  | nil => simpa [run, transfers] using hFlow
  | cons input inputs ih =>
    have hStep := hFlow.step input fun origin piece h => hSize origin piece (by simp [h])
    have hRest := ih hStep fun origin piece h => hSize origin piece (List.mem_cons_of_mem _ h)
    rwa [List.append_assoc] at hRest

/-! ### After the writing has stopped -/

/-- The way to a side has stayed closed, and nothing has gone through it. -/
structure StaysClosed (r q : Relay) (side : Side) : Prop where
  writable : (q.leg side).writable = false
  written : (q.leg side).written = (r.leg side).written
  credited : (q.leg side).credited = (r.leg side).credited

theorem staysClosed_of_leg (hClosed : (r.leg side).writable = false)
    (hLeg : q.leg side = r.leg side) : StaysClosed r q side := by
  constructor <;> rw [hLeg]
  exact hClosed

/-- **No answer opens a closed way or uses it.** -/
theorem Answers.staysClosed {input : RelayInput} (hAnswers : Answers r input q)
    (hClosed : (r.leg side).writable = false) : StaysClosed r q side := by
  cases hAnswers with
  | unheard hReadable => exact staysClosed_of_leg hClosed rfl
  | passed hLegs hExit => exact staysClosed_of_leg hClosed (hLegs side)
  | fault hReset hReadable hLegs hExit => exact staysClosed_of_leg hClosed (hLegs side)
  | @eof origin _ _ hResult hReadable hSource hSink hExit =>
    rcases Side.eq_or_eq_other side origin with rfl | rfl
    · exact ⟨by rw [hSource]; exact hClosed, by rw [hSource]; rfl, by rw [hSource]; rfl⟩
    · exact ⟨by simp [hSink], by simp [hSink], by simp [hSink]⟩
  | @handed origin piece _ hSome hReadable hSource hSink hFault hExit =>
    rcases Side.eq_or_eq_other side origin with rfl | rfl
    · exact ⟨by rw [hSource, hClosed], by rw [hSource], by rw [hSource]⟩
    · rw [Leg.hand_of_closed hClosed] at hSink
      exact staysClosed_of_leg hClosed hSink
  | @broken origin piece _ f hSome hReadable hSource hSink hFault hExit =>
    rcases Side.eq_or_eq_other side origin with rfl | rfl
    · exact ⟨by rw [hSource, hClosed], by rw [hSource], by rw [hSource]⟩
    · rw [Leg.hand_of_closed hClosed] at hFault
      cases hFault
  | @reset origin f _ hReset hReadable hSource hSink hExit =>
    rcases Side.eq_or_eq_other side origin with rfl | rfl
    · exact ⟨by rw [hSource]; rfl, by rw [hSource]; rfl, by rw [hSource]; rfl⟩
    · exact staysClosed_of_leg hClosed hSink

theorem staysClosed_step (hClosed : (r.leg side).writable = false) (input : RelayInput) :
    StaysClosed r (r.step input) side := by
  by_cases hWaiting : r.exit = none
  · exact (answers_step hWaiting input).staysClosed hClosed
  · exact staysClosed_of_leg hClosed (by rw [step_of_exit hWaiting])

theorem staysClosed_run (hClosed : (r.leg side).writable = false) (inputs : List RelayInput) :
    StaysClosed r (r.run inputs) side := by
  induction inputs generalizing r with
  | nil => exact staysClosed_of_leg hClosed rfl
  | cons input inputs ih =>
    have hStep := staysClosed_step hClosed input
    have hRest := ih hStep.writable
    exact ⟨hRest.writable, hRest.written.trans hStep.written, hRest.credited.trans hStep.credited⟩

/-- **Once the writing to a side has stopped, nothing more is written to it.** -/
theorem Stopped.run (hStopped : r.Stopped side) (inputs : List RelayInput) :
    (r.run inputs).writtenTo side = r.writtenTo side := by
  by_cases hWaiting : r.exit = none
  · have hClosed := hStopped.resolve_left fun h => h hWaiting
    rw [writtenTo, (staysClosed_run hClosed inputs).written, writtenTo]
  · rw [run_of_exit hWaiting]

/-! ### What follows -/

/-- What a relay has done with the bytes of one side, from `first` on and after
these inputs. -/
structure HandsOn (first : Relay) (inputs : List RelayInput) (side : Side) (buffer : Nat) :
    Prop where
  /-- The transfers are all that was read and written. -/
  read : (first.run inputs).readFrom side =
    (first.transfers side inputs).flatMap Transfer.piece
  written : (first.run inputs).writtenTo side.other =
    (first.transfers side inputs).flatMap Transfer.written
  inOrder : (first.run inputs).writtenTo side.other <+: (first.run inputs).readFrom side
  complete : Unfailing (first.transfers side inputs) →
    (first.run inputs).writtenTo side.other = (first.run inputs).readFrom side
  /-- After a failed write, and after the shutdown, no byte follows. -/
  silent : ¬ Unfailing (first.transfers side inputs) ∨
      ((first.run inputs).leg side.other).shutdowns ≠ 0 →
    ∀ more, (first.run (inputs ++ more)).writtenTo side.other =
      (first.run inputs).writtenTo side.other
  credited : ((first.run inputs).leg side.other).credited = credit (first.transfers side inputs)
  exactly : Unfailing (first.transfers side inputs) →
    ((first.run inputs).leg side.other).credited =
      ((first.run inputs).writtenTo side.other).length
  atMost : ((first.run inputs).leg side.other).credited ≤
    ((first.run inputs).writtenTo side.other).length
  almost : ((first.run inputs).writtenTo side.other).length <
    ((first.run inputs).leg side.other).credited + buffer

/-- What is written is in order and not far ahead of what is counted, before and
after a failed write. -/
theorem Flow.bounds (hFlow : Flow buffer r side ts) (hBuffer : 0 < buffer) :
    r.writtenTo side.other <+: r.readFrom side ∧
      (r.leg side.other).credited ≤ (r.writtenTo side.other).length ∧
      (r.writtenTo side.other).length < (r.leg side.other).credited + buffer := by
  by_cases hUnfailing : Unfailing ts
  · obtain ⟨hSame, hCount⟩ := hFlow.intact hUnfailing
    rw [hCount, hSame]
    exact ⟨List.prefix_rfl, Nat.le_refl _, Nat.lt_add_of_pos_right hBuffer⟩
  · obtain ⟨hPrefix, hLe, hLt, -⟩ := hFlow.failed hUnfailing
    exact ⟨hPrefix, hLe, hLt⟩

/-- **A relay hands on what it reads, in order**, whatever fails. -/
theorem handsOn_start (idle : Option Nat) (client remote : Stream.Writer) {inputs : List RelayInput}
    (hBuffer : 0 < buffer)
    (hSize : ∀ origin piece, .read origin (.data piece) ∈ inputs → piece.length ≤ buffer)
    (side : Side) : HandsOn (start idle client remote) inputs side buffer := by
  have hFlow := flow_run (flow_start buffer idle client remote side) inputs hSize
  rw [List.nil_append] at hFlow
  obtain ⟨hPrefix, hLe, hLt⟩ := hFlow.bounds hBuffer
  refine ⟨hFlow.read, hFlow.written, hPrefix, fun h => (hFlow.intact h).1, ?_, hFlow.credited,
    fun h => (hFlow.intact h).2, hLe, hLt⟩
  intro hOver more
  rw [run, List.foldl_append]
  refine Stopped.run ?_ more
  rcases hOver with hFailed | hShut
  · exact (hFlow.failed hFailed).2.2.2
  · exact Or.inr (hFlow.shut hShut)

end Relay

/-! ### Without a remote end -/

/-- The bytes that an input brings from a side. -/
def RelayInput.sent (side : Side) : RelayInput → List UInt8
  | .read origin (.data piece) => if origin = side then piece else []
  | _ => []

namespace Sink

/-- The bytes that are read in a run. -/
def taken (s : Sink) : List RelayInput → List UInt8
  | [] => []
  | input :: inputs =>
    (if s.exit.isNone then input.sent .client else []) ++ (s.step input).taken inputs

theorem discarded_checkIdle (s : Sink) : s.checkIdle.discarded = s.discarded := by
  unfold checkIdle
  repeat' split
  all_goals rfl

theorem discarded_step (s : Sink) (input : RelayInput) :
    (s.step input).discarded =
      s.discarded + (if s.exit.isNone then input.sent .client else []).length := by
  unfold step
  cases s.exit.isNone with
  | false => rfl
  | true =>
    cases input with
    | pass millis => exact discarded_checkIdle _
    | read origin result =>
      cases origin with
      | remote => cases result <;> rfl
      | client =>
        cases result with
        | eof => rfl
        | data piece => cases piece <;> rfl
        | fault f =>
          simp only [if_true, onRead]
          split <;> rfl

/-- **Every byte that is read is counted, and none besides.** -/
theorem discarded_run (s : Sink) (inputs : List RelayInput) :
    (s.run inputs).discarded = s.discarded + (s.taken inputs).length := by
  induction inputs generalizing s with
  | nil => rfl
  | cons input inputs ih =>
    rw [run, List.foldl_cons]
    refine (ih (s.step input)).trans ?_
    rw [discarded_step, taken, List.length_append, Nat.add_assoc]

end Sink

/-! ### The counts of a session -/

namespace Handler

/-- **A session's relay hands on what it reads, and counts the pieces that are
through.**  No read gives more than `buffer` bytes, and everything else may happen
in any order, the inputs being all that has happened so far.  Each side's bytes
reach the other side in order, as `Relay.HandsOn` tells, and the two counts of the
session grow by the pieces that were written completely.  Without a remote end the
session's count of received bytes grows by what was read, and nothing else
happens. -/
theorem relay_hands_on {σ : Type} (idle : Option Nat) (st : State σ) {inputs : List RelayInput}
    {buffer : Nat} (hBuffer : 0 < buffer)
    (hSize : ∀ origin piece, .read origin (.data piece) ∈ inputs → piece.length ≤ buffer) :
    let after := (relay idle inputs st).1
    (∀ peer, st.outbound = some peer →
      let first := Relay.start idle st.writer peer.writer
      (∀ side, Relay.HandsOn first inputs side buffer) ∧
        after.relayed = (first.run inputs).writtenTo .client ∧
        after.session.bytesTx =
          st.session.bytesTx + (Relay.credit (first.transfers .client inputs)).toUInt64 ∧
        after.session.bytesRx =
          st.session.bytesRx + (Relay.credit (first.transfers .remote inputs)).toUInt64) ∧
      (st.outbound = none →
        ∃ s, after = { st with session := s } ∧ s.bytesTx = st.session.bytesTx ∧
          s.bytesRx =
            st.session.bytesRx + (({ idle : Sink } : Sink).taken inputs).length.toUInt64) := by
  intro after
  refine ⟨fun peer hPeer => ?_, fun hNone => ?_⟩
  · intro first
    have hHands := Relay.handsOn_start idle st.writer peer.writer hBuffer hSize
    have hTx : (first.run inputs).remote.credited = _ := (hHands .client).credited
    have hRx : (first.run inputs).client.credited = _ := (hHands .remote).credited
    refine ⟨hHands, ?_, ?_, ?_⟩
    · simp only [after, relay, hPeer]
      rfl
    · rw [← hTx]
      simp only [after, relay, hPeer]
      rfl
    · rw [← hRx]
      simp only [after, relay, hPeer]
      rfl
  · refine ⟨(relay idle inputs st).1.session, ?_, ?_, ?_⟩
    · simp only [after, relay, hNone]
    · simp only [relay, hNone]
      rfl
    · have hCount := Sink.discarded_run { idle : Sink } inputs
      rw [Nat.zero_add] at hCount
      rw [← hCount]
      simp only [relay, hNone]
      rfl

/-- The remote end takes two bytes of three and is gone, so that nothing of the
client's is counted; what it has sent still gets through. -/
theorem relay_hands_on_gone :
    let peer : Peer :=
      { incoming := { bytes := [], ending := .silence }
        writer := { next := [.takes 2, .fails ⟨.brokenPipe, "Broken pipe"⟩] } }
    let st : State Unit :=
      { session := .accept 1 ⟨1, { port := 1080, kind := .socks }⟩ {} 0
        engine := { rules := [] }, world := (), writer := {}, outbound := some peer }
    let inputs : List RelayInput :=
      [.read .client (.data [1, 2, 3]), .read .client (.data [4]), .read .remote (.data [9])]
    (0 < 4 ∧ ∀ origin piece, .read origin (.data piece) ∈ inputs → piece.length ≤ 4) ∧
      (relay none inputs st).1.session.bytesTx = 0 ∧
      (relay none inputs st).1.session.bytesRx = 1 := by
  intro peer st inputs
  have hSize : ∀ origin piece, .read origin (.data piece) ∈ inputs → piece.length ≤ 4 := by
    intro origin piece h
    simp only [inputs, List.mem_cons, List.not_mem_nil, or_false] at h
    rcases h with h | h | h <;> cases h <;> decide
  obtain ⟨-, -, hTx, hRx⟩ := (relay_hands_on none st (by decide : 0 < 4) hSize).1 peer rfl
  refine ⟨⟨by decide, hSize⟩, ?_, ?_⟩
  · rw [hTx]
    simp only [st, peer, inputs]
    decide +kernel
  · rw [hRx]
    simp only [st, peer, inputs]
    decide +kernel

end Handler

end SocksGateway
