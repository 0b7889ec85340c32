import SocksGateway.Handler
import SocksGateway.Proofs.Relay.Clock
import SocksGateway.Proofs.Relay.Delivery

/-!
# The idle timeout

The clock of a relay is looked at only when there is nothing to read, and a session
whose relay times out keeps what it has done.

* `Source.readsLeft_read?`: every read uses up a part of what has arrived.
* `Pumped.readsFirst`, `PumpedSink.readsFirst`: all that has arrived is read first.
* `Handler.relay_of_overdue`: a session whose relay has waited for too long.
* `idle_timeout`: when a relay times out, with a remote end and without one.
-/

namespace SocksGateway

/-! ### What has arrived is read first -/

namespace Source

variable {buffer : Nat} {s rest : Source} {result : Read}

theorem unread_cons (item : SourceItem) (queue : List SourceItem) (ended : Bool) :
    (⟨item :: queue, ended⟩ : Source).unread = item.size + (⟨queue, ended⟩ : Source).unread := by
  have hFrom (n : Nat) : queue.foldl (fun n item => n + item.size) n =
      n + queue.foldl (fun n item => n + item.size) 0 := by
    induction queue generalizing n with
    | nil => rfl
    | cons item queue ih =>
      rw [List.foldl_cons, ih, List.foldl_cons, ih (0 + item.size)]
      omega
  simp only [unread, List.foldl_cons]
  rw [hFrom]
  omega

/-- **Every read but that of the end uses up a part of what has arrived.** -/
theorem readsLeft_read? (hBuffer : 0 < buffer) (hRead : s.read? buffer = some (result, rest)) :
    result = .eof ∨ rest.readsLeft < s.readsLeft := by
  obtain ⟨queue, ended⟩ := s
  cases queue with
  | nil =>
    cases ended with
    | false => cases hRead
    | true =>
      cases hRead
      exact Or.inl rfl
  | cons item queue =>
    refine Or.inr ?_
    cases item with
    | fault f =>
      cases hRead
      simp only [readsLeft, unread_cons, List.length_cons]
      omega
    | piece bytes =>
      cases hRead
      simp only [readsLeft, unread_cons, SourceItem.size, List.length_cons]
      split
      · omega
      · rename_i hLeft
        have hLong : buffer < bytes.length := by
          simpa [List.isEmpty_iff, List.drop_eq_nil_iff] using hLeft
        simp only [unread_cons, SourceItem.size, List.length_cons, List.length_drop]
        omega

end Source

namespace Pumped

variable {buffer : Nat} {p q : Pumped} {side : Side}

theorem readSide?_eq_none_iff :
    p.readSide? buffer side = none ↔ (p.relay.exit = none → (p.relay.leg side).readable = true →
      (p.source side).read? buffer = none) := by
  unfold readSide?
  by_cases hOpen : (p.relay.isWaiting && (p.relay.leg side).readable) = true
  · obtain ⟨hWaiting, hReadable⟩ := Bool.and_eq_true_iff.mp hOpen
    have hExit : p.relay.exit = none := Option.isNone_iff_eq_none.mp hWaiting
    rw [if_pos hOpen]
    cases side with
    | client => simp [hExit, hReadable, source]
    | remote => simp [hExit, hReadable, source]
  · rw [if_neg hOpen]
    refine ⟨fun _ hExit hReadable => absurd ?_ hOpen, fun _ => rfl⟩
    simp [Relay.isWaiting, hExit, hReadable]

/-- As many reads as a side can still give. -/
def readsLeft (p : Pumped) (side : Side) : Nat :=
  if (p.relay.leg side).readable then (p.source side).readsLeft else 0

theorem readSide?_of_readsLeft (hNone : p.readsLeft side = 0) : p.readSide? buffer side = none := by
  rw [readSide?_eq_none_iff]
  intro _ hReadable
  rw [readsLeft, if_pos hReadable, Source.readsLeft] at hNone
  omega

theorem readable_of_read (hRead : p.readSide? buffer side = some q) (s : Side)
    (hReadable : (q.relay.leg s).readable = true) : (p.relay.leg s).readable = true := by
  obtain ⟨hWaiting, -, result, -, hRelay, -⟩ := readSide?_eq_some_iff.mp hRead
  rw [hRelay] at hReadable
  rcases Relay.event_step hWaiting (.read side result) with ⟨event, -, hFollows⟩ | ⟨-, hLegs, -⟩
  · exact ((hFollows.readable s).mp hReadable).1
  · rwa [hLegs] at hReadable

/-- **Every read brings the end of what has arrived nearer.** -/
theorem readsLeft_of_read (hBuffer : 0 < buffer) (hRead : p.readSide? buffer side = some q) :
    q.readsLeft side < p.readsLeft side ∧ q.readsLeft side.other ≤ p.readsLeft side.other := by
  have hStill := readable_of_read hRead
  obtain ⟨hWaiting, hReadable, result, hResult, hRelay, hOther⟩ := readSide?_eq_some_iff.mp hRead
  constructor
  · rw [readsLeft, readsLeft, if_pos hReadable]
    rcases Source.readsLeft_read? hBuffer hResult with rfl | hLess
    · have hAnswers := Relay.answers_step hWaiting (.read side .eof)
      rw [← hRelay] at hAnswers
      generalize q.relay = next at hAnswers
      cases hAnswers with
      | unheard hUnread =>
        rw [hReadable] at hUnread
        cases hUnread
      | eof _ _ hSource _ _ =>
        rw [hSource, if_neg (by simp [Leg.ended]), Source.readsLeft]
        omega
    · split
      · exact hLess
      · exact Nat.lt_of_le_of_lt (Nat.zero_le _) hLess
  · rw [readsLeft, readsLeft, hOther]
    by_cases hAcross : (q.relay.leg side.other).readable = true
    · exact Nat.le_of_eq (by rw [if_pos hAcross, if_pos (hStill _ hAcross)])
    · rw [if_neg hAcross]
      exact Nat.zero_le _

theorem exhausted_pumpFor (hBuffer : 0 < buffer) {fuel : Nat}
    (hFuel : p.readsLeft .client + p.readsLeft .remote ≤ fuel) (side : Side) :
    (p.pumpFor buffer fuel).readSide? buffer side = none := by
  induction fuel generalizing p with
  | zero =>
    refine readSide?_of_readsLeft ?_
    cases side <;> simp only [pumpFor] <;> omega
  | succ fuel ih =>
    unfold pumpFor
    split
    · rename_i q hRead
      have hLess := readsLeft_of_read hBuffer hRead
      exact ih (by simp only [Side.other] at hLess; omega)
    · rename_i hClient
      split
      · rename_i q hRead
        have hLess := readsLeft_of_read hBuffer hRead
        exact ih (by simp only [Side.other] at hLess; omega)
      · rename_i hRemote
        cases side with
        | client => exact hClient
        | remote => exact hRemote

theorem exit_pumpFor_ne_idle (fuel : Nat) (hExit : p.relay.exit ≠ some .idle) :
    (p.pumpFor buffer fuel).relay.exit ≠ some .idle := by
  have hKeeps {p q : Pumped} {side : Side} (hRead : p.readSide? buffer side = some q) :
      q.relay.exit ≠ some .idle := by
    obtain ⟨hWaiting, -, result, -, hRelay, -⟩ := readSide?_eq_some_iff.mp hRead
    rw [hRelay]
    exact Relay.exit_read_ne_idle hWaiting result
  induction fuel generalizing p with
  | zero => exact hExit
  | succ fuel ih =>
    unfold pumpFor
    split
    · exact ih (hKeeps ‹_›)
    · split
      · exact ih (hKeeps ‹_›)
      · exact hExit

/-- What has arrived is read before time passes. -/
structure ReadsFirst (buffer : Nat) (p : Pumped) : Prop where
  notIdle : p.relay.exit ≠ some .idle → (p.pump buffer).relay.exit ≠ some .idle
  /-- Then no side that is read has anything to give. -/
  exhausted : (p.pump buffer).relay.exit = none → ∀ side,
    ((p.pump buffer).relay.leg side).readable = true →
      ((p.pump buffer).source side).read? buffer = none

/-- **All that has arrived is read before the clock is looked at.** -/
theorem readsFirst (hBuffer : 0 < buffer) (p : Pumped) : p.ReadsFirst buffer := by
  refine ⟨exit_pumpFor_ne_idle _, fun hExit side => readSide?_eq_none_iff.mp ?_ hExit⟩
  refine exhausted_pumpFor hBuffer (Nat.add_le_add ?_ ?_) side <;> rw [readsLeft]
  · split
    · exact Nat.le_refl _
    · exact Nat.zero_le _
  · split
    · exact Nat.le_refl _
    · exact Nat.zero_le _

end Pumped

namespace PumpedSink

variable {buffer : Nat} {p : PumpedSink}

theorem exhausted_pumpFor (hBuffer : 0 < buffer) {fuel : Nat}
    (hFuel : p.sink.exit = none → p.client.readsLeft ≤ fuel)
    (hExit : (p.pumpFor buffer fuel).sink.exit = none) :
    (p.pumpFor buffer fuel).client.read? buffer = none := by
  induction fuel generalizing p with
  | zero =>
    have hNone := hFuel hExit
    rw [Source.readsLeft] at hNone
    omega
  | succ fuel ih =>
    unfold pumpFor at hExit ⊢
    by_cases hWaiting : p.sink.exit = none
    · simp only [hWaiting, Option.isNone_none, if_true] at hExit ⊢
      cases hRead : p.client.read? buffer with
      | none =>
        simp only [hRead]
      | some taken =>
        obtain ⟨result, rest⟩ := taken
        simp only [hRead] at hExit ⊢
        refine ih (fun hStill => ?_) hExit
        rcases Source.readsLeft_read? hBuffer hRead with rfl | hLess
        · rw [Sink.step_read hWaiting] at hStill
          cases hStill
        · exact Nat.le_of_lt_succ (Nat.lt_of_lt_of_le hLess (hFuel hWaiting))
    · rw [if_neg (by simpa using hWaiting)] at hExit
      exact absurd hExit hWaiting

theorem exit_pumpFor_ne_idle (fuel : Nat) (hExit : p.sink.exit ≠ some .idle) :
    (p.pumpFor buffer fuel).sink.exit ≠ some .idle := by
  induction fuel generalizing p with
  | zero => exact hExit
  | succ fuel ih =>
    unfold pumpFor
    by_cases hWaiting : p.sink.exit = none
    · simp only [hWaiting, Option.isNone_none, if_true]
      split
      · refine ih ?_
        rw [Sink.step_read hWaiting]
        exact Sink.exit_onRead_ne_idle hWaiting _
      · exact hExit
    · rw [if_neg (by simpa using hWaiting)]
      exact hExit

/-- What has arrived is read before time passes. -/
structure ReadsFirst (buffer : Nat) (p : PumpedSink) : Prop where
  notIdle : p.sink.exit ≠ some .idle → (p.pump buffer).sink.exit ≠ some .idle
  exhausted : (p.pump buffer).sink.exit = none → (p.pump buffer).client.read? buffer = none

theorem readsFirst (hBuffer : 0 < buffer) (p : PumpedSink) : p.ReadsFirst buffer :=
  ⟨exit_pumpFor_ne_idle _, exhausted_pumpFor hBuffer fun _ => Nat.le_refl _⟩

end PumpedSink

/-! ### A session whose relay times out -/

namespace Handler

variable {σ : Type}

/-- **The relay of a session, or its sink, waits for too long** behind `before`. -/
def Overdue (idle : Option Nat) (st : State σ) (limit : Nat) (inputs before : List RelayInput) :
    Prop :=
  match st.outbound with
  | some peer =>
    relayLoop.Overdue (Relay.start idle st.writer peer.writer) limit inputs before
  | none => sinkLoop.Overdue { idle } limit inputs before

theorem relay_of_overdue {idle : Option Nat} {st : State σ} {limit : Nat}
    {inputs before : List RelayInput} (hLimit : idle = some limit)
    (hOverdue : Overdue idle st limit inputs before) :
    relay idle inputs st = ((relay idle before st).1, some (.ok ())) := by
  unfold Overdue at hOverdue
  unfold relay
  cases hPeer : st.outbound with
  | some peer =>
    rw [hPeer] at hOverdue
    obtain ⟨hIdle, hDeeds⟩ := hOverdue.idle rfl hLimit
    replace hIdle : ((Relay.start idle st.writer peer.writer).run inputs).exit = _ := hIdle
    obtain ⟨hClient, hRemote⟩ := Prod.mk.inj hDeeds
    replace hClient : ((Relay.start idle st.writer peer.writer).run inputs).client =
      ((Relay.start idle st.writer peer.writer).run before).client := hClient
    replace hRemote : ((Relay.start idle st.writer peer.writer).run inputs).remote =
      ((Relay.start idle st.writer peer.writer).run before).remote := hRemote
    simp only [count, resultOf, hIdle, hClient, hRemote, Option.map_some]
  | none =>
    rw [hPeer] at hOverdue
    obtain ⟨hIdle, hDeeds⟩ := hOverdue.idle rfl hLimit
    replace hIdle : (({ idle } : Sink).run inputs).exit = _ := hIdle
    replace hDeeds : (({ idle } : Sink).run inputs).discarded =
      (({ idle } : Sink).run before).discarded := hDeeds
    simp only [countDiscarded, resultOf, hIdle, hDeeds, Option.map_some]

end Handler

/-- **A relay times out exactly when it waits for as long as its limit**, with a remote end and
without one.  Each wait is timed from its beginning, at the start or at the last read of a side
that was still read, whatever that read gave; reads of other sides do not count.  All that has
arrived when a wait begins is read before the clock is looked at.  A session whose relay times out
ends well, with all that was handed on and counted before the last wait, and nothing more. -/
theorem idle_timeout (idle : Option Nat) (client remote : Stream.Writer)
    (inputs : List RelayInput) :
    relayLoop.TimesOut (Relay.start idle client remote) inputs ∧
      sinkLoop.TimesOut { idle } inputs ∧
      (∀ buffer, 0 < buffer → (∀ p : Pumped, p.ReadsFirst buffer) ∧
        ∀ p : PumpedSink, p.ReadsFirst buffer) ∧
      ∀ (σ : Type) (st : Handler.State σ) (limit : Nat) (before : List RelayInput),
        idle = some limit → Handler.Overdue idle st limit inputs before →
          Handler.relay idle inputs st = ((Handler.relay idle before st).1, some (.ok ())) := by
  refine ⟨Loop.timesOut rfl rfl inputs, Loop.timesOut rfl rfl inputs, fun buffer hBuffer => ?_,
    fun σ st limit before hLimit hOverdue => Handler.relay_of_overdue hLimit hOverdue⟩
  exact ⟨Pumped.readsFirst hBuffer, PumpedSink.readsFirst hBuffer⟩

/-- The client's end starts the last wait; what the remote end still sends comes too late. -/
example :
    ((Relay.start (some 5) {} {}).run
      [.pass 4, .read .client (.data [1]), .pass 4, .read .client .eof, .pass 4,
        .read .client (.data [2]), .pass 1, .read .remote (.data [3])]).exit = some .idle := by
  decide +kernel

end SocksGateway
