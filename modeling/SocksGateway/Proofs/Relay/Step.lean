import SocksGateway.Relay.Basic

/-!
# One input of a relay

`Relay.step` treats the two sides alike.  This file says once what it does, in
terms of the side that was read and the side that its bytes go to.

* `step_pass`, `step_read`, `step_unread`: what a waiting relay does with an input.
* `Answers`: the ways in which a waiting relay answers an input, each with what
  becomes of the two legs and of the exit.
* `answers_step`: `Relay.step` is one of these ways.
* `Answers.untouched`: the bytes of one side do not touch those of the other.
-/

namespace SocksGateway

@[simp] theorem Side.other_other (side : Side) : side.other.other = side := by
  cases side <;> rfl

theorem Side.eq_or_eq_other (origin side : Side) : origin = side ∨ origin = side.other := by
  cases origin <;> cases side <;> simp [Side.other]

theorem Side.other_ne (side : Side) : side.other ≠ side := by
  cases side <;> simp [Side.other]

/-! ### Legs -/

namespace Leg

@[simp] theorem writable_shutdown (l : Leg) : l.shutdown.writable = false := by
  unfold shutdown
  cases h : l.writable <;> simp [h]

@[simp] theorem readable_shutdown (l : Leg) : l.shutdown.readable = l.readable := by
  unfold shutdown
  split <;> rfl

@[simp] theorem received_shutdown (l : Leg) : l.shutdown.received = l.received := by
  unfold shutdown
  split <;> rfl

@[simp] theorem written_shutdown (l : Leg) : l.shutdown.written = l.written := by
  unfold shutdown
  split <;> rfl

@[simp] theorem credited_shutdown (l : Leg) : l.shutdown.credited = l.credited := by
  unfold shutdown
  split <;> rfl

@[simp] theorem received_hand (l : Leg) (piece : List UInt8) :
    (l.hand piece).1.received = l.received := by
  unfold hand
  split
  · dsimp only
    repeat' split
    all_goals rfl
  · rfl

theorem le_credited_hand (l : Leg) (piece : List UInt8) :
    l.credited ≤ (l.hand piece).1.credited := by
  unfold hand
  split
  · dsimp only
    repeat' split
    · exact Nat.le_add_right _ _
    all_goals exact Nat.le_refl _
  · exact Nat.le_refl _

@[simp] theorem readable_hand (l : Leg) (piece : List UInt8) :
    (l.hand piece).1.readable = l.readable := by
  unfold hand
  split
  · dsimp only
    repeat' split
    all_goals rfl
  · rfl

end Leg

namespace Relay

variable {r : Relay} {side : Side}

/-! ### The legs of a relay -/

@[simp] theorem leg_setLeg (r : Relay) (side : Side) (l : Leg) :
    (r.setLeg side l).leg side = l := by
  cases side <;> rfl

@[simp] theorem leg_other_setLeg (r : Relay) (side : Side) (l : Leg) :
    (r.setLeg side l).leg side.other = r.leg side.other := by
  cases side <;> rfl

@[simp] theorem leg_setLeg_other (r : Relay) (side : Side) (l : Leg) :
    (r.setLeg side.other l).leg side = r.leg side := by
  cases side <;> rfl

@[simp] theorem exit_setLeg (r : Relay) (side : Side) (l : Leg) :
    (r.setLeg side l).exit = r.exit := by
  cases side <;> rfl

theorem leg_congr {q : Relay} (hClient : q.client = r.client) (hRemote : q.remote = r.remote)
    (side : Side) : q.leg side = r.leg side := by
  cases side with
  | client => exact hClient
  | remote => exact hRemote

@[simp] theorem leg_check (r : Relay) (side : Side) : r.check.leg side = r.leg side := by
  unfold check
  split
  · exact leg_congr rfl rfl side
  · rfl

theorem isDone_congr {q : Relay} (hLegs : ∀ side, q.leg side = r.leg side) :
    q.isDone = r.isDone := by
  have hClient : q.client = r.client := hLegs .client
  have hRemote : q.remote = r.remote := hLegs .remote
  simp only [isDone, hClient, hRemote]

/-! ### Inputs of a waiting relay -/

/-- **Time without a read only counts, up to the limit.** -/
theorem step_pass (hWaiting : r.exit = none) (millis : Nat) :
    r.step (.pass millis) =
      { r with
          waited := r.waited + millis
          exit := if r.idle.any (· ≤ r.waited + millis) then some .idle else none } := by
  have hOpen : r.isWaiting = true := by rw [isWaiting, hWaiting]; rfl
  rw [step, if_pos hOpen]
  cases hLimit : r.idle with
  | none => simp [checkIdle, hWaiting]
  | some limit => by_cases hLate : limit ≤ r.waited + millis <;> simp [checkIdle, hLate, hWaiting]

theorem step_read (hWaiting : r.exit = none) (hReadable : (r.leg side).readable = true)
    (result : Read) : r.step (.read side result) = { r.onRead side result with waited := 0 } := by
  have hOpen : r.isWaiting = true := by rw [isWaiting, hWaiting]; rfl
  rw [step, if_pos hOpen]
  exact if_pos hReadable

theorem step_unread (hWaiting : r.exit = none) (hUnread : (r.leg side).readable = false)
    (result : Read) : r.step (.read side result) = r := by
  have hOpen : r.isWaiting = true := by rw [isWaiting, hWaiting]; rfl
  rw [step, if_pos hOpen]
  exact if_neg (by simp [hUnread])

/-! ### The answers -/

/-- The relay has ended if nothing is left to relay, and goes on otherwise. -/
def Checked (r : Relay) : Prop := r.exit = if r.isDone then some .closed else none

theorem checked_check (hWaiting : r.exit = none) : Checked { r.check with waited := 0 } := by
  have hDone : ({ r.check with waited := 0 } : Relay).isDone = r.isDone :=
    isDone_congr fun side => (leg_congr rfl rfl side).trans (leg_check r side)
  rw [Checked, hDone]
  unfold check
  split
  · rfl
  · exact hWaiting

/-- **The ways in which a waiting relay answers an input.** -/
inductive Answers (r : Relay) : RelayInput → Relay → Prop
  /-- A side that is no longer read is not heard. -/
  | unheard {side : Side} {result : Read} (hReadable : (r.leg side).readable = false) :
      Answers r (.read side result) r
  | passed {millis : Nat} {q : Relay} (hLegs : ∀ side, q.leg side = r.leg side)
      (hExit : q.exit = none ∨ q.exit = some .idle) : Answers r (.pass millis) q
  | eof {side : Side} {result : Read} {q : Relay} (hResult : result = .eof ∨ result = .data [])
      (hReadable : (r.leg side).readable = true) (hSource : q.leg side = (r.leg side).ended)
      (hSink : q.leg side.other = (r.leg side.other).shutdown) (hExit : q.Checked) :
      Answers r (.read side result) q
  /-- A piece is handed on or thrown away, and the relay may go on. -/
  | handed {side : Side} {piece : List UInt8} {q : Relay} (hSome : piece ≠ [])
      (hReadable : (r.leg side).readable = true)
      (hSource : q.leg side =
        { r.leg side with received := (r.leg side).received.extend piece })
      (hSink : q.leg side.other = ((r.leg side.other).hand piece).1)
      (hFault : ((r.leg side.other).hand piece).2 = none) (hExit : q.Checked) :
      Answers r (.read side (.data piece)) q
  /-- Handing a piece on fails, and ends the relay. -/
  | broken {side : Side} {piece : List UInt8} {q : Relay} {f : Stream.Fault} (hSome : piece ≠ [])
      (hReadable : (r.leg side).readable = true)
      (hSource : q.leg side =
        { r.leg side with received := (r.leg side).received.extend piece })
      (hSink : q.leg side.other = ((r.leg side.other).hand piece).1)
      (hFault : ((r.leg side.other).hand piece).2 = some f)
      (hExit : q.exit = some (.failed (.stream f))) :
      Answers r (.read side (.data piece)) q
  | reset {side : Side} {f : Stream.Fault} {q : Relay} (hReset : f.isReset = true)
      (hReadable : (r.leg side).readable = true) (hSource : q.leg side = (r.leg side).cut)
      (hSink : q.leg side.other = r.leg side.other) (hExit : q.Checked) :
      Answers r (.read side (.fault f)) q
  | fault {side : Side} {f : Stream.Fault} {q : Relay} (hReset : f.isReset = false)
      (hReadable : (r.leg side).readable = true) (hLegs : ∀ side, q.leg side = r.leg side)
      (hExit : q.exit = some (.failed (.stream f))) :
      Answers r (.read side (.fault f)) q

theorem answers_onEof {result : Read} (hWaiting : r.exit = none)
    (hResult : result = .eof ∨ result = .data []) (hReadable : (r.leg side).readable = true) :
    Answers r (.read side result) { r.onEof side with waited := 0 } := by
  have hLeg (s : Side) : ({ r.onEof side with waited := 0 } : Relay).leg s =
      (r.onEof side).leg s := leg_congr rfl rfl s
  refine .eof hResult hReadable ?_ ?_ (checked_check (by simpa using hWaiting))
  · rw [hLeg]
    simp [onEof]
  · rw [hLeg]
    simp [onEof]

theorem answers_onData {piece : List UInt8} (hWaiting : r.exit = none) (hSome : piece ≠ [])
    (hReadable : (r.leg side).readable = true) :
    Answers r (.read side (.data piece)) { r.onData side piece with waited := 0 } := by
  have hLeg (s : Side) : ({ r.onData side piece with waited := 0 } : Relay).leg s =
      (r.onData side piece).leg s := leg_congr rfl rfl s
  cases hHand : (r.leg side.other).hand piece with
  | mk l fault =>
    cases fault with
    | none =>
      refine .handed hSome hReadable ?_ ?_ (by rw [hHand]) ?_
      · rw [hLeg]
        simp [onData, hHand]
      · rw [hLeg]
        simp [onData, hHand]
      · simp only [onData, leg_other_setLeg, hHand]
        exact checked_check (by simpa using hWaiting)
    | some f =>
      have hFailed (t : Relay) (s : Side) :
          ({ t with exit := some (.failed (.stream f)) } : Relay).leg s = t.leg s :=
        leg_congr rfl rfl s
      refine .broken hSome hReadable ?_ ?_ (by rw [hHand]) ?_
      · rw [hLeg]
        simp only [onData, leg_other_setLeg, hHand, hFailed, leg_setLeg_other, leg_setLeg]
      · rw [hLeg]
        simp only [onData, leg_other_setLeg, hHand, hFailed, leg_setLeg]
      · simp only [onData, leg_other_setLeg, hHand]

theorem answers_onFault {f : Stream.Fault} (hWaiting : r.exit = none)
    (hReadable : (r.leg side).readable = true) :
    Answers r (.read side (.fault f)) { r.onFault side f with waited := 0 } := by
  have hLeg (s : Side) : ({ r.onFault side f with waited := 0 } : Relay).leg s =
      (r.onFault side f).leg s := leg_congr rfl rfl s
  cases hReset : f.isReset with
  | true =>
    refine .reset hReset hReadable ?_ ?_ ?_
    · rw [hLeg]
      simp [onFault, hReset]
    · rw [hLeg]
      simp [onFault, hReset]
    · simp only [onFault, hReset, if_true]
      exact checked_check (by simpa using hWaiting)
  | false =>
    refine .fault hReset hReadable (fun s => ?_) (by simp [onFault, hReset])
    rw [hLeg]
    simp only [onFault, hReset, Bool.false_eq_true, if_false]
    exact leg_congr rfl rfl s

/-- **A waiting relay answers an input in one of these ways.** -/
theorem answers_step (hWaiting : r.exit = none) (input : RelayInput) :
    Answers r input (r.step input) := by
  cases input with
  | pass millis =>
    rw [step_pass hWaiting]
    refine .passed (fun s => leg_congr rfl rfl s) ?_
    dsimp only
    split
    · exact Or.inr rfl
    · exact Or.inl rfl
  | read side result =>
    cases hReadable : (r.leg side).readable with
    | false =>
      rw [step_unread hWaiting hReadable]
      exact .unheard hReadable
    | true =>
      rw [step_read hWaiting hReadable]
      cases result with
      | eof => exact answers_onEof hWaiting (Or.inl rfl) hReadable
      | fault f => exact answers_onFault hWaiting hReadable
      | data piece =>
        cases piece with
        | nil => exact answers_onEof hWaiting (Or.inr rfl) hReadable
        | cons b bs => exact answers_onData hWaiting (by simp) hReadable

theorem step_of_exit (hExit : r.exit ≠ none) (input : RelayInput) : r.step input = r := by
  have hEnded : r.isWaiting = false := by
    cases hExit' : r.exit with
    | none => exact absurd hExit' hExit
    | some e => rw [isWaiting, hExit']; rfl
  simp only [step, hEnded, Bool.false_eq_true, if_false]

theorem run_of_exit (hExit : r.exit ≠ none) (inputs : List RelayInput) : r.run inputs = r := by
  induction inputs with
  | nil => rfl
  | cons input inputs ih => rw [run, List.foldl_cons, step_of_exit hExit, ← run, ih]

theorem Answers.le_credited {q : Relay} {input : RelayInput} (hAnswers : Answers r input q)
    (side : Side) : (r.leg side).credited ≤ (q.leg side).credited := by
  -- An answer to a read tells of the side that was read and of the other one.
  have hBoth {origin : Side} (hSource : (q.leg origin).credited = (r.leg origin).credited)
      (hSink : (r.leg origin.other).credited ≤ (q.leg origin.other).credited) :
      (r.leg side).credited ≤ (q.leg side).credited := by
    rcases Side.eq_or_eq_other side origin with rfl | rfl
    · exact Nat.le_of_eq hSource.symm
    · exact hSink
  cases hAnswers with
  | unheard hReadable => exact Nat.le_refl _
  | passed hLegs hExit => exact Nat.le_of_eq (by rw [hLegs])
  | eof hResult hReadable hSource hSink hExit =>
    exact hBoth (by rw [hSource]; rfl) (Nat.le_of_eq (by rw [hSink, Leg.credited_shutdown]))
  | handed hSome hReadable hSource hSink hFault hExit =>
    exact hBoth (by rw [hSource]) (by rw [hSink]; exact Leg.le_credited_hand ..)
  | broken hSome hReadable hSource hSink hFault hExit =>
    exact hBoth (by rw [hSource]) (by rw [hSink]; exact Leg.le_credited_hand ..)
  | reset hReset hReadable hSource hSink hExit =>
    exact hBoth (by rw [hSource]; rfl) (Nat.le_of_eq (by rw [hSink]))
  | fault hReset hReadable hLegs hExit => exact Nat.le_of_eq (by rw [hLegs])

theorem le_credited_step (r : Relay) (input : RelayInput) (side : Side) :
    (r.leg side).credited ≤ ((r.step input).leg side).credited := by
  by_cases hWaiting : r.exit = none
  · exact (answers_step hWaiting input).le_credited side
  · exact Nat.le_of_eq (by rw [step_of_exit hWaiting])

theorem le_credited_run (r : Relay) (inputs : List RelayInput) (side : Side) :
    (r.leg side).credited ≤ ((r.run inputs).leg side).credited := by
  induction inputs generalizing r with
  | nil => exact Nat.le_refl _
  | cons input inputs ih => exact Nat.le_trans (le_credited_step r input side) (ih (r.step input))

/-! ### The way from one side to the other -/

/-- Nothing has happened on the way from the side to the one across from it. -/
structure Untouched (r q : Relay) (side : Side) : Prop where
  received : (q.leg side).received = (r.leg side).received
  readable : (q.leg side).readable = (r.leg side).readable
  written : (q.leg side.other).written = (r.leg side.other).written
  credited : (q.leg side.other).credited = (r.leg side.other).credited
  writer : (q.leg side.other).writer = (r.leg side.other).writer
  writable : (q.leg side.other).writable = (r.leg side.other).writable
  shutdowns : (q.leg side.other).shutdowns = (r.leg side.other).shutdowns

theorem untouched_of_legs {q : Relay} (hLegs : ∀ side, q.leg side = r.leg side) (side : Side) :
    Untouched r q side := by
  constructor <;> rw [hLegs]

/-- **What comes from one side happens on the way to the other one**, unless the
side is reset. -/
theorem Answers.untouched {q : Relay} {result : Read}
    (hAnswers : Answers r (.read side.other result) q)
    (hReset : ∀ f, result = .fault f → f.isReset = false) : Untouched r q side := by
  cases hAnswers with
  | unheard hReadable => exact untouched_of_legs (fun _ => rfl) side
  | eof hResult hReadable hSource hSink hExit =>
    rw [Side.other_other] at hSink
    constructor
    · simp [hSink]
    · simp [hSink]
    all_goals rw [hSource]; rfl
  | handed hSome hReadable hSource hSink hFault hExit =>
    rw [Side.other_other] at hSink
    constructor
    · simp [hSink]
    · simp [hSink]
    all_goals rw [hSource]
  | broken hSome hReadable hSource hSink hFault hExit =>
    rw [Side.other_other] at hSink
    constructor
    · simp [hSink]
    · simp [hSink]
    all_goals rw [hSource]
  | @reset _ f _ hCut hReadable hSource hSink hExit =>
    rw [hReset f rfl] at hCut
    cases hCut
  | fault hReset hReadable hLegs hExit => exact untouched_of_legs hLegs side

end Relay

end SocksGateway
