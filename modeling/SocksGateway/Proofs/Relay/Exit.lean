import SocksGateway.Proofs.Relay.Safety

/-!
# When a relay ends

The relay decides by four flags whether it goes on.  What they stand for is said
here by the events of a run alone: what was read from a side, and what became of
it on the other one.

* `resetKinds`, `closedKinds`: the kinds of failures that are told apart.
* `RelayEvent`, `Relay.history`: what a run hears of the two sides.
* `Follows`: what one event makes of the flags and of the exit.
* `Over`, `RelayEvent.failure?`: the two things that end a relay, told by the events.
* `Records`: the flags after a run, told by the events; every step keeps it.
* `exits_run`: the relay ends with the first event that ends it, and with no other.
-/

namespace SocksGateway

namespace Stream.Fault

/-- The kinds of failures by which a side is reset. -/
def resetKinds : List FaultKind := [.connectionReset, .connectionAborted]

/-- The kinds of write failures that show the peer to be gone. -/
def closedKinds : List FaultKind :=
  [.connectionReset, .connectionAborted, .brokenPipe, .notConnected]

@[simp] theorem mem_resetKinds {f : Fault} : f.kind ∈ resetKinds ↔ f.isReset = true := by
  simp [resetKinds, isReset]

@[simp] theorem mem_closedKinds {f : Fault} : f.kind ∈ closedKinds ↔ f.isClosed = true := by
  simp [closedKinds, isClosed, isReset, or_assoc]

end Stream.Fault

open Stream.Fault (resetKinds closedKinds)

/-- Something that a relay hears of a side. -/
inductive RelayEvent where
  /-- The side sent a piece, and this became of it on the other side. -/
  | handed (side : Side) (transfer : Transfer)
  | ended (side : Side)
  /-- Reading the side failed. -/
  | failed (side : Side) (fault : Stream.Fault)
deriving DecidableEq, Repr

namespace RelayEvent

/-- The side has no more bytes. -/
def Ends (side : Side) : RelayEvent → Prop
  | ended origin => origin = side
  | _ => False

/-- The side is reset. -/
def Cuts (side : Side) : RelayEvent → Prop
  | failed origin f => origin = side ∧ f.kind ∈ resetKinds
  | _ => False

/-- A write to the side fails. -/
def Spoils (side : Side) : RelayEvent → Prop
  | handed origin t => origin.other = side ∧ t.fault ≠ none
  | _ => False

/-- A write to the side fails because its peer is gone. -/
def Loses (side : Side) : RelayEvent → Prop
  | handed origin t => origin.other = side ∧ ∃ f, t.fault = some f ∧ f.kind ∈ closedKinds
  | _ => False

/-- The failure that ends the relay, if there is one: a read that fails otherwise
than by a reset, or a write that fails otherwise than because the peer is gone. -/
def failure? : RelayEvent → Option Stream.Fault
  | handed _ t => t.fault.filter fun f => f.kind ∉ closedKinds
  | ended _ => none
  | failed _ f => if f.kind ∈ resetKinds then none else some f

theorem spoils_iff {event : RelayEvent} (hFailure : event.failure? = none) (side : Side) :
    event.Spoils side ↔ event.Loses side := by
  cases event with
  | handed origin t =>
    constructor
    · rintro ⟨hOrigin, hFault⟩
      obtain ⟨f, hSome⟩ := Option.ne_none_iff_exists'.mp hFault
      refine ⟨hOrigin, f, hSome, ?_⟩
      simpa [failure?, hSome, Option.filter] using hFailure
    · rintro ⟨hOrigin, f, hSome, -⟩
      exact ⟨hOrigin, by simp [hSome]⟩
  | ended origin => exact Iff.rfl
  | failed origin f => exact Iff.rfl

end RelayEvent

namespace Relay

/-- What a read on a side means to the relay. -/
def hear (r : Relay) (side : Side) : Read → RelayEvent
  | .eof => .ended side
  | .data [] => .ended side
  | .data (b :: bs) => .handed side ((r.leg side.other).offer (b :: bs))
  | .fault f => .failed side f

/-- The event of an input, if the relay hears it. -/
def event? (r : Relay) : RelayInput → Option RelayEvent
  | .read side result =>
    if r.isWaiting ∧ (r.leg side).readable then some (r.hear side result) else none
  | .pass _ => none

/-- The events of a run. -/
def history (r : Relay) : List RelayInput → List RelayEvent
  | [] => []
  | input :: inputs => (r.event? input).toList ++ (r.step input).history inputs

end Relay

/-! ### What an event makes of a relay -/

namespace Leg

variable {l : Leg} {piece : List UInt8}

theorem writable_hand (l : Leg) (piece : List UInt8) :
    (l.hand piece).1.writable = true ↔
      l.writable = true ∧ ¬ ∃ f, (l.offer piece).fault = some f ∧ f.isClosed = true := by
  unfold hand offer
  by_cases hOpen : l.writable = true
  · rw [if_pos hOpen, if_pos hOpen]
    dsimp only
    cases hFault : (l.writer.writeAll piece).fault with
    | none => simp [hOpen]
    | some f =>
      dsimp only
      cases hClosed : f.isClosed <;> simp [hOpen, hClosed]
  · rw [if_neg hOpen, if_neg hOpen]
    simp [hOpen]

theorem fault_hand (l : Leg) (piece : List UInt8) :
    (l.hand piece).2 = (l.offer piece).fault.filter fun f => f.kind ∉ closedKinds := by
  unfold hand offer
  by_cases hOpen : l.writable = true
  · rw [if_pos hOpen, if_pos hOpen]
    dsimp only
    cases hFault : (l.writer.writeAll piece).fault with
    | none => rfl
    | some f =>
      dsimp only
      cases hClosed : f.isClosed <;> simp [Option.filter, hClosed]
  · rw [if_neg hOpen, if_neg hOpen]
    rfl

@[simp] theorem shutdowns_hand (l : Leg) (piece : List UInt8) :
    (l.hand piece).1.shutdowns = l.shutdowns := by
  unfold hand
  split
  · dsimp only
    repeat' split
    all_goals rfl
  · rfl

theorem shutdowns_shutdown (l : Leg) :
    l.shutdown.shutdowns = l.shutdowns + if l.writable then 1 else 0 := by
  unfold shutdown
  split <;> rfl

end Leg

namespace Relay

variable {r q : Relay} {event : RelayEvent} {side : Side}

/-- **What one event makes of a relay.** -/
structure Follows (r : Relay) (event : RelayEvent) (q : Relay) : Prop where
  readable : ∀ side, (q.leg side).readable = true ↔
    (r.leg side).readable = true ∧ ¬ event.Ends side ∧ ¬ event.Cuts side
  writable : ∀ side, (q.leg side).writable = true ↔
    (r.leg side).writable = true ∧
      ¬ event.Loses side ∧ ¬ event.Ends side.other ∧ ¬ event.Cuts side
  /-- The way to a side is shut down when the other side ends, if it is open. -/
  shutdowns : ∀ side, (q.leg side).shutdowns = (r.leg side).shutdowns ∧
      ¬ (event.Ends side.other ∧ (r.leg side).writable = true) ∨
    (q.leg side).shutdowns = (r.leg side).shutdowns + 1 ∧
      event.Ends side.other ∧ (r.leg side).writable = true
  exit : (∃ f, event.failure? = some f ∧ q.exit = some (.failed (.stream f))) ∨
    event.failure? = none ∧ q.Checked
  /-- Only a side that is read is heard. -/
  heard : ∀ side, event.Ends side → (r.leg side).readable = true

theorem hear_eof {result : Read} (hResult : result = .eof ∨ result = .data []) :
    r.hear side result = .ended side := by
  rcases hResult with rfl | rfl <;> rfl

theorem hear_piece {piece : List UInt8} (hSome : piece ≠ []) :
    r.hear side (.data piece) = .handed side ((r.leg side.other).offer piece) := by
  cases piece with
  | nil => exact absurd rfl hSome
  | cons b bs => rfl

theorem follows_handed {piece : List UInt8}
    (hSource : q.leg side = { r.leg side with received := (r.leg side).received.extend piece })
    (hSink : q.leg side.other = ((r.leg side.other).hand piece).1)
    (hExit : (∃ f, ((r.leg side.other).hand piece).2 = some f ∧
        q.exit = some (.failed (.stream f))) ∨
      ((r.leg side.other).hand piece).2 = none ∧ q.Checked) :
    Follows r (.handed side ((r.leg side.other).offer piece)) q := by
  refine ⟨fun s => ?_, fun s => ?_, fun s => Or.inl ⟨?_, fun h => h.1⟩, ?_, fun s h => h.elim⟩
  · rcases Side.eq_or_eq_other s side with rfl | rfl
    · simp [hSource, RelayEvent.Ends, RelayEvent.Cuts]
    · simp [hSink, RelayEvent.Ends, RelayEvent.Cuts]
  · rcases Side.eq_or_eq_other s side with rfl | rfl
    · simp [hSource, RelayEvent.Loses, RelayEvent.Ends, RelayEvent.Cuts, Side.other_ne]
    · simp [hSink, RelayEvent.Loses, RelayEvent.Ends, RelayEvent.Cuts, Leg.writable_hand]
  · rcases Side.eq_or_eq_other s side with rfl | rfl
    · rw [hSource]
    · rw [hSink, Leg.shutdowns_hand]
  · rwa [RelayEvent.failure?, ← Leg.fault_hand]

theorem follows_ended (hReadable : (r.leg side).readable = true)
    (hSource : q.leg side = (r.leg side).ended)
    (hSink : q.leg side.other = (r.leg side.other).shutdown) (hExit : q.Checked) :
    Follows r (.ended side) q := by
  refine ⟨fun s => ?_, fun s => ?_, fun s => ?_, Or.inr ⟨rfl, hExit⟩, fun s h => ?_⟩
  · rcases Side.eq_or_eq_other s side with rfl | rfl
    · simp [hSource, Leg.ended, RelayEvent.Ends]
    · simp [hSink, RelayEvent.Ends, RelayEvent.Cuts, side.other_ne.symm]
  · rcases Side.eq_or_eq_other s side with rfl | rfl
    · simp [hSource, Leg.ended, RelayEvent.Loses, RelayEvent.Ends, RelayEvent.Cuts, s.other_ne.symm]
    · simp [hSink, RelayEvent.Ends]
  · rcases Side.eq_or_eq_other s side with rfl | rfl
    · simp [hSource, Leg.ended, RelayEvent.Ends, s.other_ne.symm]
    · cases hOpen : (r.leg side.other).writable <;>
        simp [hSink, Leg.shutdowns_shutdown, RelayEvent.Ends, hOpen]
  · cases h
    exact hReadable

theorem follows_failed {f : Stream.Fault}
    (hLegs : if f.isReset then q.leg side = (r.leg side).cut ∧ q.leg side.other = r.leg side.other
      else ∀ side, q.leg side = r.leg side)
    (hExit : if f.isReset then q.Checked else q.exit = some (.failed (.stream f))) :
    Follows r (.failed side f) q := by
  cases hReset : f.isReset with
  | false =>
    simp only [hReset, Bool.false_eq_true, if_false] at hLegs hExit
    refine ⟨fun s => ?_, fun s => ?_, fun s => Or.inl ⟨by rw [hLegs], fun h => h.1⟩, ?_,
      fun s h => h.elim⟩
    · simp [hLegs, RelayEvent.Ends, RelayEvent.Cuts, hReset]
    · simp [hLegs, RelayEvent.Loses, RelayEvent.Ends, RelayEvent.Cuts, hReset]
    · exact Or.inl ⟨f, by simp [RelayEvent.failure?, hReset], hExit⟩
  | true =>
    simp only [hReset, if_true] at hLegs hExit
    obtain ⟨hSource, hSink⟩ := hLegs
    refine ⟨fun s => ?_, fun s => ?_, fun s => Or.inl ⟨?_, fun h => h.1⟩, ?_, fun s h => h.elim⟩
    · rcases Side.eq_or_eq_other s side with rfl | rfl
      · simp [hSource, Leg.cut, RelayEvent.Cuts, hReset]
      · simp [hSink, RelayEvent.Ends, RelayEvent.Cuts, side.other_ne.symm]
    · rcases Side.eq_or_eq_other s side with rfl | rfl
      · simp [hSource, Leg.cut, RelayEvent.Cuts, hReset]
      · simp [hSink, RelayEvent.Loses, RelayEvent.Ends, RelayEvent.Cuts, side.other_ne.symm]
    · rcases Side.eq_or_eq_other s side with rfl | rfl
      · rw [hSource]
        rfl
      · rw [hSink]
    · exact Or.inr ⟨by simp [RelayEvent.failure?, hReset], hExit⟩

/-- **A relay hears an input and follows it, or stays as it is.** -/
theorem event_step (hWaiting : r.exit = none) (input : RelayInput) :
    (∃ event, r.event? input = some event ∧ Follows r event (r.step input)) ∨
      r.event? input = none ∧ (∀ side, (r.step input).leg side = r.leg side) ∧
        ((r.step input).exit = none ∨ (r.step input).exit = some .idle) := by
  have hHeard {side : Side} {result : Read} (hReadable : (r.leg side).readable = true) :
      r.event? (.read side result) = some (r.hear side result) := by
    simp [event?, isWaiting, hWaiting, hReadable]
  have hAnswers := answers_step hWaiting input
  generalize r.step input = q at hAnswers
  cases hAnswers with
  | unheard hReadable => exact Or.inr ⟨by simp [event?, hReadable], fun _ => rfl, Or.inl hWaiting⟩
  | passed hLegs hExit => exact Or.inr ⟨rfl, hLegs, hExit⟩
  | eof hResult hReadable hSource hSink hExit =>
    refine Or.inl ⟨_, hHeard hReadable, ?_⟩
    rw [hear_eof hResult]
    exact follows_ended hReadable hSource hSink hExit
  | handed hSome hReadable hSource hSink hFault hExit =>
    refine Or.inl ⟨_, hHeard hReadable, ?_⟩
    rw [hear_piece hSome]
    exact follows_handed hSource hSink (Or.inr ⟨hFault, hExit⟩)
  | broken hSome hReadable hSource hSink hFault hExit =>
    refine Or.inl ⟨_, hHeard hReadable, ?_⟩
    rw [hear_piece hSome]
    exact follows_handed hSource hSink (Or.inl ⟨_, hFault, hExit⟩)
  | reset hReset hReadable hSource hSink hExit =>
    refine Or.inl ⟨_, hHeard hReadable, follows_failed ?_ ?_⟩
    · rw [if_pos hReset]
      exact ⟨hSource, hSink⟩
    · rwa [if_pos hReset]
  | fault hReset hReadable hLegs hExit =>
    refine Or.inl ⟨_, hHeard hReadable, follows_failed ?_ ?_⟩
    · rwa [if_neg (by simp [hReset])]
    · rwa [if_neg (by simp [hReset])]

/-! ### What the events say -/

/-- The side has ended. -/
def Ended (events : List RelayEvent) (side : Side) : Prop := ∃ event ∈ events, event.Ends side

/-- The side has been reset. -/
def Cut (events : List RelayEvent) (side : Side) : Prop := ∃ event ∈ events, event.Cuts side

/-- A write to the side has failed because its peer is gone. -/
def Lost (events : List RelayEvent) (side : Side) : Prop := ∃ event ∈ events, event.Loses side

/-- **Nothing is left to relay**: a side has been reset, or it has ended and nothing
more can go to it. -/
def Over (events : List RelayEvent) : Prop :=
  ∃ side, Cut events side ∨ Ended events side ∧ (Lost events side ∨ Ended events side.other)

/-- Nothing has happened that ends a relay. -/
def Undecided (events : List RelayEvent) : Prop :=
  ¬ Over events ∧ ∀ event ∈ events, event.failure? = none

/-- The other side has ended while no write to the side had failed. -/
def Shut (events : List RelayEvent) (side : Side) : Prop :=
  ∃ before event after, events = before ++ event :: after ∧ event.Ends side.other ∧
    ∀ e ∈ before, ¬ e.Spoils side

variable {events : List RelayEvent}

theorem exists_mem_concat {p : RelayEvent → Prop} :
    (∃ e ∈ events ++ [event], p e) ↔ (∃ e ∈ events, p e) ∨ p event := by
  simp [or_and_right, exists_or]

theorem ended_concat : Ended (events ++ [event]) side ↔ Ended events side ∨ event.Ends side :=
  exists_mem_concat

theorem cut_concat : Cut (events ++ [event]) side ↔ Cut events side ∨ event.Cuts side :=
  exists_mem_concat

theorem lost_concat : Lost (events ++ [event]) side ↔ Lost events side ∨ event.Loses side :=
  exists_mem_concat

theorem shut_concat : Shut (events ++ [event]) side ↔
    Shut events side ∨ event.Ends side.other ∧ ∀ e ∈ events, ¬ e.Spoils side := by
  constructor
  · rintro ⟨before, last, after, hEvents, hEnds, hBefore⟩
    rcases List.eq_nil_or_concat after with rfl | ⟨front, e, rfl⟩
    · obtain ⟨rfl, hLast⟩ := List.append_inj' hEvents rfl
      cases hLast
      exact Or.inr ⟨hEnds, hBefore⟩
    · have hSplit : events ++ [event] = before ++ last :: front ++ [e] := by
        simpa using hEvents
      exact Or.inl ⟨before, last, front, (List.append_inj' hSplit rfl).1, hEnds, hBefore⟩
  · rintro (⟨before, last, after, rfl, hEnds, hBefore⟩ | ⟨hEnds, hEvents⟩)
    · exact ⟨before, last, after ++ [event], by simp, hEnds, hBefore⟩
    · exact ⟨events, event, [], rfl, hEnds, hEvents⟩

theorem not_shut_of_not_ended (hEnded : ¬ Ended events side.other) : ¬ Shut events side := by
  rintro ⟨before, last, after, rfl, hEnds, -⟩
  exact hEnded ⟨last, by simp, hEnds⟩

/-- While the relay goes on, a write to a side has failed if its peer is gone, and
not otherwise. -/
theorem Undecided.unspoiled (hUndecided : Undecided events) :
    (∀ e ∈ events, ¬ e.Spoils side) ↔ ¬ Lost events side := by
  constructor
  · rintro hUnspoiled ⟨e, hMem, hLoses⟩
    exact hUnspoiled e hMem ((RelayEvent.spoils_iff (hUndecided.2 e hMem) side).mpr hLoses)
  · intro hLost e hMem hSpoils
    exact hLost ⟨e, hMem, (RelayEvent.spoils_iff (hUndecided.2 e hMem) side).mp hSpoils⟩

theorem over_concat_of_failure {f : Stream.Fault} (hFailure : event.failure? = some f) :
    Over (events ++ [event]) ↔ Over events := by
  have hNot (side : Side) : ¬ event.Ends side ∧ ¬ event.Cuts side ∧ ¬ event.Loses side := by
    cases event with
    | handed origin t =>
      refine ⟨id, id, ?_⟩
      rintro ⟨-, g, hSome, hClosed⟩
      simp [RelayEvent.failure?, hSome, Option.filter, hClosed] at hFailure
    | ended origin => cases hFailure
    | failed origin g =>
      refine ⟨id, ?_, id⟩
      rintro ⟨-, hReset⟩
      simp [RelayEvent.failure?, hReset] at hFailure
  simp only [Over, ended_concat, cut_concat, lost_concat, hNot, or_false]

/-! ### The flags after a run -/

/-- **The flags of a relay, told by what it has heard.** -/
structure Records (events : List RelayEvent) (r : Relay) : Prop where
  readable : ∀ side, (r.leg side).readable = true ↔ ¬ Ended events side ∧ ¬ Cut events side
  writable : ∀ side, (r.leg side).writable = true ↔
    ¬ Lost events side ∧ ¬ Ended events side.other ∧ ¬ Cut events side
  shutdowns : ∀ side, (r.leg side).shutdowns = 0 ∧ ¬ Shut events side ∨
    (r.leg side).shutdowns = 1 ∧ Shut events side

theorem records_start (idle : Option Nat) (client remote : Stream.Writer) :
    Records [] (start idle client remote) := by
  have hShut (side : Side) : ¬ Shut [] side :=
    not_shut_of_not_ended (by simp [Ended])
  refine ⟨fun side => ?_, fun side => ?_, fun side => Or.inl ⟨?_, hShut side⟩⟩ <;>
    cases side <;> simp [Ended, Cut, Lost, start, leg]

theorem Records.of_legs (hRecords : Records events r) (hLegs : ∀ side, q.leg side = r.leg side) :
    Records events q := by
  refine ⟨fun side => ?_, fun side => ?_, fun side => ?_⟩ <;> rw [hLegs]
  · exact hRecords.readable side
  · exact hRecords.writable side
  · exact hRecords.shutdowns side

theorem Records.follow (hRecords : Records events r) (hUndecided : Undecided events)
    (hFollows : Follows r event q) : Records (events ++ [event]) q := by
  refine ⟨fun side => ?_, fun side => ?_, fun side => ?_⟩
  · rw [hFollows.readable, hRecords.readable, ended_concat, cut_concat]
    grind
  · rw [hFollows.writable, hRecords.writable, ended_concat, cut_concat, lost_concat]
    grind
  · rw [shut_concat, hUndecided.unspoiled]
    rcases hFollows.shutdowns side with ⟨hSame, hNot⟩ | ⟨hMore, hEnds, hOpen⟩
    · -- The way is closed already, and not because the other side had ended.
      have hStill : ¬ (event.Ends side.other ∧ ¬ Lost events side) := by
        rintro ⟨hEnds, hLost⟩
        have hRead := (hRecords.readable _).mp (hFollows.heard _ hEnds)
        have hCut : ¬ Cut events side := fun hCut => hUndecided.1 ⟨side, Or.inl hCut⟩
        exact hNot ⟨hEnds, (hRecords.writable side).mpr ⟨hLost, hRead.1, hCut⟩⟩
      rw [hSame]
      simpa [hStill] using hRecords.shutdowns side
    · obtain ⟨hLost, hEnded, -⟩ := (hRecords.writable side).mp hOpen
      rcases hRecords.shutdowns side with ⟨hNone, -⟩ | ⟨-, hShut⟩
      · exact Or.inr ⟨by rw [hMore, hNone], Or.inr ⟨hEnds, hLost⟩⟩
      · exact absurd hShut (not_shut_of_not_ended hEnded)

theorem Records.isDead_iff (hRecords : Records events r) (side : Side) :
    (r.leg side).isDead = true ↔
      Cut events side ∨ Ended events side ∧ (Lost events side ∨ Ended events side.other) := by
  have hDead : (r.leg side).isDead = true ↔
      ¬ (r.leg side).readable = true ∧ ¬ (r.leg side).writable = true := by
    simp [Leg.isDead]
  rw [hDead, hRecords.readable, hRecords.writable]
  grind

theorem isDone_iff : r.isDone = true ↔ (∃ side, (r.leg side).isDead = true) ∨
    ∀ side, (r.leg side).readable = false := by
  have hLegs : r.leg .client = r.client ∧ r.leg .remote = r.remote := ⟨rfl, rfl⟩
  constructor
  · intro hDone
    simp only [isDone, Bool.or_eq_true, Bool.not_eq_true', Bool.or_eq_false_iff] at hDone
    rcases hDone with (hClient | hRemote) | ⟨hClient, hRemote⟩
    · exact Or.inl ⟨.client, hClient⟩
    · exact Or.inl ⟨.remote, hRemote⟩
    · refine Or.inr fun side => ?_
      cases side with
      | client => exact hClient
      | remote => exact hRemote
  · rintro (⟨side, hDead⟩ | hUnread)
    · cases side with
      | client => simp [isDone, ← hLegs.1, hDead]
      | remote => simp [isDone, ← hLegs.2, hDead]
    · simp [isDone, ← hLegs.1, ← hLegs.2, hUnread]

/-- **The relay is done exactly when nothing is left to relay.**  Then a side is dead:
when neither side is read, one has been reset, or each is closed by the other's end. -/
theorem Records.isDone_iff (hRecords : Records events r) :
    (r.isDone = true ↔ Over events) ∧ (Over events → ∃ side, (r.leg side).isDead = true) := by
  have hDead : (∃ side, (r.leg side).isDead = true) ↔ Over events :=
    exists_congr hRecords.isDead_iff
  refine ⟨Relay.isDone_iff.trans ⟨?_, fun hOver => Or.inl (hDead.mpr hOver)⟩, hDead.mpr⟩
  rintro (hDead' | hUnread)
  · exact hDead.mp hDead'
  · have hGone (side : Side) : Ended events side ∨ Cut events side := by
      have hNot := mt (hRecords.readable side).mpr (by simp [hUnread])
      grind
    rcases hGone .client with hClient | hClient
    · rcases hGone .remote with hRemote | hRemote
      · exact ⟨.client, Or.inr ⟨hClient, Or.inr hRemote⟩⟩
      · exact ⟨.remote, Or.inl hRemote⟩
    · exact ⟨.client, Or.inl hClient⟩

/-! ### What is known of a run -/

/-- How a relay stands that has heard these events. -/
inductive Verdict : List RelayEvent → Option RelayExit → Prop
  | onward {events : List RelayEvent} (hUndecided : Undecided events) : Verdict events none
  | idle {events : List RelayEvent} (hUndecided : Undecided events) : Verdict events (some .idle)
  | closed {events : List RelayEvent} {event : RelayEvent} (hBefore : Undecided events)
      (hOver : Over (events ++ [event])) (hSound : event.failure? = none) :
      Verdict (events ++ [event]) (some .closed)
  | failed {events : List RelayEvent} {event : RelayEvent} {f : Stream.Fault}
      (hBefore : Undecided events) (hFailure : event.failure? = some f) :
      Verdict (events ++ [event]) (some (.failed (.stream f)))

/-- What holds of a relay with the events it has heard. -/
structure Heard (events : List RelayEvent) (r : Relay) : Prop where
  records : Records events r
  verdict : Verdict events r.exit
  idle : r.exit = some .idle → ∃ limit, r.idle = some limit ∧ limit ≤ r.waited

theorem undecided_concat : Undecided (events ++ [event]) ↔
    ¬ Over (events ++ [event]) ∧ (∀ e ∈ events, e.failure? = none) ∧ event.failure? = none := by
  simp [Undecided, or_imp, forall_and]

theorem Verdict.undecided (hVerdict : Verdict events none) : Undecided events := by
  cases hVerdict with
  | onward hUndecided => exact hUndecided

theorem Verdict.follow (hRecords : Records (events ++ [event]) q) (hBefore : Undecided events)
    (hFollows : Follows r event q) : Verdict (events ++ [event]) q.exit := by
  rcases hFollows.exit with ⟨f, hFailure, hExit⟩ | ⟨hSound, hChecked⟩
  · rw [hExit]
    exact .failed hBefore hFailure
  · rw [hChecked]
    by_cases hDone : q.isDone = true
    · rw [if_pos hDone]
      exact .closed hBefore (hRecords.isDone_iff.1.mp hDone) hSound
    · rw [if_neg hDone]
      exact .onward (undecided_concat.mpr ⟨mt hRecords.isDone_iff.1.mpr hDone, hBefore.2, hSound⟩)

/-! ### The idle timeout -/

@[simp] theorem idle_setLeg (r : Relay) (side : Side) (l : Leg) :
    (r.setLeg side l).idle = r.idle := by
  cases side <;> rfl

@[simp] theorem idle_check (r : Relay) : r.check.idle = r.idle := by
  unfold check
  split <;> rfl

@[simp] theorem idle_onRead (r : Relay) (side : Side) (result : Read) :
    (r.onRead side result).idle = r.idle := by
  cases result with
  | eof => simp [onRead, onEof]
  | fault f => cases hReset : f.isReset <;> simp [onRead, onFault, hReset]
  | data piece =>
    cases piece with
    | nil => simp [onRead, onEof]
    | cons b bs =>
      simp only [onRead, onData]
      split <;> simp

theorem idle_step (r : Relay) (input : RelayInput) : (r.step input).idle = r.idle := by
  by_cases hWaiting : r.exit = none
  · cases input with
    | pass millis => rw [step_pass hWaiting]
    | read side result =>
      cases hReadable : (r.leg side).readable with
      | false => rw [step_unread hWaiting hReadable]
      | true =>
        rw [step_read hWaiting hReadable]
        exact idle_onRead r side result
  · rw [step_of_exit hWaiting]

theorem exit_read_ne_idle (hWaiting : r.exit = none) (result : Read) :
    (r.step (.read side result)).exit ≠ some .idle := by
  rcases event_step hWaiting (.read side result) with ⟨event, -, hFollows⟩ | ⟨hNone, -, -⟩
  · rcases hFollows.exit with ⟨f, -, hExit⟩ | ⟨-, hChecked⟩
    · simp [hExit]
    · rw [hChecked]
      split <;> simp
  · have hUnread : (r.leg side).readable = false := by
      simpa [event?, isWaiting, hWaiting] using hNone
    simp [step_unread hWaiting hUnread, hWaiting]

theorem exit_idle_step (hWaiting : r.exit = none) {input : RelayInput}
    (hIdle : (r.step input).exit = some .idle) :
    ∃ limit, r.idle = some limit ∧ limit ≤ (r.step input).waited := by
  cases input with
  | read side result => exact absurd hIdle (exit_read_ne_idle hWaiting result)
  | pass millis =>
    rw [step_pass hWaiting] at hIdle ⊢
    dsimp only at hIdle ⊢
    split at hIdle
    · rename_i hLate
      simpa [Option.any_eq_true] using hLate
    · cases hIdle

/-! ### Every run -/

theorem heard_start (idle : Option Nat) (client remote : Stream.Writer) :
    Heard [] (start idle client remote) := by
  refine ⟨records_start idle client remote, .onward ⟨?_, by simp⟩, fun h => nomatch h⟩
  simp [Over, Ended, Cut]

theorem Heard.step (hHeard : Heard events r) (input : RelayInput) :
    Heard (events ++ (r.event? input).toList) (r.step input) := by
  cases hExit : r.exit with
  | some e =>
    have hNone : r.event? input = none := by
      cases input <;> simp [event?, isWaiting, hExit]
    rw [step_of_exit (by simp [hExit]), hNone, Option.toList_none, List.append_nil]
    exact hHeard
  | none =>
    have hBefore : Undecided events := by
      have hVerdict := hHeard.verdict
      rw [hExit] at hVerdict
      exact hVerdict.undecided
    have hIdle (hIdle : (r.step input).exit = some .idle) :
        ∃ limit, (r.step input).idle = some limit ∧ limit ≤ (r.step input).waited := by
      rw [idle_step]
      exact exit_idle_step hExit hIdle
    rcases event_step hExit input with ⟨event, hSome, hFollows⟩ | ⟨hNone, hLegs, hNext⟩
    · rw [hSome, Option.toList_some]
      have hRecords := hHeard.records.follow hBefore hFollows
      exact ⟨hRecords, .follow hRecords hBefore hFollows, hIdle⟩
    · rw [hNone, Option.toList_none, List.append_nil]
      refine ⟨hHeard.records.of_legs hLegs, ?_, hIdle⟩
      rcases hNext with hNext | hNext
      · rw [hNext]
        exact .onward hBefore
      · rw [hNext]
        exact .idle hBefore

theorem Heard.run (hHeard : Heard events r) (inputs : List RelayInput) :
    Heard (events ++ r.history inputs) (r.run inputs) := by
  induction inputs generalizing r events with
  | nil => simpa [Relay.run, history] using hHeard
  | cons input inputs ih =>
    have hRest := ih (hHeard.step input)
    rwa [List.append_assoc] at hRest

theorem idle_run (r : Relay) (inputs : List RelayInput) : (r.run inputs).idle = r.idle := by
  induction inputs generalizing r with
  | nil => rfl
  | cons input inputs ih => exact (ih (r.step input)).trans (idle_step r input)

theorem history_append (r : Relay) (inputs more : List RelayInput) :
    r.history (inputs ++ more) = r.history inputs ++ (r.run inputs).history more := by
  induction inputs generalizing r with
  | nil => rfl
  | cons input inputs ih =>
    simp only [List.cons_append, history, ih, List.append_assoc]
    rfl

/-! ### The exit -/

theorem Undecided.of_prefix {front : List RelayEvent} (hUndecided : Undecided events)
    (hFront : front <+: events) : Undecided front := by
  refine ⟨fun hOver => hUndecided.1 ?_, fun e hMem => hUndecided.2 e (hFront.subset hMem)⟩
  have hMore {p : RelayEvent → Prop} : (∃ e ∈ front, p e) → ∃ e ∈ events, p e :=
    fun ⟨e, hMem, hEvent⟩ => ⟨e, hFront.subset hMem, hEvent⟩
  obtain ⟨side, hSide⟩ := hOver
  exact ⟨side, hSide.imp hMore fun h => ⟨hMore h.1, h.2.imp hMore hMore⟩⟩

theorem Verdict.before {exit : Option RelayExit} {front : List RelayEvent}
    (hVerdict : Verdict events exit) (hFront : front ++ [event] <+: events) : Undecided front := by
  have hEarlier {before : List RelayEvent} {last : RelayEvent} (hBefore : Undecided before)
      (hFront : front ++ [event] <+: before ++ [last]) : Undecided front := by
    refine hBefore.of_prefix (List.prefix_of_prefix_length_le
      ((List.prefix_append _ _).trans hFront) (List.prefix_append _ _) ?_)
    have hLength := hFront.length_le
    simpa using hLength
  cases hVerdict with
  | onward hUndecided => exact hUndecided.of_prefix ((List.prefix_append _ _).trans hFront)
  | idle hUndecided => exact hUndecided.of_prefix ((List.prefix_append _ _).trans hFront)
  | closed hBefore hOver hSound => exact hEarlier hBefore hFront
  | failed hBefore hFailure => exact hEarlier hBefore hFront

theorem Verdict.closed_iff {exit : Option RelayExit} (hVerdict : Verdict events exit) :
    exit = some .closed ↔ Over events := by
  cases hVerdict with
  | onward hUndecided => simpa using hUndecided.1
  | idle hUndecided => simpa using hUndecided.1
  | closed hBefore hOver hSound => simpa using hOver
  | failed hBefore hFailure =>
    rw [over_concat_of_failure hFailure]
    simpa using hBefore.1

theorem Verdict.failed_iff {exit : Option RelayExit} (hVerdict : Verdict events exit)
    (error : ConnectionError) :
    exit = some (.failed error) ↔
      ∃ before event f, events = before ++ [event] ∧ event.failure? = some f ∧
        error = .stream f := by
  have hSound (hNone : ∀ e ∈ events, e.failure? = none) : ¬ ∃ before event f,
      events = before ++ [event] ∧ event.failure? = some f ∧ error = .stream f := by
    rintro ⟨before, event, f, rfl, hFailure, -⟩
    rw [hNone event (by simp)] at hFailure
    cases hFailure
  cases hVerdict with
  | onward hUndecided => simpa using hSound hUndecided.2
  | idle hUndecided => simpa using hSound hUndecided.2
  | @closed events event hBefore hOver hNone =>
    have hAll : ∀ e ∈ events ++ [event], e.failure? = none := by
      simpa [or_imp, forall_and] using ⟨hBefore.2, hNone⟩
    simpa using hSound hAll
  | @failed events event f hBefore hFailure =>
    constructor
    · intro hExit
      cases hExit
      exact ⟨events, event, f, rfl, hFailure, rfl⟩
    · rintro ⟨before, last, g, hEvents, hLast, rfl⟩
      obtain ⟨-, hSame⟩ := List.append_inj' hEvents rfl
      cases hSame
      rw [hFailure] at hLast
      cases hLast
      rfl

theorem Verdict.undecided_iff {exit : Option RelayExit} (hVerdict : Verdict events exit) :
    exit = none ∨ exit = some .idle ↔ Undecided events := by
  cases hVerdict with
  | onward hUndecided => simpa using hUndecided
  | idle hUndecided => simpa using hUndecided
  | closed hBefore hOver hSound => simpa using fun hUndecided : Undecided _ => hUndecided.1 hOver
  | @failed events event f hBefore hFailure =>
    have hNot (h : Undecided (events ++ [event])) : False := by
      have hNone := (undecided_concat.mp h).2.2
      rw [hFailure] at hNone
      cases hNone
    simpa using hNot

/-- A relay that waits has a side to read, and can write to one that it cannot read. -/
theorem Records.waits (hRecords : Records events r) (hUndecided : Undecided events) :
    (∃ side, (r.leg side).readable = true) ∧
      ∀ side, (r.leg side).readable = false → (r.leg side).writable = true := by
  have hNot : ¬ r.isDone = true := mt hRecords.isDone_iff.1.mp hUndecided.1
  rw [Relay.isDone_iff, not_or, not_exists, Classical.not_forall] at hNot
  refine ⟨hNot.2.imp fun side h => by simpa using h, fun side hUnread => ?_⟩
  simpa [Leg.isDead, hUnread] using hNot.1 side

/-- When and how a relay ends that has started and gets these inputs. -/
structure ExitsExactly (first : Relay) (inputs : List RelayInput) : Prop where
  /-- While it hears more, nothing has ended it. -/
  before : ∀ front event, front ++ [event] <+: first.history inputs → Undecided front
  closed : (first.run inputs).exit = some .closed ↔ Over (first.history inputs)
  failed : ∀ error, (first.run inputs).exit = some (.failed error) ↔
    ∃ before event f, first.history inputs = before ++ [event] ∧ event.failure? = some f ∧
      error = .stream f
  onward : (first.run inputs).exit = none ∨ (first.run inputs).exit = some .idle ↔
    Undecided (first.history inputs)
  idle : (first.run inputs).exit = some .idle →
    ∃ limit, first.idle = some limit ∧ limit ≤ (first.run inputs).waited
  /-- A relay that goes on hears every side that has not ended. -/
  hears : (first.run inputs).exit = none → ∀ side result, ¬ Ended (first.history inputs) side →
    first.history (inputs ++ [.read side result]) =
      first.history inputs ++ [(first.run inputs).hear side result]
  waits : (first.run inputs).exit = none →
    (∃ side, ((first.run inputs).leg side).readable = true) ∧
      ∀ side, ((first.run inputs).leg side).readable = false →
        ((first.run inputs).leg side).writable = true
  /-- It never ends merely because neither side is read. -/
  breaks : (first.run inputs).exit = some .closed →
    ∃ side, ((first.run inputs).leg side).isDead = true
  once : ∀ side, ((first.run inputs).leg side).shutdowns ≤ 1
  shut : ∀ side, ((first.run inputs).leg side).shutdowns = 1 ↔ Shut (first.history inputs) side

/-- **A relay ends with the first event that ends it, and with no other.**  It closes
when a side has been reset, or has ended and nothing more can go to it: a write to it
has failed because the peer is gone, or the other side has ended too.  It fails with
a read error that is no reset, and with a write failure of another kind.  Until then it
waits with a side to read and no side dead, unless it has been idle for too long.  The
way to a side is shut down once, when the other side ends while no write has failed. -/
theorem exits_run (idle : Option Nat) (client remote : Stream.Writer) (inputs : List RelayInput) :
    ExitsExactly (start idle client remote) inputs := by
  obtain ⟨hRecords, hVerdict, hIdle⟩ := (heard_start idle client remote).run inputs
  rw [List.nil_append] at hRecords hVerdict
  rw [idle_run] at hIdle
  have hUndecided (hExit : ((start idle client remote).run inputs).exit = none) :
      Undecided ((start idle client remote).history inputs) :=
    hVerdict.undecided_iff.mp (Or.inl hExit)
  refine ⟨fun front event => hVerdict.before, hVerdict.closed_iff, hVerdict.failed_iff,
    hVerdict.undecided_iff, hIdle, fun hExit side result hEnded => ?_,
    fun hExit => hRecords.waits (hUndecided hExit), fun hExit => ?_, fun side => ?_, fun side => ?_⟩
  · have hCut : ¬ Cut ((start idle client remote).history inputs) side :=
      fun hCut => (hUndecided hExit).1 ⟨side, Or.inl hCut⟩
    have hReadable := (hRecords.readable side).mpr ⟨hEnded, hCut⟩
    rw [history_append]
    simp [history, event?, isWaiting, hExit, hReadable]
  · exact hRecords.isDone_iff.2 (hVerdict.closed_iff.mp hExit)
  · rcases hRecords.shutdowns side with ⟨hNone, -⟩ | ⟨hOne, -⟩ <;> omega
  · rcases hRecords.shutdowns side with ⟨hNone, hNot⟩ | ⟨hOne, hShut⟩
    · simp [hNone, hNot]
    · simp [hOne, hShut]

end Relay

end SocksGateway
