import SocksGateway.Proofs.Relay.Exit

/-!
# Whether anything can still get through

What a side sends gets through while the side is read and the other one can be written
to.  The relay ends when one side can neither be read nor written.  These are not the
same: when writes to both sides have failed because the peers are gone, and neither side
has ended, both are read and nothing gets through.

* `Relay.Flows`: what a side sends can get through.
* `RelayEvent.IsWaste`: a piece was read and thrown away.
* `waste_of_closed`: behind two closed ways every piece is thrown away.
* `Records.flows_iff`, `Records.jam`: the flags of a relay that waits, by what it has heard.
* `progress_run`: when a relay waits though nothing can get through, and until when.
-/

namespace SocksGateway

/-- A piece was read, and nothing was written. -/
def RelayEvent.IsWaste : RelayEvent → Prop
  | handed _ t => t.written = [] ∧ t.fault = none
  | _ => False

theorem RelayEvent.IsWaste.harmless {event : RelayEvent} (hWaste : event.IsWaste) :
    event.failure? = none ∧ ∀ side, ¬ event.Ends side ∧ ¬ event.Cuts side := by
  cases event with
  | handed origin t => exact ⟨by simp [failure?, hWaste.2], fun side => ⟨id, id⟩⟩
  | ended origin => exact hWaste.elim
  | failed origin f => exact hWaste.elim

namespace Relay

variable {r : Relay} {events later : List RelayEvent}

/-- What the side sends can get through to the other one. -/
def Flows (r : Relay) (side : Side) : Prop :=
  (r.leg side).readable = true ∧ (r.leg side.other).writable = true

/-! ### Behind closed ways -/

theorem waste_of_event? {event : RelayEvent} {input : RelayInput}
    (hClosed : ∀ side, (r.leg side).writable = false) (hEvent : r.event? input = some event) :
    event.IsWaste ∨ (∃ side, event = .ended side) ∨ ∃ side f, event = .failed side f := by
  cases input with
  | pass millis => cases hEvent
  | read side result =>
    simp only [event?] at hEvent
    split at hEvent
    · cases hEvent
      cases result with
      | eof => exact Or.inr (Or.inl ⟨side, rfl⟩)
      | fault f => exact Or.inr (Or.inr ⟨side, f, rfl⟩)
      | data piece =>
        cases piece with
        | nil => exact Or.inr (Or.inl ⟨side, rfl⟩)
        | cons b bs =>
          refine Or.inl ?_
          simp [hear, RelayEvent.IsWaste, Leg.offer, hClosed]
    · cases hEvent

/-- **Behind two closed ways every piece is thrown away.** -/
theorem waste_of_closed (hClosed : ∀ side, (r.leg side).writable = false)
    (inputs : List RelayInput) {event : RelayEvent} (hMem : event ∈ r.history inputs) :
    event.IsWaste ∨ (∃ side, event = .ended side) ∨ ∃ side f, event = .failed side f := by
  induction inputs generalizing r with
  | nil => cases hMem
  | cons input inputs ih =>
    rcases List.mem_append.mp hMem with hNow | hLater
    · exact waste_of_event? hClosed (Option.mem_toList.mp hNow)
    · exact ih (fun side => (staysClosed_step (hClosed side) input).writable) hLater

/-! ### A relay that waits -/

/-- **What a side of a waiting relay sends can get through** unless the side has ended or a
write to the other one has failed. -/
theorem Records.flows_iff (hRecords : Records events r) (hUndecided : Undecided events)
    (side : Side) : r.Flows side ↔ ¬ Ended events side ∧ ¬ Lost events side.other := by
  have hCut (side : Side) : ¬ Cut events side := fun hCut => hUndecided.1 ⟨side, Or.inl hCut⟩
  rw [Flows, hRecords.readable, hRecords.writable, Side.other_other]
  simp only [hCut, not_false_iff, and_true]
  exact ⟨fun ⟨hEnded, hLost, _⟩ => ⟨hEnded, hLost⟩, fun ⟨hEnded, hLost⟩ => ⟨hEnded, hLost, hEnded⟩⟩

/-- A side that has ended can still be written to. -/
theorem Undecided.not_lost (hUndecided : Undecided events) {side : Side}
    (hEnded : Ended events side) : ¬ Lost events side ∧ ¬ Ended events side.other :=
  ⟨fun hLost => hUndecided.1 ⟨side, Or.inr ⟨hEnded, Or.inl hLost⟩⟩,
    fun hOther => hUndecided.1 ⟨side, Or.inr ⟨hEnded, Or.inr hOther⟩⟩⟩

/-- **Something can get through a waiting relay, and some side can be written to,** unless
writes to both sides have failed. -/
theorem Records.exists_flows_iff (hRecords : Records events r) (hUndecided : Undecided events) :
    ((∃ side, r.Flows side) ↔ ∃ side, ¬ Lost events side) ∧
      ((∃ side, (r.leg side).writable = true) ↔ ∃ side, ¬ Lost events side) := by
  have hOpens {side : Side} (hLost : ¬ Lost events side) : ∃ side, r.Flows side := by
    by_cases hEnded : Ended events side.other
    · -- The other side has ended, so this one has not, and the other one can be written to.
      obtain ⟨hStill, hOther⟩ := hUndecided.not_lost hEnded
      rw [Side.other_other] at hOther
      exact ⟨side, (hRecords.flows_iff hUndecided side).mpr ⟨hOther, hStill⟩⟩
    · refine ⟨side.other, (hRecords.flows_iff hUndecided _).mpr ⟨hEnded, ?_⟩⟩
      rwa [Side.other_other]
  have hWritable {side : Side} (hOpen : (r.leg side).writable = true) : ¬ Lost events side :=
    ((hRecords.writable side).mp hOpen).1
  refine ⟨⟨fun ⟨side, hFlows⟩ => ⟨side.other, hWritable hFlows.2⟩, fun ⟨_, h⟩ => hOpens h⟩,
    fun ⟨side, hOpen⟩ => ⟨side, hWritable hOpen⟩, fun ⟨_, h⟩ => ?_⟩
  obtain ⟨side, hFlows⟩ := hOpens h
  exact ⟨side.other, hFlows.2⟩

/-! ### A relay through which nothing gets -/

theorem ended_append {side : Side} :
    Ended (events ++ later) side ↔ Ended events side ∨ Ended later side := by
  simp [Ended, or_and_right, exists_or]

theorem cut_append {side : Side} :
    Cut (events ++ later) side ↔ Cut events side ∨ Cut later side := by
  simp [Cut, or_and_right, exists_or]

theorem lost_append {side : Side} :
    Lost (events ++ later) side ↔ Lost events side ∨ Lost later side := by
  simp [Lost, or_and_right, exists_or]

/-- When writes to both sides have failed, a relay that has waited so far goes on until a
side ends or is reset. -/
theorem Undecided.over_append (hUndecided : Undecided events) (hLost : ∀ side, Lost events side) :
    Over (events ++ later) ↔ ∃ side, Ended later side ∨ Cut later side := by
  have hBefore (side : Side) : ¬ Ended events side ∧ ¬ Cut events side :=
    ⟨fun hEnded => (hUndecided.not_lost hEnded).1 (hLost side),
      fun hCut => hUndecided.1 ⟨side, Or.inl hCut⟩⟩
  refine exists_congr fun side => ?_
  simp [ended_append, cut_append, lost_append, hBefore, hLost, or_comm]

/-- **Until a side ends or reading it fails, what comes is thrown away.** -/
theorem Undecided.append_iff (hUndecided : Undecided events) (hLost : ∀ side, Lost events side)
    (hLater : ∀ event ∈ later,
      event.IsWaste ∨ (∃ side, event = .ended side) ∨ ∃ side f, event = .failed side f) :
    Undecided (events ++ later) ↔ ∀ event ∈ later, event.IsWaste := by
  rw [Undecided, hUndecided.over_append hLost]
  constructor
  · rintro ⟨hOpen, hSound⟩ event hMem
    rcases hLater event hMem with hWaste | ⟨side, rfl⟩ | ⟨side, f, rfl⟩
    · exact hWaste
    · exact absurd ⟨side, Or.inl ⟨_, hMem, rfl⟩⟩ hOpen
    · by_cases hReset : f.kind ∈ Stream.Fault.resetKinds
      · exact absurd ⟨side, Or.inr ⟨_, hMem, rfl, hReset⟩⟩ hOpen
      · have hFailure := hSound _ (List.mem_append_right _ hMem)
        rw [RelayEvent.failure?, if_neg hReset] at hFailure
        cases hFailure
  · intro hWaste
    refine ⟨?_, fun event hMem => ?_⟩
    · rintro ⟨side, ⟨event, hMem, hEnds⟩ | ⟨event, hMem, hCuts⟩⟩
      · exact ((hWaste event hMem).harmless.2 side).1 hEnds
      · exact ((hWaste event hMem).harmless.2 side).2 hCuts
    · rcases List.mem_append.mp hMem with hMem | hMem
      · exact hUndecided.2 event hMem
      · exact (hWaste event hMem).harmless.1

/-! ### Every run -/

/-- What becomes of a relay through which nothing gets, while it gets more inputs. -/
structure Wastes (first : Relay) (inputs more : List RelayInput) : Prop where
  written : ∀ side, (first.run (inputs ++ more)).writtenTo side = (first.run inputs).writtenTo side
  credited : ∀ side, ((first.run (inputs ++ more)).leg side).credited =
    ((first.run inputs).leg side).credited
  /-- It goes on, unless it has been idle for too long, while it reads pieces. -/
  onward : (first.run (inputs ++ more)).exit = none ∨
      (first.run (inputs ++ more)).exit = some .idle ↔
    ∀ event ∈ (first.run inputs).history more, event.IsWaste
  /-- It closes when a side ends or is reset. -/
  closed : (first.run (inputs ++ more)).exit = some .closed ↔
    ∃ side, Ended ((first.run inputs).history more) side ∨
      Cut ((first.run inputs).history more) side

/-- Whether anything can get through a relay that has started and gets these inputs. -/
structure Progresses (first : Relay) (inputs : List RelayInput) : Prop where
  flows : (first.run inputs).exit = none →
    ((∃ side, (first.run inputs).Flows side) ↔ ∃ side, ¬ Lost (first.history inputs) side)
  writable : (first.run inputs).exit = none →
    ((∃ side, ((first.run inputs).leg side).writable = true) ↔
      ∃ side, ¬ Lost (first.history inputs) side)
  /-- When writes to both sides have failed and a side has ended, it closes. -/
  closes : (∀ side, Lost (first.history inputs) side) →
    (∃ side, Ended (first.history inputs) side) → (first.run inputs).exit = some .closed
  /-- When writes to both sides have failed and none has ended, it goes on in vain. -/
  wastes : (first.run inputs).exit = none → (∀ side, Lost (first.history inputs) side) →
    ∀ more, Wastes first inputs more

/-- **A relay that waits can get something through, unless writes to both sides have failed
because the peers are gone.**  If that has happened and a side has ended, the relay closes at
once.  If neither has, it goes on reading both: it throws away what it reads, writes and counts
nothing more, and closes with the next end or reset of a side. -/
theorem progress_run (idle : Option Nat) (client remote : Stream.Writer)
    (inputs : List RelayInput) : Progresses (start idle client remote) inputs := by
  have hHeard := (heard_start idle client remote).run inputs
  rw [List.nil_append] at hHeard
  have hUndecided (hExit : ((start idle client remote).run inputs).exit = none) :
      Undecided ((start idle client remote).history inputs) :=
    hHeard.verdict.undecided_iff.mp (Or.inl hExit)
  refine ⟨fun hExit => (hHeard.records.exists_flows_iff (hUndecided hExit)).1,
    fun hExit => (hHeard.records.exists_flows_iff (hUndecided hExit)).2,
    fun hLost ⟨side, hEnded⟩ => ?_, fun hExit hLost more => ?_⟩
  · exact hHeard.verdict.closed_iff.mpr ⟨side, Or.inr ⟨hEnded, Or.inl (hLost side)⟩⟩
  · have hOpen := hUndecided hExit
    have hClosed (side : Side) :
        (((start idle client remote).run inputs).leg side).writable = false := by
      rw [Bool.eq_false_iff, Ne, hHeard.records.writable]
      exact fun h => h.1 (hLost side)
    have hStays (side : Side) := staysClosed_run (hClosed side) more
    have hMore := (heard_start idle client remote).run (inputs ++ more)
    rw [List.nil_append, history_append] at hMore
    have hLater := fun event (hMem : event ∈ _) => waste_of_closed hClosed more hMem
    have hRun : (start idle client remote).run (inputs ++ more) =
        ((start idle client remote).run inputs).run more := List.foldl_append
    rw [hRun] at hMore
    refine ⟨fun side => ?_, fun side => ?_, ?_, ?_⟩ <;> rw [hRun]
    · rw [writtenTo, (hStays side).written, writtenTo]
    · exact (hStays side).credited
    · exact hMore.verdict.undecided_iff.trans (hOpen.append_iff hLost hLater)
    · exact hMore.verdict.closed_iff.trans (hOpen.over_append hLost)

/-- Both peers are gone when they are written to: the relay has nothing it could write to, and
waits. -/
theorem waits_with_both_lost :
    let gone : Stream.Writer := { later := .fails ⟨.brokenPipe, "Broken pipe"⟩ }
    let first := start none gone gone
    let inputs : List RelayInput := [.read .client (.data [0x61]), .read .remote (.data [0x62])]
    (∀ side, Lost (first.history inputs) side) ∧ (first.run inputs).exit = none ∧
      ¬ ∃ side, ((first.run inputs).leg side).writable = true := by
  intro gone first inputs
  have hHistory : first.history inputs =
      [.handed .client ⟨[0x61], [], some ⟨.brokenPipe, "Broken pipe"⟩⟩,
        .handed .remote ⟨[0x62], [], some ⟨.brokenPipe, "Broken pipe"⟩⟩] := by
    simp only [first, inputs, gone]
    decide +kernel
  refine ⟨fun side => ?_, ?_, ?_⟩
  · rw [hHistory]
    cases side with
    | client => exact ⟨_, List.mem_cons_of_mem _ List.mem_cons_self, rfl, _, rfl, by decide⟩
    | remote => exact ⟨_, List.mem_cons_self, rfl, _, rfl, by decide⟩
  · simp only [first, inputs, gone]
    decide +kernel
  · rintro ⟨side, hOpen⟩
    cases side with
    | client =>
      have hClosed : (first.run inputs).client.writable = false := by
        simp only [first, inputs, gone]
        decide +kernel
      exact absurd hOpen (by simp [leg, hClosed])
    | remote =>
      have hClosed : (first.run inputs).remote.writable = false := by
        simp only [first, inputs, gone]
        decide +kernel
      exact absurd hOpen (by simp [leg, hClosed])

end Relay

end SocksGateway
