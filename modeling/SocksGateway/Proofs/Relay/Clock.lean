import Mathlib.Data.List.Induction
import SocksGateway.Proofs.Relay.Exit

/-!
# Loops that time their waits

The relay and the sink are two loops, each with a clock of its own.  A `Loop` is what
they have in common as far as time goes: they wait for one read after the other, and the
clock starts afresh at each wait.

* `Loop`: a loop that waits for reads, with the laws of its clock; `relayLoop`, `sinkLoop`.
* `Loop.Begins`, `Loop.Quiet`, `Lasts`: where a wait begins, and for how long nothing is read.
* `Loop.rests_run`: what becomes of a loop while nothing is read.
* `Loop.exists_wait`: a loop that waits is in a wait that has begun somewhere.
* `Loop.exit_idle_iff`: a loop times out exactly when a wait lasts for as long as the limit.
* `Loop.timesOut`: when and how a loop times out.
-/

namespace SocksGateway

/-- A loop that waits for one read after the other, with a clock for each wait. -/
structure Loop (σ κ : Type) where
  step : σ → RelayInput → σ
  exit : σ → Option RelayExit
  /-- The side is still read. -/
  reads : σ → Side → Bool
  limit : σ → Option Nat
  /-- How long the wait has lasted. -/
  waited : σ → Nat
  /-- What has become of everything that was read. -/
  deeds : σ → κ
  ended : ∀ {s}, exit s ≠ none → ∀ input, step s input = s
  unheard : ∀ {s side}, exit s = none → reads s side = false →
    ∀ result, step s (.read side result) = s
  heard : ∀ {s side}, exit s = none → reads s side = true → ∀ result,
    limit (step s (.read side result)) = limit s ∧ waited (step s (.read side result)) = 0 ∧
      exit (step s (.read side result)) ≠ some .idle
  passed : ∀ {s}, exit s = none → ∀ millis,
    limit (step s (.pass millis)) = limit s ∧ waited (step s (.pass millis)) = waited s + millis ∧
      reads (step s (.pass millis)) = reads s ∧ deeds (step s (.pass millis)) = deeds s ∧
      exit (step s (.pass millis)) =
        if (limit s).any (· ≤ waited s + millis) then some .idle else none

/-! ### The two loops -/

namespace Sink

variable {s : Sink}

theorem step_of_exit (hExit : s.exit ≠ none) (input : RelayInput) : s.step input = s := by
  unfold step
  exact if_neg (by simpa using hExit)

theorem step_pass (hWaiting : s.exit = none) (millis : Nat) :
    s.step (.pass millis) =
      { s with
          waited := s.waited + millis
          exit := if s.idle.any (· ≤ s.waited + millis) then some .idle else none } := by
  unfold step
  rw [if_pos (by simp [hWaiting])]
  cases hLimit : s.idle with
  | none => simp [checkIdle, hWaiting]
  | some limit => by_cases hLate : limit ≤ s.waited + millis <;> simp [checkIdle, hLate, hWaiting]

theorem step_read (hWaiting : s.exit = none) (result : Read) :
    s.step (.read .client result) = { s.onRead result with waited := 0 } := by
  unfold step
  exact if_pos (by simp [hWaiting])

theorem idle_onRead (s : Sink) (result : Read) : (s.onRead result).idle = s.idle := by
  cases result with
  | eof => rfl
  | data piece => cases piece <;> rfl
  | fault f => cases hReset : f.isReset <;> simp [onRead, hReset]

theorem exit_onRead_ne_idle (hWaiting : s.exit = none) (result : Read) :
    (s.onRead result).exit ≠ some .idle := by
  cases result with
  | eof => simp [onRead]
  | data piece => cases piece <;> simp [onRead, hWaiting]
  | fault f => cases hReset : f.isReset <;> simp [onRead, hReset]

end Sink

/-- The relay as a loop; what it has done is in its two legs. -/
def relayLoop : Loop Relay (Leg × Leg) where
  step := Relay.step
  exit := Relay.exit
  reads r side := (r.leg side).readable
  limit := Relay.idle
  waited := Relay.waited
  deeds r := (r.client, r.remote)
  ended hExit input := Relay.step_of_exit hExit input
  unheard hWaiting hUnread result := Relay.step_unread hWaiting hUnread result
  heard hWaiting hReadable result :=
    ⟨Relay.idle_step _ _, by rw [Relay.step_read hWaiting hReadable],
      Relay.exit_read_ne_idle hWaiting result⟩
  passed hWaiting millis := by
    rw [Relay.step_pass hWaiting]
    exact ⟨rfl, rfl, funext fun side => by cases side <;> rfl, rfl, rfl⟩

/-- The sink as a loop: it reads the client only, and counts. -/
def sinkLoop : Loop Sink Nat where
  step := Sink.step
  exit := Sink.exit
  reads _ side := side == .client
  limit := Sink.idle
  waited := Sink.waited
  deeds := Sink.discarded
  ended hExit input := Sink.step_of_exit hExit input
  unheard {s side} _ hUnread result := by
    cases side with
    | client => cases hUnread
    | remote => simp [Sink.step]
  heard {s side} hWaiting hReadable result := by
    cases side with
    | remote => cases hReadable
    | client =>
      rw [Sink.step_read hWaiting]
      exact ⟨Sink.idle_onRead s result, rfl, Sink.exit_onRead_ne_idle hWaiting result⟩
  passed hWaiting millis := by
    rw [Sink.step_pass hWaiting]
    exact ⟨rfl, rfl, rfl, rfl, rfl⟩

/-! ### Waits -/

/-- How long the inputs take. -/
def elapsed : List RelayInput → Nat
  | [] => 0
  | .pass millis :: inputs => millis + elapsed inputs
  | .read _ _ :: inputs => elapsed inputs

/-- Time passes, and it is as long as the limit; a limit of zero is reached as soon as time
passes at all. -/
def Lasts (limit : Nat) (inputs : List RelayInput) : Prop :=
  (∃ millis, .pass millis ∈ inputs) ∧ limit ≤ elapsed inputs

theorem elapsed_of_timeless {inputs : List RelayInput}
    (hTimeless : ∀ millis, .pass millis ∉ inputs) : elapsed inputs = 0 := by
  induction inputs with
  | nil => rfl
  | cons input inputs ih =>
    cases input with
    | pass millis => exact absurd List.mem_cons_self (hTimeless millis)
    | read side result => exact ih fun millis h => hTimeless millis (List.mem_cons_of_mem _ h)

namespace Loop

variable {σ κ : Type} {m : Loop σ κ} {s : σ} {inputs more : List RelayInput}

def run (m : Loop σ κ) (s : σ) (inputs : List RelayInput) : σ := inputs.foldl m.step s

/-- A wait begins behind these inputs: the loop has just started, or has just completed a read of
a side that it still read. -/
def Begins (m : Loop σ κ) (s : σ) (before : List RelayInput) : Prop :=
  m.exit (m.run s before) = none ∧
    (before = [] ∨ ∃ front side result,
      before = front ++ [.read side result] ∧ m.reads (m.run s front) side = true)

/-- No read completes on a side that is still read. -/
def Quiet (m : Loop σ κ) (s : σ) (inputs : List RelayInput) : Prop :=
  ∀ side result, .read side result ∈ inputs → m.reads s side = false

/-- **A wait is too long**: it begins behind `before`, and for as long as the limit no read
completes. -/
def Overdue (m : Loop σ κ) (s : σ) (limit : Nat) (inputs before : List RelayInput) : Prop :=
  ∃ during after, inputs = before ++ during ++ after ∧ m.Begins s before ∧
    m.Quiet (m.run s before) during ∧ Lasts limit during

/-! ### Runs -/

theorem run_append (m : Loop σ κ) (s : σ) (inputs more : List RelayInput) :
    m.run s (inputs ++ more) = m.run (m.run s inputs) more := List.foldl_append

theorem run_of_exit (hExit : m.exit s ≠ none) (inputs : List RelayInput) : m.run s inputs = s := by
  induction inputs with
  | nil => rfl
  | cons input inputs ih => rw [run, List.foldl_cons, m.ended hExit, ← run, ih]

theorem exit_run_left (hExit : m.exit (m.run s (inputs ++ more)) = none) :
    m.exit (m.run s inputs) = none := by
  refine Decidable.byContradiction fun hEnded => hEnded ?_
  rwa [run_append, run_of_exit hEnded] at hExit

theorem limit_step (m : Loop σ κ) (s : σ) (input : RelayInput) :
    m.limit (m.step s input) = m.limit s := by
  by_cases hExit : m.exit s = none
  · cases input with
    | pass millis => exact (m.passed hExit millis).1
    | read side result =>
      cases hReads : m.reads s side with
      | false => rw [m.unheard hExit hReads]
      | true => exact (m.heard hExit hReads result).1
  · rw [m.ended hExit]

theorem limit_run (m : Loop σ κ) (s : σ) (inputs : List RelayInput) :
    m.limit (m.run s inputs) = m.limit s := by
  induction inputs generalizing s with
  | nil => rfl
  | cons input inputs ih => exact (ih (m.step s input)).trans (m.limit_step s input)

/-! ### While nothing is read -/

/-- The wait reaches the limit while these inputs come. -/
def Late (m : Loop σ κ) (s : σ) (inputs : List RelayInput) : Prop :=
  ∃ limit, m.limit s = some limit ∧ (∃ millis, .pass millis ∈ inputs) ∧
    limit ≤ m.waited s + elapsed inputs

/-- What becomes of a loop that reads nothing: it has the time of its wait to count. -/
structure Rests (m : Loop σ κ) (s : σ) (inputs : List RelayInput) (t : σ) : Prop where
  deeds : m.deeds t = m.deeds s
  late : m.Late s inputs → m.exit t = some .idle
  onward : ¬ m.Late s inputs →
    m.exit t = none ∧ m.reads t = m.reads s ∧ m.waited t = m.waited s + elapsed inputs

theorem not_late_nil : ¬ m.Late s [] := by
  rintro ⟨limit, -, ⟨millis, hMem⟩, -⟩
  cases hMem

theorem late_read {side : Side} {result : Read} :
    m.Late s (.read side result :: inputs) ↔ m.Late s inputs := by
  simp [Late, elapsed]

/-- A wait that has not reached the limit yet reaches it later or not at all. -/
theorem late_pass {millis : Nat} {t : σ} (hLimit : m.limit t = m.limit s)
    (hWaited : m.waited t = m.waited s + millis)
    (hOpen : ¬ ∃ limit, m.limit s = some limit ∧ limit ≤ m.waited s + millis) :
    m.Late s (.pass millis :: inputs) ↔ m.Late t inputs := by
  constructor
  · rintro ⟨limit, hSome, -, hLe⟩
    refine ⟨limit, hLimit.trans hSome, ?_, by rw [hWaited, Nat.add_assoc]; exact hLe⟩
    refine Classical.byContradiction fun hTimeless => hOpen ⟨limit, hSome, ?_⟩
    rwa [elapsed, elapsed_of_timeless (not_exists.mp hTimeless)] at hLe
  · rintro ⟨limit, hSome, -, hLe⟩
    refine ⟨limit, hLimit ▸ hSome, ⟨millis, List.mem_cons_self⟩, ?_⟩
    rw [hWaited, Nat.add_assoc] at hLe
    exact hLe

/-- **While nothing is read, a loop times out when the limit is reached, and waits until then.** -/
theorem rests_run (hExit : m.exit s = none) (hQuiet : m.Quiet s inputs) :
    m.Rests s inputs (m.run s inputs) := by
  induction inputs generalizing s with
  | nil => exact ⟨rfl, fun h => absurd h not_late_nil, fun _ => ⟨hExit, rfl, rfl⟩⟩
  | cons input inputs ih =>
    have hRest : m.Quiet s inputs :=
      fun side result h => hQuiet side result (List.mem_cons_of_mem _ h)
    rw [run, List.foldl_cons, ← run]
    cases input with
    | read side result =>
      rw [m.unheard hExit (hQuiet side result List.mem_cons_self)]
      obtain ⟨hDeeds, hLate, hOnward⟩ := ih hExit hRest
      exact ⟨hDeeds, fun h => hLate (late_read.mp h), fun h => hOnward (mt late_read.mpr h)⟩
    | pass millis =>
      obtain ⟨hLimit, hWaited, hReads, hDeeds, hNext⟩ := m.passed hExit millis
      by_cases hOver : ∃ limit, m.limit s = some limit ∧ limit ≤ m.waited s + millis
      · obtain ⟨limit, hSome, hLe⟩ := hOver
        have hIdle : m.exit (m.step s (.pass millis)) = some .idle := by
          rw [hNext, hSome, Option.any_some, if_pos (by simpa using hLe)]
        have hLate : m.Late s (.pass millis :: inputs) := by
          refine ⟨limit, hSome, ⟨millis, List.mem_cons_self⟩, ?_⟩
          rw [elapsed]
          omega
        rw [run_of_exit (by simp [hIdle])]
        exact ⟨hDeeds, fun _ => hIdle, fun h => absurd hLate h⟩
      · have hOpen : m.exit (m.step s (.pass millis)) = none := by
          rw [hNext, if_neg]
          simpa [Option.any_eq_true] using hOver
        obtain ⟨hDone, hLate, hOnward⟩ := ih hOpen fun side result h => by
          rw [hReads]
          exact hRest side result h
        have hIff : m.Late s (.pass millis :: inputs) ↔ m.Late _ inputs :=
          late_pass hLimit hWaited hOver
        refine ⟨hDone.trans hDeeds, fun h => hLate (hIff.mp h), fun h => ?_⟩
        obtain ⟨hExit', hReads', hWaited'⟩ := hOnward (mt hIff.mpr h)
        exact ⟨hExit', hReads'.trans hReads, by rw [hWaited', hWaited, elapsed, Nat.add_assoc]⟩

/-! ### The wait that goes on -/

/-- **The clock starts afresh at each wait.** -/
theorem waited_of_begins {before : List RelayInput} (hFresh : m.waited s = 0)
    (hBegins : m.Begins s before) : m.waited (m.run s before) = 0 := by
  obtain ⟨hExit, rfl | ⟨front, side, result, rfl, hReads⟩⟩ := hBegins
  · exact hFresh
  · have hFront := exit_run_left hExit
    rw [run_append]
    exact (m.heard hFront hReads result).2.1

/-- **A loop that waits is in a wait** that has begun somewhere and has been quiet since. -/
theorem exists_wait (hExit : m.exit (m.run s inputs) = none) :
    ∃ before during, inputs = before ++ during ∧ m.Begins s before ∧
      m.Quiet (m.run s before) during := by
  induction inputs using List.reverseRecOn with
  | nil => exact ⟨[], [], rfl, ⟨hExit, Or.inl rfl⟩, fun _ _ h => nomatch h⟩
  | append_singleton front input ih =>
    have hFront := exit_run_left hExit
    obtain ⟨before, during, rfl, hBegins, hQuiet⟩ := ih hFront
    have hGrow (hInput : ∀ side result, input = .read side result →
        m.reads (m.run s before) side = false) : m.Quiet (m.run s before) (during ++ [input]) := by
      intro side result hMem
      rcases List.mem_append.mp hMem with hMem | hMem
      · exact hQuiet side result hMem
      · exact hInput side result (List.mem_singleton.mp hMem).symm
    cases input with
    | pass millis =>
      exact ⟨before, during ++ [.pass millis], by simp, hBegins, hGrow fun _ _ h => nomatch h⟩
    | read side result =>
      -- The flags are those of the beginning, since the loop has only waited.
      have hRests := rests_run hBegins.1 hQuiet
      have hReads : m.reads (m.run s (before ++ during)) = m.reads (m.run s before) := by
        rw [run_append] at hFront ⊢
        refine (hRests.onward fun hLate => ?_).2.1
        rw [hRests.late hLate] at hFront
        cases hFront
      cases hSide : m.reads (m.run s before) side with
      | false =>
        refine ⟨before, during ++ [.read side result], by simp, hBegins, hGrow ?_⟩
        intro _ _ hInput
        cases hInput
        exact hSide
      | true =>
        refine ⟨before ++ during ++ [.read side result], [], by simp, ⟨hExit, Or.inr ?_⟩,
          fun _ _ h => nomatch h⟩
        exact ⟨before ++ during, side, result, rfl, by rw [hReads, hSide]⟩

theorem late_of_lasts {before during : List RelayInput} {limit : Nat} (hFresh : m.waited s = 0)
    (hLimit : m.limit s = some limit) (hBegins : m.Begins s before) :
    m.Late (m.run s before) during ↔ Lasts limit during := by
  rw [Late, limit_run, hLimit, waited_of_begins hFresh hBegins]
  simp [Lasts]

/-- **A loop that has waited too long has timed out, and done nothing since the wait began.** -/
theorem Overdue.idle {before : List RelayInput} {limit : Nat} (hFresh : m.waited s = 0)
    (hLimit : m.limit s = some limit) (hOverdue : m.Overdue s limit inputs before) :
    m.exit (m.run s inputs) = some .idle ∧
      m.deeds (m.run s inputs) = m.deeds (m.run s before) := by
  obtain ⟨during, after, rfl, hBegins, hQuiet, hLasts⟩ := hOverdue
  have hRests := rests_run hBegins.1 hQuiet
  have hIdle := hRests.late ((late_of_lasts hFresh hLimit hBegins).mpr hLasts)
  rw [run_append, run_append, run_of_exit (by simp [hIdle])]
  exact ⟨hIdle, hRests.deeds⟩

theorem Overdue.append {before : List RelayInput} {limit : Nat}
    (hOverdue : m.Overdue s limit inputs before) (more : List RelayInput) :
    m.Overdue s limit (inputs ++ more) before := by
  obtain ⟨during, after, rfl, hRest⟩ := hOverdue
  exact ⟨during, after ++ more, by simp, hRest⟩

/-- **A loop times out exactly when a wait lasts for as long as the limit.** -/
theorem exit_idle_iff (hExit : m.exit s = none) (hFresh : m.waited s = 0) :
    m.exit (m.run s inputs) = some .idle ↔
      ∃ limit before, m.limit s = some limit ∧ m.Overdue s limit inputs before := by
  refine ⟨fun hIdle => ?_, fun ⟨limit, before, hLimit, hOverdue⟩ => (hOverdue.idle hFresh hLimit).1⟩
  induction inputs using List.reverseRecOn with
  | nil =>
    rw [show m.run s [] = s from rfl, hExit] at hIdle
    cases hIdle
  | append_singleton front input ih =>
    by_cases hFront : m.exit (m.run s front) = none
    · obtain ⟨before, during, rfl, hBegins, hQuiet⟩ := exists_wait hFront
      cases input with
      | read side result =>
        -- A read does not make the loop idle.
        rw [run_append] at hIdle
        cases hReads : m.reads (m.run s (before ++ during)) side with
        | true => exact absurd hIdle (m.heard hFront hReads result).2.2
        | false =>
          rw [show m.run _ [_] = m.step _ _ from rfl, m.unheard hFront hReads, hFront] at hIdle
          cases hIdle
      | pass millis =>
        have hMore : m.Quiet (m.run s before) (during ++ [.pass millis]) := by
          intro side result hMem
          exact hQuiet side result (by simpa using hMem)
        have hRests := rests_run hBegins.1 hMore
        rw [List.append_assoc, run_append] at hIdle
        have hLate : m.Late (m.run s before) (during ++ [.pass millis]) := by
          refine Classical.byContradiction fun hNot => ?_
          rw [(hRests.onward hNot).1] at hIdle
          cases hIdle
        obtain ⟨limit, hLimit, -⟩ := id hLate
        rw [limit_run] at hLimit
        exact ⟨limit, before, hLimit, during ++ [.pass millis], [], by simp, hBegins, hMore,
          (late_of_lasts hFresh hLimit hBegins).mp hLate⟩
    · rw [run_append, run_of_exit hFront] at hIdle
      obtain ⟨limit, before, hLimit, hOverdue⟩ := ih hIdle
      exact ⟨limit, before, hLimit, hOverdue.append [input]⟩

/-- When and how a loop times out that has started and gets these inputs. -/
structure TimesOut (m : Loop σ κ) (s : σ) (inputs : List RelayInput) : Prop where
  idle_iff : m.exit (m.run s inputs) = some .idle ↔
    ∃ limit before, m.limit s = some limit ∧ m.Overdue s limit inputs before
  never : m.limit s = none → m.exit (m.run s inputs) ≠ some .idle
  /-- Every wait is timed from its beginning. -/
  afresh : ∀ before, m.Begins s before → m.waited (m.run s before) = 0
  /-- A read that completes as the wait begins is in time, whatever the limit. -/
  prompt : ∀ before side result, m.Begins s before → m.reads (m.run s before) side = true →
    m.exit (m.run s (before ++ [.read side result])) ≠ some .idle
  /-- What was done before the wait stays done, and nothing is added. -/
  keeps : ∀ limit before, m.limit s = some limit → m.Overdue s limit inputs before →
    m.deeds (m.run s inputs) = m.deeds (m.run s before)

theorem timesOut (hExit : m.exit s = none) (hFresh : m.waited s = 0) (inputs : List RelayInput) :
    m.TimesOut s inputs := by
  have hIff : m.exit (m.run s inputs) = some .idle ↔ _ := exit_idle_iff hExit hFresh
  refine ⟨hIff, fun hNone hIdle => ?_, fun before => waited_of_begins hFresh,
    fun before side result hBegins hReads => ?_,
    fun limit before hLimit hOverdue => (hOverdue.idle hFresh hLimit).2⟩
  · obtain ⟨limit, before, hLimit, -⟩ := hIff.mp hIdle
    rw [hNone] at hLimit
    cases hLimit
  · rw [run_append]
    exact (m.heard hBegins.1 hReads result).2.2

end Loop

end SocksGateway
