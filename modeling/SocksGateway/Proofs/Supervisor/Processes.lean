import Mathlib.Data.List.Induction
import SocksGateway.Proofs.Supervisor.Scan
import SocksGateway.Proofs.Tunnel.Registry

/-!
# The processes of a supervisor

Between the scans of a supervisor time passes, sessions come, change and go, connections are
opened and closed, and processes exit; during a scan asking after a process can fail, and so
can starting one.  Whatever happens, the supervisor knows about each tunnel what its history
says.

* `System`, `Move`: the supervisor among everything else, with the processes that it started.
* `TriedAt`, `Unseen`: what the history says about a tunnel.
* `Tended`, `Tended.scan`, `exists_tended`: the supervisor's entry of the tunnel says the same.
* `processes_supervised`: what that means for the processes.
-/

namespace SocksGateway

namespace Supervisor

variable {t : ChainedTunnel} {m m' : Managed} {v : Supervisor}

/-! ### The system -/

/-- What is up to the surroundings during a scan, by the number of the tunnel. -/
structure Answers where
  /-- Asking after the process fails. -/
  fails : Nat → Bool := fun _ => false
  /-- The code that the process exits with. -/
  code : Nat → Nat := fun _ => 0
  /-- Starting a process succeeds. -/
  spawns : Nat → Bool := fun _ => true

/-- A supervisor and everything that matters to it. -/
structure System where
  supervisor : Supervisor
  clock : Moment
  sessions : List Session := []
  activity : TunnelActivity := {}
  /-- The processes that were started for the tunnel with a number, the latest one first, and
  whether they run. -/
  started : Nat → List Bool := fun _ => []

/-- What happens next. -/
inductive Move where
  | wait (nanoseconds : Nat)
  /-- There are other sessions, or they have changed. -/
  | become (sessions : List Session)
  | opened (id : Nat)
  | closed (id : Nat)
  | marked (id : Nat)
  /-- A process ends, the latest one of the tunnel having the number zero. -/
  | exit (id k : Nat)
  | scan (x : Answers)

/-- A process of the tunnel with this number is held. -/
def holds (v : Supervisor) (id : Nat) : Bool :=
  v.managed.any fun m => m.tunnel.id == id && m.running

namespace System

/-- The supervisor of a registry's tunnels, before anything has happened. -/
def begin (r : TunnelRegistry) (delay : Nat) (clock : Moment) : System where
  supervisor := .ofTunnels r.chained delay
  clock := clock

/-- Asking after the latest process of a tunnel tells whether it runs, unless it fails. -/
def processes (sys : System) (x : Answers) : Processes where
  poll id :=
    if x.fails id then .failed
    else if (sys.started id).head? = some true then .running
    else .exited (x.code id)
  spawns := x.spawns

/-- A scan of the system as it is. -/
def scan (sys : System) (x : Answers) : Scan :=
  sys.supervisor.scan (sys.processes x) sys.clock sys.sessions sys.activity

/-- The scan starts a process of the tunnel with this number. -/
def startsAt (sys : System) (x : Answers) (id : Nat) : Bool :=
  sys.supervisor.managed.any fun m => m.tunnel.id == id && (sys.scan x).starts m.tunnel

/-- The processes of a tunnel after a scan.  The latest one is killed if the supervisor ceases to
hold it, also by holding another one. -/
def afterScan (sys : System) (x : Answers) (id : Nat) : List Bool :=
  let starts := sys.startsAt x id
  let ceases := sys.supervisor.holds id && (starts || !(sys.scan x).supervisor.holds id)
  let left := if ceases then (sys.started id).modifyHead fun _ => false else sys.started id
  if starts then true :: left else left

def move (sys : System) : Move → System
  | .wait n => { sys with clock := sys.clock + n }
  | .become sessions => { sys with sessions }
  | .opened id => { sys with activity := sys.activity.connectionOpened id }
  | .closed id => { sys with activity := sys.activity.connectionClosed id }
  | .marked id => { sys with activity := sys.activity.mark id }
  | .exit id k =>
    { sys with started := TunnelActivity.put sys.started id ((sys.started id).set k false) }
  | .scan x =>
    { sys with
      supervisor := (sys.scan x).supervisor
      activity := (sys.scan x).activity
      started := sys.afterScan x }

def run (sys : System) (moves : List Move) : System := moves.foldl move sys

theorem run_append_singleton (sys : System) (moves : List Move) (m : Move) :
    sys.run (moves ++ [m]) = (sys.run moves).move m := by
  rw [run, List.foldl_append]
  rfl

end System

/-! ### The history of a tunnel -/

/-- Starting a process of the tunnel was tried at that time, by a scan among the moves. -/
def TriedAt (sys : System) (moves : List Move) (t : ChainedTunnel) (time : Moment) : Prop :=
  ∃ front x back, moves = front ++ .scan x :: back ∧
    ((sys.run front).scan x).tries t = true ∧ (sys.run front).clock = time

/-- **A process of the tunnel has not been seen to exit**: a scan started it, and no later scan
was told that the process has exited. -/
def Unseen (sys : System) (moves : List Move) (t : ChainedTunnel) : Prop :=
  ∃ front x back, moves = front ++ .scan x :: back ∧
    ((sys.run front).scan x).starts t = true ∧
    ∀ mid y rest, back = mid ++ .scan y :: rest → ∀ code,
      ((sys.run (front ++ .scan x :: mid)).processes y).poll t.id ≠ .exited code

theorem concat_eq_split {α : Type} {l front back : List α} {a b : α} :
    l ++ [a] = front ++ b :: back ↔
      (front = l ∧ b = a ∧ back = []) ∨ ∃ rest, back = rest ++ [a] ∧ l = front ++ b :: rest := by
  rcases List.eq_nil_or_concat back with rfl | ⟨rest, c, rfl⟩
  · constructor
    · intro h
      obtain ⟨hFront, hLast⟩ := List.append_inj' h rfl
      exact .inl ⟨hFront.symm, (List.singleton_inj.mp hLast).symm, rfl⟩
    · rintro (⟨rfl, rfl, -⟩ | ⟨rest, hNil, -⟩)
      · rfl
      · simp at hNil
  · rw [List.concat_eq_append, ← List.cons_append, ← List.append_assoc]
    constructor
    · intro h
      obtain ⟨hFront, hLast⟩ := List.append_inj' h rfl
      exact .inr ⟨rest, by rw [List.singleton_inj.mp hLast], hFront⟩
    · rintro (⟨-, -, hNil⟩ | ⟨rest', hRest, rfl⟩)
      · simp at hNil
      · obtain ⟨rfl, hLast⟩ := List.append_inj' hRest rfl
        rw [List.singleton_inj.mp hLast]

variable {sys : System} {moves : List Move} {move : Move} {time : Moment}

theorem triedAt_concat : TriedAt sys (moves ++ [move]) t time ↔
    TriedAt sys moves t time ∨
      ∃ x, move = .scan x ∧ ((sys.run moves).scan x).tries t = true ∧
        (sys.run moves).clock = time := by
  constructor
  · rintro ⟨front, x, back, hMoves, hTried⟩
    rcases concat_eq_split.mp hMoves with ⟨rfl, rfl, -⟩ | ⟨rest, -, rfl⟩
    · exact .inr ⟨x, rfl, hTried⟩
    · exact .inl ⟨front, x, rest, rfl, hTried⟩
  · rintro (⟨front, x, back, rfl, hTried⟩ | ⟨x, rfl, hTried⟩)
    · exact ⟨front, x, back ++ [move], by simp, hTried⟩
    · exact ⟨moves, x, [], rfl, hTried⟩

theorem unseen_concat : Unseen sys (moves ++ [move]) t ↔
    (∃ x, move = .scan x ∧ ((sys.run moves).scan x).starts t = true) ∨
      (Unseen sys moves t ∧ ∀ x, move = .scan x → ∀ code,
        ((sys.run moves).processes x).poll t.id ≠ .exited code) := by
  constructor
  · rintro ⟨front, x, back, hMoves, hStarts, hSince⟩
    rcases concat_eq_split.mp hMoves with ⟨rfl, rfl, -⟩ | ⟨rest, rfl, rfl⟩
    · exact .inl ⟨x, rfl, hStarts⟩
    · refine .inr ⟨⟨front, x, rest, rfl, hStarts, fun mid y later hLater => ?_⟩, ?_⟩
      · exact hSince mid y (later ++ [move]) (by simp [hLater])
      · rintro y rfl
        exact hSince rest y [] rfl
  · rintro (⟨x, rfl, hStarts⟩ | ⟨⟨front, x, back, rfl, hStarts, hSince⟩, hLast⟩)
    · exact ⟨moves, x, [], rfl, hStarts, fun mid y rest hNil => by simp at hNil⟩
    · refine ⟨front, x, back ++ [move], by simp, hStarts, fun mid y rest hBack => ?_⟩
      rcases concat_eq_split.mp hBack with ⟨rfl, rfl, -⟩ | ⟨later, -, hLater⟩
      · exact hLast y rfl
      · exact hSince mid y later hLater

theorem triedAt_scan {x : Answers} : TriedAt sys (moves ++ [.scan x]) t time ↔
    TriedAt sys moves t time ∨
      ((sys.run moves).scan x).tries t = true ∧ (sys.run moves).clock = time := by
  rw [triedAt_concat]
  simp

theorem unseen_scan {x : Answers} : Unseen sys (moves ++ [.scan x]) t ↔
    ((sys.run moves).scan x).starts t = true ∨
      (Unseen sys moves t ∧ ∀ code, ((sys.run moves).processes x).poll t.id ≠ .exited code) := by
  rw [unseen_concat]
  simp

theorem clock_le_move (sys : System) (move : Move) : sys.clock ≤ (sys.move move).clock := by
  cases move with
  | wait n => exact Int.le_add_of_nonneg_right (Int.natCast_nonneg n)
  | _ => exact Int.le_refl _

theorem TriedAt.le_clock (h : TriedAt sys moves t time) : time ≤ (sys.run moves).clock := by
  induction moves using List.reverseRecOn with
  | nil =>
    obtain ⟨front, x, back, hNil, -⟩ := h
    simp at hNil
  | append_singleton moves move ih =>
    rw [System.run_append_singleton]
    refine Int.le_trans ?_ (clock_le_move _ move)
    rcases triedAt_concat.mp h with hBefore | ⟨x, -, -, rfl⟩
    · exact ih hBefore
    · exact Int.le_refl _

/-! ### The tunnels that are looked after -/

variable {r : TunnelRegistry} {delay : Nat} {clock : Moment} {x : Answers}

/-- The supervisor looks after the registry's tunnels that have a command. -/
def LooksAfter (v : Supervisor) (r : TunnelRegistry) : Prop :=
  v.managed.map Managed.tunnel = r.chained.filter fun t => t.command.isSome

theorem LooksAfter.mem (h : LooksAfter v r) (hm : m ∈ v.managed) :
    m.tunnel ∈ r.chained ∧ m.tunnel.command.isSome = true :=
  List.mem_filter.mp (h ▸ List.mem_map_of_mem hm)

theorem LooksAfter.distinct (h : LooksAfter v r) (hOrdered : r.Ordered) : Distinct v := by
  have hChosen : (r.chained.filter fun t => t.command.isSome).Sublist r.chained :=
    List.filter_sublist
  have hIds : (r.chained.map ChainedTunnel.id).Nodup :=
    List.Nodup.map_on (fun c hc d hd hId => hOrdered.eq_of_id hc hd hId)
      (List.Nodup.of_map _ hOrdered.distinct)
  refine ⟨?_, ?_⟩
  · rw [h]
    exact hIds.sublist (hChosen.map _)
  · rw [h]
    exact hOrdered.distinct.sublist (hChosen.map _)

theorem LooksAfter.ne_of_none (h : LooksAfter v r) (hOrdered : r.Ordered) (ht : t ∈ r.chained)
    (hNone : t.command = none) (hm : m ∈ v.managed) :
    m.tunnel.id ≠ t.id ∧ m.tunnel.name ≠ t.name := by
  obtain ⟨hKnown, hCommand⟩ := h.mem hm
  have hOther : m.tunnel ≠ t := by
    rintro rfl
    simp [hNone] at hCommand
  exact ⟨fun hId => hOther (hOrdered.eq_of_id hKnown ht hId),
    fun hName => hOther (List.inj_on_of_nodup_map hOrdered.distinct hKnown ht hName)⟩

theorem looksAfter_run (hOrdered : r.Ordered) (delay : Nat) (clock : Moment) (moves : List Move) :
    let v := ((System.begin r delay clock).run moves).supervisor
    LooksAfter v r ∧ v.restartDelay = delay := by
  induction moves using List.reverseRecOn with
  | nil =>
    refine ⟨?_, rfl⟩
    show List.map Managed.tunnel (List.map _ _) = _
    rw [List.map_map]
    exact List.map_id _
  | append_singleton moves move ih =>
    rw [System.run_append_singleton]
    cases move with
    | scan x => exact ⟨(tunnels_scan (ih.1.distinct hOrdered)).trans ih.1, ih.2⟩
    | _ => exact ih

/-! ### The processes of a tunnel -/

theorem any_managed_eq (h : Distinct v) (hm : m ∈ v.managed) (f : Managed → Bool) :
    (v.managed.any fun n => n.tunnel.id == m.tunnel.id && f n) = f m := by
  rw [Bool.eq_iff_iff, List.any_eq_true]
  constructor
  · rintro ⟨n, hn, hFound⟩
    obtain ⟨hId, hHolds⟩ := Bool.and_eq_true_iff.mp hFound
    rwa [← h.eq_of_id hn hm (beq_iff_eq.mp hId)]
  · exact fun hHolds => ⟨m, hm, by simp [hHolds]⟩

theorem holds_eq (h : Distinct v) (hm : m ∈ v.managed) : v.holds m.tunnel.id = m.running :=
  any_managed_eq h hm Managed.running

theorem startsAt_eq (h : Distinct sys.supervisor) (hm : m ∈ sys.supervisor.managed) :
    sys.startsAt x m.tunnel.id = (sys.scan x).starts m.tunnel :=
  any_managed_eq h hm fun n => (sys.scan x).starts n.tunnel

/-- **What the supervisor knows about a tunnel is what its history says**: it holds a process
exactly when one has not been seen to exit, and it knows the latest try.  At most the latest
process runs, and only while it is held. -/
structure Tended (sys : System) (moves : List Move) (m : Managed) : Prop where
  running : m.running = true ↔ Unseen sys moves m.tunnel
  tried : ∀ time, m.lastSpawn = some time → TriedAt sys moves m.tunnel time
  latest : ∀ time, TriedAt sys moves m.tunnel time → ∃ last, m.lastSpawn = some last ∧ time ≤ last
  older : ∀ runs ∈ ((sys.run moves).started m.tunnel.id).tail, runs = false
  idle : m.running = false → ∀ runs ∈ (sys.run moves).started m.tunnel.id, runs = false

theorem exists_left (hDistinct : Distinct sys.supervisor) (hm : m ∈ sys.supervisor.managed)
    (x : Answers) :
    ∃ m' ∈ (sys.scan x).supervisor.managed, m'.tunnel = m.tunnel ∧
      (m'.running = true ↔
        ¬ Gone (sys.processes x) m ∨ (sys.scan x).starts m.tunnel = true) ∧
      m'.lastSpawn = if (sys.scan x).tries m.tunnel = true then some sys.clock else m.lastSpawn :=
  exists_scan hDistinct hm

/-- **The processes of a tunnel after a scan**, in terms of the entries before and after. -/
theorem afterScan_eq (hDistinct : Distinct sys.supervisor) (hm : m ∈ sys.supervisor.managed)
    (hm' : m' ∈ (sys.scan x).supervisor.managed) (hTunnel : m'.tunnel = m.tunnel) :
    let starts := (sys.scan x).starts m.tunnel
    let left := if m.running && (starts || !m'.running) then
      (sys.started m.tunnel.id).modifyHead fun _ => false else sys.started m.tunnel.id
    sys.afterScan x m.tunnel.id = if starts then true :: left else left := by
  have hHeld : (sys.scan x).supervisor.holds m.tunnel.id = m'.running :=
    hTunnel ▸ holds_eq (distinct_scan hDistinct) hm'
  rw [System.afterScan, startsAt_eq hDistinct hm, holds_eq hDistinct hm, hHeld]

theorem not_runs_of_killed {l : List Bool} (hOlder : ∀ runs ∈ l.tail, runs = false) :
    ∀ runs ∈ l.modifyHead fun _ => false, runs = false := by
  cases l with
  | nil => simp
  | cons latest older => simpa using hOlder

/-- **A scan keeps that**, for the entry that it leaves. -/
theorem Tended.scan (h : Tended sys moves m) (hDistinct : Distinct (sys.run moves).supervisor)
    (hm : m ∈ (sys.run moves).supervisor.managed) (x : Answers) :
    ∃ m' ∈ ((sys.run moves).scan x).supervisor.managed, m'.tunnel = m.tunnel ∧
      Tended sys (moves ++ [.scan x]) m' := by
  obtain ⟨m', hm', hTunnel, hRunning, hLast⟩ := exists_left hDistinct hm x
  have hAfter : (sys.run (moves ++ [.scan x])).started m.tunnel.id =
      (sys.run moves).afterScan x m.tunnel.id := by
    rw [System.run_append_singleton]
    rfl
  rw [afterScan_eq hDistinct hm hm' hTunnel] at hAfter
  refine ⟨m', hm', hTunnel, ?_⟩
  constructor
  case running =>
    rw [hTunnel, unseen_scan, ← h.running, hRunning, or_comm]
    simp [Gone]
  case tried =>
    intro time hTime
    rw [hTunnel, triedAt_scan]
    by_cases hTries : ((sys.run moves).scan x).tries m.tunnel = true
    · rw [hLast, if_pos hTries] at hTime
      exact .inr ⟨hTries, Option.some.inj hTime⟩
    · rw [hLast, if_neg hTries] at hTime
      exact .inl (h.tried time hTime)
  case latest =>
    intro time hTried
    rw [hTunnel, triedAt_scan] at hTried
    by_cases hTries : ((sys.run moves).scan x).tries m.tunnel = true
    · rw [hLast, if_pos hTries]
      refine ⟨_, rfl, ?_⟩
      rcases hTried with hBefore | ⟨-, rfl⟩
      · exact hBefore.le_clock
      · exact Int.le_refl _
    · rw [hLast, if_neg hTries]
      exact h.latest time (hTried.resolve_right fun hNow => hTries hNow.1)
  case older =>
    rw [hTunnel, hAfter]
    cases hStarts : ((sys.run moves).scan x).starts m.tunnel with
    | true =>
      -- None of those before the new one runs: the one that was held has been killed.
      cases hHeld : m.running with
      | true => exact not_runs_of_killed h.older
      | false => exact h.idle hHeld
    | false =>
      rw [if_neg Bool.false_ne_true]
      split
      · rw [List.tail_modifyHead]
        exact h.older
      · exact h.older
  case idle =>
    intro hIdle
    rw [hTunnel, hAfter]
    have hStarts : ((sys.run moves).scan x).starts m.tunnel = false := by
      refine Bool.eq_false_iff.mpr fun hStarts => ?_
      rw [hRunning.mpr (.inr hStarts)] at hIdle
      cases hIdle
    rw [hStarts, hIdle]
    cases hHeld : m.running with
    | true => exact not_runs_of_killed h.older
    | false => exact h.idle hHeld

theorem started_move (hOther : ∀ x, move ≠ .scan x) (sys : System) (id : Nat) :
    (sys.move move).started id = sys.started id ∨
      ∃ k, (sys.move move).started id = (sys.started id).set k false := by
  cases move with
  | scan x => exact absurd rfl (hOther x)
  | exit i k =>
    by_cases hSame : id = i
    · subst hSame
      exact .inr ⟨k, if_pos rfl⟩
    · exact .inl (if_neg hSame)
  | _ => exact .inl rfl

theorem supervisor_move (hOther : ∀ x, move ≠ .scan x) (sys : System) :
    (sys.move move).supervisor = sys.supervisor := by
  cases move with
  | scan x => exact absurd rfl (hOther x)
  | _ => rfl

/-- **Everything else keeps that**, and leaves the entry alone. -/
theorem Tended.keep (h : Tended sys moves m) (hOther : ∀ x, move ≠ .scan x) :
    Tended sys (moves ++ [move]) m := by
  have hEnds {l l' : List Bool} (hMove : l' = l ∨ ∃ k, l' = l.set k false)
      (hNone : ∀ runs ∈ l, runs = false) : ∀ runs ∈ l', runs = false := by
    rcases hMove with rfl | ⟨k, rfl⟩
    · exact hNone
    · exact fun runs hRuns => (List.mem_or_eq_of_mem_set hRuns).elim (hNone runs) id
  have hTail {l l' : List Bool} (hMove : l' = l ∨ ∃ k, l' = l.set k false) :
      l'.tail = l.tail ∨ ∃ k, l'.tail = l.tail.set k false := by
    rcases hMove with rfl | ⟨k, rfl⟩
    · exact .inl rfl
    · cases l with
      | nil => exact .inl rfl
      | cons latest older =>
        cases k with
        | zero => exact .inl rfl
        | succ k => exact .inr ⟨k, rfl⟩
  have hMove := started_move hOther (sys.run moves) m.tunnel.id
  rw [← System.run_append_singleton] at hMove
  have hTried (time : Moment) :
      TriedAt sys (moves ++ [move]) m.tunnel time ↔ TriedAt sys moves m.tunnel time := by
    simp [triedAt_concat, hOther]
  have hUnseen : Unseen sys (moves ++ [move]) m.tunnel ↔ Unseen sys moves m.tunnel := by
    simp [unseen_concat, hOther]
  exact ⟨h.running.trans hUnseen.symm, fun time hTime => (hTried time).mpr (h.tried time hTime),
    fun time hTime => h.latest time ((hTried time).mp hTime), hEnds (hTail hMove) h.older,
    fun hIdle => hEnds hMove (h.idle hIdle)⟩

theorem not_triedAt_nil : ¬ TriedAt sys [] t time := by
  rintro ⟨front, x, back, hNil, -⟩
  simp at hNil

theorem not_unseen_nil : ¬ Unseen sys [] t := by
  rintro ⟨front, x, back, hNil, -⟩
  simp at hNil

theorem tended_begin (r : TunnelRegistry) (delay : Nat) (clock : Moment) (t : ChainedTunnel) :
    Tended (.begin r delay clock) [] { tunnel := t } where
  running := iff_of_false Bool.false_ne_true not_unseen_nil
  tried _ hNone := nomatch hNone
  latest _ hTried := absurd hTried not_triedAt_nil
  older _ hNone := absurd hNone List.not_mem_nil
  idle _ _ hNone := absurd hNone List.not_mem_nil

/-- **Whatever happens, each tunnel with a command is tended.** -/
theorem exists_tended (hOrdered : r.Ordered) (delay : Nat) (clock : Moment) (moves : List Move)
    (ht : t ∈ r.chained) (hCommand : t.command.isSome = true) :
    ∃ m ∈ ((System.begin r delay clock).run moves).supervisor.managed, m.tunnel = t ∧
      Tended (System.begin r delay clock) moves m := by
  induction moves using List.reverseRecOn with
  | nil =>
    exact ⟨{ tunnel := t }, List.mem_map.mpr ⟨t, List.mem_filter.mpr ⟨ht, hCommand⟩, rfl⟩, rfl,
      tended_begin r delay clock t⟩
  | append_singleton moves move ih =>
    obtain ⟨m, hm, hTunnel, hTended⟩ := ih
    by_cases hScan : ∃ x, move = .scan x
    · obtain ⟨x, rfl⟩ := hScan
      have hLooks := (looksAfter_run hOrdered delay clock moves).1
      obtain ⟨m', hm', hSame, hTended'⟩ := hTended.scan (hLooks.distinct hOrdered) hm x
      rw [System.run_append_singleton]
      exact ⟨m', hm', hSame.trans hTunnel, hTended'⟩
    · have hOther : ∀ x, move ≠ .scan x := fun x hx => hScan ⟨x, hx⟩
      rw [System.run_append_singleton, supervisor_move hOther]
      exact ⟨m, hm, hTunnel, hTended.keep hOther⟩

theorem started_of_none (hOrdered : r.Ordered) (delay : Nat) (clock : Moment) (moves : List Move)
    (ht : t ∈ r.chained) (hNone : t.command = none) :
    ((System.begin r delay clock).run moves).started t.id = [] := by
  induction moves using List.reverseRecOn with
  | nil => rfl
  | append_singleton moves move ih =>
    rw [System.run_append_singleton]
    by_cases hScan : ∃ x, move = .scan x
    · obtain ⟨x, rfl⟩ := hScan
      have hLooks := (looksAfter_run hOrdered delay clock moves).1
      have hStarts : ((System.begin r delay clock).run moves).startsAt x t.id = false := by
        refine List.any_eq_false.mpr fun m hm hStarts => ?_
        obtain ⟨hId, -⟩ := Bool.and_eq_true_iff.mp hStarts
        exact (hLooks.ne_of_none hOrdered ht hNone hm).1 (beq_iff_eq.mp hId)
      show System.afterScan _ x t.id = []
      rw [System.afterScan, hStarts, ih]
      simp
    · rcases started_move (fun x hx => hScan ⟨x, hx⟩)
        ((System.begin r delay clock).run moves) t.id with hSame | ⟨k, hSet⟩
      · rw [hSame, ih]
      · rw [hSet, ih]
        rfl

theorem not_tries_of_none (hLooks : LooksAfter sys.supervisor r) (hOrdered : r.Ordered)
    (ht : t ∈ r.chained) (hNone : t.command = none) (x : Answers) :
    (sys.scan x).tries t = false := by
  refine Bool.eq_false_iff.mpr fun hTries => ?_
  obtain ⟨m, hm, hName⟩ := exists_of_tries (hLooks.distinct hOrdered) hTries
  exact (hLooks.ne_of_none hOrdered ht hNone hm).2 hName

/-! ### What follows -/

/-- **What is known is enough to decide**: what a scan tries can be told of the history. -/
theorem Tended.tries_iff (h : Tended sys moves m) (hDistinct : Distinct (sys.run moves).supervisor)
    (hm : m ∈ (sys.run moves).supervisor.managed) (hId : Tunnel.firstChainedId ≤ m.tunnel.id)
    (x : Answers) :
    ((sys.run moves).scan x).tries m.tunnel = true ↔
      (¬ Unseen sys moves m.tunnel ∨
        ∃ code, ((sys.run moves).processes x).poll m.tunnel.id = .exited code) ∧
      Wanted (sys.run moves).sessions (sys.run moves).activity m.tunnel ∧
      ∀ time, TriedAt sys moves m.tunnel time →
        (sys.run moves).supervisor.restartDelay ≤ (sys.run moves).clock - time := by
  have hReady : isReady m (sys.run moves).supervisor.restartDelay (sys.run moves).clock = true ↔
      ∀ time, TriedAt sys moves m.tunnel time →
        (sys.run moves).supervisor.restartDelay ≤ (sys.run moves).clock - time := by
    unfold isReady
    constructor
    · intro hReady time hTried
      obtain ⟨last, hLast, hLe⟩ := h.latest time hTried
      rw [hLast] at hReady
      exact Int.le_trans (of_decide_eq_true hReady) (Int.sub_le_sub_left hLe _)
    · intro hApart
      cases hLast : m.lastSpawn with
      | none => rfl
      | some last => exact decide_eq_true (hApart last (h.tried last hLast))
  have hTries : ((sys.run moves).scan x).tries m.tunnel = true ↔ _ := tries_scan_iff hDistinct hm
  rw [hTries, isWanted_markDemand hId, hReady, Gone, h.running, imp_iff_not_or]

/-- While a process of the tunnel runs the supervisor holds it, and it is not seen to exit. -/
theorem Tended.not_gone (h : Tended sys moves m)
    (hRuns : true ∈ (sys.run moves).started m.tunnel.id) (x : Answers) :
    m.running = true ∧ ¬ Gone ((sys.run moves).processes x) m := by
  have hHeld : m.running = true := by
    by_contra hIdle
    exact absurd (h.idle (Bool.not_eq_true _ ▸ hIdle) true hRuns) (by decide)
  refine ⟨hHeld, fun hGone => ?_⟩
  obtain ⟨code, hPoll⟩ := hGone hHeld
  have hOlder := h.older
  cases hStarted : (sys.run moves).started m.tunnel.id with
  | nil => simp [hStarted] at hRuns
  | cons latest older =>
    rw [hStarted] at hRuns hOlder
    rcases List.mem_cons.mp hRuns with rfl | hRuns
    · -- The latest process runs, so asking after it says so, or fails.
      simp only [System.processes, hStarted, List.head?_cons, if_true] at hPoll
      split at hPoll <;> cases hPoll
    · exact absurd (hOlder true hRuns) (by decide)

/-- **A process that runs is left alone by a scan.** -/
theorem Tended.left_alone (h : Tended sys moves m)
    (hDistinct : Distinct (sys.run moves).supervisor)
    (hm : m ∈ (sys.run moves).supervisor.managed)
    (hRuns : true ∈ (sys.run moves).started m.tunnel.id) (x : Answers) :
    ((sys.run moves).scan x).tries m.tunnel = false ∧
      (sys.run moves).afterScan x m.tunnel.id = (sys.run moves).started m.tunnel.id := by
  obtain ⟨hHeld, hNot⟩ := h.not_gone hRuns x
  obtain ⟨m', hm', hTunnel, hRunning, -⟩ := exists_left hDistinct hm x
  have hTries : ((sys.run moves).scan x).tries m.tunnel = false :=
    Bool.eq_false_iff.mpr fun hTries => hNot ((tries_scan_iff hDistinct hm).mp hTries).1
  have hStarts : ((sys.run moves).scan x).starts m.tunnel = false := by
    rw [Scan.starts, hTries, Bool.false_and]
  refine ⟨hTries, ?_⟩
  rw [afterScan_eq hDistinct hm hm' hTunnel, hStarts, hRunning.mpr (.inl hNot), Bool.not_true,
    Bool.or_false, Bool.and_false]
  rfl

theorem Tended.count_le (h : Tended sys moves m) :
    ((sys.run moves).started m.tunnel.id).count true ≤ 1 := by
  have hOlder := h.older
  cases hStarted : (sys.run moves).started m.tunnel.id with
  | nil => exact Nat.zero_le 1
  | cons latest older =>
    rw [hStarted] at hOlder
    have hNone : older.count true = 0 :=
      List.count_eq_zero.mpr fun hRuns => absurd (hOlder true hRuns) (by decide)
    rw [List.count_cons, hNone, Nat.zero_add]
    split <;> decide

/-- **The processes of tunnels are supervised safely.**  A supervisor looks after the tunnels of
a registry.  Scans come at any times, in their order, and between them sessions and connections
come and go, marks are set and processes exit; asking after a process may fail, and so may
starting one.  At each time and for each tunnel of the registry:

* a scan tries to start a process exactly when the tunnel has a command, no process of it is
  there that has not been seen to exit, by this scan or an earlier one, the tunnel is wanted,
  and no try is more recent than the delay;
* at most one process runs, and while one runs a scan tries to start no other, and stops none;
* any two tries are at least the delay apart, whether they succeeded or not;
* without a command nothing is ever tried or started, and with a command the tunnel is not
  marked after a scan. -/
theorem processes_supervised {specs : List TunnelSpec}
    (hRegistry : TunnelRegistry.ofSpecs specs = .ok r) (delay : Nat) (clock : Moment)
    (moves : List Move) (ht : t ∈ r.chained) :
    let start := System.begin r delay clock
    let sys := start.run moves
    (∀ x, (sys.scan x).tries t = true ↔
      t.command ≠ none ∧
        (¬ Unseen start moves t ∨ ∃ code, (sys.processes x).poll t.id = .exited code) ∧
        Wanted sys.sessions sys.activity t ∧
        ∀ time, TriedAt start moves t time → delay ≤ sys.clock - time) ∧
      (sys.started t.id).count true ≤ 1 ∧
      (true ∈ sys.started t.id → ∀ x, (sys.scan x).tries t = false ∧
        (sys.move (.scan x)).started t.id = sys.started t.id) ∧
      (∀ front x mid y back, moves = front ++ .scan x :: (mid ++ .scan y :: back) →
        let earlier := start.run front
        let later := start.run (front ++ .scan x :: mid)
        (earlier.scan x).tries t = true → (later.scan y).tries t = true →
          delay ≤ later.clock - earlier.clock) ∧
      (t.command = none → sys.started t.id = [] ∧ ∀ time, ¬ TriedAt start moves t time) ∧
      (t.command ≠ none → ∀ x, (sys.move (.scan x)).activity.marked t.id = false) := by
  intro start sys
  have hOrdered : r.Ordered := by
    rw [← TunnelRegistry.foldl_offer_of_addAll hRegistry]
    exact TunnelRegistry.ordered_offerAll specs
  have hNever (hNone : t.command = none) (moves : List Move) (x : Answers) :
      ((start.run moves).scan x).tries t = false :=
    not_tries_of_none (looksAfter_run hOrdered delay clock moves).1 hOrdered ht hNone x
  -- What a scan tries can be told of any history.
  have hTries (moves : List Move) (x : Answers) :
      ((start.run moves).scan x).tries t = true ↔
        t.command ≠ none ∧
          (¬ Unseen start moves t ∨
            ∃ code, ((start.run moves).processes x).poll t.id = .exited code) ∧
          Wanted (start.run moves).sessions (start.run moves).activity t ∧
          ∀ time, TriedAt start moves t time → delay ≤ (start.run moves).clock - time := by
    obtain ⟨hLooks, hDelay⟩ := looksAfter_run hOrdered delay clock moves
    cases hCommand : t.command with
    | none => simp [hNever hCommand moves x]
    | some command =>
      obtain ⟨m, hm, rfl, hTended⟩ :=
        exists_tended hOrdered delay clock moves ht (by rw [hCommand]; rfl)
      rw [hTended.tries_iff (hLooks.distinct hOrdered) hm (hOrdered.le_id ht) x, hDelay]
      simp [start]
  have hEntry (hCommand : t.command ≠ none) :
      ∃ m ∈ sys.supervisor.managed, m.tunnel = t ∧ Tended start moves m :=
    exists_tended hOrdered delay clock moves ht (Option.isSome_iff_ne_none.mpr hCommand)
  have hDistinct : Distinct sys.supervisor :=
    (looksAfter_run hOrdered delay clock moves).1.distinct hOrdered
  have hNothing : t.command = none → sys.started t.id = [] :=
    started_of_none hOrdered delay clock moves ht
  refine ⟨hTries moves, ?_, fun hRuns x => ?_, ?_, fun hNone => ⟨hNothing hNone, ?_⟩,
    fun hCommand x => ?_⟩
  · by_cases hCommand : t.command = none
    · rw [hNothing hCommand]
      exact Nat.zero_le 1
    · obtain ⟨m, -, rfl, hTended⟩ := hEntry hCommand
      exact hTended.count_le
  · have hCommand : t.command ≠ none := by
      intro hNone
      rw [hNothing hNone] at hRuns
      cases hRuns
    obtain ⟨m, hm, rfl, hTended⟩ := hEntry hCommand
    exact hTended.left_alone hDistinct hm hRuns x
  · intro front x mid y back _ earlier later hEarlier hLater
    obtain ⟨-, -, -, hApart⟩ := (hTries (front ++ .scan x :: mid) y).mp hLater
    exact hApart earlier.clock ⟨front, x, mid, rfl, hEarlier, rfl⟩
  · rintro time ⟨front, x, back, -, hTried, -⟩
    rw [hNever hNone front x] at hTried
    cases hTried
  · obtain ⟨m, hm, rfl, -⟩ := hEntry hCommand
    exact not_marked_scan hDistinct hm

/-- The process of a tunnel exits while a connection is open.  The scan that sees it comes too
early to start another one, and the next scan does. -/
theorem processes_supervised_restart :
    let t : ChainedTunnel := ⟨2, "a", 1081, some "relay"⟩
    let r : TunnelRegistry := ⟨[t]⟩
    let moves : List Move :=
      [.marked 2, .scan {}, .exit 2 0, .opened 2, .wait 5, .scan {}, .wait 5]
    let start := System.begin r 10 0
    let sys := start.run moves
    TunnelRegistry.ofSpecs [⟨"a", 1081, some "relay"⟩] = .ok r ∧ t ∈ r.chained ∧
      ((start.run (moves.take 5)).scan {}).tries t = false ∧ (sys.scan {}).tries t = true ∧
      (∀ time, TriedAt start moves t time → 10 ≤ sys.clock - time) ∧
      (sys.started 2).count true ≤ 1 := by
  intro t r moves start sys
  have hRegistry : TunnelRegistry.ofSpecs [⟨"a", 1081, some "relay"⟩] = .ok r := by decide
  have ht : t ∈ r.chained := by decide
  have hEarly : ((start.run (moves.take 5)).scan {}).tries t = false := by decide
  have hTries : (sys.scan {}).tries t = true := by decide
  obtain ⟨hIff, hCount, -⟩ := processes_supervised hRegistry 10 0 moves ht
  exact ⟨hRegistry, ht, hEarly, hTries, ((hIff {}).mp hTries).2.2.2, hCount⟩

end Supervisor

end SocksGateway
