import Mathlib.Data.List.Nodup
import SocksGateway.Supervisor

/-!
# One scan of the supervisor

A scan first marks the tunnels that sessions want.  Then it visits those with a command one
after the other, and each visit takes the mark of its tunnel.  Since the numbers of tunnels are
distinct a visit finds what it would find if it were the only one.

* `Demands`, `Wanted`, `isWanted_markDemand`: what a visit finds out about the demand.
* `Visited`, `visited_visit`: all that one visit can do.
* `visitAll_eq`: all visits, each by itself.
* `mem_scan`, `tries_scan_iff`, `starts_scan_iff`: what a scan does with one tunnel.
-/

namespace SocksGateway

variable {s : Session} {t : ChainedTunnel} {a : TunnelActivity} {sessions : List Session}

/-! ### The demand -/

theorem Tunnel.chained?_eq_some_iff {u : Tunnel} {c : ChainedTunnel} :
    u.chained? = some c ↔ u = .chained c := by
  cases u <;> simp [chained?]

theorem Tunnel.same_chained_iff (ht : firstChainedId ≤ t.id) {u : Tunnel} :
    u.same (.chained t) = true ↔ ∃ c, u = .chained c ∧ c.id = t.id := by
  rw [same, beq_iff_eq]
  cases u with
  | chained c => simp [id]
  | direct =>
    refine iff_of_false (fun h => ?_) (by simp)
    exact absurd (show 0 = t.id from h) (Nat.ne_of_lt (Nat.lt_of_lt_of_le Nat.zero_lt_two ht))
  | null =>
    refine iff_of_false (fun h => ?_) (by simp)
    exact absurd (show 1 = t.id from h) (Nat.ne_of_lt (Nat.lt_of_lt_of_le Nat.one_lt_two ht))

/-- **The session demands the tunnel**: it has not exited, and takes the tunnel, or takes none
and has a route that lists it. -/
def Demands (s : Session) (t : ChainedTunnel) : Prop :=
  s.exited = false ∧
    ((∃ u, s.tunnel = some u ∧ u.same (.chained t) = true) ∨
      (s.tunnel = none ∧
        ∃ rule, s.route = some rule ∧ ∃ u ∈ rule.tunnels, u.same (.chained t) = true))

theorem demands_iff (ht : Tunnel.firstChainedId ≤ t.id) :
    Demands s t ↔ ∃ c ∈ wantedBy s, c.id = t.id := by
  simp only [Demands, wantedBy, Tunnel.same_chained_iff ht]
  cases hExited : s.exited with
  | true => simp
  | false =>
    cases hTunnel : s.tunnel with
    | some u => cases u <;> simp [Tunnel.chained?]
    | none =>
      cases hRoute : s.route with
      | none => simp
      | some rule =>
        simp only [true_and, reduceCtorEq, false_and, exists_false, false_or, Option.some.injEq,
          exists_eq_left', Bool.false_eq_true, if_false, List.mem_filterMap,
          Tunnel.chained?_eq_some_iff]
        constructor
        · rintro ⟨u, hu, c, rfl, hId⟩
          exact ⟨c, ⟨_, hu, rfl⟩, hId⟩
        · rintro ⟨c, ⟨u, hu, rfl⟩, hId⟩
          exact ⟨_, hu, c, rfl, hId⟩

namespace TunnelActivity

theorem marked_foldl_mark (tunnels : List ChainedTunnel) (a : TunnelActivity) (id : Nat) :
    (tunnels.foldl (fun a t => a.mark t.id) a).marked id = true ↔
      a.marked id = true ∨ ∃ t ∈ tunnels, t.id = id := by
  induction tunnels generalizing a with
  | nil => simp
  | cons t tunnels ih =>
    rw [List.foldl_cons, ih]
    by_cases hSame : id = t.id
    · simp [mark, put, hSame]
    · simp [mark, put, hSame, Ne.symm hSame]

theorem connections_foldl_mark (tunnels : List ChainedTunnel) (a : TunnelActivity) :
    (tunnels.foldl (fun a t => a.mark t.id) a).connections = a.connections := by
  induction tunnels generalizing a with
  | nil => rfl
  | cons t tunnels ih => exact ih (a.mark t.id)

end TunnelActivity

/-- **The tunnel is wanted**: it was marked before, a relay runs through it, or a session
demands it. -/
def Wanted (sessions : List Session) (a : TunnelActivity) (t : ChainedTunnel) : Prop :=
  a.marked t.id = true ∨ 0 < a.connections t.id ∨ ∃ s ∈ sessions, Demands s t

namespace Supervisor

/-- **Once demand is marked, what is wanted can be told from the marks and the counts.** -/
theorem isWanted_markDemand (ht : Tunnel.firstChainedId ≤ t.id) :
    isWanted (markDemand sessions a) t = true ↔ Wanted sessions a t := by
  have hMarked : (markDemand sessions a).marked t.id = true ↔
      a.marked t.id = true ∨ ∃ s ∈ sessions, Demands s t := by
    simp only [markDemand, TunnelActivity.marked_foldl_mark, List.mem_flatMap, demands_iff ht]
    constructor
    · rintro (hBefore | ⟨c, ⟨s, hs, hc⟩, hId⟩)
      · exact .inl hBefore
      · exact .inr ⟨s, hs, c, hc, hId⟩
    · rintro (hBefore | ⟨s, hs, c, hc, hId⟩)
      · exact .inl hBefore
      · exact .inr ⟨c, ⟨s, hs, hc⟩, hId⟩
  have hCount : (markDemand sessions a).connections = a.connections :=
    TunnelActivity.connections_foldl_mark _ a
  rw [isWanted, Bool.or_eq_true, hMarked, hCount, decide_eq_true_iff, Wanted, or_assoc,
    or_comm (a := ∃ s ∈ sessions, Demands s t)]

/-! ### One visit -/

variable {p : Processes} {delay : Nat} {now : Moment} {wanted : Bool} {m m' : Managed}
  {name : String}

/-- No process is known: none is held, or the one that is has just been seen to exit. -/
def Gone (p : Processes) (m : Managed) : Prop :=
  m.running = true → ∃ code, p.poll m.tunnel.id = .exited code

/-- Nothing is started. -/
def Quiet (log : List Event) : Prop :=
  ∀ name, .starting name ∉ log ∧ .spawnFailed name ∉ log

/-- **All that a visit can do**, with what is to be seen of it. -/
inductive Visited (p : Processes) (delay : Nat) (now : Moment) (wanted : Bool) (m : Managed) :
    Managed × List Event → Prop
  /-- A process is held that has not been seen to exit. -/
  | held {log : List Event} (hHeld : ¬ Gone p m) (hLog : Quiet log) :
      Visited p delay now wanted m (m, log)
  | left {log : List Event} (hGone : Gone p m)
      (hNot : ¬ (wanted = true ∧ isReady m delay now = true)) (hLog : Quiet log) :
      Visited p delay now wanted m ({ m with running := false }, log)
  /-- Starting a process is tried; the time counts whether it succeeds or not. -/
  | tried {log : List Event} (hGone : Gone p m) (hWanted : wanted = true)
      (hReady : isReady m delay now = true)
      (hStarting : ∀ name, .starting name ∈ log ↔ name = m.tunnel.name)
      (hFailed : ∀ name, .spawnFailed name ∈ log ↔
        name = m.tunnel.name ∧ p.spawns m.tunnel.id = false) :
      Visited p delay now wanted m
        ({ m with running := p.spawns m.tunnel.id, lastSpawn := some now }, log)

/-- What is reported before does not matter, unless it tells of a start. -/
theorem visited_startIfWanted {front : List Event} (hGone : Gone p m) (hFront : Quiet front) :
    Visited p delay now wanted m
      ((startIfWanted p delay now wanted { m with running := false }).1,
        front ++ (startIfWanted p delay now wanted { m with running := false }).2) := by
  have hSilent {back : List Event} (hBack : Quiet back) : Quiet (front ++ back) := fun name =>
    ⟨by simp [(hFront name).1, (hBack name).1], by simp [(hFront name).2, (hBack name).2]⟩
  have hReady : isReady { m with running := false } delay now = isReady m delay now := rfl
  unfold startIfWanted
  rw [hReady]
  cases hWanted : wanted with
  | false => exact .left hGone (by simp) (hSilent (by simp [Quiet]))
  | true =>
    cases hNow : isReady m delay now with
    | false => exact .left hGone (by simp [hNow]) (hSilent (by simp [Quiet]))
    | true =>
      have hStart (name : String) : Event.starting name ∉ front := (hFront name).1
      have hFail (name : String) : Event.spawnFailed name ∉ front := (hFront name).2
      have hTried {back : List Event}
          (hStarting : ∀ name, .starting name ∈ back ↔ name = m.tunnel.name)
          (hFailed : ∀ name, .spawnFailed name ∈ back ↔
            name = m.tunnel.name ∧ p.spawns m.tunnel.id = false) :
          Visited p delay now true m
            ({ m with running := p.spawns m.tunnel.id, lastSpawn := some now }, front ++ back) :=
        .tried hGone rfl hNow (fun name => by simp [hStart name, hStarting name])
          (fun name => by simp [hFail name, hFailed name])
      cases hSpawns : p.spawns m.tunnel.id with
      | true =>
        rw [hSpawns] at hTried
        simp only [Bool.not_true, Bool.false_eq_true, if_false, hSpawns, if_true]
        exact hTried (by simp) (by simp)
      | false =>
        rw [hSpawns] at hTried
        simp only [Bool.not_true, Bool.false_eq_true, if_false, hSpawns]
        exact hTried (by simp) (by simp)

/-- **A visit does one of these things.** -/
theorem visited_visit (p : Processes) (delay : Nat) (now : Moment) (wanted : Bool) (m : Managed) :
    Visited p delay now wanted m (visit p delay now wanted m) := by
  cases hRunning : m.running with
  | false =>
    rw [visit, hRunning, if_neg Bool.false_ne_true]
    have hSame : { m with running := false } = m := by rw [← hRunning]
    have hNone : Quiet [] := by simp [Quiet]
    have hVisited : Visited p delay now wanted m
        ((startIfWanted p delay now wanted { m with running := false }).1,
          [] ++ (startIfWanted p delay now wanted { m with running := false }).2) :=
      visited_startIfWanted (fun h => by simp [hRunning] at h) hNone
    rw [hSame] at hVisited
    exact hVisited
  | true =>
    rw [visit, hRunning, if_pos rfl]
    cases hPoll : p.poll m.tunnel.id with
    | running => exact .held (by simp [Gone, hRunning, hPoll]) (by simp [Quiet])
    | failed => exact .held (by simp [Gone, hRunning, hPoll]) (by simp [Quiet])
    | exited code =>
      let outcome := startIfWanted p delay now wanted { m with running := false }
      have hSeen : Quiet [.exited outcome.1.tunnel.name code] := by simp [Quiet]
      exact visited_startIfWanted (fun _ => ⟨code, hPoll⟩) hSeen

variable {visited : Managed × List Event}

theorem Visited.tunnel_eq (h : Visited p delay now wanted m visited) :
    visited.1.tunnel = m.tunnel := by
  cases h <;> rfl

/-- **A start is tried** when no process is known, the tunnel is wanted, and the last try is
long enough ago. -/
theorem Visited.starting_iff (h : Visited p delay now wanted m visited) (name : String) :
    .starting name ∈ visited.2 ↔
      name = m.tunnel.name ∧ Gone p m ∧ wanted = true ∧ isReady m delay now = true := by
  cases h with
  | held hHeld hLog => simp [(hLog name).1, hHeld]
  | left hGone hNot hLog => exact iff_of_false (hLog name).1 fun ⟨_, _, hBoth⟩ => hNot hBoth
  | tried hGone hWanted hReady hStarting hFailed =>
    simp [hStarting name, hGone, hWanted, hReady]

theorem Visited.spawnFailed_iff (h : Visited p delay now wanted m visited) (name : String) :
    .spawnFailed name ∈ visited.2 ↔ .starting name ∈ visited.2 ∧ p.spawns m.tunnel.id = false := by
  cases h with
  | held hHeld hLog => simp [hLog name]
  | left hGone hNot hLog => simp [hLog name]
  | tried hGone hWanted hReady hStarting hFailed => rw [hStarting name, hFailed name]

/-! ### All visits -/

theorem marked_unmark (a : TunnelActivity) (id i : Nat) :
    (a.unmark id).marked i = true ↔ i ≠ id ∧ a.marked i = true := by
  by_cases hSame : i = id <;> simp [TunnelActivity.unmark, TunnelActivity.put, hSame]

/-- The visit of a tunnel by itself. -/
def look (p : Processes) (delay : Nat) (now : Moment) (a : TunnelActivity) (m : Managed) :
    Managed × List Event :=
  visit p delay now (isWanted a m.tunnel) m

theorem look_unmark {id : Nat} (hOther : m.tunnel.id ≠ id) :
    look p delay now (a.unmark id) m = look p delay now a m := by
  have hMarked : (a.unmark id).marked m.tunnel.id = a.marked m.tunnel.id := if_neg hOther
  rw [look, look, isWanted, hMarked]
  rfl

/-- **Each visit finds what it would find by itself**, the tunnels having distinct numbers. -/
theorem visitAll_eq (p : Processes) (delay : Nat) (now : Moment) {ms : List Managed}
    (hIds : ((ms.map Managed.tunnel).map ChainedTunnel.id).Nodup) (a : TunnelActivity) :
    visitAll p delay now ms a =
      (ms.map fun m => (look p delay now a m).1, ms.foldl (fun a m => a.unmark m.tunnel.id) a,
        ms.flatMap fun m => (look p delay now a m).2) := by
  induction ms generalizing a with
  | nil => rfl
  | cons m ms ih =>
    obtain ⟨hOther, hIds⟩ := List.nodup_cons.mp hIds
    have hSame : ∀ n ∈ ms, look p delay now (a.unmark m.tunnel.id) n = look p delay now a n :=
      fun n hn => look_unmark fun hId =>
        hOther (List.mem_map.mpr ⟨n.tunnel, List.mem_map_of_mem hn, hId⟩)
    have hManaged : (ms.map fun n => (look p delay now (a.unmark m.tunnel.id) n).1) =
        ms.map fun n => (look p delay now a n).1 :=
      List.map_congr_left fun n hn => by rw [hSame n hn]
    have hLog : (ms.flatMap fun n => (look p delay now (a.unmark m.tunnel.id) n).2) =
        ms.flatMap fun n => (look p delay now a n).2 :=
      List.flatMap_congr fun n hn => by rw [hSame n hn]
    rw [visitAll, ih hIds, hManaged, hLog]
    rfl

/-- The visits leave marks only to tunnels that are not visited. -/
theorem marked_foldl_unmark (ms : List Managed) (a : TunnelActivity) (i : Nat) :
    (ms.foldl (fun a m => a.unmark m.tunnel.id) a).marked i = true ↔
      (∀ m ∈ ms, i ≠ m.tunnel.id) ∧ a.marked i = true := by
  induction ms generalizing a with
  | nil => simp
  | cons m ms ih =>
    rw [List.foldl_cons, ih, marked_unmark, List.forall_mem_cons]
    exact and_left_comm.trans and_assoc.symm

/-! ### The scan -/

namespace Scan

/-- The scan tries to start a process of the tunnel. -/
def tries (o : Scan) (t : ChainedTunnel) : Bool := o.log.contains (.starting t.name)

/-- The scan starts a process of the tunnel. -/
def starts (o : Scan) (t : ChainedTunnel) : Bool :=
  o.tries t && !o.log.contains (.spawnFailed t.name)

end Scan

/-- The tunnels that are looked after have distinct numbers and distinct names. -/
structure Distinct (v : Supervisor) : Prop where
  ids : ((v.managed.map Managed.tunnel).map ChainedTunnel.id).Nodup
  names : ((v.managed.map Managed.tunnel).map ChainedTunnel.name).Nodup

variable {v : Supervisor}

theorem Distinct.eq_of_id (h : Distinct v) (hm : m ∈ v.managed) (hm' : m' ∈ v.managed)
    (hId : m.tunnel.id = m'.tunnel.id) : m = m' :=
  List.inj_on_of_nodup_map (List.map_map ▸ h.ids) hm hm' hId

theorem Distinct.eq_of_name (h : Distinct v) (hm : m ∈ v.managed) (hm' : m' ∈ v.managed)
    (hName : m.tunnel.name = m'.tunnel.name) : m = m' :=
  List.inj_on_of_nodup_map (List.map_map ▸ h.names) hm hm' hName

theorem scan_eq (h : Distinct v) :
    let looked m := look p v.restartDelay now (markDemand sessions a) m
    v.scan p now sessions a =
      ⟨{ v with managed := v.managed.map fun m => (looked m).1 },
        v.managed.foldl (fun a m => a.unmark m.tunnel.id) (markDemand sessions a),
        v.managed.flatMap fun m => (looked m).2⟩ := by
  intro looked
  rw [scan, visitAll_eq _ _ _ h.ids]

theorem tunnels_scan (h : Distinct v) :
    (v.scan p now sessions a).supervisor.managed.map Managed.tunnel =
      v.managed.map Managed.tunnel := by
  rw [scan_eq h, List.map_map]
  exact List.map_congr_left fun m _ => (visited_visit ..).tunnel_eq

theorem distinct_scan (h : Distinct v) : Distinct (v.scan p now sessions a).supervisor := by
  refine ⟨?_, ?_⟩
  · rw [tunnels_scan h]
    exact h.ids
  · rw [tunnels_scan h]
    exact h.names

/-- **After a scan no tunnel that is looked after is marked.** -/
theorem not_marked_scan (h : Distinct v) (hm : m ∈ v.managed) :
    (v.scan p now sessions a).activity.marked m.tunnel.id = false := by
  rw [scan_eq h, Bool.eq_false_iff]
  exact fun hMarked => ((marked_foldl_unmark ..).mp hMarked).1 m hm rfl

theorem starting_mem_scan (h : Distinct v) :
    .starting name ∈ (v.scan p now sessions a).log ↔ ∃ m ∈ v.managed, name = m.tunnel.name ∧
      Gone p m ∧ isWanted (markDemand sessions a) m.tunnel = true ∧
        isReady m v.restartDelay now = true := by
  rw [scan_eq h, List.mem_flatMap]
  exact exists_congr fun m => and_congr_right fun _ => (visited_visit ..).starting_iff name

/-- **A scan tries to start a process** of a tunnel that it looks after when no process is known,
the tunnel is wanted, and the last try is long enough ago. -/
theorem tries_scan_iff (h : Distinct v) (hm : m ∈ v.managed) :
    (v.scan p now sessions a).tries m.tunnel = true ↔
      Gone p m ∧ isWanted (markDemand sessions a) m.tunnel = true ∧
        isReady m v.restartDelay now = true := by
  rw [Scan.tries, List.contains_iff_mem, starting_mem_scan h]
  constructor
  · rintro ⟨n, hn, hName, hTried⟩
    obtain rfl := h.eq_of_name hm hn hName
    exact hTried
  · exact fun hTried => ⟨m, hm, rfl, hTried⟩

theorem exists_of_tries (h : Distinct v) (hTries : (v.scan p now sessions a).tries t = true) :
    ∃ m ∈ v.managed, m.tunnel.name = t.name := by
  rw [Scan.tries, List.contains_iff_mem, starting_mem_scan h] at hTries
  obtain ⟨m, hm, hName, -⟩ := hTries
  exact ⟨m, hm, hName.symm⟩

theorem starts_scan_iff (h : Distinct v) (hm : m ∈ v.managed) :
    (v.scan p now sessions a).starts m.tunnel = true ↔
      (v.scan p now sessions a).tries m.tunnel = true ∧ p.spawns m.tunnel.id = true := by
  rw [Scan.starts, Bool.and_eq_true, Bool.not_eq_true', ← Bool.not_eq_true,
    List.contains_iff_mem]
  refine and_congr_right fun hTries => (not_congr ?_).trans (iff_of_eq (Bool.not_eq_false _))
  rw [scan_eq h, List.mem_flatMap]
  constructor
  · rintro ⟨n, hn, hFailed⟩
    obtain ⟨hStarting, hSpawns⟩ := ((visited_visit ..).spawnFailed_iff _).mp hFailed
    obtain rfl := h.eq_of_name hm hn (((visited_visit ..).starting_iff _).mp hStarting).1
    exact hSpawns
  · intro hSpawns
    have hTried := (tries_scan_iff h hm).mp hTries
    exact ⟨m, hm, ((visited_visit ..).spawnFailed_iff _).mpr
      ⟨((visited_visit ..).starting_iff _).mpr ⟨rfl, hTried⟩, hSpawns⟩⟩

/-- **What a scan leaves of a tunnel**: a process is held if one was and has not been seen to
exit, or one was started, and the time counts if a start was tried. -/
theorem exists_scan (h : Distinct v) (hm : m ∈ v.managed) :
    let o := v.scan p now sessions a
    ∃ m' ∈ o.supervisor.managed, m'.tunnel = m.tunnel ∧
      (m'.running = true ↔ ¬ Gone p m ∨ o.starts m.tunnel = true) ∧
      m'.lastSpawn = if o.tries m.tunnel = true then some now else m.lastSpawn := by
  intro o
  have hVisited : Visited p v.restartDelay now (isWanted (markDemand sessions a) m.tunnel) m
      (look p v.restartDelay now (markDemand sessions a) m) := visited_visit ..
  have hThere : (look p v.restartDelay now (markDemand sessions a) m).1 ∈
      o.supervisor.managed := by
    rw [show o = v.scan p now sessions a from rfl, scan_eq h]
    exact List.mem_map.mpr ⟨m, hm, rfl⟩
  have hTries : o.tries m.tunnel = true ↔ _ := tries_scan_iff h hm
  have hStarts : o.starts m.tunnel = true ↔ _ := starts_scan_iff h hm
  generalize look p v.restartDelay now (markDemand sessions a) m = visited at *
  refine ⟨visited.1, hThere, hVisited.tunnel_eq, ?_⟩
  rw [hStarts]
  cases hVisited with
  | held hHeld hLog =>
    have hNot : ¬ o.tries m.tunnel = true := fun h => hHeld (hTries.mp h).1
    have hRunning : m.running = true := by
      by_contra hIdle
      exact hHeld fun h => absurd h hIdle
    rw [if_neg hNot]
    exact ⟨iff_of_true hRunning (.inl hHeld), rfl⟩
  | left hGone hLeft hLog =>
    have hNot : ¬ o.tries m.tunnel = true := fun h => hLeft (hTries.mp h).2
    rw [if_neg hNot]
    refine ⟨iff_of_false Bool.false_ne_true ?_, rfl⟩
    rintro (hHeld | ⟨hTried, -⟩)
    · exact hHeld hGone
    · exact hNot hTried
  | tried hGone hWanted hReady hStarting hFailed =>
    have hTried : o.tries m.tunnel = true := hTries.mpr ⟨hGone, hWanted, hReady⟩
    rw [if_pos hTried]
    refine ⟨?_, rfl⟩
    constructor
    · exact fun hSpawns => .inr ⟨hTried, hSpawns⟩
    · rintro (hHeld | ⟨-, hSpawns⟩)
      · exact absurd hGone hHeld
      · exact hSpawns

end Supervisor

end SocksGateway
