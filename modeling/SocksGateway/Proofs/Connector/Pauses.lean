import SocksGateway.Proofs.Connector.Tries

/-!
# Pauses between the tries of a connection

A try that has failed is followed by a pause, unless no round is left or every tunnel has failed
for good.  The pause does not ask whose turn it is in the rounds that are left: they may all
belong to tunnels that are out, and then no try follows the pause.

* `getElem?_outAll`: the tunnels that are out, told by the tries.
* `Lingers`, `pause_of_lingers`, `pause_of_not_lingers`: when the last try has a pause behind it.
* `report_concat`: the report of tries is what each of them reports, with one pause behind each
  but the last.
* `Lingers.out_later`, `not_lingers_of_steady`: what a pause behind the last try takes.
* `connect_pauses`: the pauses of a connection; `connect_pauses_before_giving_up`: one that is
  followed by nothing.
-/

namespace SocksGateway

namespace Connector

variable {n stop : Nat} {exhausted : List Bool} {front tries : List Try} {t last : Try}

/-! ### The tunnels that are out -/

/-- The try has failed, and another one on its tunnel would not do better. -/
def Try.FailsForGood (t : Try) : Prop := ∃ e, t.result = .error e ∧ e.isRecoverable = false

theorem Try.Leaves.not_failsForGood {i : Nat} (h : t.Leaves n i) (hSlot : t.index % n = i % n) :
    ¬ t.FailsForGood := by
  rintro ⟨e, hError, hFinal⟩
  obtain ⟨e', hError', hAgain⟩ := h
  rw [hError] at hError'
  cases hError'
  rw [hAgain hSlot] at hFinal
  cases hFinal

/-- The tunnels that are out after these tries. -/
def outAll (n : Nat) (exhausted : List Bool) (tries : List Try) : List Bool :=
  tries.foldl (Try.out n) exhausted

theorem getElem?_out (t : Try) (slot : Nat) :
    (t.out n exhausted)[slot]? = some false ↔
      exhausted[slot]? = some false ∧ (t.FailsForGood → t.index % n ≠ slot) := by
  cases hResult : t.result with
  | ok c => simp [Try.out, Try.FailsForGood, hResult]
  | error e =>
    have hGood : t.FailsForGood ↔ e.isRecoverable = false := by simp [Try.FailsForGood, hResult]
    have hOut : t.out n exhausted =
        if e.isRecoverable then exhausted else exhausted.set (t.index % n) true := by
      simp only [Try.out, hResult]
    rw [hOut, Scheduled.getElem?_exhausted, hGood]
    refine and_congr_right fun _ => ?_
    cases e.isRecoverable <;> simp

/-- **The tunnels that are out are those on which a try has failed for good.** -/
theorem getElem?_outAll (tries : List Try) (slot : Nat) :
    (outAll n exhausted tries)[slot]? = some false ↔
      exhausted[slot]? = some false ∧ ∀ t ∈ tries, t.FailsForGood → t.index % n ≠ slot := by
  induction tries generalizing exhausted with
  | nil => simp [outAll]
  | cons t tries ih =>
    rw [outAll, List.foldl_cons]
    refine ih.trans ?_
    rw [getElem?_out, List.forall_mem_cons, and_assoc]

theorem all_id_eq_false_iff :
    exhausted.all id = false ↔ ∃ slot : Nat, exhausted[slot]? = some false := by
  rw [List.all_eq_false]
  constructor
  · rintro ⟨out, hOut, hFree⟩
    obtain rfl : out = false := by simpa using hFree
    exact List.getElem?_of_mem hOut
  · rintro ⟨slot, hSlot⟩
    exact ⟨false, List.mem_of_getElem? hSlot, by simp⟩

/-! ### The pause behind the last try -/

/-- **The last try has a pause behind it**: it has failed, and there are a round before `stop`
and a tunnel left. -/
structure Lingers (n stop : Nat) (tries : List Try) (last : Try) : Prop where
  failed : ∃ e, last.result = .error e
  roundLeft : last.index + 1 < stop
  tunnelLeft : ∃ slot, slot < n ∧ ∀ t ∈ tries, t.FailsForGood → t.index % n ≠ slot

theorem all_id_outAll (tries : List Try) :
    (outAll n (List.replicate n false) tries).all id = false ↔
      ∃ slot, slot < n ∧ ∀ t ∈ tries, t.FailsForGood → t.index % n ≠ slot := by
  rw [all_id_eq_false_iff]
  refine exists_congr fun slot => ?_
  rw [getElem?_outAll, List.getElem?_replicate]
  simp

theorem pause_of_lingers (h : Lingers n stop tries last) :
    last.pause stop (outAll n (List.replicate n false) tries) = [.slept] := by
  obtain ⟨e, hError⟩ := h.failed
  have hRound : stop ≠ last.index + 1 := (Nat.ne_of_lt h.roundLeft).symm
  have hTunnel := (all_id_outAll tries).mpr h.tunnelLeft
  simp [Try.pause, hError, hRound, hTunnel]

theorem pause_of_not_lingers (hWithin : last.index < stop) (h : ¬ Lingers n stop tries last) :
    last.pause stop (outAll n (List.replicate n false) tries) = [] := by
  unfold Try.pause
  cases hResult : last.result with
  | ok c => rfl
  | error e =>
    refine if_pos (Classical.byContradiction fun hNot => h ?_)
    obtain ⟨hRound, hTunnel⟩ := not_or.mp hNot
    exact ⟨⟨e, hResult⟩, by omega, (all_id_outAll tries).mp (Bool.eq_false_iff.mpr hTunnel)⟩

/-! ### The report -/

/-- A try that leaves something to do for a later round has a pause behind it, if there is that
round and its tunnel is not out. -/
theorem pause_of_leaves {i : Nat} (hLeaves : t.Leaves n i) (hLater : t.index < i) (hStop : i < stop)
    (hFree : (t.out n exhausted)[i % n]? = some false) :
    t.pause stop (t.out n exhausted) = [.slept] := by
  obtain ⟨e, hError, -⟩ := hLeaves
  have hRound : stop ≠ t.index + 1 := by omega
  have hTunnel := all_id_eq_false_iff.mpr ⟨i % n, hFree⟩
  simp [Try.pause, hError, hRound, hTunnel]

/-- **Each try but the last has one pause behind it**, where each one leaves something to do for
those that follow. -/
theorem report_concat
    (hLeaves : (front ++ [last]).Pairwise fun t u => t.index < u.index ∧ t.Leaves n u.index)
    (hDue : ∀ t ∈ front ++ [last], t.index < stop ∧ exhausted[t.index % n]? = some false) :
    report n stop exhausted (front ++ [last]) =
      front.flatMap (fun t => t.events ++ [.slept]) ++
        (last.events ++ last.pause stop (outAll n exhausted (front ++ [last]))) := by
  induction front generalizing exhausted with
  | nil =>
    rw [List.nil_append, report, report, List.append_nil, List.flatMap_nil, List.nil_append]
    rfl
  | cons t front ih =>
    obtain ⟨hFirst, hLeaves⟩ := List.pairwise_cons.mp hLeaves
    obtain ⟨-, hDue⟩ := List.forall_mem_cons.mp hDue
    have hOut : ∀ u ∈ front ++ [last],
        u.index < stop ∧ (t.out n exhausted)[u.index % n]? = some false := by
      intro u hu
      obtain ⟨hStop, hFree⟩ := hDue u hu
      refine ⟨hStop, (getElem?_out t _).mpr ⟨hFree, fun hGood hSlot => ?_⟩⟩
      exact (hFirst u hu).2.not_failsForGood hSlot hGood
    have hLast : last ∈ front ++ [last] := List.mem_concat_self
    obtain ⟨hLater, hTry⟩ := hFirst last hLast
    obtain ⟨hStop, hFree⟩ := hOut last hLast
    have hAll : outAll n exhausted (t :: (front ++ [last])) =
        outAll n (t.out n exhausted) (front ++ [last]) := rfl
    rw [List.cons_append, report, pause_of_leaves hTry hLater hStop hFree, ih hLeaves hOut, hAll,
      List.flatMap_cons, ← List.append_assoc]

theorem count_slept_flatMap (front : List Try) :
    (front.flatMap fun t => t.events ++ [.slept]).count .slept = front.length := by
  induction front with
  | nil => rfl
  | cons t front ih =>
    have hEvents : t.events.count .slept = 0 := List.count_eq_zero.mpr (slept_not_mem_events t)
    rw [List.flatMap_cons, List.count_append, List.count_append, ih, hEvents, List.length_cons]
    simp [Nat.add_comm]

/-! ### What a pause behind the last try takes -/

/-- The tries of a schedule come in the order of their rounds. -/
theorem index_le_last (hOrder : (front ++ [last]).Pairwise fun t u => t.index < u.index) :
    ∀ t ∈ front ++ [last], t.index ≤ last.index := by
  intro t ht
  rcases List.mem_append.mp ht with hFront | hLast
  · exact Nat.le_of_lt
      ((List.pairwise_append.mp hOrder).2.2 t hFront last (List.mem_singleton_self last))
  · obtain rfl := List.mem_singleton.mp hLast
    exact Nat.le_refl _

/-- **A pause behind the last try waits for nothing**: all rounds that are left belong to tunnels
that have failed for good. -/
theorem Lingers.out_later (h : Lingers n stop (front ++ [last]) last) (hPos : 0 < n)
    (hScheduled : Scheduled n (List.replicate n false) 0 stop (front ++ [last])) {i : Nat}
    (hLater : last.index < i) (hStop : i < stop) :
    ∃ t ∈ front ++ [last], t.FailsForGood ∧ t.index % n = i % n := by
  have hFailed : ∀ t ∈ front ++ [last], ∃ e, t.result = .error e := by
    intro t ht
    rcases List.mem_append.mp ht with hFront | hLast
    · exact error_of_mem_dropLast hScheduled.leaves (by rwa [List.dropLast_concat])
    · obtain rfl := List.mem_singleton.mp hLast
      exact h.failed
  -- A round whose tunnel is not out has a try, and there is none behind the last one.
  refine Classical.byContradiction fun hNone => ?_
  have hTry : i ∈ (front ++ [last]).map Try.index := by
    refine (hScheduled.due_iff hPos i).mpr ⟨hStop, fun t ht _ => ?_⟩
    obtain ⟨e, hError⟩ := hFailed t ht
    refine ⟨e, hError, fun hSlot => eq_true_of_ne_false fun hFinal => ?_⟩
    exact hNone ⟨t, ht, ⟨e, hError, hFinal⟩, hSlot⟩
  obtain ⟨t, ht, rfl⟩ := List.mem_map.mp hTry
  exact absurd (index_le_last hScheduled.inOrder t ht) (Nat.not_le_of_lt hLater)

/-- **No pause is behind the last try if no try has failed for good, or the route has one tunnel
only.** -/
theorem not_lingers_of_steady (hPos : 0 < n)
    (hScheduled : Scheduled n (List.replicate n false) 0 stop (front ++ [last]))
    (hSteady : (∀ t ∈ front ++ [last], ¬ t.FailsForGood) ∨ n = 1) :
    ¬ Lingers n stop (front ++ [last]) last := by
  intro h
  obtain ⟨t, ht, hGood, hSlot⟩ := h.out_later hPos hScheduled (Nat.lt_succ_self _) h.roundLeft
  rcases hSteady with hNever | rfl
  · exact hNever t ht hGood
  · obtain ⟨slot, hOnly, hFree⟩ := h.tunnelLeft
    exact hFree t ht hGood (by omega)

/-! ### The pauses of a connection -/

/-- **The pauses of a connection.**  There is exactly one pause between a try and the next one, and
none before the first try.  Behind the last one there is at most one more: there is exactly if the
connection has failed while a round and a tunnel were left.  It waits for nothing then, for all
rounds that are left belong to tunnels that have failed for good.  So there are as many pauses as
tries, less one, if the connection is made, if no try fails for good, and on a route with one
tunnel only. -/
theorem connect_pauses {σ : Type} (env : Surroundings σ) (policy : RetryPolicy) (s : Session)
    (w : σ) {r : Rule} (hRoute : s.route = some r) (hTunnels : r.tunnels ≠ []) :
    let n := r.tunnels.length
    let most :=
      if n = 1 ∧ policy.singleCandidate = .failFast then 1 else max 1 policy.maxAttempts
    let o := connect env policy s w
    ∃ (front : List Try) (last : Try) (tail : List ConnectEvent),
      Tried env r.tunnels (s, w) (front ++ [last]) (o.session, o.world) ∧
        o.attempts = (front ++ [last]).map Try.entry ∧
        last.result = o.result ∧
        o.trace = front.flatMap (fun t => t.events ++ [.slept]) ++ (last.events ++ tail) ∧
        (Lingers n most (front ++ [last]) last ∧ tail = [.slept] ∨
          ¬ Lingers n most (front ++ [last]) last ∧ tail = []) ∧
        o.trace.count .slept + 1 = o.attempts.length + tail.length ∧
        (tail ≠ [] → ∀ i, last.index < i → i < most →
          ∃ t ∈ front ++ [last], t.FailsForGood ∧ t.index % n = i % n) ∧
        ((∃ c, o.result = .ok c) ∨ (∀ t ∈ front ++ [last], ¬ t.FailsForGood) ∨ n = 1 →
          o.trace.count .slept + 1 = o.attempts.length) := by
  intro n most o
  have hPos : 0 < n := List.length_pos_iff.mpr hTunnels
  obtain ⟨tries, hSome, hTried, hScheduled, hLog, -, hResult, hTrace, -⟩ :=
    connectVia_report env policy s w hTunnels
  rw [← connect_of_route hRoute hTunnels] at hTried hLog hResult hTrace
  obtain ⟨front, last, rfl⟩ : ∃ front last, tries = front ++ [last] :=
    ⟨_, _, (List.dropLast_concat_getLast hSome).symm⟩
  have hDue : ∀ t ∈ front ++ [last],
      t.index < most ∧ (List.replicate n false)[t.index % n]? = some false := fun t ht =>
    let hTry := (hScheduled.due t.index).mp (List.mem_map_of_mem ht)
    ⟨hTry.2.1, hTry.2.2.1⟩
  rw [List.getLast?_concat, Option.map_some, Option.some_inj] at hResult
  -- The pause behind the last try is all that is open.
  obtain ⟨tail, hPause, hTail, hLength⟩ : ∃ tail,
      last.pause most (outAll n (List.replicate n false) (front ++ [last])) = tail ∧
        (Lingers n most (front ++ [last]) last ∧ tail = [.slept] ∨
          ¬ Lingers n most (front ++ [last]) last ∧ tail = []) ∧
        tail.count .slept = tail.length := by
    by_cases hLingers : Lingers n most (front ++ [last]) last
    · exact ⟨_, pause_of_lingers hLingers, .inl ⟨hLingers, rfl⟩, rfl⟩
    · have hWithin := (hDue last List.mem_concat_self).1
      exact ⟨_, pause_of_not_lingers hWithin hLingers, .inr ⟨hLingers, rfl⟩, rfl⟩
  have hReport : o.trace =
      front.flatMap (fun t => t.events ++ [.slept]) ++ (last.events ++ tail) := by
    rw [← hPause]
    exact hTrace.trans (report_concat hScheduled.leaves hDue)
  have hCount : o.trace.count .slept + 1 = o.attempts.length + tail.length := by
    have hLast : last.events.count .slept = 0 := List.count_eq_zero.mpr (slept_not_mem_events last)
    rw [hReport, hLog, List.count_append, List.count_append, count_slept_flatMap, hLast, hLength,
      List.length_map, List.length_append, List.length_singleton]
    omega
  refine ⟨front, last, tail, hTried, hLog, hResult, hReport, hTail, hCount, ?_, ?_⟩
  · intro hSomeTail i hLater hStop
    rcases hTail with ⟨hLingers, -⟩ | ⟨-, rfl⟩
    · exact hLingers.out_later hPos hScheduled hLater hStop
    · exact absurd rfl hSomeTail
  · intro hQuiet
    have hNot : ¬ Lingers n most (front ++ [last]) last := by
      rcases hQuiet with ⟨c, hOk⟩ | hSteady
      · rintro ⟨⟨e, hError⟩, -, -⟩
        rw [hResult, hOk] at hError
        cases hError
      · exact not_lingers_of_steady hPos hScheduled hSteady
    rcases hTail with ⟨hLingers, -⟩ | ⟨-, rfl⟩
    · exact absurd hLingers hNot
    · exact hCount

/-- The first tunnel fails for good and the second one connects in its second turn: two pauses
between three tries, and none for the round that is left out. -/
theorem connect_pauses_skips :
    let relay : Tunnel := .chained ⟨2, "relay", 1081, none⟩
    let env : Surroundings Nat :=
      { resolve := fun d w => (.ok (d.withAddress (.v6 .unspecified)), w)
        dial := fun _ w =>
          if w = 0 then (.failed ⟨.connectionRefused, "refused"⟩, 1)
          else (.opened { incoming := { bytes := [5, 0, 5, 0, 0, 1, 127, 0, 0, 1, 0, 80] } }, w) }
    let r : Rule := { tunnels := [.direct, relay], place := ⟨"rules", 1⟩ }
    let s : Session :=
      { Session.accept 1 ⟨1, { port := 1080, kind := .socks }⟩ {} 0 with
        destination := .named "host.test" 80, addressType := some .domain, route := some r }
    let o := connect env (.ofSettings {}) s 0
    (s.route = some r ∧ r.tunnels ≠ []) ∧ (∃ c, o.result = .ok c) ∧ o.attempts.length = 3 ∧
      o.trace.count .slept + 1 = o.attempts.length := by
  intro relay env r s o
  have hTunnels : r.tunnels ≠ [] := by simp [r]
  obtain ⟨front, last, tail, -, -, -, -, -, -, -, hQuiet⟩ :=
    connect_pauses env (.ofSettings {}) s 0 (show s.route = some r from rfl) hTunnels
  have hMade : o.result.toBool = true := by decide +kernel
  have hOk : ∃ c, o.result = .ok c := by
    cases hResult : o.result with
    | ok c => exact ⟨c, rfl⟩
    | error e =>
      rw [hResult] at hMade
      cases hMade
  refine ⟨⟨rfl, hTunnels⟩, hOk, ?_, hQuiet (.inl hOk)⟩
  decide +kernel

/-- **A connection can pause before it gives up.**  The first tunnel fails for good and the second
one fails; one round is left, in which the first tunnel would have its turn.  There are as many
pauses as tries, and the last of them is behind the last try. -/
theorem connect_pauses_before_giving_up :
    let relay : Tunnel := .chained ⟨2, "relay", 1081, none⟩
    let env : Surroundings Unit :=
      .cutOff (fun _ w => (.error .noHostname, w)) ⟨.connectionRefused, "refused"⟩
    let policy : RetryPolicy := { RetryPolicy.ofSettings {} with maxAttempts := 3 }
    let r : Rule := { tunnels := [.direct, relay], place := ⟨"rules", 1⟩ }
    let s : Session :=
      { Session.accept 1 ⟨1, { port := 1080, kind := .socks }⟩ {} 0 with
        destination := .ofIpv6 .unspecified 80, addressType := some .ipv6, route := some r }
    let o := connect env policy s ()
    (s.route = some r ∧ r.tunnels ≠ []) ∧
      o.attempts =
        [⟨"direct", some .addressTypeNotSupported⟩, ⟨"relay", some .connectionRefused⟩] ∧
      o.trace =
        [.connecting 1 .direct, .failed 1 .direct .addressTypeNotSupported, .slept,
          .connecting 2 relay, .failed 2 relay .connectionRefused, .slept] ∧
      ¬ o.trace.count .slept + 1 = o.attempts.length := by
  intro relay env policy r s o
  refine ⟨⟨rfl, by simp [r]⟩, ?_, ?_, ?_⟩
  all_goals decide +kernel

end Connector

end SocksGateway
