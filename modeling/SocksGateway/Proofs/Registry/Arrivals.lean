import Mathlib.Data.List.Nodup
import Mathlib.Data.List.Perm.Basic
import SocksGateway.Proofs.Registry.Documents

/-!
# The sessions of a registry

A registry lists its sessions in the order of their arrival, whatever else happens.  Each number
is drawn once, so that the numbers tell the sessions apart.

* `forall_after`: what holds of a session that is accepted, and is kept by every move, holds
  of all sessions.
* `arrivals`, `ids_sublist_arrivals`: the order of the sessions.
* `Numbered`, `nodup_arrivals`, `eq_of_id`: their numbers.
-/

namespace SocksGateway

namespace SessionRegistry

/-- **What every move keeps holds of all sessions**, if it holds of those that are accepted. -/
theorem forall_after {P : Session → Prop}
    (hAccept : ∀ id service source time, P (.accept id service source time))
    (hAct : ∀ r m s, P s → P (Move.act r m s)) (moves : List Move) :
    ∀ s ∈ (after moves).sessions, P s := by
  induction moves using List.reverseRecOn with
  | nil => exact fun s hs => absurd hs List.not_mem_nil
  | append_singleton moves m ih =>
    intro s hs
    rw [after_append_singleton] at hs
    rcases mem_move hs with ⟨t, ht, rfl⟩ | ⟨id, service, source, time, rfl⟩
    · exact hAct _ m t (ih t ht)
    · exact hAccept id service source time

/-! ### The order of arrival -/

/-- The numbers of the sessions that these moves let in, in their order. -/
def arrivalsFrom (x : Server.Sessions) : List Move → List Nat
  | [] => []
  | m :: moves => (m.newcomer? x).toList.map Session.id ++ arrivalsFrom (m.apply x) moves

/-- The numbers of all sessions that were let in, in their order. -/
def arrivals (moves : List Move) : List Nat := arrivalsFrom {} moves

theorem arrivalsFrom_append (x : Server.Sessions) (front back : List Move) :
    arrivalsFrom x (front ++ back) =
      arrivalsFrom x front ++ arrivalsFrom (front.foldl Move.apply x) back := by
  induction front generalizing x with
  | nil => rfl
  | cons m front ih =>
    rw [List.cons_append, arrivalsFrom, arrivalsFrom, List.append_assoc, ih]
    rfl

theorem arrivals_prefix_append (front back : List Move) :
    arrivals front <+: arrivals (front ++ back) := by
  rw [arrivals, arrivals, arrivalsFrom_append]
  exact List.prefix_append _ _

theorem arrivals_append_singleton (moves : List Move) (m : Move) :
    arrivals (moves ++ [m]) =
      arrivals moves ++ (m.newcomer? (state moves)).toList.map Session.id := by
  rw [arrivals, arrivalsFrom_append, arrivalsFrom, arrivalsFrom, List.append_nil]
  rfl

/-- **A move keeps the sessions in their places**: each one becomes what the move makes of
it, a newcomer is behind all others, and none is there but these. -/
theorem sessions_apply_sublist (x : Server.Sessions) (m : Move) :
    (m.apply x).registry.sessions.Sublist
      (x.registry.sessions.map (m.act x.registry) ++ (m.newcomer? x).toList) := by
  have hIdle (h : ∀ s, m.act x.registry s = s) :
      x.registry.sessions.map (m.act x.registry) = x.registry.sessions := List.map_id'' h _
  cases m with
  | draw =>
    rw [hIdle fun _ => rfl]
    exact List.sublist_append_left _ _
  | accept k service source time =>
    rw [hIdle fun _ => rfl, Move.apply, sessions_accept]
  | service =>
    rw [Move.apply, sessions_serviceStatusRequests]
    exact List.sublist_append_left _ _
  | reap now loiter =>
    rw [hIdle fun _ => rfl]
    exact List.filter_sublist.trans (List.sublist_append_left _ _)
  | change id c => exact List.sublist_append_left _ _
  | request id => exact List.sublist_append_left _ _
  | take id => exact List.sublist_append_left _ _

/-- **Sessions are listed in the order of their arrival.** -/
theorem ids_sublist_arrivals (moves : List Move) :
    ((after moves).sessions.map Session.id).Sublist (arrivals moves) := by
  induction moves using List.reverseRecOn with
  | nil => exact List.Sublist.refl _
  | append_singleton moves m ih =>
    have hMove := (sessions_apply_sublist (state moves) m).map Session.id
    have hIds : (after moves).sessions.map (Session.id ∘ m.act (after moves)) =
        (after moves).sessions.map Session.id :=
      List.map_congr_left fun s _ => id_act _ m s
    rw [List.map_append, List.map_map] at hMove
    rw [after_append_singleton, arrivals_append_singleton]
    exact hMove.trans ((hIds ▸ ih).append_right _)

theorem id_mem_arrivals {moves : List Move} {s : Session} (hs : s ∈ (after moves).sessions) :
    s.id ∈ arrivals moves :=
  (ids_sublist_arrivals moves).subset (List.mem_map_of_mem hs)

/-! ### Each number once -/

/-- **Numbers are given in their order**: those that were drawn, whether a session is let in
with them by now or not, are different from each other and lie below the next one. -/
structure Numbered (given : List Nat) (next : Nat) : Prop where
  nodup : given.Nodup
  lt : ∀ id ∈ given, id < next

theorem Numbered.concat {given : List Nat} {next : Nat} (h : Numbered given next) :
    Numbered (given ++ [next]) (next + 1) := by
  refine ⟨?_, fun id hId => ?_⟩
  · rw [← List.concat_eq_append]
    exact h.nodup.concat fun hMem => Nat.lt_irrefl next (h.lt next hMem)
  rcases List.mem_append.mp hId with hOld | hNew
  · exact Nat.lt_succ_of_lt (h.lt id hOld)
  · rw [List.mem_singleton.mp hNew]
    exact Nat.lt_succ_self next

theorem Numbered.perm {given given' : List Nat} {next : Nat} (h : Numbered given next)
    (hPerm : given.Perm given') : Numbered given' next :=
  ⟨hPerm.nodup h.nodup, fun id hId => h.lt id (hPerm.mem_iff.mpr hId)⟩

/-- A session that is let in takes its number with it. -/
theorem drawn_accept_perm (x : Server.Sessions) (k : Nat) (service : Service)
    (source : Destination) (time : Moment) :
    x.drawn.Perm ((((Move.accept k service source time).newcomer? x).toList.map Session.id) ++
      (x.accept k service source time).drawn) := by
  rw [Server.Sessions.accept, Move.newcomer?]
  cases hDrawn : x.drawn[k]? with
  | none => exact List.Perm.refl _
  | some id =>
    obtain ⟨hLength, rfl⟩ := List.getElem?_eq_some_iff.mp hDrawn
    exact (List.getElem_cons_eraseIdx_perm hLength).symm

theorem next_accept (x : Server.Sessions) (k : Nat) (service : Service) (source : Destination)
    (time : Moment) : (x.accept k service source time).next = x.next := by
  unfold Server.Sessions.accept
  split <;> rfl

theorem numbered_apply {x : Server.Sessions} {before : List Nat} (m : Move)
    (h : Numbered (before ++ x.drawn) x.next) :
    Numbered (before ++ (m.newcomer? x).toList.map Session.id ++ (m.apply x).drawn)
      (m.apply x).next := by
  rw [List.append_assoc]
  cases m with
  | draw =>
    have hNext := h.concat
    rwa [List.append_assoc] at hNext
  | accept k service source time =>
    rw [Move.apply, next_accept]
    exact h.perm ((drawn_accept_perm x k service source time).append_left before)
  | _ => exact h

theorem numbered (moves : List Move) :
    Numbered (arrivals moves ++ (state moves).drawn) (state moves).next := by
  induction moves using List.reverseRecOn with
  | nil => exact ⟨List.nodup_nil, fun id hId => absurd hId List.not_mem_nil⟩
  | append_singleton moves m ih =>
    rw [arrivals_append_singleton, state_append_singleton]
    exact numbered_apply m ih

/-- **Each number is given to one session only.** -/
theorem nodup_arrivals (moves : List Move) : (arrivals moves).Nodup :=
  (numbered moves).nodup.sublist (List.sublist_append_left _ _)

theorem lt_next_of_mem {moves : List Move} {s : Session} (hs : s ∈ (after moves).sessions) :
    s.id < (state moves).next :=
  (numbered moves).lt s.id (List.mem_append_left _ (id_mem_arrivals hs))

theorem next_le_apply (x : Server.Sessions) (m : Move) : x.next ≤ (m.apply x).next := by
  cases m with
  | draw => exact Nat.le_succ x.next
  | accept k service source time => exact Nat.le_of_eq (next_accept x k service source time).symm
  | _ => exact Nat.le_refl x.next

theorem next_le_append (front back : List Move) :
    (state front).next ≤ (state (front ++ back)).next := by
  induction back using List.reverseRecOn with
  | nil => exact Nat.le_of_eq (congrArg (fun moves => (state moves).next) (List.append_nil _).symm)
  | append_singleton back m ih =>
    rw [← List.append_assoc, state_append_singleton]
    exact Nat.le_trans ih (next_le_apply _ m)

theorem ids_nodup (moves : List Move) : ((after moves).sessions.map Session.id).Nodup :=
  (nodup_arrivals moves).sublist (ids_sublist_arrivals moves)

theorem eq_of_id {moves : List Move} {s t : Session} (hs : s ∈ (after moves).sessions)
    (ht : t ∈ (after moves).sessions) (hId : s.id = t.id) : s = t :=
  List.inj_on_of_nodup_map (ids_nodup moves) hs ht hId

end SessionRegistry

end SocksGateway
