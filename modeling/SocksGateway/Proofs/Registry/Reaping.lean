import SocksGateway.Proofs.Handler.Deeds
import SocksGateway.Proofs.Registry.Documents

/-!
# Sessions that are over

A registry drops a session some time after its handler has finished with it.  The sessions of a
registry are told by their lives: how each one was accepted and what was done with it since,
the handler's being finished among it.

* `Operation`, `isOperation_deed`: what is done with a session; it ends only by being finished
  with.
* `Life`, `Life.session_ends`: a session is over since it was finished with for the first time.
* `Event`, `reached`, `lives`: what happens to a registry and to the lives in it;
  `sessions_reached`: the registry holds the sessions of those lives.
* `Life.Becomes`, `exists_becomes`, `becomes_of_mem`: the lives that go on, and where they come
  from.
* `reaps_what_is_over`: which sessions are dropped, and when.
-/

namespace SocksGateway

namespace SessionRegistry

/-! ### What is done with a session -/

/-- The second session has the number of the first one and has ended like it. -/
structure Alike (s t : Session) : Prop where
  id : t.id = s.id
  endTime : t.endTime = s.endTime
  exited : t.exited = s.exited

/-- A change of a session that has to do neither with its number nor with its end. -/
structure Edit where
  apply : Session → Session
  alike : ∀ s, Alike s (apply s)

/-- What is done with a session: its handler has finished with it, or it changes otherwise. -/
inductive Operation where
  | exit (now : Moment)
  | edit (e : Edit)

namespace Operation

def apply (s : Session) : Operation → Session
  | exit now => s.markExited now
  | edit e => e.apply s

/-- When the handler has finished with the session. -/
def exit? : Operation → Option Moment
  | exit now => some now
  | edit _ => none

theorem id_apply (s : Session) (op : Operation) : (op.apply s).id = s.id := by
  cases op with
  | exit now => rfl
  | edit e => exact (e.alike s).id

end Operation

/-- This is something that is done with sessions. -/
def IsOperation (f : Session → Session) : Prop := ∃ op : Operation, ∀ s, op.apply s = f s

theorem isOperation_of_alike {f : Session → Session} (h : ∀ s, Alike s (f s)) : IsOperation f :=
  ⟨.edit ⟨f, h⟩, fun _ => rfl⟩

theorem alike_populate (q : Request) (s : Session) : Alike s (s.populate q) := by
  unfold Session.populate Session.recordDestination
  split <;> exact ⟨rfl, rfl, rfl⟩

theorem alike_prepareForward (s : Session) : Alike s s.prepareForward := by
  unfold Session.prepareForward
  split
  · exact ⟨rfl, rfl, rfl⟩
  · exact alike_populate _ s

theorem alike_takeStatus (s : Session) : Alike s s.takeStatus.2 := by
  unfold Session.takeStatus
  split <;> exact ⟨rfl, rfl, rfl⟩

theorem Alike.of_rerouted {s t : Session} (h : Rerouted s t) : Alike s t :=
  ⟨by rw [h], by rw [h], by rw [h]⟩

/-- **All that a handler does with a session is such an operation.** -/
theorem isOperation_deed {σ : Type} (env : Surroundings σ) (deed : Deed σ) :
    IsOperation fun s => deed.apply env s := by
  cases deed with
  | exit now => exact ⟨.exit now, fun _ => rfl⟩
  | record d =>
    refine isOperation_of_alike fun s => ?_
    simp only [Deed.apply, Session.recordDestination]
    cases s.destinationRequested <;> exact ⟨rfl, rfl, rfl⟩
  | relocate target =>
    exact isOperation_of_alike fun s => .of_rerouted (Routing.rerouted_relocate ..)
  | resolve rule w =>
    exact isOperation_of_alike fun s => .of_rerouted (Routing.rerouted_resolve ..)
  | decide e w => exact isOperation_of_alike fun s => .of_rerouted (Routing.rerouted_route ..)
  | attempt tunnel w =>
    exact isOperation_of_alike fun s => .of_rerouted (Connector.rerouted_attempt ..)
  | settle result =>
    exact isOperation_of_alike fun s => .of_rerouted (Connector.rerouted_settled ..)
  | connect policy w =>
    exact isOperation_of_alike fun s => .of_rerouted (Connector.rerouted_connect ..)
  | announce | send | receive | setStatus =>
    exact isOperation_of_alike fun s => ⟨rfl, rfl, rfl⟩

/-! ### Lives -/

/-- **A session by its life**: how it was accepted, and what was done with it since. -/
structure Life where
  id : Nat
  service : Service
  source : Destination
  start : Moment
  done : List Operation := []

namespace Life

variable {l l' : Life} {t now : Moment} {loiter : Nat}

/-- One more operation. -/
def and (l : Life) (op : Operation) : Life := { l with done := l.done ++ [op] }

/-- The session as it is now. -/
def session (l : Life) : Session :=
  l.done.foldl Operation.apply (.accept l.id l.service l.source l.start)

/-- When the handler has finished with the session, each time. -/
def exits (l : Life) : List Moment := l.done.filterMap Operation.exit?

theorem session_and (l : Life) (op : Operation) : (l.and op).session = op.apply l.session := by
  rw [session, and, List.foldl_append]
  rfl

theorem exits_and (l : Life) (op : Operation) :
    (l.and op).exits = l.exits ++ op.exit?.toList := by
  rw [exits, and, List.filterMap_append]
  cases op <;> rfl

/-- **The session is over since it was finished with for the first time**, however often it was
finished with since. -/
theorem session_ends (l : Life) :
    l.session.id = l.id ∧ l.session.endTime = l.exits.head? ∧
      (l.session.exited = true ↔ l.exits ≠ []) := by
  obtain ⟨id, service, source, start, done⟩ := l
  induction done using List.reverseRecOn with
  | nil => exact ⟨rfl, rfl, by simp [session, exits, Session.accept]⟩
  | append_singleton done op ih =>
    have hAnd : (⟨id, service, source, start, done ++ [op]⟩ : Life) =
        and ⟨id, service, source, start, done⟩ op := rfl
    rw [hAnd, session_and, exits_and]
    obtain ⟨hId, hEnd, hExited⟩ := ih
    cases op with
    | exit now =>
      refine ⟨hId, ?_, by simp [Operation.apply, Operation.exit?, Session.markExited]⟩
      rw [Operation.apply, Session.markExited, hEnd, List.head?_append]
      cases (Life.exits ⟨id, service, source, start, done⟩).head? <;> rfl
    | edit e =>
      rw [Operation.exit?, Option.toList_none, List.append_nil]
      have hAlike := e.alike (session ⟨id, service, source, start, done⟩)
      exact ⟨hAlike.id.trans hId, hAlike.endTime.trans hEnd, by
        rw [Operation.apply, hAlike.exited, hExited]⟩

/-- The session was finished with for the first time at least `loiter` nanoseconds ago. -/
def isOver (now : Moment) (loiter : Nat) (l : Life) : Bool :=
  l.exits.head?.any fun t => t + loiter ≤ now

/-- The first life has become the second one: more was done with the session. -/
def Becomes (l l' : Life) : Prop := ∃ more, l' = { l with done := l.done ++ more }

theorem Becomes.refl (l : Life) : l.Becomes l := ⟨[], by rw [List.append_nil]⟩

theorem Becomes.and (h : l.Becomes l') (op : Operation) : l.Becomes (l'.and op) := by
  obtain ⟨more, rfl⟩ := h
  exact ⟨more ++ [op], by rw [Life.and, List.append_assoc]⟩

theorem Becomes.trans {l'' : Life} (h : l.Becomes l') (h' : l'.Becomes l'') : l.Becomes l'' := by
  obtain ⟨more, rfl⟩ := h
  obtain ⟨more', rfl⟩ := h'
  exact ⟨more ++ more', by rw [List.append_assoc]⟩

theorem Becomes.head?_exits (h : l.Becomes l') (hExit : l.exits.head? = some t) :
    l'.exits.head? = some t := by
  obtain ⟨more, rfl⟩ := h
  rw [exits, List.filterMap_append, List.head?_append]
  exact congrArg (Option.or · _) hExit

end Life

theorem isOver_eq (now : Moment) (loiter : Nat) (s : Session) :
    isOver now loiter s = (s.exited && s.endTime.any fun t => t + loiter ≤ now) := by
  have hBack (t now : Int) : t ≤ now ∧ loiter ≤ now - t ↔ t + loiter ≤ now := by omega
  unfold isOver
  split
  case h_1 t hExited hEnd =>
    rw [hExited, hEnd, Bool.true_and, Option.any_some, ← Bool.decide_and, decide_eq_decide]
    exact hBack t now
  case h_2 hNot =>
    cases hExited : s.exited with
    | false => rfl
    | true =>
      cases hEnd : s.endTime with
      | none => rfl
      | some t => exact absurd hEnd (hNot t hExited)

/-- The registry goes by the sessions as they are, which tell of their lives. -/
theorem isOver_session (now : Moment) (loiter : Nat) (l : Life) :
    isOver now loiter l.session = l.isOver now loiter := by
  obtain ⟨-, hEnd, hExited⟩ := l.session_ends
  rw [isOver_eq, hEnd, Life.isOver]
  cases hHead : l.exits.head? with
  | none => exact Bool.and_false _
  | some t =>
    have hSome : l.exits ≠ [] := by
      intro hNone
      rw [hNone] at hHead
      cases hHead
    rw [hExited.mpr hSome, Bool.true_and]

/-! ### What happens to a registry -/

/-- What happens to a registry. -/
inductive Event where
  | insert (l : Life)
  | operate (id : Nat) (op : Operation)
  | service
  | reap (now : Moment) (loiter : Nat)

def happen (r : SessionRegistry) : Event → SessionRegistry
  | .insert l => r.insert l.session
  | .operate id op => r.modify id fun s => op.apply s
  | .service => r.serviceStatusRequests
  | .reap now loiter => r.reap now loiter

/-- The registry after these events; at first it is empty. -/
def reached (events : List Event) : SessionRegistry := events.foldl happen {}

/-- What becomes of a life among others; a document that is asked for shows them all. -/
def Event.act (ls : List Life) (e : Event) (l : Life) : Life :=
  match e with
  | .operate id op => if l.id = id then l.and op else l
  | .service =>
    if l.session.wantsStatus then
      l.and (.edit ⟨fun s => s.fulfilStatus (statusDocument (ls.map Life.session)),
        fun _ => ⟨rfl, rfl, rfl⟩⟩)
    else l
  | .insert _ | .reap .. => l

/-- The lives that go on after an event, and the one that begins with it. -/
def follow (ls : List Life) (e : Event) : List Life :=
  match e with
  | .insert l => ls ++ [l]
  | .reap now loiter => ls.filter fun l => !l.isOver now loiter
  | .operate .. | .service => ls.map (e.act ls)

/-- The lives in a registry after these events, in the order of their arrival. -/
def lives (events : List Event) : List Life := events.foldl follow []

theorem lives_append_singleton (events : List Event) (e : Event) :
    lives (events ++ [e]) = follow (lives events) e := by
  rw [lives, List.foldl_append]
  rfl

theorem sessions_happen {r : SessionRegistry} {ls : List Life}
    (h : r.sessions = ls.map Life.session) (e : Event) :
    (r.happen e).sessions = (follow ls e).map Life.session := by
  cases e with
  | insert l => rw [happen, insert, h, follow, List.map_append]; rfl
  | operate id op =>
    rw [happen, modify, h, follow, List.map_map, List.map_map]
    refine List.map_congr_left fun l _ => ?_
    simp only [Function.comp, Event.act, l.session_ends.1]
    split
    · rw [Life.session_and]
    · rfl
  | service =>
    rw [happen, sessions_serviceStatusRequests, document, h, follow, List.map_map, List.map_map]
    refine List.map_congr_left fun l _ => ?_
    simp only [Function.comp, Event.act]
    split
    · rw [Life.session_and]
      rfl
    · rfl
  | reap now loiter =>
    rw [happen, reap, h, follow, List.filter_map]
    refine congrArg (List.map Life.session) (List.filter_congr fun l _ => ?_)
    rw [Function.comp, isOver_session]

/-- **A registry holds the sessions of the lives in it**, in the order of their arrival. -/
theorem sessions_reached (events : List Event) :
    (reached events).sessions = (lives events).map Life.session := by
  induction events using List.reverseRecOn with
  | nil => rfl
  | append_singleton events e ih =>
    rw [lives_append_singleton, ← sessions_happen ih, reached, List.foldl_append]
    rfl

/-! ### Lives that go on -/

section Lives

variable {ls : List Life} {l l' : Life} {e : Event} {t : Moment}

theorem Life.Becomes.act (h : l.Becomes l') (ls : List Life) (e : Event) :
    l.Becomes (e.act ls l') := by
  cases e with
  | insert | reap => exact h
  | operate id op =>
    rw [Event.act]
    split
    · exact h.and op
    · exact h
  | service =>
    rw [Event.act]
    split
    · exact h.and _
    · exact h

theorem mem_follow (h : l' ∈ follow ls e) : (∃ l ∈ ls, l.Becomes l') ∨ e = .insert l' := by
  have hAct (h : l' ∈ ls.map (e.act ls)) : ∃ l ∈ ls, l.Becomes l' := by
    obtain ⟨l, hl, rfl⟩ := List.mem_map.mp h
    exact ⟨l, hl, (Life.Becomes.refl l).act ls e⟩
  cases e with
  | insert first =>
    rcases List.mem_append.mp h with hOld | hNew
    · exact .inl ⟨l', hOld, .refl l'⟩
    · rw [List.mem_singleton.mp hNew]
      exact .inr rfl
  | reap now loiter => exact .inl ⟨l', (List.mem_filter.mp h).1, .refl l'⟩
  | operate | service => exact .inl (hAct h)

/-- **Where the lives come from**: each was there before, or was let in since. -/
theorem becomes_of_mem (events more : List Event) (h : l' ∈ lives (events ++ more)) :
    (∃ l ∈ lives events, l.Becomes l') ∨ ∃ first, .insert first ∈ more ∧ first.Becomes l' := by
  induction more using List.reverseRecOn generalizing l' with
  | nil =>
    rw [List.append_nil] at h
    exact .inl ⟨l', h, .refl l'⟩
  | append_singleton more e ih =>
    rw [← List.append_assoc, lives_append_singleton] at h
    rcases mem_follow h with ⟨l, hl, hBecomes⟩ | rfl
    · rcases ih hl with ⟨first, hFirst, hBefore⟩ | ⟨first, hFirst, hBefore⟩
      · exact .inl ⟨first, hFirst, hBefore.trans hBecomes⟩
      · exact .inr ⟨first, List.mem_append_left _ hFirst, hBefore.trans hBecomes⟩
    · exact .inr ⟨l', List.mem_concat_self, .refl l'⟩

theorem exits_act (hExits : l.exits = []) (hNot : ∀ now, e ≠ .operate l.id (.exit now)) :
    (e.act ls l).exits = [] := by
  cases e with
  | insert | reap => exact hExits
  | operate id op =>
    rw [Event.act]
    split
    case isFalse => exact hExits
    case isTrue hId =>
      rw [Life.exits_and, hExits]
      cases op with
      | exit now => exact absurd (by rw [hId]) (hNot now)
      | edit e => rfl
  | service =>
    rw [Event.act]
    split
    case isFalse => exact hExits
    case isTrue =>
      rw [Life.exits_and, hExits]
      rfl

theorem act_mem_follow (hl : l ∈ ls) (hExits : l.exits = []) : e.act ls l ∈ follow ls e := by
  cases e with
  | insert first => exact List.mem_append_left _ hl
  | operate | service => exact List.mem_map_of_mem hl
  | reap now loiter =>
    refine List.mem_filter.mpr ⟨hl, ?_⟩
    rw [Event.act, Life.isOver, hExits]
    rfl

/-- **A session stays until its handler has finished with it.** -/
theorem exists_becomes (events more : List Event) (hl : l ∈ lives events) (hExits : l.exits = [])
    (hNot : ∀ now, .operate l.id (.exit now) ∉ more) :
    ∃ l' ∈ lives (events ++ more), l.Becomes l' ∧ l'.exits = [] := by
  induction more using List.reverseRecOn with
  | nil => exact ⟨l, by rwa [List.append_nil], .refl l, hExits⟩
  | append_singleton more e ih =>
    obtain ⟨l', hl', hBecomes, hExits'⟩ :=
      ih fun now hMem => hNot now (List.mem_append_left _ hMem)
    have hOther : ∀ now, e ≠ .operate l'.id (.exit now) := by
      rintro now rfl
      obtain ⟨done, rfl⟩ := hBecomes
      exact hNot now List.mem_concat_self
    rw [← List.append_assoc, lives_append_singleton]
    exact ⟨_, act_mem_follow hl' hExits', hBecomes.act _ e, exits_act hExits' hOther⟩

end Lives

/-! ### The order of arrival -/

/-- The number of the session that the event lets in. -/
def Event.newcomer? : Event → Option Nat
  | .insert l => some l.id
  | _ => none

/-- The numbers of the sessions that were let in, in their order. -/
def inserted (events : List Event) : List Nat := events.filterMap Event.newcomer?

theorem Event.id_act (ls : List Life) (e : Event) (l : Life) : (e.act ls l).id = l.id := by
  cases e with
  | insert | reap => rfl
  | operate id op => exact (apply_ite Life.id _ _ _).trans (ite_self _)
  | service => exact (apply_ite Life.id _ _ _).trans (ite_self _)

theorem ids_follow_sublist (ls : List Life) (e : Event) :
    ((follow ls e).map Life.id).Sublist (ls.map Life.id ++ e.newcomer?.toList) := by
  have hAct : (ls.map (e.act ls)).map Life.id = ls.map Life.id := by
    rw [List.map_map]
    exact List.map_congr_left fun l _ => e.id_act ls l
  cases e with
  | insert l =>
    rw [follow, List.map_append]
    exact List.Sublist.refl _
  | reap now loiter => exact (List.filter_sublist.map _).trans (List.sublist_append_left _ _)
  | operate | service =>
    rw [follow, hAct]
    exact List.sublist_append_left _ _

/-- **Lives are listed in the order of their arrival.** -/
theorem ids_sublist_inserted (events : List Event) :
    ((lives events).map Life.id).Sublist (inserted events) := by
  induction events using List.reverseRecOn with
  | nil => exact List.Sublist.refl _
  | append_singleton events e ih =>
    have hNew : inserted [e] = e.newcomer?.toList := by
      cases e <;> rfl
    rw [lives_append_singleton, inserted, List.filterMap_append, ← inserted, ← inserted, hNew]
    exact (ids_follow_sublist _ e).trans (ih.append_right _)

/-! ### The sessions that are dropped -/

/-- The session has ended, at least `loiter` nanoseconds before `now`. -/
def EndedBefore (now : Moment) (loiter : Nat) (s : Session) : Bool :=
  s.exited && s.endTime.any fun t => t + loiter ≤ now

theorem sessions_reap (r : SessionRegistry) (now : Moment) (loiter : Nat) :
    (r.reap now loiter).sessions = r.sessions.filter fun s => !EndedBefore now loiter s :=
  List.filter_congr fun s _ => by rw [isOver_eq, EndedBefore]

/-- What is dropped and what is kept are all sessions. -/
theorem reaped_eq (r : SessionRegistry) (now : Moment) (loiter : Nat) :
    r.reaped now loiter = r.sessions.countP (EndedBefore now loiter) := by
  have hAll := List.length_eq_countP_add_countP (EndedBefore now loiter) (l := r.sessions)
  rw [reaped, size, size, sessions_reap, ← List.countP_eq_length_filter]
  simp only [Bool.not_eq_true, Bool.decide_eq_false] at hAll
  omega

/-- **Sessions that are over.**  After any events a registry holds the sessions of the lives in
it, in the order of their arrival.  A session has ended when its handler has finished with it, at
the first time that it has.

A pass at whatever time drops exactly the sessions that have ended at least `loiter` before; it
tells their number and leaves the others as they are.  A session stays as long as its handler has
not finished with it.  Once it has, its end does not move, and the session is gone after every
later pass that comes at least `loiter` behind it.  Nothing is there later that was not there
before or has been let in since.

What is done with sessions are such operations. -/
theorem reaps_what_is_over (events : List Event) :
    (reached events).sessions = (lives events).map Life.session ∧
    ((reached events).sessions.map Session.id).Sublist (inserted events) ∧
    (∀ l ∈ lives events, l.session.endTime = l.exits.head? ∧
      (l.session.exited = true ↔ l.exits ≠ [])) ∧
    (∀ now loiter,
      ((reached events).reap now loiter).sessions =
        ((reached events).sessions.filter fun s => !EndedBefore now loiter s) ∧
      (reached events).reaped now loiter =
        (reached events).sessions.countP (EndedBefore now loiter)) ∧
    (∀ l ∈ lives events, ∀ more, l.exits = [] → (∀ now, .operate l.id (.exit now) ∉ more) →
      ∃ l' ∈ lives (events ++ more), l.Becomes l' ∧ l'.exits = []) ∧
    (∀ l ∈ lives events, ∀ t more, l.exits.head? = some t →
      (∀ l' ∈ lives (events ++ more), l.Becomes l' →
        l'.session.exited = true ∧ l'.session.endTime = some t) ∧
      ∀ (now : Moment) (loiter : Nat), t + loiter ≤ now →
        ∀ l' ∈ lives (events ++ more ++ [.reap now loiter]), ¬ l.Becomes l') ∧
    (∀ more, ∀ l' ∈ lives (events ++ more),
      (∃ l ∈ lives events, l.Becomes l') ∨ ∃ first, .insert first ∈ more ∧ first.Becomes l') ∧
    ((∀ {σ : Type} (env : Surroundings σ) (deed : Deed σ),
        IsOperation fun s => deed.apply env s) ∧
      (∀ q, IsOperation fun s => s.populate q) ∧ IsOperation Session.prepareForward ∧
      IsOperation Session.requestStatus ∧ (∀ d, IsOperation fun s => s.fulfilStatus d) ∧
      IsOperation fun s => s.takeStatus.2) := by
  refine ⟨sessions_reached events, ?_, fun l _ => l.session_ends.2,
    fun now loiter => ⟨sessions_reap _ now loiter, reaped_eq _ now loiter⟩,
    fun l hl more => exists_becomes events more hl, ?_,
    fun more l' => becomes_of_mem events more, ?_⟩
  · have hIds : (lives events).map (Session.id ∘ Life.session) = (lives events).map Life.id :=
      List.map_congr_left fun l _ => l.session_ends.1
    rw [sessions_reached, List.map_map, hIds]
    exact ids_sublist_inserted events
  · intro l hl t more hExit
    refine ⟨fun l' _ hBecomes => ?_, fun now loiter hBack l' hl' hBecomes => ?_⟩
    · obtain ⟨-, hEnd, hExited⟩ := l'.session_ends
      have hFirst := hBecomes.head?_exits hExit
      refine ⟨hExited.mpr fun hNone => ?_, hEnd.trans hFirst⟩
      rw [hNone] at hFirst
      cases hFirst
    · rw [lives_append_singleton] at hl'
      have hKept := (List.mem_filter.mp hl').2
      rw [Life.isOver, hBecomes.head?_exits hExit, Option.any_some, decide_eq_true hBack] at hKept
      cases hKept
  · exact ⟨isOperation_deed, fun q => isOperation_of_alike (alike_populate q),
      isOperation_of_alike alike_prepareForward, isOperation_of_alike fun s => ⟨rfl, rfl, rfl⟩,
      fun d => isOperation_of_alike fun s => ⟨rfl, rfl, rfl⟩, isOperation_of_alike alike_takeStatus⟩

/-- A session that is finished with twice, among others: it goes with a pass at the time of the
first time and the loiter, and not before; the one whose handler is still at work stays. -/
theorem reaps_what_is_over_twice :
    let via : Service := ⟨1, { port := 1080, kind := .socks }⟩
    let done : Life := ⟨1, via, {}, 0, []⟩
    let live : Life := ⟨2, via, {}, 3, []⟩
    let events : List Event :=
      [.insert done, .insert live, .operate 1 (.exit 10), .operate 1 (.exit 25)]
    let after := (done.and (.exit 10)).and (.exit 25)
    ((reached events).sessions.map fun s => (s.id, s.endTime)) = [(1, some 10), (2, none)] ∧
      (reached events).reaped 14 5 = 0 ∧ (reached events).reaped 15 5 = 1 ∧
      (∀ l' ∈ lives (events ++ [.service] ++ [.reap 15 5]), ¬ after.Becomes l') ∧
      ∃ l' ∈ lives (events ++ [.reap 40 0]), live.Becomes l' ∧ l'.exits = [] := by
  intro via done live events after
  obtain ⟨-, -, -, hReap, hStays, hGoes, -, -⟩ := reaps_what_is_over events
  have hDone : after ∈ lives events := List.mem_cons_self
  have hLive : live ∈ lives events := List.mem_cons_of_mem _ List.mem_cons_self
  have hFirst : after.exits.head? = some 10 := rfl
  refine ⟨rfl, ?_, ?_, (hGoes after hDone 10 [.service] hFirst).2 15 5 (by decide), ?_⟩
  · rw [(hReap 14 5).2]
    decide +kernel
  · rw [(hReap 15 5).2]
    decide +kernel
  · exact hStays live hLive [.reap 40 0] rfl fun now hMem => nomatch List.mem_singleton.mp hMem

end SessionRegistry

end SocksGateway
