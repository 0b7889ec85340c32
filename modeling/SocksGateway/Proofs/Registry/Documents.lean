import Mathlib.Data.List.Induction
import SocksGateway.Server

/-!
# What a status document answers

A session asks for a status document with a flag, and the answer is kept beside the flag
until the session takes it.  Between them anything may happen to the registry: other
sessions ask and take, sessions come, change and go, and housekeeping passes.

* `Move`, `after`: what happens to a registry, one move after the other; `Move.act` is what
  a move makes of one session.  New sessions are numbered as the server numbers them, in
  `state`.
* `exists_since`: what holds of a session began with one move, and has held since.
* `document_answers`: a document that a session takes was made by the pass that answered its
  request, out of the registry as it was then.  A session that never asks while it holds a
  document takes one that is newer than its last request.
* `document_stale`: a session that does ask then takes one that is older.
-/

namespace SocksGateway

namespace SessionRegistry

/-! ### Moves -/

/-- A change of a session that has to do neither with its number nor with status documents. -/
structure Change where
  apply : Session → Session
  id_apply : ∀ s, (apply s).id = s.id
  statusRequested_apply : ∀ s, (apply s).statusRequested = s.statusRequested
  statusDocument_apply : ∀ s, (apply s).statusDocument = s.statusDocument

/-- Bytes have gone out. -/
def Change.addTx (n : Nat) : Change :=
  ⟨fun s => s.addTx n, fun _ => rfl, fun _ => rfl, fun _ => rfl⟩

/-- What happens to a registry.  A session that is accepted has one of the numbers that were
drawn and not used yet, the one at `k`. -/
inductive Move where
  | draw
  | accept (k : Nat) (service : Service) (source : Destination) (time : Moment)
  | change (id : Nat) (c : Change)
  | request (id : Nat)
  | take (id : Nat)
  | service
  | reap (now : Moment) (loiter : Nat)

def Move.apply (x : Server.Sessions) : Move → Server.Sessions
  | draw => x.draw
  | accept k via source time => x.accept k via source time
  | change id c => { x with registry := x.registry.modify id c.apply }
  | request id => { x with registry := x.registry.modify id Session.requestStatus }
  | take id => { x with registry := x.registry.modify id fun s => s.takeStatus.2 }
  | service => { x with registry := x.registry.serviceStatusRequests }
  | reap now loiter => { x with registry := x.registry.reap now loiter }

/-- The sessions and their numbers after these moves; at first there are none. -/
def state (moves : List Move) : Server.Sessions := moves.foldl Move.apply {}

/-- The registry after these moves. -/
def after (moves : List Move) : SessionRegistry := (state moves).registry

theorem state_append_singleton (moves : List Move) (m : Move) :
    state (moves ++ [m]) = m.apply (state moves) := by
  rw [state, List.foldl_append]
  rfl

theorem after_append_singleton (moves : List Move) (m : Move) :
    after (moves ++ [m]) = (m.apply (state moves)).registry := by
  rw [after, state_append_singleton]

/-- What a move makes of a session that is in the registry `r`. -/
def Move.act (r : SessionRegistry) (m : Move) (s : Session) : Session :=
  match m with
  | .draw => s
  | .accept .. => s
  | .change id c => if s.id = id then c.apply s else s
  | .request id => if s.id = id then s.requestStatus else s
  | .take id => if s.id = id then s.takeStatus.2 else s
  | .service => if s.wantsStatus then s.fulfilStatus r.document else s
  | .reap .. => s

/-- A pass of housekeeping goes over all sessions, also when none of them wants a document. -/
theorem sessions_serviceStatusRequests (r : SessionRegistry) :
    r.serviceStatusRequests.sessions =
      r.sessions.map fun s => if s.wantsStatus then s.fulfilStatus r.document else s := by
  unfold serviceStatusRequests
  by_cases hSome : r.sessions.any Session.wantsStatus = true
  · rw [if_pos hSome]
  · rw [if_neg hSome]
    have hNone : ∀ s ∈ r.sessions, s.wantsStatus = false := by simpa using hSome
    have hKept : r.sessions = r.sessions.map id := (List.map_id _).symm
    rw [hKept, List.map_map]
    refine List.map_congr_left fun s hs => ?_
    simp [hNone s hs]

/-- The session that a move lets in. -/
def Move.newcomer? (x : Server.Sessions) : Move → Option Session
  | accept k via source time => x.drawn[k]?.map fun id => .accept id via source time
  | _ => none

theorem sessions_accept (x : Server.Sessions) (k : Nat) (service : Service) (source : Destination)
    (time : Moment) :
    (x.accept k service source time).registry.sessions =
      x.registry.sessions ++ ((Move.accept k service source time).newcomer? x).toList := by
  rw [Server.Sessions.accept, Move.newcomer?]
  cases x.drawn[k]? with
  | none => exact (List.append_nil _).symm
  | some id => rfl

theorem eq_accept_of_newcomer? {x : Server.Sessions} {m : Move} {s : Session}
    (h : m.newcomer? x = some s) :
    ∃ id service source time, s = .accept id service source time := by
  cases m with
  | accept k service source time =>
    obtain ⟨id, -, rfl⟩ := Option.map_eq_some_iff.mp h
    exact ⟨id, service, source, time, rfl⟩
  | _ => cases h

/-- **A session is there after a move** because it was there before, or has just been
accepted. -/
theorem mem_move {x : Server.Sessions} {m : Move} {s : Session}
    (hs : s ∈ (m.apply x).registry.sessions) :
    (∃ t ∈ x.registry.sessions, s = m.act x.registry t) ∨
      ∃ id service source time, s = .accept id service source time := by
  have hModify (id : Nat) (f : Session → Session) (h : s ∈ (x.registry.modify id f).sessions) :
      ∃ t ∈ x.registry.sessions, s = if t.id = id then f t else t := by
    obtain ⟨t, ht, hEq⟩ := List.mem_map.mp h
    exact ⟨t, ht, hEq.symm⟩
  cases m with
  | draw => exact .inl ⟨s, hs, rfl⟩
  | accept k service source time =>
    rw [Move.apply, sessions_accept] at hs
    rcases List.mem_append.mp hs with hOld | hNew
    · exact .inl ⟨s, hOld, rfl⟩
    · exact .inr (eq_accept_of_newcomer? (Option.mem_toList.mp hNew))
  | change id c => exact .inl (hModify id _ hs)
  | request id => exact .inl (hModify id _ hs)
  | take id => exact .inl (hModify id _ hs)
  | service =>
    rw [Move.apply, sessions_serviceStatusRequests] at hs
    obtain ⟨t, ht, hEq⟩ := List.mem_map.mp hs
    exact .inl ⟨t, ht, hEq.symm⟩
  | reap now loiter => exact .inl ⟨s, (List.mem_filter.mp hs).1, rfl⟩

@[simp] theorem id_act (r : SessionRegistry) (m : Move) (s : Session) : (m.act r s).id = s.id := by
  cases m with
  | draw => rfl
  | accept => rfl
  | change id c => rw [Move.act, apply_ite Session.id, c.id_apply, ite_self]
  | request id => exact (apply_ite Session.id _ _ _).trans (ite_self _)
  | take id => rw [Move.act, apply_ite Session.id, Session.id_takeStatus, ite_self]
  | service => exact (apply_ite Session.id _ _ _).trans (ite_self _)
  | reap => rfl

/-! ### What has held since a move -/

/-- **The property has held since the move `m`**: of a session with this number, right after
`m`, which came after the moves in `front`, and after each of the moves in `back`. -/
def HeldSince (P : Session → Prop) (id : Nat) (front : List Move) (m : Move) (back : List Move) :
    Prop :=
  ∀ b, b <+: back → ∃ t ∈ (after (front ++ m :: b)).sessions, t.id = id ∧ P t

/-- **What holds of a session began with one move, and has held since**, if it does not hold
of sessions that are accepted. -/
theorem exists_since {P : Session → Prop} {Q : SessionRegistry → Move → Session → Prop}
    (hAccept : ∀ id service source time, ¬ P (.accept id service source time))
    (hAct : ∀ r m t, P (m.act r t) → P t ∨ Q r m t) (moves : List Move) {s : Session}
    (hs : s ∈ (after moves).sessions) (hP : P s) :
    ∃ front m back, moves = front ++ m :: back ∧
      (∃ t ∈ (after front).sessions, t.id = s.id ∧ Q (after front) m t) ∧
      HeldSince P s.id front m back := by
  -- The moves are taken from the last one back: as long as the property held before the move,
  -- it began earlier, and the session was there then as well.
  induction moves using List.reverseRecOn generalizing s with
  | nil => exact absurd hs List.not_mem_nil
  | append_singleton moves m ih =>
    have hNow : s ∈ (after (moves ++ [m])).sessions := hs
    rw [after_append_singleton] at hs
    rcases mem_move hs with ⟨t, ht, rfl⟩ | ⟨id, service, source, time, rfl⟩
    · rw [id_act]
      rcases hAct _ m t hP with hBefore | hBegins
      · obtain ⟨front, first, back, hMoves, hFirst, hHeld⟩ := ih ht hBefore
        refine ⟨front, first, back ++ [m], by simp [hMoves], hFirst, fun b hb => ?_⟩
        rcases List.prefix_concat_iff.mp hb with rfl | hb
        · refine ⟨_, ?_, id_act _ m t, hP⟩
          simpa [hMoves] using hNow
        · exact hHeld b hb
      · refine ⟨moves, m, [], rfl, ⟨t, ht, rfl, hBegins⟩, fun b hb => ?_⟩
        obtain rfl := List.prefix_nil.mp hb
        exact ⟨_, hNow, id_act _ m t, hP⟩
    · exact absurd hP (hAccept id service source time)

/-! ### Requests and answers -/

/-- **A request is open** because it was before, or has just been made. -/
theorem statusRequested_act {r : SessionRegistry} {m : Move} {s : Session}
    (h : (m.act r s).statusRequested = true) :
    s.statusRequested = true ∨ m = .request s.id := by
  cases m with
  | draw => exact .inl h
  | accept => exact .inl h
  | change id c =>
    rw [Move.act, apply_ite Session.statusRequested, c.statusRequested_apply, ite_self] at h
    exact .inl h
  | request id =>
    by_cases hSame : s.id = id
    · exact .inr (by rw [hSame])
    · rw [Move.act, if_neg hSame] at h
      exact .inl h
  | take id =>
    by_cases hSame : s.id = id
    · rw [Move.act, if_pos hSame] at h
      exact .inl (Session.statusRequested_of_takeStatus h)
    · rw [Move.act, if_neg hSame] at h
      exact .inl h
  | service =>
    rw [Move.act, apply_ite Session.statusRequested, Session.fulfilStatus, ite_self] at h
    exact .inl h
  | reap => exact .inl h

/-- **A document is there** because it was before, or because a pass of housekeeping has just
made it for a session that wanted one. -/
theorem statusDocument_act {r : SessionRegistry} {m : Move} {s : Session} {document : String}
    (h : (m.act r s).statusDocument = some document) :
    s.statusDocument = some document ∨
      m = .service ∧ s.wantsStatus = true ∧ document = r.document := by
  cases m with
  | draw => exact .inl h
  | accept => exact .inl h
  | change id c =>
    rw [Move.act, apply_ite Session.statusDocument, c.statusDocument_apply, ite_self] at h
    exact .inl h
  | request id =>
    rw [Move.act, apply_ite Session.statusDocument, Session.requestStatus, ite_self] at h
    exact .inl h
  | take id =>
    by_cases hSame : s.id = id
    · rw [Move.act, if_pos hSame, Session.statusDocument_takeStatus] at h
      cases h
    · rw [Move.act, if_neg hSame] at h
      exact .inl h
  | service =>
    by_cases hWants : s.wantsStatus = true
    · rw [Move.act, if_pos hWants] at h
      exact .inr ⟨rfl, hWants, (Option.some.inj h).symm⟩
    · rw [Move.act, if_neg hWants] at h
      exact .inl h
  | reap => exact .inl h

/-- The session asks only while it holds no document. -/
def AsksInTurn (id : Nat) (moves : List Move) : Prop :=
  ∀ front back, moves = front ++ .request id :: back →
    ∀ t ∈ (after front).sessions, t.id = id → t.statusDocument = none

/-- **The document is newer than the last request** of the session: it was made by a pass of
housekeeping behind which there is no request. -/
def Fresh (id : Nat) (moves : List Move) (document : String) : Prop :=
  ∃ front back, moves = front ++ .service :: back ∧ document = (after front).document ∧
    .request id ∉ back

/-- A session that asks only while it holds no document does not ask while it holds one. -/
theorem AsksInTurn.request_not_mem {id : Nat} {front back : List Move} {document : String}
    (h : AsksInTurn id (front ++ .service :: back))
    (hHeld : HeldSince (·.statusDocument = some document) id front .service back) :
    .request id ∉ back := by
  intro hAsks
  obtain ⟨b, later, rfl⟩ := List.append_of_mem hAsks
  obtain ⟨t, ht, hId, hDocument⟩ := hHeld b (List.prefix_append b _)
  have hNone := h (front ++ .service :: b) later (by simp) t ht hId
  rw [hDocument] at hNone
  cases hNone

/-- **A document that a session takes answers its request.**  The session has made a request,
which was open up to a pass of housekeeping; that pass made the document of the sessions that
were registered then, and the session has held it since.  If the session never asks while it
holds a document, then there has been no request behind the pass. -/
theorem document_answers (moves : List Move) {s : Session} (hs : s ∈ (after moves).sessions)
    {document : String} (hTaken : s.takeStatus.1 = some document) :
    ∃ early late back, moves = early ++ .request s.id :: (late ++ .service :: back) ∧
      (let front := early ++ .request s.id :: late
       HeldSince (·.statusRequested = true) s.id early (.request s.id) late ∧
         (∃ t ∈ (after front).sessions, t.id = s.id ∧ t.wantsStatus = true) ∧
         document = (after front).document ∧
         HeldSince (·.statusDocument = some document) s.id front .service back) ∧
      (AsksInTurn s.id moves → .request s.id ∉ back ∧ Fresh s.id moves document) := by
  obtain ⟨front, m, back, rfl, ⟨t, ht, hId, rfl, hWants, hDocument⟩, hHeld⟩ :=
    exists_since (P := (·.statusDocument = some document))
      (Q := fun r m t => m = .service ∧ t.wantsStatus = true ∧ document = r.document)
      (fun _ _ _ _ => by simp [Session.accept]) (fun _ _ _ => statusDocument_act) moves hs
      (Session.takeStatus_eq_some.mp hTaken)
  have hOpen : t.statusRequested = true := by
    unfold Session.wantsStatus at hWants
    exact (Bool.and_eq_true_iff.mp hWants).1
  obtain ⟨early, m, late, rfl, ⟨u, -, hSame, rfl⟩, hOpenSince⟩ :=
    exists_since (P := (·.statusRequested = true)) (Q := fun _ m t => m = .request t.id)
      (fun _ _ _ _ => by simp [Session.accept]) (fun _ _ _ => statusRequested_act) front ht hOpen
  rw [hId] at hSame hOpenSince
  rw [hSame] at ht hDocument hHeld hOpenSince ⊢
  refine ⟨early, late, back, by simp, ⟨hOpenSince, ⟨t, ht, hId, hWants⟩, hDocument, hHeld⟩,
    fun hInTurn => ?_⟩
  have hNone := hInTurn.request_not_mem hHeld
  exact ⟨hNone, _, back, rfl, hDocument, hNone⟩

/-- The session asks once, after five bytes have gone out elsewhere, and takes what the pass of
housekeeping has made. -/
theorem document_answers_once :
    let service : Service := ⟨1, { port := 1080, kind := .socks }⟩
    let moves : List Move := [.draw, .draw, .accept 0 service {} 0, .accept 0 service {} 0,
      .request 1, .change 2 (.addTx 5), .service, .change 2 (.addTx 1)]
    let asked : Session := (Session.accept 1 service {} 0).requestStatus
    let other : Session := (Session.accept 2 service {} 0).addTx 5
    let s := asked.fulfilStatus (statusDocument [asked, other])
    s ∈ (after moves).sessions ∧ s.takeStatus.1 = some (statusDocument [asked, other]) ∧
      AsksInTurn 1 moves ∧ Fresh 1 moves (statusDocument [asked, other]) := by
  intro service moves asked other s
  have hs : s ∈ (after moves).sessions := by decide +kernel
  have hTaken : s.takeStatus.1 = some (statusDocument [asked, other]) := rfl
  have hInTurn : AsksInTurn 1 moves := by
    intro front back hMoves
    obtain ⟨rfl, rfl⟩ :
        front = [.draw, .draw, .accept 0 service {} 0, .accept 0 service {} 0] ∧
        back = [.change 2 (.addTx 5), .service, .change 2 (.addTx 1)] := by
      simpa [moves, List.cons_eq_append_iff] using hMoves
    decide +kernel
  obtain ⟨_, _, _, -, -, hFresh⟩ := document_answers moves hs hTaken
  exact ⟨hs, hTaken, hInTurn, (hFresh hInTurn).2⟩

/-- **A document can be older than the request that it is taken for.**  The session asks and is
answered, five bytes go out, and it asks again, but no pass of housekeeping answers: a
document is there.  It says that nothing has gone out. -/
theorem document_stale :
    let service : Service := ⟨1, { port := 1080, kind := .socks }⟩
    let moves : List Move :=
      [.draw, .accept 0 service {} 0, .request 1, .service, .change 1 (.addTx 5), .request 1,
        .service]
    ∃ s ∈ (after moves).sessions, ∃ document,
      s.takeStatus.1 = some document ∧ ¬ Fresh s.id moves document := by
  intro service moves
  let asked : Session := (Session.accept 1 service {} 0).requestStatus
  let s := (asked.fulfilStatus (statusDocument [asked])).addTx 5
  have hs : s ∈ (after moves).sessions := by decide +kernel
  refine ⟨s, hs, statusDocument [asked], rfl, ?_⟩
  rintro ⟨front, back, hMoves, hDocument, hNone⟩
  -- There are two passes, and the first one has the second request behind it.
  obtain ⟨_, rfl, ⟨rfl, rfl⟩ | ⟨rfl, rfl⟩⟩ : ∃ rest,
      front = .draw :: .accept 0 service {} 0 :: .request 1 :: rest ∧
        (rest = [] ∧ back = [.change 1 (.addTx 5), .request 1, .service] ∨
          rest = [.service, .change 1 (.addTx 5), .request 1] ∧ back = []) := by
    simpa [moves, List.cons_eq_append_iff] using hMoves
  · exact hNone (.tail _ (.head _))
  · exact absurd hDocument (by decide +kernel)

end SessionRegistry

end SocksGateway
