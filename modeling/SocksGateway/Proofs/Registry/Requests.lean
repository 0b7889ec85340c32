import SocksGateway.Proofs.Registry.Rows

/-!
# Requests for status documents

A session asks for a document by a flag, and finds the document beside the flag when a pass of
housekeeping has answered.  The flag and the document are two pieces of state, and this file
says how they go together over any moves of a registry.

* `requested_of_document`: a document is there only while a request is open.
* `not_requested_of_quiet`: no request is open where none was made.
* `getElem?_serviceStatusRequests`, `not_wants_of_mem_pass`: what a pass of housekeeping does.
* `documents_follow_requests`: what follows for sessions that ask, take and wait.
-/

namespace SocksGateway

namespace SessionRegistry

variable {r : SessionRegistry} {m : Move} {s t : Session} {document : String}

/-! ### The flag and the document -/

/-- A move that leaves a document leaves the request open. -/
theorem requested_act (h : s.statusDocument ≠ none → s.statusRequested = true)
    (hDocument : (m.act r s).statusDocument ≠ none) : (m.act r s).statusRequested = true := by
  cases m with
  | draw => exact h hDocument
  | accept => exact h hDocument
  | change id c =>
    rw [Move.act, apply_ite Session.statusDocument, c.statusDocument_apply, ite_self] at hDocument
    rw [Move.act, apply_ite Session.statusRequested, c.statusRequested_apply, ite_self]
    exact h hDocument
  | request id =>
    by_cases hSame : s.id = id
    · rw [Move.act, if_pos hSame]
      rfl
    · rw [Move.act, if_neg hSame] at hDocument ⊢
      exact h hDocument
  | take id =>
    by_cases hSame : s.id = id
    · rw [Move.act, if_pos hSame, Session.statusDocument_takeStatus] at hDocument
      exact absurd rfl hDocument
    · rw [Move.act, if_neg hSame] at hDocument ⊢
      exact h hDocument
  | service =>
    by_cases hWants : s.wantsStatus = true
    · rw [Move.act, if_pos hWants]
      exact (Bool.and_eq_true_iff.mp hWants).1
    · rw [Move.act, if_neg hWants] at hDocument ⊢
      exact h hDocument
  | reap => exact h hDocument

theorem requested_of_document {moves : List Move} (hs : s ∈ (after moves).sessions)
    (hDocument : s.statusDocument ≠ none) : s.statusRequested = true := by
  have hAll := forall_after (P := fun s => s.statusDocument ≠ none → s.statusRequested = true)
    (fun _ _ _ _ h => absurd rfl h) (fun _ _ _ => requested_act) moves
  exact hAll s hs hDocument

/-- **No request is open where none was made**: if none is open for that number, and none is
made, then none is open later on. -/
theorem not_requested_of_quiet {front back : List Move} {id : Nat}
    (hQuiet : ∀ s ∈ (after front).sessions, s.id = id → s.statusRequested = false)
    (hNone : .request id ∉ back) :
    ∀ s ∈ (after (front ++ back)).sessions, s.id = id → s.statusRequested = false := by
  induction back using List.reverseRecOn with
  | nil =>
    rw [List.append_nil]
    exact hQuiet
  | append_singleton back m ih =>
    obtain ⟨hBack, hLast⟩ := not_or.mp (mt List.mem_append.mpr hNone)
    intro s hs hId
    rw [← List.append_assoc, after_append_singleton] at hs
    rcases mem_move hs with ⟨t, ht, rfl⟩ | ⟨id, service, source, time, rfl⟩
    · rw [id_act] at hId
      refine Bool.eq_false_iff.mpr fun hNow => ?_
      rcases statusRequested_act hNow with hBefore | rfl
      · rw [ih hBack t ht hId] at hBefore
        cases hBefore
      · exact hLast (by rw [hId]; exact List.mem_singleton_self _)
    · rfl

theorem takeStatus_of_idle {moves : List Move} (hs : s ∈ (after moves).sessions)
    (hIdle : s.statusRequested = false) : s.takeStatus = (none, s) := by
  have hNone : s.statusDocument = none := by
    by_contra hDocument
    rw [requested_of_document hs hDocument] at hIdle
    cases hIdle
  rw [Session.takeStatus, hNone]

/-- **A document that is taken settles the request**: until the next one there is none to
take. -/
theorem takeStatus_of_taken {moves early late : List Move}
    (hMoves : moves = early ++ .take t.id :: late) (ht : t ∈ (after early).sessions)
    (hTaken : t.takeStatus.1 ≠ none) (hNone : .request t.id ∉ late)
    (hs : s ∈ (after moves).sessions) (hId : s.id = t.id) : s.takeStatus = (none, s) := by
  have hSplit : moves = (early ++ [.take t.id]) ++ late := by rw [hMoves]; simp
  have hSettled : ∀ u ∈ (after (early ++ [.take t.id])).sessions, u.id = t.id →
      u.statusRequested = false := by
    intro u hu hSame
    rw [after_append_singleton] at hu
    rcases mem_move hu with ⟨u, hBefore, rfl⟩ | ⟨id, service, source, time, rfl⟩
    · rw [id_act] at hSame
      obtain rfl := eq_of_id hBefore ht hSame
      obtain ⟨document, hDocument⟩ := Option.ne_none_iff_exists'.mp hTaken
      rw [Move.act, if_pos rfl, Session.takeStatus, Session.takeStatus_eq_some.mp hDocument]
    · rfl
  refine takeStatus_of_idle hs ?_
  rw [hSplit] at hs
  exact not_requested_of_quiet hSettled hNone s hs hId

/-! ### A pass of housekeeping -/

/-- **A pass gives its document to the sessions that want one**, and leaves the others alone. -/
theorem getElem?_serviceStatusRequests (r : SessionRegistry) {k : Nat}
    (hs : r.sessions[k]? = some s) :
    r.serviceStatusRequests.sessions[k]? =
      some (if s.wantsStatus then s.fulfilStatus r.document else s) := by
  rw [sessions_serviceStatusRequests, List.getElem?_map, hs]
  rfl

theorem not_wants_fulfilStatus (s : Session) (document : String) :
    (s.fulfilStatus document).wantsStatus = false :=
  Bool.and_false _

theorem not_wants_of_mem_pass (hs : s ∈ r.serviceStatusRequests.sessions) :
    s.wantsStatus = false := by
  rw [sessions_serviceStatusRequests] at hs
  obtain ⟨t, -, rfl⟩ := List.mem_map.mp hs
  by_cases hWants : t.wantsStatus = true
  · rw [if_pos hWants]
    exact not_wants_fulfilStatus t r.document
  · rw [if_neg hWants]
    exact Bool.eq_false_iff.mpr hWants

theorem serviceStatusRequests_of_none (hNone : ∀ s ∈ r.sessions, s.wantsStatus = false) :
    r.serviceStatusRequests = r := by
  have hNot : ¬ r.sessions.any Session.wantsStatus = true := by simpa using hNone
  rw [serviceStatusRequests, if_neg hNot]

/-! ### What follows -/

/-- **Documents follow requests.**  After any moves of a registry, documents being made by
passes of housekeeping only: a session holds a document only while its request is open, so
that taking the document settles an open request; and a session that has not asked since it
took a document last, or has not asked at all, takes none and stays as it is.  After a pass no
session wants a document.  The pass gives the sessions that want one the same document, with
one row for each registered session in the order of arrival, which is what the text of the
document is read as; the others it leaves as they are, with the document that they hold, and it
changes nothing at all if no session wants one. -/
theorem documents_follow_requests (moves : List Move) :
    let r := after moves
    let rows := r.sessions.map StatusEntry.ofSession
    let document := "[" ++ Text.join "," (rows.map StatusEntry.text) ++ "]"
    let pass := r.serviceStatusRequests
    (∀ s ∈ r.sessions, s.statusDocument ≠ none → s.statusRequested = true) ∧
      (∀ s ∈ r.sessions, ∀ taken, s.takeStatus.1 = some taken → s.statusRequested = true ∧
        s.takeStatus.2 = { s with statusRequested := false, statusDocument := none }) ∧
      (∀ early late t, moves = early ++ .take t.id :: late →
        t ∈ (after early).sessions → t.takeStatus.1 ≠ none → .request t.id ∉ late →
        ∀ s ∈ r.sessions, s.id = t.id → s.takeStatus = (none, s)) ∧
      (∀ s ∈ r.sessions, .request s.id ∉ moves → s.takeStatus = (none, s)) ∧
      (∀ s ∈ pass.sessions, s.wantsStatus = false) ∧
      pass.sessions.length = r.sessions.length ∧
      (∀ (k : Nat) (s : Session), r.sessions[k]? = some s →
        ∃ s' : Session, pass.sessions[k]? = some s' ∧
        (s.wantsStatus = true → s' = { s with statusDocument := some document }) ∧
        (s.wantsStatus = false → s' = s)) ∧
      rows.map StatusEntry.connectionId = r.sessions.map Session.id ∧
      (r.sessions.map Session.id).Sublist (arrivals moves) ∧
      ((state moves).next ≤ 2 ^ 64 → ∃ read, Json.Value.parse? document.toList =
        some (.array read) ∧ List.Forall₂ RowOf r.sessions read) ∧
      ((∀ s ∈ r.sessions, s.wantsStatus = false) → pass = r) := by
  intro r rows document pass
  refine ⟨fun s hs => requested_of_document hs, fun s hs taken hTaken => ?_,
    fun early late t hMoves ht hTaken hNone s hs hId =>
      takeStatus_of_taken hMoves ht hTaken hNone hs hId,
    fun s hs hNone => ?_, fun s hs => not_wants_of_mem_pass hs, ?_, fun k s hs => ?_, ?_,
    ids_sublist_arrivals moves, exists_rows moves, serviceStatusRequests_of_none⟩
  · have hDocument := Session.takeStatus_eq_some.mp hTaken
    refine ⟨requested_of_document hs (by simp [hDocument]), ?_⟩
    rw [Session.takeStatus, hDocument]
  · refine takeStatus_of_idle hs ?_
    exact @not_requested_of_quiet [] moves s.id (fun s hs => absurd hs List.not_mem_nil) hNone
      s hs rfl
  · show r.serviceStatusRequests.sessions.length = r.sessions.length
    rw [sessions_serviceStatusRequests, List.length_map]
  · refine ⟨_, getElem?_serviceStatusRequests r hs, fun hWants => ?_, fun hNot => ?_⟩
    · rw [if_pos hWants]
      rfl
    · rw [if_neg (by simp [hNot])]
  · exact List.map_map

/-- Two sessions ask and are answered by one pass; the one that takes its document finds no
other. -/
example :
    let service : Service := ⟨1, { port := 1080, kind := .socks }⟩
    let r := after [.draw, .accept 0 service {} 0, .draw, .accept 0 service {} 0, .request 1,
      .request 2, .service, .take 1, .service]
    r.sessions.map (fun s => s.takeStatus.1.isSome) = [false, true] := by
  decide +kernel

end SessionRegistry

end SocksGateway
