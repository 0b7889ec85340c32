import SocksGateway.Proofs.Handler.Deeds
import SocksGateway.Proofs.Registry.Rows

/-!
# What stays on record of a session

The status documents that are made while a session is worked on show what its client asked for
beside what became of it.  Meanwhile anything may happen to the other sessions.

* `Turn`, `continues_afterTurns`: a session of a registry goes on with what it has on record,
  among everything that happens there.
* `record_stays`: what that means for the rows of the status documents.
-/

namespace SocksGateway

open Json (Value)

variable {σ : Type} {env : Surroundings σ} {s t : Session}

/-! ### Among everything else -/

namespace SessionRegistry

/-- A deed as a change of a session of a registry. -/
def Change.ofDeed (env : Surroundings σ) (deed : Deed σ) : Change where
  apply s := deed.apply env s
  id_apply s := (deed.continues env s).id
  statusRequested_apply s := (deed.keeps_request env s).1
  statusDocument_apply s := (deed.keeps_request env s).2

/-- The session is made ready for its port forward. -/
def Change.prepareForward : Change where
  apply := Session.prepareForward
  id_apply s := by
    unfold Session.prepareForward Session.populate Session.recordDestination
    repeat' split
    all_goals rfl
  statusRequested_apply s := by
    unfold Session.prepareForward Session.populate Session.recordDestination
    repeat' split
    all_goals rfl
  statusDocument_apply s := by
    unfold Session.prepareForward Session.populate Session.recordDestination
    repeat' split
    all_goals rfl

/-- What happens next, one session being watched: that session is worked on, or anything else
happens. -/
inductive Turn (σ : Type) where
  | work (deed : Deed σ)
  | other (m : Move)

namespace Turn

/-- The move of the registry; the session that is watched has this number. -/
def move (env : Surroundings σ) (id : Nat) : Turn σ → Move
  | work deed => .change id (.ofDeed env deed)
  | other m => m

/-- Nothing but deeds is done to the session with this number. -/
def Spares (id : Nat) : Turn σ → Prop
  | work _ => True
  | other m => ∀ c, m ≠ .change id c

def sent : Turn σ → Nat
  | work deed => deed.sent
  | other _ => 0

def received : Turn σ → Nat
  | work deed => deed.received
  | other _ => 0

end Turn

theorem continues_takeStatus {keepsPort : Prop} (s : Session) :
    Continues keepsPort 0 0 s s.takeStatus.2 := by
  unfold Session.takeStatus
  split
  · exact .refl s
  · exact { Continues.refl s with }

theorem continues_act (env : Surroundings σ) (r : SessionRegistry) {x : Turn σ}
    (hSpares : x.Spares s.id) :
    Continues (Dns.KeepsPort env.resolve) x.sent x.received s ((x.move env s.id).act r s) := by
  cases x with
  | work deed =>
    rw [Turn.move, Move.act, if_pos rfl]
    exact deed.continues env s
  | other m =>
    cases m with
    | draw => exact .refl s
    | accept => exact .refl s
    | reap => exact .refl s
    | change id c =>
      have hOther : s.id ≠ id := by
        rintro rfl
        exact hSpares c rfl
      rw [Turn.move, Move.act, if_neg hOther]
      exact .refl s
    | request id =>
      rw [Turn.move, Move.act]
      split
      · exact { Continues.refl s with }
      · exact .refl s
    | take id =>
      rw [Turn.move, Move.act]
      split
      · exact continues_takeStatus s
      · exact .refl s
    | service =>
      rw [Turn.move, Move.act]
      split
      · exact { Continues.refl s with }
      · exact .refl s

/-- The moves in front, and then these turns of the session with this number. -/
def movesOf (env : Surroundings σ) (front : List Move) (id : Nat) (turns : List (Turn σ)) :
    List Move :=
  front ++ turns.map (Turn.move env id)

/-- The registry after these turns. -/
def afterTurns (env : Surroundings σ) (front : List Move) (id : Nat) (turns : List (Turn σ)) :
    SessionRegistry :=
  after (movesOf env front id turns)

theorem movesOf_append (env : Surroundings σ) (front : List Move) (id : Nat)
    (turns more : List (Turn σ)) :
    movesOf env front id (turns ++ more) = movesOf env (movesOf env front id turns) id more := by
  rw [movesOf, List.map_append, ← List.append_assoc]
  rfl

theorem continues_afterTurns (env : Surroundings σ) {front : List Move} {id : Nat}
    {turns : List (Turn σ)} (hSpares : ∀ x ∈ turns, x.Spares id)
    (hs : s ∈ (after front).sessions) (hsId : s.id = id)
    (ht : t ∈ (afterTurns env front id turns).sessions) (htId : t.id = id) :
    Continues (Dns.KeepsPort env.resolve) (turns.map Turn.sent).sum (turns.map Turn.received).sum
      s t := by
  induction turns using List.reverseRecOn generalizing t with
  | nil =>
    rw [afterTurns, movesOf, List.map_nil, List.append_nil] at ht
    obtain rfl := eq_of_id ht hs (htId.trans hsId.symm)
    exact .refl t
  | append_singleton turns x ih =>
    have hMoves : movesOf env front id (turns ++ [x]) =
        movesOf env front id turns ++ [x.move env id] := movesOf_append env front id turns [x]
    have hOnce := nodup_arrivals (movesOf env front id (turns ++ [x]))
    rw [hMoves, arrivals_append_singleton] at hOnce
    rw [afterTurns, hMoves, after_append_singleton] at ht
    simp only [List.map_append, List.map_singleton, List.sum_append, List.sum_singleton]
    rcases List.mem_append.mp ((sessions_apply_sublist _ _).subset ht) with hThere | hNew
    · obtain ⟨u, hu, rfl⟩ := List.mem_map.mp hThere
      rw [id_act] at htId
      have hEarlier := ih (fun y hy => hSpares y (List.mem_append_left _ hy)) hu htId
      have hStep := continues_act env (after (movesOf env front id turns))
        (s := u) (x := x) (htId ▸ hSpares x (by simp))
      rw [htId] at hStep
      exact hEarlier.trans hStep
    · -- The number is taken.
      have hFirst : id ∈ arrivals (movesOf env front id turns) :=
        (arrivals_prefix_append front _).subset (hsId ▸ id_mem_arrivals hs)
      have hAgain := List.mem_map.mpr ⟨t, hNew, htId⟩
      exact absurd rfl ((List.nodup_append.mp hOnce).2.2 _ hFirst _ hAgain)

/-! ### What the documents show -/

/-- **The row shows this request**, whatever has become of it. -/
structure Shows (r : Request) (row : Value) : Prop where
  address : row.text? "remoteAddress" = some r.destination.host
  port : row.number? "remotePort" = some r.destination.port.toNat
  version : row.number? "socksVersion" = some r.version.number.toNat
  command : row.number? "socksCommand" = r.command?.map (·.byte.toNat)

theorem RowOf.shows {r : Request} {row : Value} {keepsPort : Prop} {a b : Nat}
    (hRow : RowOf t row) (hRecorded : Recorded r s) (h : Continues keepsPort a b s t) :
    Shows r row := by
  have hRequested := h.recorded _ hRecorded.requested
  constructor
  · rw [hRow.address, hRequested]
    rfl
  · rw [hRow.port, hRequested]
    rfl
  · rw [hRow.version, h.version, hRecorded.version]
    rfl
  · rw [hRow.command, h.command, hRecorded.command]

/-- **Counts and the end of the later of two rows** of a session that goes on. -/
theorem RowOf.go_on {u : Session} {before row : Value} {keepsPort : Prop} {a b c d : Nat}
    (hBefore : RowOf u before) (hRow : RowOf t row) (hFirst : Continues keepsPort a b s u)
    (hSecond : Continues keepsPort c d u t) :
    (s.bytesTx.toNat + (a + c) < 2 ^ 64 → ∃ m n,
      before.number? "bytesTx" = some m ∧ row.number? "bytesTx" = some n ∧ m ≤ n) ∧
    (s.bytesRx.toNat + (b + d) < 2 ^ 64 → ∃ m n,
      before.number? "bytesRx" = some m ∧ row.number? "bytesRx" = some n ∧ m ≤ n) ∧
    ∀ time, before.number? "timeEnd" = some time → row.number? "timeEnd" = some time := by
  refine ⟨fun hBound => ⟨_, _, hBefore.bytesTx, hRow.bytesTx,
      le_of_counted hFirst.bytesTx hSecond.bytesTx hBound⟩,
    fun hBound => ⟨_, _, hBefore.bytesRx, hRow.bytesRx,
      le_of_counted hFirst.bytesRx hSecond.bytesRx hBound⟩, fun time hTime => ?_⟩
  rw [hBefore.ended] at hTime
  obtain ⟨moment, hMoment, hSeconds⟩ := Option.map_eq_some_iff.mp hTime
  rw [hRow.ended, hSecond.ended moment hMoment, Option.map_some, hSeconds]

/-- **The client's request stays on record.**  A session has been populated, by a handshake or
as that of a port forward, and from then on only deeds are done to it, whatever happens to the
other sessions.  Then a status document that is made at any time is an array with one object for
each registered session, in the order of arrival, and in the row of this session:

* the remote address, the remote port, the version and the command are those of the request;
* the effective ones are those of the destination as it is, and if lookups keep the port the
  effective port is that of the request;
* the byte counts are not below those of any earlier document, as long as they stay below
  `2 ^ 64`, and the end, once it is there, is the same in all later ones.

Such deeds are all that a handler does once it has a request, and all that its relay does from
any of its inputs on. -/
theorem record_stays (env : Surroundings σ) {front : List Move} {turns : List (Turn σ)}
    (hs : s ∈ (after front).sessions) (hPopulated : Populated s)
    (hSpares : ∀ x ∈ turns, x.Spares s.id) :
    (∃ r, Recorded r s ∧ ∀ later, later <+: turns →
      let moves := movesOf env front s.id later
      let sessions := (after moves).sessions
      (sessions.map Session.id).Nodup ∧ (sessions.map Session.id).Sublist (arrivals moves) ∧
        ((state moves).next ≤ 2 ^ 64 →
          ∃ rows, Value.parse? (after moves).document.toList = some (.array rows) ∧
            List.Forall₂ RowOf sessions rows ∧
            ∀ row ∈ rows, row.number? "connectionId" = some s.id → Shows r row ∧
              (∃ t ∈ sessions, t.id = s.id ∧
                row.text? "remoteAddressEffective" = some t.destination.host ∧
                row.number? "remotePortEffective" = some t.destination.port.toNat) ∧
              (Dns.KeepsPort env.resolve →
                row.number? "remotePortEffective" = row.number? "remotePort") ∧
              ∀ earlier, earlier <+: later → ∀ rowsBefore,
                Value.parse? (afterTurns env front s.id earlier).document.toList =
                  some (.array rowsBefore) →
                ∀ before ∈ rowsBefore, before.number? "connectionId" = some s.id →
                  (s.bytesTx.toNat + (later.map Turn.sent).sum < 2 ^ 64 → ∃ m n,
                    before.number? "bytesTx" = some m ∧ row.number? "bytesTx" = some n ∧
                      m ≤ n) ∧
                  (s.bytesRx.toNat + (later.map Turn.received).sum < 2 ^ 64 → ∃ m n,
                    before.number? "bytesRx" = some m ∧ row.number? "bytesRx" = some n ∧
                      m ≤ n) ∧
                  ∀ time, before.number? "timeEnd" = some time →
                    row.number? "timeEnd" = some time)) ∧
      (∀ (ctx : Handler.Context) (client : Handler.Client) (now : Moment) (fresh : Session) (w : σ),
        let asked := Handler.request (Handler.start ctx client fresh w) client.incoming
        (fresh.destinationRequested = none → asked.2 = .ok () → Populated asked.1.session) ∧
          Deed.Leads env asked.1.session (Handler.handle ctx env client now fresh w).session) ∧
      ∀ (idle : Option Nat) (begun more : List RelayInput) (st : Handler.State σ),
        Deed.Leads env (Handler.relay idle begun st).1.session
          (Handler.relay idle (begun ++ more) st).1.session := by
  obtain ⟨r, hRecorded⟩ := hPopulated.exists_recorded
  refine ⟨⟨r, hRecorded, fun later hLater => ?_⟩, fun ctx client now fresh w =>
    ⟨fun hFresh hOk => Handler.populated_request hFresh hOk, Handler.leads_handle ..⟩,
    Handler.leads_relay_append⟩
  intro moves sessions
  refine ⟨ids_nodup moves, ids_sublist_arrivals moves, fun hNumbers => ?_⟩
  have hSparesLater : ∀ x ∈ later, x.Spares s.id := fun x hx => hSpares x (hLater.subset hx)
  obtain ⟨rows, hParse, hRows⟩ := exists_rows moves hNumbers
  refine ⟨rows, hParse, hRows, fun row hRow hId => ?_⟩
  obtain ⟨t, ht, htId, hRowOf⟩ := exists_rowOf hRows hRow hId
  have hContinues := continues_afterTurns env hSparesLater hs rfl ht htId
  have hShows := hRowOf.shows hRecorded hContinues
  refine ⟨hShows, ⟨t, ht, htId, hRowOf.effectiveAddress, hRowOf.effectivePort⟩,
    fun hKeeps => ?_, fun earlier hEarlier rowsBefore hParseBefore before hBefore hBeforeId => ?_⟩
  · rw [hRowOf.effectivePort, hShows.port, hContinues.port hKeeps, hRecorded.destination]
  · -- The later document goes on from the earlier one.
    obtain ⟨rest, rfl⟩ := hEarlier
    have hMoves := movesOf_append env front s.id earlier rest
    have hNumbersBefore : (state (movesOf env front s.id earlier)).next ≤ 2 ^ 64 := by
      refine Nat.le_trans (next_le_append _ (rest.map (Turn.move env s.id))) ?_
      rwa [← movesOf, ← hMoves]
    obtain ⟨rowsBefore', hParse', hRowsBefore⟩ := exists_rows _ hNumbersBefore
    obtain ⟨⟩ := hParse'.symm.trans hParseBefore
    obtain ⟨u, hu, huId, hRowOfBefore⟩ := exists_rowOf hRowsBefore hBefore hBeforeId
    have hFirst := continues_afterTurns env
      (fun x hx => hSparesLater x (List.mem_append_left _ hx)) hs rfl hu huId
    have hThere : t ∈ (afterTurns env (movesOf env front s.id earlier) s.id rest).sessions := by
      rwa [afterTurns, ← hMoves]
    have hSecond := continues_afterTurns env
      (fun x hx => hSparesLater x (List.mem_append_right _ hx)) hu huId hThere htId
    simp only [List.map_append, List.sum_append]
    exact hRowOfBefore.go_on hRowOf hFirst hSecond

/-- A rule has the name of a port forward looked up, five bytes are sent, and another session
asks for a document: it is read as two rows, and the second one shows the name. -/
theorem record_stays_forward :
    let env : Surroundings Unit :=
      .cutOff (Dns.table [("example.org", some (.v4 (.ofOctets 10 0 0 1)))])
        ⟨.connectionRefused, "refused"⟩
    let socks : Service := ⟨1, { port := 1080, kind := .socks }⟩
    let forward : Service := ⟨2, { port := 8080, kind := .forward "example.org" 80 }⟩
    let rule : Rule := { resolveDns := true, tunnels := [.direct], place := ⟨"rules", 1⟩ }
    let front : List Move :=
      [.draw, .accept 0 socks {} 0, .draw, .accept 0 forward {} 3, .change 2 .prepareForward]
    let s := (Session.accept 2 forward {} 3).prepareForward
    let turns : List (Turn Unit) := [.work (.decide ⟨[rule], fun _ => 0⟩ ()), .work (.send 5),
      .other (.request 1), .other .service, .work (.exit 9)]
    s ∈ (after front).sessions ∧ Populated s ∧ (∀ x ∈ turns, x.Spares s.id) ∧
      ∃ rows, Value.parse? (afterTurns env front s.id turns).document.toList =
          some (.array rows) ∧
        rows.map (·.number? "connectionId") = [some 1, some 2] ∧
        ∃ row ∈ rows, row.keys = rowKeys ∧ row.number? "connectionId" = some 2 ∧
          row.text? "remoteAddress" = some "example.org" ∧ row.number? "remotePort" = some 80 ∧
          row.number? "remotePortEffective" = some 80 := by
  intro env socks forward rule front s turns
  have hs : s ∈ (after front).sessions := by decide +kernel
  have hPopulated : Populated s := .byForward rfl rfl
  have hSpares : ∀ x ∈ turns, x.Spares s.id := by simp [turns, Turn.Spares]
  have hSessions : (afterTurns env front s.id turns).sessions.map Session.id = [1, 2] := by
    decide +kernel
  obtain ⟨⟨r, hRecorded, hDocuments⟩, -⟩ := record_stays env hs hPopulated hSpares
  obtain ⟨-, -, hRead⟩ := hDocuments turns (List.prefix_refl _)
  obtain ⟨rows, hParse, hRows, hRow⟩ := hRead (by decide +kernel)
  have hIds : rows.map (·.number? "connectionId") = [some 1, some 2] := by
    rw [ids_of_rows hRows]
    exact congrArg (List.map some) hSessions
  obtain ⟨row, hMem, hId⟩ : ∃ row ∈ rows, row.number? "connectionId" = some 2 :=
    List.mem_map.mp (hIds ▸ .tail _ (.head _))
  obtain ⟨t, -, -, hRowOf⟩ := exists_rowOf hRows hMem hId
  obtain ⟨hShows, -, hPort, -⟩ := hRow row hMem hId
  have hDestination : r.destination = .named "example.org" 80 := hRecorded.destination.symm
  have hPort80 : row.number? "remotePort" = some 80 := by
    rw [hShows.port, hDestination]
    rfl
  refine ⟨hs, hPopulated, hSpares, rows, hParse, hIds, row, hMem, hRowOf.keys, hId, ?_, hPort80,
    (hPort (Dns.faithful_table _).keepsPort).trans hPort80⟩
  rw [hShows.address, hDestination]
  rfl

end SessionRegistry

end SocksGateway
