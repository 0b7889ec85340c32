import SocksGateway.Proofs.Dns.Lookup

/-!
# Lookups one after the other

What the cache holds is told by the queries that were made so far.

* `History`: the calls of a resolver, while time goes on.
* `Kept`: the addresses that an earlier query stored, while they are good.
* `Tracks`, `Tracks.concat`: the cache holds what was kept, and goes on doing so with one more
  call; `tracks_history` is any number of them.
* `lookups_cached`: what each call of a history does.
-/

namespace SocksGateway

namespace Dns

variable {σ : Type} {world : HttpsWorld σ} {c e : Call} {calls earlier later : List Call}
  {cache : HttpsCache} {w : σ} {host : String} {found : List IpAddress} {t now : Moment}

/-- **The calls of a resolver**, one after the other, from an empty cache on.  Between them
anything may happen to the world, as long as its clock does not go back. -/
inductive History (world : HttpsWorld σ) : List Call → HttpsCache → σ → Prop
  | start (w : σ) : History world [] {} w
  | wait {calls : List Call} {cache : HttpsCache} {w w' : σ} (hPast : History world calls cache w)
      (hClock : world.now w ≤ world.now w') : History world calls cache w'
  | call {calls : List Call} {cache : HttpsCache} {w : σ} (hPast : History world calls cache w)
      (target : Destination) :
      History world (calls ++ [(call world target cache w).1]) (call world target cache w).2.1
        (call world target cache w).2.2

/-- **The call stored these addresses** of the name, and at this time they are good. -/
def Call.Kept (c : Call) (host : String) (found : List IpAddress) (t : Moment) : Prop :=
  ∃ q ∈ c.queries, q.host = host ∧ ∃ expires, q.Keeps found expires ∧ t < expires

/-- **One of the calls stored these addresses** of the name, and at this time they are good. -/
def Kept (calls : List Call) (host : String) (found : List IpAddress) (t : Moment) : Prop :=
  ∃ c ∈ calls, c.Kept host found t

/-- **The cache holds what was kept**, now and from now on. -/
def Tracks (calls : List Call) (cache : HttpsCache) (now : Moment) : Prop :=
  ∀ host found t, now ≤ t → (cache.get? host t = some found ↔ Kept calls host found t)

theorem kept_concat : Kept (calls ++ [c]) host found t ↔
    Kept calls host found t ∨ c.Kept host found t := by
  simp [Kept, or_and_right, exists_or]

theorem Kept.ne_nil (h : Kept calls host found t) : found ≠ [] := by
  obtain ⟨c, -, q, -, -, expires, hKeeps, -⟩ := h
  exact hKeeps.some

/-- What is good later is good now. -/
theorem Kept.of_le (h : Kept calls host found t) (hLe : now ≤ t) : Kept calls host found now := by
  obtain ⟨c, hc, q, hq, hHost, expires, hKeeps, hLt⟩ := h
  exact ⟨c, hc, q, hq, hHost, expires, hKeeps, lt_of_le_of_lt hLe hLt⟩

theorem not_kept_of_none (hNone : ∀ q ∈ c.queries, q.addresses = []) : ¬ c.Kept host found t := by
  rintro ⟨q, hq, -, expires, hKeeps, -⟩
  exact hKeeps.some (hKeeps.listed.symm.trans (hNone q hq))

theorem kept_iff_of_keeps {front : List Query} {q : Query} {found' : List IpAddress}
    {expires : Moment} (hQueries : c.queries = front ++ [q])
    (hNone : ∀ q ∈ front, q.host = host ∧ q.addresses = []) (hHost : q.host = host)
    (hKeeps : q.Keeps found expires) {other : String} :
    c.Kept other found' t ↔ other = host ∧ found' = found ∧ t < expires := by
  constructor
  · rintro ⟨p, hp, hOther, expires', hKeeps', hLt⟩
    rw [hQueries, List.mem_append, List.mem_singleton] at hp
    rcases hp with hp | rfl
    · exact absurd (hKeeps'.listed.symm.trans (hNone p hp).2) hKeeps'.some
    · obtain ⟨hFound, hExpires⟩ := hKeeps'.unique hKeeps
      exact ⟨hOther.symm.trans hHost, hFound, hExpires ▸ hLt⟩
  · rintro ⟨rfl, rfl, hLt⟩
    exact ⟨q, by rw [hQueries]; simp, hHost, expires, hKeeps, hLt⟩

theorem Tracks.of_le (h : Tracks calls cache now) (hLe : now ≤ t) : Tracks calls cache t :=
  fun host found _ hTime => h host found _ (hLe.trans hTime)

/-- A call that stores nothing leaves the cache as it has to be. -/
theorem Tracks.concat_of_none (h : Tracks calls c.before now) (hAfter : c.after = c.before)
    (hNone : ∀ q ∈ c.queries, q.addresses = []) : Tracks (calls ++ [c]) c.after now := by
  intro host found t hLe
  rw [hAfter, h host found t hLe, kept_concat]
  exact (or_iff_left (not_kept_of_none hNone)).symm

/-- **With one more call the cache goes on holding what was kept.**  What it stores can take the
place only of what is no longer good. -/
theorem Tracks.concat (h : Tracks calls c.before c.time) (hAnswered : Answered c) :
    Tracks (calls ++ [c]) c.after c.time := by
  have hNothing : c.queries = [] → ∀ q ∈ c.queries, q.addresses = [] := by
    intro hQueries
    rw [hQueries]
    exact List.forall_mem_nil _
  cases hAnswered with
  | unnamed _ hQueries _ hAfter
  | literal _ _ hQueries _ hAfter
  | cached _ _ _ hQueries _ _ hAfter => exact h.concat_of_none hAfter (hNothing hQueries)
  | failed _ _ _ _ hNone _ hAfter => exact h.concat_of_none hAfter fun q hq => (hNone q hq).2
  | @found name _ _ _ expires _ _ _ hCached hQueries _ hNone hHost hKeeps _ _ hStores =>
    intro host found t hLe
    rw [hStores host t, kept_concat, kept_iff_of_keeps hQueries hNone hHost hKeeps]
    by_cases hSame : host = name
    · have hGone : ¬ Kept calls host found t := by
        intro hKept
        have hHit := (h host found c.time (le_refl _)).mpr (hKept.of_le hLe)
        rw [hSame, hCached] at hHit
        cases hHit
      rw [if_pos hSame, or_iff_right hGone]
      by_cases hLt : t < expires
      · simp [hSame, hLt, eq_comm]
      · simp [hLt]
    · rw [if_neg hSame, h host found t hLe]
      exact (or_iff_left fun hNew => hSame hNew.1).symm

/-- **At every point of a history the cache holds what was kept**, and each of its calls was
answered out of such a cache. -/
theorem tracks_history (hSteady : world.Steady) (h : History world calls cache w) :
    Tracks calls cache (world.now w) ∧
      ∀ earlier c later, calls = earlier ++ c :: later →
        Tracks earlier c.before c.time ∧ Answered c := by
  induction h with
  | start w =>
    refine ⟨fun host found t _ => ?_, fun earlier c later hCalls => by simp at hCalls⟩
    exact iff_of_false (fun h => nomatch h) fun ⟨c, hc, _⟩ => absurd hc List.not_mem_nil
  | wait hPast hClock ih => exact ⟨ih.1.of_le hClock, ih.2⟩
  | call hPast target ih =>
    rename_i calls cache w
    have hAnswered : Answered (call world target cache w).1 :=
      answered_call world target cache w fun host found hHit =>
        ((ih.1 host found _ (le_refl _)).mp hHit).ne_nil
    have hTracks : Tracks calls (call world target cache w).1.before
        (call world target cache w).1.time := ih.1
    refine ⟨(hTracks.concat hAnswered).of_le (le_call hSteady target cache w), ?_⟩
    intro earlier c later hCalls
    rcases List.eq_nil_or_concat later with rfl | ⟨front, last, rfl⟩
    · obtain ⟨rfl, hLast⟩ := List.append_inj' hCalls rfl
      cases hLast
      exact ⟨hTracks, hAnswered⟩
    · rw [List.concat_eq_append, ← List.cons_append, ← List.append_assoc] at hCalls
      exact ih.2 earlier c front (List.append_inj' hCalls rfl).1

theorem Answered.outcome_of_keeps {q : Query} {expires : Moment} (h : Answered c)
    (hq : q ∈ c.queries) (hKeeps : q.Keeps found expires) :
    ∃ a, Picks found a ∧ c.outcome = .ok (c.target.withAddress a) := by
  cases h with
  | unnamed _ hQueries | literal _ _ hQueries | cached _ _ _ hQueries =>
    rw [hQueries] at hq
    cases hq
  | failed _ _ _ _ hNone => exact absurd (hKeeps.listed.symm.trans (hNone q hq).2) hKeeps.some
  | found _ _ _ hQueries _ hNone _ hKeeps' hPicks hOutcome =>
    rw [hQueries, List.mem_append, List.mem_singleton] at hq
    rcases hq with hq | rfl
    · exact absurd (hKeeps.listed.symm.trans (hNone q hq).2) hKeeps.some
    · rw [(hKeeps.unique hKeeps').1]
      exact ⟨_, hPicks, hOutcome⟩

theorem Answered.host_of_mem {q : Query} (h : Answered c) (hq : q ∈ c.queries) :
    c.target.hostname = some q.host ∧ IpAddress.parse? q.host.toList = none := by
  cases h with
  | unnamed _ hQueries | literal _ _ hQueries | cached _ _ _ hQueries =>
    rw [hQueries] at hq
    cases hq
  | failed hName hLiteral _ _ hNone =>
    rw [(hNone q hq).1]
    exact ⟨hName, hLiteral⟩
  | @found name _ _ _ _ _ hName hLiteral _ hQueries _ hNone hHost =>
    have hSame : q.host = name := by
      rw [hQueries, List.mem_append, List.mem_singleton] at hq
      rcases hq with hq | rfl
      · exact (hNone q hq).1
      · exact hHost
    rw [hSame]
    exact ⟨hName, hLiteral⟩

theorem Answered.outcome_eq {d : Destination} (h : Answered c) (hOk : c.outcome = .ok d) :
    ∃ a, d = c.target.withAddress a := by
  cases h with
  | unnamed _ _ hOutcome | failed _ _ _ _ _ hOutcome => cases hOutcome.symm.trans hOk
  | literal _ _ _ hOutcome
  | cached _ _ _ _ _ hOutcome
  | found _ _ _ _ _ _ _ _ _ hOutcome =>
    cases hOutcome.symm.trans hOk
    exact ⟨_, rfl⟩

theorem Answered.literal_eq {a : IpAddress} (h : Answered c)
    (hName : c.target.hostname = some host) (hLiteral : IpAddress.parse? host.toList = some a) :
    c.queries = [] ∧ c.outcome = .ok (c.target.withAddress a) ∧ c.after = c.before := by
  cases h with
  | unnamed hName' => cases hName'.symm.trans hName
  | literal hName' hLiteral' hQueries hOutcome hAfter =>
    cases hName'.symm.trans hName
    cases hLiteral'.symm.trans hLiteral
    exact ⟨hQueries, hOutcome, hAfter⟩
  | cached hName' hLiteral' | found hName' hLiteral' | failed hName' hLiteral' =>
    cases hName'.symm.trans hName
    cases hLiteral'.symm.trans hLiteral

/-- **A call for a name that is no literal** finds in the cache what was kept, or makes queries. -/
inductive Named (c : Call) (earlier : List Call) (host : String) : Prop
  | hit {found : List IpAddress} {a : IpAddress} (hKept : Kept earlier host found c.time)
      (hQueries : c.queries = []) (hPicks : Picks found a)
      (hOutcome : c.outcome = .ok (c.target.withAddress a)) (hAfter : c.after = c.before)
  | miss (hGone : ∀ found, ¬ Kept earlier host found c.time) (hQueries : c.queries ≠ [])
      (hLength : c.queries.length ≤ 2)
      (hEnds : (∃ front q found expires a, c.queries = front ++ [q] ∧
          (∀ p ∈ front, p.addresses = []) ∧ q.Keeps found expires ∧ Picks found a ∧
          c.outcome = .ok (c.target.withAddress a) ∧
          Stores c.before c.after host found expires) ∨
        (∀ q ∈ c.queries, q.addresses = []) ∧ c.outcome = .error (.doh host) ∧
          c.after = c.before) : Named c earlier host

theorem Answered.named (h : Answered c) (hTracks : Tracks earlier c.before c.time)
    (hName : c.target.hostname = some host) (hLiteral : IpAddress.parse? host.toList = none) :
    Named c earlier host := by
  have hGone (hCached : c.before.get? host c.time = none) (found : List IpAddress) :
      ¬ Kept earlier host found c.time := by
    intro hKept
    cases hCached.symm.trans ((hTracks host found c.time (le_refl _)).mpr hKept)
  cases h with
  | unnamed hName' => cases hName'.symm.trans hName
  | literal hName' hLiteral' =>
    cases hName'.symm.trans hName
    cases hLiteral'.symm.trans hLiteral
  | cached hName' _ hCached hQueries hPicks hOutcome hAfter =>
    cases hName'.symm.trans hName
    exact .hit ((hTracks host _ c.time (le_refl _)).mp hCached) hQueries hPicks hOutcome hAfter
  | @found _ front q found expires a hName' _ hCached hQueries hLength hNone hHost hKeeps hPicks
      hOutcome hStores =>
    cases hName'.symm.trans hName
    refine .miss (hGone hCached) ?_ ?_ (.inl ⟨front, q, found, expires, a, hQueries,
      fun p hp => (hNone p hp).2, hKeeps, hPicks, hOutcome, hStores⟩)
    · rw [hQueries]
      exact List.append_ne_nil_of_right_ne_nil front (List.cons_ne_nil q [])
    · rw [hQueries, List.length_append, List.length_singleton]
      exact hLength
  | failed hName' _ hCached hLength hNone hOutcome hAfter =>
    cases hName'.symm.trans hName
    refine .miss (hGone hCached) ?_ hLength.le
      (.inr ⟨fun q hq => (hNone q hq).2, hOutcome, hAfter⟩)
    exact List.ne_nil_of_length_pos (by rw [hLength]; decide)

/-- **Lookups over HTTPS.**  The calls of a resolver are made one after the other, at times that do
not go back, to an endpoint that may answer anything, and what they ask is recorded, which changes
nothing else.  For each of them, with the calls in front of it: its queries are for its name, and
a name that is a literal is not asked for and stands for itself.  For any other name no query is
made exactly if one of the earlier queries for that name stored addresses that are good at this
moment, that is for five minutes or the least time-to-live of the addresses in the response, from
the moment when it was there; then the call gives the address that the call with that query gave,
and stores nothing.  Else there are at most two queries; the first response with an address is
used and stored, or there is none and the call fails and stores nothing.  What a call gives has
the name and the port that it was asked for, and the first IPv4 address, or the first address. -/
theorem lookups_cached (hSteady : world.Steady)
    (hHistory : History world (earlier ++ c :: later) cache w) :
    (∀ target cache w, https world target (cache, w) =
      ((call world target cache w).1.outcome, (call world target cache w).2)) ∧
    (∀ q ∈ c.queries, c.target.hostname = some q.host ∧ IpAddress.parse? q.host.toList = none) ∧
    (∀ host a, c.target.hostname = some host → IpAddress.parse? host.toList = some a →
      c.queries = [] ∧ c.outcome = .ok (c.target.withAddress a) ∧ c.after = c.before) ∧
    (∀ host, c.target.hostname = some host → IpAddress.parse? host.toList = none →
      (c.queries = [] ↔ ∃ e ∈ earlier, ∃ q ∈ e.queries, q.host = host ∧
        ∃ found expires, q.Keeps found expires ∧ c.time < expires) ∧
      (∀ e ∈ earlier, ∀ q ∈ e.queries, q.host = host →
        ∀ found expires, q.Keeps found expires → c.time < expires →
          c.after = c.before ∧ ∃ a, Picks found a ∧
            c.outcome = .ok (c.target.withAddress a) ∧
            e.outcome = .ok (e.target.withAddress a)) ∧
      (c.queries ≠ [] → c.queries.length ≤ 2 ∧
        ((∃ front q found expires a, c.queries = front ++ [q] ∧
            (∀ p ∈ front, p.addresses = []) ∧ q.Keeps found expires ∧ Picks found a ∧
            c.outcome = .ok (c.target.withAddress a) ∧
            Stores c.before c.after host found expires) ∨
          (∀ q ∈ c.queries, q.addresses = []) ∧ c.outcome = .error (.doh host) ∧
            c.after = c.before))) ∧
    ∀ d, c.outcome = .ok d → d.hostname = c.target.hostname ∧ d.port = c.target.port := by
  obtain ⟨-, hCalls⟩ := tracks_history hSteady hHistory
  obtain ⟨hTracks, hAnswered⟩ := hCalls earlier c later rfl
  refine ⟨https_eq_call world, fun q => hAnswered.host_of_mem,
    fun host a => hAnswered.literal_eq, fun host hName hLiteral => ?_, fun d hOk => ?_⟩
  · have hNamed := hAnswered.named hTracks hName hLiteral
    refine ⟨?_, ?_, ?_⟩
    · constructor
      · intro hQueries
        cases hNamed with
        | hit hKept =>
          obtain ⟨e, he, q, hq, hHost, expires, hKeeps, hLt⟩ := hKept
          exact ⟨e, he, q, hq, hHost, _, expires, hKeeps, hLt⟩
        | miss _ hSome => exact absurd hQueries hSome
      · rintro ⟨e, he, q, hq, hHost, found, expires, hKeeps, hLt⟩
        cases hNamed with
        | hit _ hQueries => exact hQueries
        | miss hGone => exact absurd ⟨e, he, q, hq, hHost, expires, hKeeps, hLt⟩ (hGone found)
    · intro e he q hq hHost found expires hKeeps hLt
      have hKept : Kept earlier host found c.time := ⟨e, he, q, hq, hHost, expires, hKeeps, hLt⟩
      obtain ⟨front, back, hEarlier⟩ := List.append_of_mem he
      have hBefore := (hCalls front e (back ++ c :: later) (by rw [hEarlier]; simp)).2
      obtain ⟨a, hPicks, hOutcome⟩ := hBefore.outcome_of_keeps hq hKeeps
      cases hNamed with
      | miss hGone => exact absurd hKept (hGone found)
      | hit hKept' _ hPicks' hOutcome' hAfter =>
        -- The cache holds one list of addresses for the name.
        have hHit := (hTracks host _ c.time (le_refl _)).mpr hKept
        have hHit' := (hTracks host _ c.time (le_refl _)).mpr hKept'
        cases hHit.symm.trans hHit'
        exact ⟨hAfter, a, hPicks, hPicks'.unique hPicks ▸ hOutcome', hOutcome⟩
    · intro hSome
      cases hNamed with
      | hit _ hQueries => exact absurd hQueries hSome
      | miss _ _ hLength hEnds => exact ⟨hLength, hEnds⟩
  · obtain ⟨a, rfl⟩ := hAnswered.outcome_eq hOk
    exact ⟨rfl, rfl⟩

/-- An endpoint that takes a second for each of its responses. -/
def slowly : HttpsWorld (Moment × List (Option (List HttpsRecord))) where
  now w := w.1
  fetch _ w := (w.2.head?.join, w.1 + 1000000000, w.2.tail)

/-- The first response cannot be read and the second one lists an IPv4 address behind an IPv6
address, for 30 seconds, so from second 2 on; the name is asked for again just before second 32,
and then at second 32, when no response is left. -/
theorem lookups_cached_expired :
    let target := Destination.named "name.test" 443
    let responses := [none, some [⟨60, "alias.test"⟩, ⟨60, "::1"⟩, ⟨30, "10.0.0.1"⟩]]
    let first := call slowly target {} (0, responses)
    let second := call slowly target first.2.1 (31999999999, first.2.2.2)
    let third := call slowly target second.2.1 (32000000000, second.2.2.2)
    History slowly [first.1, second.1, third.1] third.2.1 third.2.2 ∧
      first.1.queries.length = 2 ∧ second.1.queries = [] ∧
      second.1.outcome = .ok { target with address := some (.v4 ⟨0x0A000001⟩) } ∧
      third.1.queries.length = 2 ∧ third.1.outcome = .error (.doh "name.test") := by
  intro target responses first second third
  have hSteady : slowly.Steady := fun _ w => Int.le_add_of_nonneg_right (by decide)
  have hOne : History slowly ([] ++ [first.1]) first.2.1 first.2.2 := .call (.start _) target
  have hTwo : History slowly ([first.1] ++ [second.1]) second.2.1 second.2.2 :=
    .call (.wait hOne (by decide +kernel)) target
  have hHistory : History slowly ([first.1, second.1] ++ [third.1]) third.2.1 third.2.2 :=
    .call (.wait hTwo (by decide +kernel)) target
  have hMiddle : History slowly ([first.1] ++ second.1 :: [third.1]) third.2.1 third.2.2 := hHistory
  obtain ⟨-, -, -, hNamed, -⟩ := lookups_cached hSteady hMiddle
  obtain ⟨hIff, hHit, -⟩ := hNamed "name.test" rfl rfl
  let records : List HttpsRecord := [⟨60, "alias.test"⟩, ⟨60, "::1"⟩, ⟨30, "10.0.0.1"⟩]
  let q : Query := ⟨"name.test", some records, 2000000000⟩
  have hFirst : first.1.queries = [⟨"name.test", none, 1000000000⟩, q] := rfl
  have hMem : q ∈ first.1.queries := by
    rw [hFirst]
    exact List.mem_cons_of_mem _ List.mem_cons_self
  have hTtl : (leastTtl (addressRecords records)).toNat = 30 := by decide +kernel
  have hKeeps : q.Keeps (listed records) 32000000000 :=
    ⟨rfl, List.cons_ne_nil _ _, 30, hTtl ▸ goodFor_leastTtl records, rfl⟩
  have hLt : second.1.time < 32000000000 := by decide +kernel
  have hQueries := hIff.mpr
    ⟨first.1, List.mem_cons_self, q, hMem, rfl, listed records, 32000000000, hKeeps, hLt⟩
  obtain ⟨-, a, hPicks, hOutcome, -⟩ :=
    hHit first.1 List.mem_cons_self q hMem rfl (listed records) 32000000000 hKeeps hLt
  have hPick : pickAddress (listed records) = some (.v4 ⟨0x0A000001⟩) := by
    decide +kernel
  obtain rfl := Option.some.inj (hPick.symm.trans hPicks.pickAddress_eq)
  exact ⟨hHistory, rfl, hQueries, hOutcome, rfl, rfl⟩

end Dns

end SocksGateway
