import Mathlib.Order.Bounds.Basic
import SocksGateway.Dns.Https

/-!
# One lookup over HTTPS

A lookup is told by the queries that it makes.  They are recorded by the world that answers
them, which changes nothing else.

* `Picks`: the address that is taken of several.
* `Query.Lists`, `Query.Keeps`: what a response lists, and for how long it is kept.
* `get?_put`: the cache gives back what was put in last, as long as that is good.
* `searched_httpsQuery`: the queries end with the first response that lists an address.
* `answered_call`: all that a call of the resolver can do.
-/

namespace SocksGateway

namespace Dns

variable {σ : Type}

/-! ### Several addresses -/

/-- **The address that is taken of several**: the first IPv4 address, or the first one if there
is none. -/
inductive Picks : List IpAddress → IpAddress → Prop
  | ipv4 {front back : List IpAddress} {a : IpAddress} (hFour : a.isV4 = true)
      (hFront : ∀ b ∈ front, b.isV4 = false) : Picks (front ++ a :: back) a
  | first {a : IpAddress} {back : List IpAddress} (hNone : ∀ b ∈ a :: back, b.isV4 = false) :
      Picks (a :: back) a

variable {found : List IpAddress} {a : IpAddress}

theorem picks_of_pickAddress (h : pickAddress found = some a) : Picks found a := by
  unfold pickAddress at h
  split at h
  case h_1 b hFound =>
    cases h
    obtain ⟨hFour, front, back, rfl, hFront⟩ := List.find?_eq_some_iff_append.mp hFound
    exact .ipv4 hFour fun c hc => by simpa using hFront c hc
  case h_2 hNone =>
    cases found with
    | nil => cases h
    | cons b back =>
      cases h
      exact .first fun c hc => by simpa using List.find?_eq_none.mp hNone c hc

theorem Picks.pickAddress_eq (h : Picks found a) : pickAddress found = some a := by
  rw [pickAddress]
  cases h with
  | ipv4 hFour hFront =>
    rw [List.find?_eq_some_iff_append.mpr
      ⟨hFour, _, _, rfl, fun b hb => by simpa using hFront b hb⟩]
  | first hNone =>
    rw [List.find?_eq_none.mpr fun b hb => by simpa using hNone b hb]
    rfl

theorem Picks.unique {b : IpAddress} (h : Picks found a) (h' : Picks found b) : a = b :=
  Option.some.inj (h.pickAddress_eq.symm.trans h'.pickAddress_eq)

theorem exists_pickAddress (hSome : found ≠ []) : ∃ a, pickAddress found = some a := by
  unfold pickAddress
  split
  case h_1 a _ => exact ⟨a, rfl⟩
  case h_2 =>
    cases found with
    | nil => exact absurd rfl hSome
    | cons a back => exact ⟨a, rfl⟩

/-! ### Responses -/

/-- **One query**: the name that was asked for, the response, and when it was there. -/
structure Query where
  host : String
  response : Option (List HttpsRecord)
  time : Moment

/-- A record that is an address. -/
def HttpsRecord.IsAddress (r : HttpsRecord) : Prop := (IpAddress.parse? r.data.toList).isSome = true

/-- The addresses that records list, in their order. -/
def listed (records : List HttpsRecord) : List IpAddress :=
  records.filterMap fun r => IpAddress.parse? r.data.toList

/-- The addresses that a response lists. -/
def Query.addresses (q : Query) : List IpAddress := listed (q.response.getD [])

/-- **How long records are good**, in seconds: five minutes, or the least time-to-live of those
that are addresses, if that is less. -/
def GoodFor (records : List HttpsRecord) (seconds : Nat) : Prop :=
  IsLeast {t | t = 300 ∨ ∃ r ∈ records, r.IsAddress ∧ t = r.ttl.toNat} seconds

/-- **What is kept of a response**: its addresses, if there are any, for as long as they are
good. -/
structure Query.Keeps (q : Query) (addresses : List IpAddress) (expires : Moment) : Prop where
  listed : q.addresses = addresses
  some : addresses ≠ []
  good : ∃ seconds : Nat, GoodFor (q.response.getD []) seconds ∧
    expires = q.time + seconds * 1000000000

theorem Query.Keeps.unique {q : Query} {found found' : List IpAddress} {expires expires' : Moment}
    (h : q.Keeps found expires) (h' : q.Keeps found' expires') :
    found = found' ∧ expires = expires' := by
  obtain ⟨seconds, hGood, rfl⟩ := h.good
  obtain ⟨seconds', hGood', rfl⟩ := h'.good
  exact ⟨h.listed.symm.trans h'.listed, by rw [hGood.unique hGood']⟩

theorem map_fst_addressRecords (records : List HttpsRecord) :
    (addressRecords records).map (·.1) = listed records := by
  rw [addressRecords, List.map_filterMap, listed]
  congr 1
  funext r
  cases IpAddress.parse? r.data.toList <;> rfl

theorem mem_addressRecords_iff {records : List HttpsRecord} {ttl : UInt32} :
    (∃ a, (a, ttl) ∈ addressRecords records) ↔ ∃ r ∈ records, r.IsAddress ∧ ttl = r.ttl := by
  constructor
  · rintro ⟨a, hMem⟩
    obtain ⟨r, hr, hRecord⟩ := List.mem_filterMap.mp hMem
    obtain ⟨b, hParse, hPair⟩ := Option.map_eq_some_iff.mp hRecord
    cases hPair
    exact ⟨r, hr, by rw [HttpsRecord.IsAddress, hParse]; rfl, rfl⟩
  · rintro ⟨r, hr, hAddress, rfl⟩
    obtain ⟨a, hParse⟩ := Option.isSome_iff_exists.mp hAddress
    exact ⟨a, List.mem_filterMap.mpr ⟨r, hr, by rw [hParse]; rfl⟩⟩

theorem foldl_least (found : List (IpAddress × UInt32)) (start : UInt32) :
    IsLeast {t | t = start.toNat ∨ ∃ r ∈ found, t = r.2.toNat}
      (found.foldl (fun least r => if r.2 < least then r.2 else least) start).toNat := by
  induction found generalizing start with
  | nil => exact ⟨.inl rfl, by rintro t (rfl | ⟨r, hr, -⟩) <;> simp_all⟩
  | cons r found ih =>
    rw [List.foldl_cons]
    obtain ⟨hMem, hLow⟩ := ih (if r.2 < start then r.2 else start)
    have hBoth : (if r.2 < start then r.2 else start).toNat = min r.2.toNat start.toNat := by
      split
      case isTrue h => exact (Nat.min_eq_left (UInt32.lt_iff_toNat_lt.mp h).le).symm
      case isFalse h =>
        exact (Nat.min_eq_right (Nat.not_lt.mp (mt UInt32.lt_iff_toNat_lt.mpr h))).symm
    rw [hBoth] at hMem hLow
    refine ⟨?_, ?_⟩
    · rcases hMem with hStart | ⟨s, hs, hTtl⟩
      · rw [hStart]
        rcases Nat.le_total r.2.toNat start.toNat with h | h
        · exact .inr ⟨r, List.mem_cons_self, Nat.min_eq_left h⟩
        · exact .inl (Nat.min_eq_right h)
      · exact .inr ⟨s, List.mem_cons_of_mem r hs, hTtl⟩
    · rintro t (rfl | ⟨s, hs, rfl⟩)
      · exact (hLow (.inl rfl)).trans (Nat.min_le_right ..)
      · rcases List.mem_cons.mp hs with rfl | hs
        · exact (hLow (.inl rfl)).trans (Nat.min_le_left ..)
        · exact hLow (.inr ⟨s, hs, rfl⟩)

theorem goodFor_leastTtl (records : List HttpsRecord) :
    GoodFor records (leastTtl (addressRecords records)).toNat := by
  have hSame : {t | t = 300 ∨ ∃ r ∈ records, r.IsAddress ∧ t = r.ttl.toNat} =
      {t | t = longestTtl.toNat ∨ ∃ r ∈ addressRecords records, t = r.2.toNat} := by
    ext t
    refine or_congr Iff.rfl ⟨?_, ?_⟩
    · rintro ⟨r, hr, hAddress, rfl⟩
      obtain ⟨a, hMem⟩ := mem_addressRecords_iff.mpr ⟨r, hr, hAddress, rfl⟩
      exact ⟨_, hMem, rfl⟩
    · rintro ⟨⟨a, ttl⟩, hMem, rfl⟩
      obtain ⟨r, hr, hAddress, rfl⟩ := mem_addressRecords_iff.mp ⟨a, hMem⟩
      exact ⟨r, hr, hAddress, rfl⟩
  rw [GoodFor, hSame]
  exact foldl_least (addressRecords records) longestTtl

/-! ### The cache -/

namespace HttpsCache

variable {cache : HttpsCache} {host other : String} {now t : Moment} {ttl : UInt32}

/-- **The cache gives back what was put in last**, as long as that is good, and for other names
what it gave before. -/
theorem get?_put :
    (cache.put host found ttl now).get? other t =
      if other = host then
        if t < now + ttl.toNat * 1000000000 then some found else none
      else cache.get? other t := by
  unfold get? put
  by_cases hSame : other = host
  · rw [if_pos hSame, hSame, List.find?_cons_of_pos (by simp)]
  · have hHost : (host == other) = false := beq_false_of_ne (Ne.symm hSame)
    have hFind : ((cache.entries.filter fun e => e.1 != host).find? fun e => e.1 == other) =
        cache.entries.find? fun e => e.1 == other := by
      rw [List.find?_filter]
      congr 1
      funext e
      by_cases he : e.1 = other
      · simp [he, hSame]
      · simp [he]
    rw [if_neg hSame, List.find?_cons_of_neg (by simp [hHost]), hFind]

end HttpsCache

/-! ### Queries -/

/-- **The world that records the queries** it answers. -/
def recorded (world : HttpsWorld σ) : HttpsWorld (σ × List Query) where
  now w := world.now w.1
  fetch host w :=
    let answer := world.fetch host w.1
    (answer.1, answer.2, w.2 ++ [⟨host, answer.1, world.now answer.2⟩])

/-- Time does not go back while the endpoint is asked. -/
def HttpsWorld.Steady (world : HttpsWorld σ) : Prop :=
  ∀ host w, world.now w ≤ world.now (world.fetch host w).2

/-- The cache with the addresses of one more name. -/
def Stores (cache after : HttpsCache) (host : String) (addresses : List IpAddress)
    (expires : Moment) : Prop :=
  ∀ other t, after.get? other t =
    if other = host then if t < expires then some addresses else none else cache.get? other t

/-- **A search for the addresses of a name**: queries that list none, up to as many as there may
be, and behind them, if there is room for one more, a query that lists some; then these are
stored. -/
inductive Searched (host : String) (cache : HttpsCache) (tries : Nat) :
    List Query → Option (List IpAddress) → HttpsCache → Prop
  | failed {queries : List Query} (hLength : queries.length = tries)
      (hNone : ∀ q ∈ queries, q.host = host ∧ q.addresses = []) :
      Searched host cache tries queries none cache
  | found {front : List Query} {q : Query} {addresses : List IpAddress} {expires : Moment}
      {after : HttpsCache} (hLength : front.length < tries)
      (hNone : ∀ q ∈ front, q.host = host ∧ q.addresses = []) (hHost : q.host = host)
      (hKeeps : q.Keeps addresses expires) (hStores : Stores cache after host addresses expires) :
      Searched host cache tries (front ++ [q]) (some addresses) after

variable {world : HttpsWorld σ} {host : String} {cache after : HttpsCache} {tries : Nat} {w : σ}
  {queries log : List Query} {q : Query}

theorem Searched.cons {found : Option (List IpAddress)} (hHost : q.host = host)
    (hNone : q.addresses = []) (h : Searched host cache tries queries found after) :
    Searched host cache (tries + 1) (q :: queries) found after := by
  cases h with
  | failed hLength hRest =>
    exact .failed (congrArg (· + 1) hLength) (List.forall_mem_cons.mpr ⟨⟨hHost, hNone⟩, hRest⟩)
  | found hLength hRest hLast hKeeps hStores =>
    rw [← List.cons_append]
    exact .found (Nat.succ_lt_succ hLength) (List.forall_mem_cons.mpr ⟨⟨hHost, hNone⟩, hRest⟩)
      hLast hKeeps hStores

theorem httpsQuery_succ {response : Option (List HttpsRecord)} {w' : σ}
    (hFetch : world.fetch host w = (response, w')) :
    httpsQuery world host (tries + 1) (cache, w) =
      if listed (response.getD []) = [] then httpsQuery world host tries (cache, w')
      else
        (some (listed (response.getD [])), cache.put host (listed (response.getD []))
          (leastTtl (addressRecords (response.getD []))) (world.now w'), w') := by
  rw [httpsQuery, hFetch]
  cases response with
  | none => rfl
  | some records =>
    have hListed := map_fst_addressRecords records
    dsimp only [Option.getD_some]
    cases hFound : addressRecords records with
    | nil =>
      rw [hFound] at hListed
      exact (if_pos hListed.symm).symm
    | cons r rs =>
      rw [hFound] at hListed
      rw [if_neg (hListed ▸ List.cons_ne_nil _ _), ← hListed]

theorem stores_put {records : List HttpsRecord} {now : Moment} :
    Stores cache (cache.put host found (leastTtl (addressRecords records)) now) host found
      (now + (leastTtl (addressRecords records)).toNat * 1000000000) :=
  fun _ _ => HttpsCache.get?_put

/-- **The queries end with the first response that lists an address**, and recording them changes
nothing else. -/
theorem searched_httpsQuery (world : HttpsWorld σ) (host : String) (tries : Nat)
    (cache : HttpsCache) (w : σ) (log : List Query) :
    let result := httpsQuery world host tries (cache, w)
    ∃ queries, httpsQuery (recorded world) host tries (cache, w, log) =
        (result.1, result.2.1, result.2.2, log ++ queries) ∧
      Searched host cache tries queries result.1 result.2.1 := by
  induction tries generalizing w log with
  | zero => exact ⟨[], by rw [List.append_nil]; rfl, .failed rfl (List.forall_mem_nil _)⟩
  | succ tries ih =>
    generalize hFetch : world.fetch host w = answer
    obtain ⟨response, w'⟩ := answer
    let q : Query := ⟨host, response, world.now w'⟩
    have hRecorded : (recorded world).fetch host (w, log) = (response, w', log ++ [q]) := by
      dsimp only [recorded]
      rw [hFetch]
    dsimp only
    rw [httpsQuery_succ hFetch, httpsQuery_succ hRecorded]
    by_cases hNone : listed (response.getD []) = []
    · rw [if_pos hNone, if_pos hNone]
      obtain ⟨queries, hRun, hSearched⟩ := ih w' (log ++ [q])
      refine ⟨q :: queries, ?_, hSearched.cons rfl hNone⟩
      rw [hRun, List.append_assoc, List.singleton_append]
    · rw [if_neg hNone, if_neg hNone]
      have hKeeps : q.Keeps (listed (response.getD [])) _ :=
        ⟨rfl, hNone, _, goodFor_leastTtl (response.getD []), rfl⟩
      have hFound : Searched host cache (tries + 1) ([] ++ [q]) _ _ :=
        .found (Nat.zero_lt_succ tries) (List.forall_mem_nil _) rfl hKeeps stores_put
      exact ⟨[q], rfl, hFound⟩

theorem le_httpsQuery (hSteady : world.Steady) (tries : Nat) (cache : HttpsCache) (w : σ) :
    world.now w ≤ world.now (httpsQuery world host tries (cache, w)).2.2 := by
  induction tries generalizing w with
  | zero => exact le_refl _
  | succ tries ih =>
    generalize hFetch : world.fetch host w = answer
    obtain ⟨response, w'⟩ := answer
    have hLe : world.now w ≤ world.now w' := by
      have h := hSteady host w
      rw [hFetch] at h
      exact h
    rw [httpsQuery_succ hFetch]
    split
    case isTrue => exact hLe.trans (ih w')
    case isFalse => exact hLe

/-! ### Calls -/

/-- **A call of the resolver**: what it was asked, and when; the queries that it made; what it
gave; and the cache in front of it and behind it. -/
structure Call where
  target : Destination
  time : Moment
  queries : List Query
  outcome : Except DnsError Destination
  before : HttpsCache
  after : HttpsCache

/-- A call in a world that records the queries, and the state behind it. -/
def call (world : HttpsWorld σ) (target : Destination) (cache : HttpsCache) (w : σ) :
    Call × HttpsCache × σ :=
  let result := https (recorded world) target (cache, w, [])
  (⟨target, world.now w, result.2.2.2, result.1, cache, result.2.1⟩, result.2.1, result.2.2.1)

/-- **All that a call can do.** -/
inductive Answered (c : Call) : Prop
  | unnamed (hName : c.target.hostname = none) (hQueries : c.queries = [])
      (hOutcome : c.outcome = .error .noHostname) (hAfter : c.after = c.before)
  | literal {host : String} {a : IpAddress} (hName : c.target.hostname = some host)
      (hLiteral : IpAddress.parse? host.toList = some a) (hQueries : c.queries = [])
      (hOutcome : c.outcome = .ok (c.target.withAddress a)) (hAfter : c.after = c.before)
  /-- The name is in the cache. -/
  | cached {host : String} {addresses : List IpAddress} {a : IpAddress}
      (hName : c.target.hostname = some host) (hLiteral : IpAddress.parse? host.toList = none)
      (hCached : c.before.get? host c.time = some addresses) (hQueries : c.queries = [])
      (hPicks : Picks addresses a) (hOutcome : c.outcome = .ok (c.target.withAddress a))
      (hAfter : c.after = c.before)
  /-- The addresses of the last query are stored. -/
  | found {host : String} {front : List Query} {q : Query} {addresses : List IpAddress}
      {expires : Moment} {a : IpAddress}
      (hName : c.target.hostname = some host) (hLiteral : IpAddress.parse? host.toList = none)
      (hCached : c.before.get? host c.time = none) (hQueries : c.queries = front ++ [q])
      (hLength : front.length < 2) (hNone : ∀ q ∈ front, q.host = host ∧ q.addresses = [])
      (hHost : q.host = host) (hKeeps : q.Keeps addresses expires) (hPicks : Picks addresses a)
      (hOutcome : c.outcome = .ok (c.target.withAddress a))
      (hStores : Stores c.before c.after host addresses expires)
  | failed {host : String}
      (hName : c.target.hostname = some host) (hLiteral : IpAddress.parse? host.toList = none)
      (hCached : c.before.get? host c.time = none) (hLength : c.queries.length = 2)
      (hNone : ∀ q ∈ c.queries, q.host = host ∧ q.addresses = [])
      (hOutcome : c.outcome = .error (.doh host)) (hAfter : c.after = c.before)

theorem https_of_named {target : Destination} {s : HttpsCache × σ}
    (hName : target.hostname = some host) (hLiteral : IpAddress.parse? host.toList = none) :
    https world target s =
      match httpsLookup world host s with
      | (.error e, s) => (.error e, s)
      | (.ok found, s) =>
        match pickAddress found with
        | some a => (.ok (target.withAddress a), s)
        | none => (.error (.doh host), s) := by
  rw [https, resolveBy, hName]
  dsimp only
  rw [hLiteral]
  obtain ⟨found, s'⟩ := httpsLookup world host s
  cases found <;> rfl

/-- **A call does one of these things**, if no name is in the cache without an address. -/
theorem answered_call (world : HttpsWorld σ) (target : Destination) (cache : HttpsCache) (w : σ)
    (hSome : ∀ host found, cache.get? host (world.now w) = some found → found ≠ []) :
    Answered (call world target cache w).1 := by
  cases hName : target.hostname with
  | none =>
    have hRun : https (recorded world) target (cache, w, []) =
        (.error .noHostname, cache, w, []) := by
      rw [https, resolveBy, hName]
    rw [call, hRun]
    exact .unnamed hName rfl rfl rfl
  | some host =>
    cases hLiteral : IpAddress.parse? host.toList with
    | some a =>
      have hRun : https (recorded world) target (cache, w, []) =
          (.ok (target.withAddress a), cache, w, []) := by
        rw [https, resolveBy, hName]
        dsimp only
        rw [hLiteral]
      rw [call, hRun]
      exact .literal hName hLiteral rfl rfl rfl
    | none =>
      have hRun : https (recorded world) target (cache, w, []) = _ := https_of_named hName hLiteral
      have hNow : (recorded world).now (w, []) = world.now w := rfl
      rw [httpsLookup, hNow] at hRun
      cases hCached : cache.get? host (world.now w) with
      | some found =>
        obtain ⟨a, hPick⟩ := exists_pickAddress (hSome host found hCached)
        rw [hCached] at hRun
        dsimp only at hRun
        rw [hPick] at hRun
        rw [call, hRun]
        exact .cached hName hLiteral hCached rfl (picks_of_pickAddress hPick) rfl rfl
      | none =>
        obtain ⟨queries, hQuery, hSearched⟩ := searched_httpsQuery world host 2 cache w []
        rw [hCached, hQuery, List.nil_append] at hRun
        rw [call, hRun]
        generalize httpsQuery world host 2 (cache, w) = result at hSearched
        obtain ⟨found, after, w'⟩ := result
        cases hSearched with
        | failed hLength hNone => exact .failed hName hLiteral hCached hLength hNone rfl rfl
        | found hLength hNone hHost hKeeps hStores =>
          obtain ⟨a, hPick⟩ := exists_pickAddress hKeeps.some
          dsimp only
          rw [hPick]
          exact .found hName hLiteral hCached rfl hLength hNone hHost hKeeps
            (picks_of_pickAddress hPick) rfl hStores

/-! ### The world without the record -/

section World

variable {τ : Type} {lookup : String → σ → Except DnsError (List IpAddress) × σ}
  {missing : String → DnsError} {target : Destination}

/-- A resolver does to the world what its lookups do. -/
theorem resolveBy_rel {rel : σ → σ → Prop} (hRefl : ∀ w, rel w w)
    (hLookup : ∀ host w, rel w (lookup host w).2) (w : σ) :
    rel w (resolveBy lookup missing target w).2 := by
  unfold resolveBy
  split
  case h_1 => exact hRefl w
  case h_2 host _ =>
    have hRel := hLookup host w
    split
    case h_1 => exact hRefl w
    case h_2 =>
      split
      case h_1 hRun =>
        rw [hRun] at hRel
        exact hRel
      case h_2 hRun =>
        rw [hRun] at hRel
        split
        case h_1 => exact hRel
        case h_2 => exact hRel

/-- A part of the world that no lookup sees makes no difference to a resolver. -/
theorem resolveBy_forget {lookup' : String → τ → Except DnsError (List IpAddress) × τ}
    {forget : σ → τ}
    (hLookup : ∀ host w, lookup' host (forget w) = ((lookup host w).1, forget (lookup host w).2))
    (w : σ) : resolveBy lookup' missing target (forget w) =
      ((resolveBy lookup missing target w).1, forget (resolveBy lookup missing target w).2) := by
  unfold resolveBy
  cases target.hostname with
  | none => rfl
  | some host =>
    dsimp only
    cases IpAddress.parse? host.toList with
    | some a => rfl
    | none =>
      dsimp only
      rw [hLookup]
      obtain ⟨found, w'⟩ := lookup host w
      cases found with
      | error e => rfl
      | ok found =>
        dsimp only
        cases pickAddress found <;> rfl

end World

/-- The state without the record of the queries. -/
def forget (s : HttpsCache × σ × List Query) : HttpsCache × σ := (s.1, s.2.1)

theorem httpsLookup_forget (world : HttpsWorld σ) (host : String)
    (s : HttpsCache × σ × List Query) :
    httpsLookup world host (forget s) = ((httpsLookup (recorded world) host s).1,
      forget (httpsLookup (recorded world) host s).2) := by
  obtain ⟨cache, w, log⟩ := s
  have hNow : (recorded world).now (w, log) = world.now w := rfl
  obtain ⟨queries, hQuery, -⟩ := searched_httpsQuery world host 2 cache w log
  rw [httpsLookup, httpsLookup, hNow, hQuery]
  dsimp only [forget]
  cases cache.get? host (world.now w) with
  | some found => rfl
  | none =>
    obtain ⟨found, after, w'⟩ := httpsQuery world host 2 (cache, w)
    cases found <;> rfl

theorem https_eq_call (world : HttpsWorld σ) (target : Destination) (cache : HttpsCache) (w : σ) :
    https world target (cache, w) =
      ((call world target cache w).1.outcome, (call world target cache w).2) :=
  resolveBy_forget (httpsLookup_forget world) (cache, w, [])

theorem le_call (hSteady : world.Steady) (target : Destination) (cache : HttpsCache) (w : σ) :
    world.now w ≤ world.now (call world target cache w).2.2 := by
  let later (s s' : HttpsCache × σ) : Prop := world.now s.2 ≤ world.now s'.2
  have hSame (s : HttpsCache × σ) : later s s := le_refl (world.now s.2)
  have hLookup (host : String) (s : HttpsCache × σ) : later s (httpsLookup world host s).2 := by
    have hQuery : world.now s.2 ≤ world.now (httpsQuery world host 2 s).2.2 :=
      le_httpsQuery hSteady 2 s.1 s.2
    unfold httpsLookup
    split
    case h_1 => exact hSame s
    case h_2 =>
      generalize httpsQuery world host 2 s = result at hQuery
      obtain ⟨found, after, w'⟩ := result
      cases found <;> exact hQuery
  have hRun : later (cache, w) (https world target (cache, w)).2 :=
    resolveBy_rel hSame hLookup (cache, w)
  rw [https_eq_call] at hRun
  exact hRun

end Dns

end SocksGateway
