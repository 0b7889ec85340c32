import SocksGateway.Dns.Resolver

/-!
# DNS over HTTPS

Names are asked for at an HTTPS endpoint, at most twice a lookup.  The first
answer that lists an address is kept in a cache until the least time-to-live of
its addresses is over, and never longer than five minutes.
-/

namespace SocksGateway

namespace Dns

/-- One record of an endpoint's answer. -/
structure HttpsRecord where
  ttl : UInt32
  data : String
deriving DecidableEq, Repr

/-- The addresses of one name, and when they stop being good. -/
structure CacheEntry where
  addresses : List IpAddress
  expires : Moment
deriving DecidableEq, Repr

/-- The names that were found, the latest answer first. -/
structure HttpsCache where
  entries : List (String × CacheEntry) := []
deriving DecidableEq, Repr

namespace HttpsCache

/-- The addresses of a name that are still good. -/
def get? (c : HttpsCache) (host : String) (now : Moment) : Option (List IpAddress) :=
  match c.entries.find? fun e => e.1 == host with
  | some (_, e) => if now < e.expires then some e.addresses else none
  | none => none

/-- Keeps the addresses of a name for `ttl` seconds from `now`. -/
def put (c : HttpsCache) (host : String) (addresses : List IpAddress) (ttl : UInt32)
    (now : Moment) : HttpsCache :=
  ⟨(host, ⟨addresses, now + ttl.toNat * 1000000000⟩) ::
    c.entries.filter fun e => e.1 != host⟩

end HttpsCache

/-- The longest time an answer is kept, in seconds. -/
def longestTtl : UInt32 := 300

/-- The records that are addresses, with their times to live. -/
def addressRecords (records : List HttpsRecord) : List (IpAddress × UInt32) :=
  records.filterMap fun r => (IpAddress.parse? r.data.toList).map fun a => (a, r.ttl)

/-- The least time-to-live of an answer, at most five minutes. -/
def leastTtl (records : List (IpAddress × UInt32)) : UInt32 :=
  records.foldl (fun least r => if r.2 < least then r.2 else least) longestTtl

/-- The world that an HTTPS resolver works in: a clock, and an endpoint that
answers a query for a name with records, or with nothing that can be read. -/
structure HttpsWorld (σ : Type) where
  now : σ → Moment
  fetch : String → σ → Option (List HttpsRecord) × σ

/-- Asks up to `tries` times; the first answer with an address is kept. -/
def httpsQuery {σ : Type} (world : HttpsWorld σ) (host : String) :
    (tries : Nat) → HttpsCache × σ → Option (List IpAddress) × HttpsCache × σ
  | 0, (cache, w) => (none, cache, w)
  | tries + 1, (cache, w) =>
    match world.fetch host w with
    | (none, w) => httpsQuery world host tries (cache, w)
    | (some records, w) =>
      match addressRecords records with
      | [] => httpsQuery world host tries (cache, w)
      | found =>
        let addresses := found.map (·.1)
        (some addresses, cache.put host addresses (leastTtl found) (world.now w), w)

/-- The cached addresses of a name, or else those the endpoint gives. -/
def httpsLookup {σ : Type} (world : HttpsWorld σ) (host : String) (s : HttpsCache × σ) :
    Except DnsError (List IpAddress) × HttpsCache × σ :=
  match s.1.get? host (world.now s.2) with
  | some addresses => (.ok addresses, s)
  | none =>
    match httpsQuery world host 2 s with
    | (some addresses, s) => (.ok addresses, s)
    | (none, s) => (.error (.doh host), s)

/-- The HTTPS resolver; its cache is part of the world it hands on. -/
def https {σ : Type} (world : HttpsWorld σ) : Resolver (HttpsCache × σ) :=
  resolveBy (httpsLookup world) .doh

end Dns

end SocksGateway
