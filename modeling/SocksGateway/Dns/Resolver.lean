import SocksGateway.Routing

/-!
# Looking names up

A resolver fills in the address of a named destination and keeps its name and
port.  Names that are address literals stand for themselves and are never looked
up; of several addresses the first IPv4 address is taken, or else the first.
-/

namespace SocksGateway

namespace Dns

/-- The first IPv4 address if there is one, otherwise the first address. -/
def pickAddress (addresses : List IpAddress) : Option IpAddress :=
  match addresses.find? IpAddress.isV4 with
  | some a => some a
  | none => addresses.head?

/-- A resolver that asks `lookup` for the addresses of a name that is no
literal, and fails with `missing` when there are none. -/
def resolveBy {σ : Type} (lookup : String → σ → Except DnsError (List IpAddress) × σ)
    (missing : String → DnsError) : Resolver σ := fun target w =>
  match target.hostname with
  | none => (.error .noHostname, w)
  | some host =>
    match IpAddress.parse? host.toList with
    | some a => (.ok (target.withAddress a), w)
    | none =>
      match lookup host w with
      | (.error e, w) => (.error e, w)
      | (.ok addresses, w) =>
        match pickAddress addresses with
        | some a => (.ok (target.withAddress a), w)
        | none => (.error (missing host), w)

/-- What the operating system says to a lookup. -/
inductive SystemAnswer where
  | found (addresses : List IpAddress)
  | tryAgain
  | failed
deriving DecidableEq, Repr

/-- Asks the operating system, and up to `retries` times more while it says to
try again. -/
def systemLookup {σ : Type} (ask : String → σ → SystemAnswer × σ) :
    (retries : Nat) → String → σ → Except DnsError (List IpAddress) × σ
  | 0, host, w =>
    match ask host w with
    | (.found addresses, w) => (.ok addresses, w)
    | (_, w) => (.error (.lookup host), w)
  | retries + 1, host, w =>
    match ask host w with
    | (.found addresses, w) => (.ok addresses, w)
    | (.tryAgain, w) => systemLookup ask retries host w
    | (.failed, w) => (.error (.lookup host), w)

/-- The resolver of the operating system. -/
def system {σ : Type} (ask : String → σ → SystemAnswer × σ) (retries : Nat) : Resolver σ :=
  resolveBy (systemLookup ask retries) .noAddresses

/-- The operating system's resolver where no name is known to it. -/
def literalsOnly {σ : Type} : Resolver σ := system (fun _ w => (.failed, w)) 0

/-- A resolver with a fixed table.  An entry may clear the address. -/
def table {σ : Type} (entries : List (String × Option IpAddress)) : Resolver σ := fun target w =>
  match target.hostname with
  | none => (.error .noHostname, w)
  | some host =>
    match entries.find? fun e => e.1 == host with
    | some (_, a) => (.ok { target with address := a }, w)
    | none => (.error (.noAddresses host), w)

end Dns

end SocksGateway
