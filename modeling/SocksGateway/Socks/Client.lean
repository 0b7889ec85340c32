import SocksGateway.Session
import SocksGateway.Socks.Reply

/-!
# Speaking to a relay

The client side of SOCKS5, towards the listener of a chained tunnel: the CONNECT
request for a destination, and the relay's reply to it.
-/

namespace SocksGateway

namespace Stream

/-- How a peer's bytes end: with the end of the stream, with a failure, or not
at all while somebody waits for more. -/
inductive Ending where
  | eof
  | fault (fault : Fault)
  | silence
deriving DecidableEq, Repr

/-- What a peer sends. -/
structure Incoming where
  bytes : List UInt8
  ending : Ending := .eof
deriving DecidableEq, Repr

end Stream

namespace Socks

open SocksGateway.Stream (Incoming)

/-- The greeting of a client that offers to go without authentication. -/
def greeting : List UInt8 := [Version.v5.number, 1, methodNone]

/-- The name that a request carries, if it does not carry an address: a client
that asked by name goes by name, and so does a destination without address. -/
def requestName (d : Destination) (type : Option AddressType) : Option String :=
  match d.hostname with
  | none => none
  | some name => if type = some .domain ∨ d.address = none then some name else none

/-- The CONNECT request for a destination. -/
def connectRequest (d : Destination) (type : Option AddressType) :
    Except ConnectionError (List UInt8) :=
  let start : List UInt8 := [Version.v5.number, Command.connect.byte, 0]
  match requestName d type with
  | some name =>
    let bytes := name.toUTF8.toList
    if bytes.length < 256 then
      .ok (start ++ AddressType.domain.byte :: bytes.length.toUInt8 :: bytes ++ portBytes d.port)
    else .error (.protocol (.hostnameTooLong bytes.length))
  | none =>
    match d.ipv4? with
    | some a => .ok (start ++ AddressType.ipv4.byte :: a.octets ++ portBytes d.port)
    | none => .error .addressTypeNotSupported

/-- Takes exactly `n` bytes of what a relay sends.  A relay that ends before is
not really there. -/
def takeBytes (n : Nat) (i : Incoming) : Except ConnectionError (List UInt8 × Incoming) :=
  if n ≤ i.bytes.length then .ok (i.bytes.take n, { i with bytes := i.bytes.drop n })
  else
    match i.ending with
    | .eof => .error .connectionRefused
    | .silence => .error .timeout
    | .fault f =>
      if f.kind = .unexpectedEof then .error .connectionRefused
      else .error (.ofConnect f)

/-- Reads the relay's choice of method; it must do without authentication. -/
def readMethod (tunnel : String) (i : Incoming) : Except ConnectionError Incoming := do
  let (method, i) ← takeBytes 2 i
  if method = [Version.v5.number, methodNone] then .ok i
  else .error (.protocol (.relayMethod tunnel method))

/-- Reads the address of a reply; a name says nothing about the address. -/
def readBoundAddress (type : AddressType) (i : Incoming) :
    Except ConnectionError (Option IpAddress × Incoming) := do
  match type with
  | .ipv4 =>
    let (bytes, i) ← takeBytes 4 i
    .ok ((Ipv4.ofBytes? bytes).map .v4, i)
  | .ipv6 =>
    let (bytes, i) ← takeBytes 16 i
    .ok ((Ipv6.ofBytes? bytes).map .v6, i)
  | .domain =>
    let (length, i) ← takeBytes 1 i
    let (_, i) ← takeBytes (length.headD 0).toNat i
    .ok (none, i)

/-- Reads the port of a reply. -/
def readBoundPort (i : Incoming) : Except ConnectionError (UInt16 × Incoming) := do
  let (bytes, i) ← takeBytes 2 i
  .ok (portOf (bytes.getD 0 0) (bytes.getD 1 0), i)

/-- Reads the reply to a CONNECT request, up to its last byte: the bound
endpoint, where the relay tells it, and what the relay sends behind the reply. -/
def readConnectReply (i : Incoming) : Except ConnectionError (Option Endpoint × Incoming) := do
  let (header, i) ← takeBytes 4 i
  let version := header.getD 0 0
  if version ≠ Version.v5.number then .error (.protocol (.relayVersion version))
  else
    let code := ReplyCode.ofByte (header.getD 1 0)
    if !code.isSuccess then .error (.relayReply code)
    else
      match AddressType.ofByte? (header.getD 3 0) with
      | none => .error (.protocol (.relayAddressType (header.getD 3 0)))
      | some type =>
        let (address, i) ← readBoundAddress type i
        let (port, i) ← readBoundPort i
        .ok (address.map fun a => ⟨a, port⟩, i)

end Socks

end SocksGateway
