import SocksGateway.Error

/-!
# Replies to the client

A SOCKS4 reply has eight bytes and says granted or rejected.  A SOCKS5 reply has
ten: it always carries an IPv4 address, which is zero for a client that asked by
name, and when the bound address is not IPv4.
-/

namespace SocksGateway

namespace Socks

/-- The two bytes of a port, the more significant one first. -/
def portBytes (p : UInt16) : List UInt8 := [(p >>> 8).toUInt8, p.toUInt8]

/-- The port of two bytes, the more significant one first. -/
def portOf (hi lo : UInt8) : UInt16 := hi.toUInt16 <<< 8 ||| lo.toUInt16

namespace Reply

/-- The SOCKS4 reply. -/
def v4Bytes (code : ReplyCode) : List UInt8 :=
  [0, if code.isSuccess then v4Granted else v4Rejected, 0, 0, 0, 0, 0, 0]

/-- The address and port that a SOCKS5 reply shows. -/
def shown (requested : Option AddressType) (bound : Option Endpoint) : Ipv4 × UInt16 :=
  match requested, bound with
  | some .domain, _ => (.unspecified, 0)
  | _, some ⟨.v4 a, port⟩ => (a, port)
  | _, _ => (.unspecified, 0)

/-- The SOCKS5 reply. -/
def v5Bytes (requested : Option AddressType) (code : ReplyCode) (bound : Option Endpoint) :
    List UInt8 :=
  let (a, port) := shown requested bound
  [5, code.byte, 0, AddressType.ipv4.byte] ++ a.octets ++ portBytes port

/-- The reply in the protocol that was negotiated. -/
def encode (version : Option Version) (requested : Option AddressType) (code : ReplyCode)
    (bound : Option Endpoint) : Except Inconsistency (List UInt8) :=
  match version with
  | some .v4 => .ok (v4Bytes code)
  | some .v5 => .ok (v5Bytes requested code bound)
  | none => .error .noVersion

/-- What sending a reply gave: the bytes that got through, the failure if there
was one, and the writer afterwards. -/
structure Sent where
  bytes : List UInt8
  error : Option ConnectionError
  writer : Stream.Writer
deriving DecidableEq, Repr

/-- Writes bytes and flushes them. -/
def sendBytes (w : Stream.Writer) (bytes : List UInt8) : Sent :=
  let r := w.writeAll bytes
  match r.fault with
  | some f => ⟨r.bytes, some (.stream f), r.writer⟩
  | none => ⟨r.bytes, r.writer.flush.map .stream, r.writer⟩

/-- Sends the reply; before a version was negotiated there is none to send. -/
def send (w : Stream.Writer) (version : Option Version) (requested : Option AddressType)
    (code : ReplyCode) (bound : Option Endpoint) : Sent :=
  match encode version requested code bound with
  | .ok bytes => sendBytes w bytes
  | .error cause => ⟨[], some (.inconsistency cause), w⟩

theorem bytes_send (w : Stream.Writer) {version : Option Version}
    {requested : Option AddressType} {code : ReplyCode} {bound : Option Endpoint}
    {bytes : List UInt8} (hEncode : encode version requested code bound = .ok bytes) :
    (send w version requested code bound).bytes = (w.writeAll bytes).bytes := by
  simp only [send, hEncode, sendBytes]
  cases (w.writeAll bytes).fault <;> rfl

end Reply

end Socks

end SocksGateway
