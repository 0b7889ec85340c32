/-!
# SOCKS codes

The numbers of SOCKS4 and SOCKS5 (RFC 1928): versions, commands, address types,
reply codes and authentication methods.
-/

namespace SocksGateway

namespace Socks

inductive Version where
  | v4
  | v5
deriving DecidableEq, Repr

def Version.number : Version → UInt8
  | v4 => 4
  | v5 => 5

inductive Command where
  | connect
  | bind
  | udpAssociate
deriving DecidableEq, Repr

namespace Command

def ofByte? (b : UInt8) : Option Command :=
  if b = 1 then some connect
  else if b = 2 then some bind
  else if b = 3 then some udpAssociate
  else none

def byte : Command → UInt8
  | connect => 1
  | bind => 2
  | udpAssociate => 3

theorem ofByte?_byte (c : Command) : ofByte? c.byte = some c := by cases c <;> rfl

theorem eq_byte_of_ofByte? {b : UInt8} {c : Command} (h : ofByte? b = some c) : b = c.byte := by
  unfold ofByte? at h
  repeat' split at h
  all_goals cases h
  all_goals assumption

end Command

inductive AddressType where
  | ipv4
  | domain
  | ipv6
deriving DecidableEq, Repr

namespace AddressType

def ofByte? (b : UInt8) : Option AddressType :=
  if b = 1 then some ipv4
  else if b = 3 then some domain
  else if b = 4 then some ipv6
  else none

def byte : AddressType → UInt8
  | ipv4 => 1
  | domain => 3
  | ipv6 => 4

theorem ofByte?_byte (t : AddressType) : ofByte? t.byte = some t := by cases t <;> rfl

theorem eq_byte_of_ofByte? {b : UInt8} {t : AddressType} (h : ofByte? b = some t) :
    b = t.byte := by
  unfold ofByte? at h
  repeat' split at h
  all_goals cases h
  all_goals assumption

end AddressType

/-- The reply field of SOCKS5 (RFC 1928, section 6). -/
inductive ReplyCode where
  | succeeded
  | serverFailure
  | notAllowed
  | networkUnreachable
  | hostUnreachable
  | connectionRefused
  | ttlExpired
  | commandNotSupported
  | addressTypeNotSupported
  | unassigned (byte : UInt8)
deriving DecidableEq, Repr

namespace ReplyCode

def ofByte (b : UInt8) : ReplyCode :=
  if b = 0 then succeeded
  else if b = 1 then serverFailure
  else if b = 2 then notAllowed
  else if b = 3 then networkUnreachable
  else if b = 4 then hostUnreachable
  else if b = 5 then connectionRefused
  else if b = 6 then ttlExpired
  else if b = 7 then commandNotSupported
  else if b = 8 then addressTypeNotSupported
  else unassigned b

def byte : ReplyCode → UInt8
  | succeeded => 0
  | serverFailure => 1
  | notAllowed => 2
  | networkUnreachable => 3
  | hostUnreachable => 4
  | connectionRefused => 5
  | ttlExpired => 6
  | commandNotSupported => 7
  | addressTypeNotSupported => 8
  | unassigned b => b

def isSuccess (r : ReplyCode) : Bool := r == succeeded

/-- The code's name, with the number of an unassigned one. -/
def label : ReplyCode → String
  | succeeded => "Succeeded"
  | serverFailure => "ServerFailure"
  | notAllowed => "NotAllowed"
  | networkUnreachable => "NetworkUnreachable"
  | hostUnreachable => "HostUnreachable"
  | connectionRefused => "ConnectionRefused"
  | ttlExpired => "TtlExpired"
  | commandNotSupported => "CommandNotSupported"
  | addressTypeNotSupported => "AddressTypeNotSupported"
  | unassigned b => s!"Unassigned({b.toNat})"

theorem byte_ofByte (b : UInt8) : (ofByte b).byte = b := by
  unfold ofByte
  repeat' split
  all_goals simp_all [byte]

end ReplyCode

/-- The authentication method that asks for nothing. -/
def methodNone : UInt8 := 0

/-- The answer to a client none of whose methods will do. -/
def methodNoneAcceptable : UInt8 := 0xFF

/-- How refused methods are named in error texts. -/
def methodLabel (m : UInt8) : String :=
  if m = 1 then "GSSAPI" else if m = 2 then "username/password" else "unknown"

/-- The code of a granted SOCKS4 request. -/
def v4Granted : UInt8 := 0x5A

/-- The code of a SOCKS4 request that was rejected or failed. -/
def v4Rejected : UInt8 := 0x5B

/-- How many bytes of a SOCKS4 user id are read, its final NUL included. -/
def userIdLimit : Nat := 1000

end Socks

end SocksGateway
