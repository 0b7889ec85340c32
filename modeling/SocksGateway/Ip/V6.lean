import SocksGateway.Ip.V4
import SocksGateway.Text.Hexadecimal

/-!
# IPv6 addresses

An address is eight groups of 16 bits.  Reading takes groups of one to four
hexadecimal digits, at most one `::` for one group of zeros or more, and a
dotted IPv4 address in place of the last two groups.  Writing is canonical: the
first longest run of at least two zero groups becomes `::`, and addresses that
hold a mapped IPv4 address end in its dotted form.
-/

namespace SocksGateway

open Text

structure Ipv6 where
  groups : Vector UInt16 8
deriving DecidableEq, Repr

namespace Ipv6

/-- The address whose groups are the first eight of `gs`, zeros where `gs` ends. -/
def ofGroups (gs : List UInt16) : Ipv6 := ⟨Vector.ofFn fun i => gs.getD i 0⟩

/-- Joins bytes to groups, the more significant byte first. -/
def pairBytes : List UInt8 → List UInt16
  | a :: b :: rest => (a.toUInt16 <<< 8 ||| b.toUInt16) :: pairBytes rest
  | _ => []

/-- The address with these bytes, if there are sixteen of them. -/
def ofBytes? (bs : List UInt8) : Option Ipv6 :=
  if bs.length = 16 then some (ofGroups (pairBytes bs)) else none

/-- Splits off the longest start of `s` that satisfies `p`. -/
def spanChars (p : Char → Bool) (s : List Char) : List Char × List Char :=
  (s.takeWhile p, s.dropWhile p)

/-- A dotted address at the start of a text, with what follows it. -/
def readV4 (s : List Char) : Option (Ipv4 × List Char) :=
  let isDigit := fun c => (digit? c).isSome
  let (a, s) := spanChars isDigit s
  match s with
  | '.' :: s =>
    let (b, s) := spanChars isDigit s
    match s with
    | '.' :: s =>
      let (c, s) := spanChars isDigit s
      match s with
      | '.' :: s =>
        let (d, s) := spanChars isDigit s
        match Ipv4.readOctet a, Ipv4.readOctet b, Ipv4.readOctet c, Ipv4.readOctet d with
        | some a, some b, some c, some d => some (Ipv4.ofOctets a b c d, s)
        | _, _, _, _ => none
      | _ => none
    | _ => none
  | _ => none

/-- Appends hexadecimal digits to the number `acc`. -/
def hexValue (acc : Nat) : List Char → Nat
  | [] => acc
  | c :: cs => hexValue (16 * acc + (hexDigit? c).getD 0) cs

/-- A group of one to four hexadecimal digits at the start of a text. -/
def readGroup (s : List Char) : Option (UInt16 × List Char) :=
  let (ds, rest) := spanChars (fun c => (hexDigit? c).isSome) s
  if ds.length = 0 ∨ 4 < ds.length then none else some ((hexValue 0 ds).toUInt16, rest)

/-- What a run of groups gave: the groups, whether a dotted address ended it,
and the text behind it. -/
structure Run where
  groups : List UInt16
  dotted : Bool
  rest : List Char

/-- Removes the colon in front of every group but the first. -/
def dropColon (first : Bool) (s : List Char) : Option (List Char) :=
  if first then some s
  else
    match s with
    | ':' :: cs => some cs
    | _ => none

/-- Reads at most `limit` groups with colons between them; a dotted address
counts for two and ends the run.  A colon with no group behind it stays. -/
def readRun (first : Bool) : Nat → List Char → Run
  | 0, s => ⟨[], false, s⟩
  | limit + 1, s =>
    match dropColon first s with
    | none => ⟨[], false, s⟩
    | some t =>
      match (if limit = 0 then none else readV4 t) with
      | some (a, rest) =>
        ⟨[(a.bits >>> 16).toUInt16, a.bits.toUInt16], true, rest⟩
      | none =>
        match readGroup t with
        | some (g, rest) =>
          let run := readRun false limit rest
          ⟨g :: run.groups, run.dotted, run.rest⟩
        | none => ⟨[], false, s⟩

/-- An address at the start of a text, with what follows it. -/
def read (s : List Char) : Option (Ipv6 × List Char) :=
  let front := readRun true 8 s
  if front.groups.length = 8 then some (ofGroups front.groups, front.rest)
  else if front.dotted then none
  else
    match front.rest with
    | ':' :: ':' :: t =>
      let back := readRun true (7 - front.groups.length) t
      let zeros := 8 - front.groups.length - back.groups.length
      some (ofGroups (front.groups ++ List.replicate zeros 0 ++ back.groups), back.rest)
    | _ => none

def parse? (s : List Char) : Option Ipv6 :=
  match read s with
  | some (a, []) => some a
  | _ => none

/-- The IPv4 address inside a mapped address, `::ffff:0:0/96`. -/
def mapped? (a : Ipv6) : Option Ipv4 :=
  match a.groups.toList with
  | [0, 0, 0, 0, 0, 0xFFFF, hi, lo] => some ⟨hi.toUInt32 <<< 16 ||| lo.toUInt32⟩
  | _ => none

/-- The address `::`. -/
def unspecified : Ipv6 := ofGroups []

/-- The length of the run of zeros that starts a list. -/
def zeroRun : List UInt16 → Nat
  | 0 :: gs => zeroRun gs + 1
  | _ => 0

/-- The place and length of the first longest run of zeros, counted from `at`. -/
def longestZeroRun (place : Nat) : List UInt16 → Nat × Nat
  | [] => (place, 0)
  | g :: gs =>
    let later := longestZeroRun (place + 1) gs
    let here := zeroRun (g :: gs)
    if later.2 ≤ here then (place, here) else later

/-- Groups in hexadecimal with colons between them. -/
def groupChars : List UInt16 → List Char
  | [] => []
  | [g] => hexadecimal g.toNat
  | g :: gs => hexadecimal g.toNat ++ ':' :: groupChars gs

def chars (a : Ipv6) : List Char :=
  match a.mapped? with
  | some v4 => "::ffff:".toList ++ v4.chars
  | none =>
    let gs := a.groups.toList
    let (place, length) := longestZeroRun 0 gs
    if 1 < length then
      groupChars (gs.take place) ++ ':' :: ':' :: groupChars (gs.drop (place + length))
    else groupChars gs

def text (a : Ipv6) : String := String.ofList a.chars

end Ipv6

end SocksGateway
