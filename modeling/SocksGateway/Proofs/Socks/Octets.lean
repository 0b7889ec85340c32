import Mathlib.Algebra.Group.Nat.Defs
import SocksGateway.Socks.Reply

/-!
# Ports, addresses and names as bytes

A port is read from two bytes, an IPv4 address from four and an IPv6 address
from sixteen, the most significant one first: `toNat_portOf`, `eq_ofOctets_iff`
and `eq_ofGroups_iff` say so in numbers.  Hence the bytes of a port or of an
address are read as that port or address (`portOf_bytes`, `ofBytes?_octets`).  The bytes of a name make up its text
(`toUTF8_eq_toList`).
-/

namespace SocksGateway

theorem shiftLeft_or_eq {a b i : Nat} (h : b < 2 ^ i) : a <<< i ||| b = a * 2 ^ i + b := by
  rw [← Nat.shiftLeft_add_eq_or_of_lt h, Nat.shiftLeft_eq]

theorem Socks.toNat_portOf (hi lo : UInt8) :
    (portOf hi lo).toNat = 256 * hi.toNat + lo.toNat := by
  have hHi := hi.toNat_lt
  have hLo := lo.toNat_lt
  have hShift : hi.toNat <<< 8 % 2 ^ 16 = hi.toNat <<< 8 := by
    rw [Nat.shiftLeft_eq]
    omega
  simp only [portOf, UInt16.toNat_or, UInt16.toNat_shiftLeft, UInt8.toNat_toUInt16]
  rw [show UInt16.toNat 8 % 16 = 8 from rfl, hShift, shiftLeft_or_eq (by omega)]
  omega

theorem Ipv4.toNat_ofOctets (a b c d : UInt8) :
    (Ipv4.ofOctets a b c d).bits.toNat =
      2 ^ 24 * a.toNat + 2 ^ 16 * b.toNat + 2 ^ 8 * c.toNat + d.toNat := by
  have hA := a.toNat_lt
  have hB := b.toNat_lt
  have hC := c.toNat_lt
  have hD := d.toNat_lt
  have hShift {x : UInt8} {i : Nat} (hi : i ≤ 24) :
      x.toNat <<< i % 2 ^ 32 = x.toNat <<< i := by
    rw [Nat.shiftLeft_eq, Nat.mod_eq_of_lt]
    calc x.toNat * 2 ^ i < 2 ^ 8 * 2 ^ 24 :=
          Nat.mul_lt_mul_of_lt_of_le x.toNat_lt (Nat.pow_le_pow_right (by omega) hi) (by omega)
      _ = 2 ^ 32 := rfl
  simp only [ofOctets, UInt32.toNat_or, UInt32.toNat_shiftLeft, UInt8.toNat_toUInt32]
  rw [show UInt32.toNat 24 % 32 = 24 from rfl, show UInt32.toNat 16 % 32 = 16 from rfl,
    show UInt32.toNat 8 % 32 = 8 from rfl, hShift (Nat.le_refl 24), hShift (by omega),
    hShift (by omega)]
  -- Each octet fills the bits below the ones before it.
  have hAB : a.toNat <<< 24 ||| b.toNat <<< 16 = (a.toNat * 2 ^ 8 + b.toNat) <<< 16 := by
    rw [shiftLeft_or_eq (by rw [Nat.shiftLeft_eq]; omega), Nat.shiftLeft_eq, Nat.shiftLeft_eq]
    omega
  have hABC : (a.toNat * 2 ^ 8 + b.toNat) <<< 16 ||| c.toNat <<< 8 =
      ((a.toNat * 2 ^ 8 + b.toNat) * 2 ^ 8 + c.toNat) <<< 8 := by
    rw [shiftLeft_or_eq (by rw [Nat.shiftLeft_eq]; omega), Nat.shiftLeft_eq, Nat.shiftLeft_eq]
    omega
  rw [hAB, hABC, shiftLeft_or_eq hD]
  omega

theorem Ipv4.eq_ofOctets_iff {a b c d : UInt8} {address : Ipv4} :
    address = .ofOctets a b c d ↔
      address.bits.toNat = 2 ^ 24 * a.toNat + 2 ^ 16 * b.toNat + 2 ^ 8 * c.toNat + d.toNat := by
  rw [← Ipv4.toNat_ofOctets, UInt32.toNat_inj]
  exact ⟨fun h => by rw [h], fun h => by cases address; exact congrArg Ipv4.mk h⟩

theorem Ipv6.toNat_pairBytes {bytes : List UInt8} {i : Nat} (hi : 2 * i + 1 < bytes.length) :
    ((pairBytes bytes).getD i 0).toNat =
      256 * (bytes.getD (2 * i) 0).toNat + (bytes.getD (2 * i + 1) 0).toNat := by
  fun_induction pairBytes bytes generalizing i with
  | case1 a b rest ih =>
    cases i with
    | zero => exact Socks.toNat_portOf a b
    | succ i => exact ih (by grind)
  | case2 bytes hShort =>
    match bytes, hi with
    | a :: b :: rest, _ => exact absurd rfl (hShort a b rest)

theorem Ipv6.eq_ofGroups_iff {octets : List UInt8} (hLength : octets.length = 16)
    {address : Ipv6} :
    address = .ofGroups (pairBytes octets) ↔ ∀ i : Fin 8, (address.groups.get i).toNat =
      256 * (octets.getD (2 * i.val) 0).toNat + (octets.getD (2 * i.val + 1) 0).toNat := by
  have hGroup (i : Fin 8) : ((ofGroups (pairBytes octets)).groups.get i).toNat =
      256 * (octets.getD (2 * i.val) 0).toNat + (octets.getD (2 * i.val + 1) 0).toNat := by
    have hGet : (ofGroups (pairBytes octets)).groups.get i = (pairBytes octets).getD i 0 :=
      Vector.getElem_ofFn i.isLt
    rw [hGet]
    exact toNat_pairBytes (by omega)
  constructor
  · rintro rfl
    exact hGroup
  · intro hGroups
    obtain ⟨groups⟩ := address
    refine congrArg Ipv6.mk (Vector.ext fun i hi => ?_)
    rw [← UInt16.toNat_inj]
    exact (hGroups ⟨i, hi⟩).trans (hGroup ⟨i, hi⟩).symm

theorem Socks.portOf_bytes (p : UInt16) : portOf (p >>> 8).toUInt8 p.toUInt8 = p := by
  have hHi : (p >>> 8).toUInt8.toNat = p.toNat / 2 ^ 8 % 2 ^ 8 := by
    simp [Nat.shiftRight_eq_div_pow]
  have hLo : p.toUInt8.toNat = p.toNat % 2 ^ 8 := UInt16.toNat_toUInt8 p
  have hp := p.toNat_lt
  rw [← UInt16.toNat_inj, toNat_portOf, hHi, hLo]
  omega

theorem Ipv4.ofBytes?_octets (a : Ipv4) : Ipv4.ofBytes? a.octets = some a := by
  have hOctet (i : UInt32) (hi : i.toNat < 32) :
      (a.bits >>> i).toUInt8.toNat = a.bits.toNat / 2 ^ i.toNat % 2 ^ 8 := by
    rw [UInt32.toNat_toUInt8, UInt32.toNat_shiftRight, Nat.mod_eq_of_lt hi,
      Nat.shiftRight_eq_div_pow]
  have hLast : a.bits.toUInt8.toNat = a.bits.toNat % 2 ^ 8 := UInt32.toNat_toUInt8 a.bits
  have ha := a.bits.toNat_lt
  have hBits : (Ipv4.ofOctets (a.bits >>> 24).toUInt8 (a.bits >>> 16).toUInt8
      (a.bits >>> 8).toUInt8 a.bits.toUInt8).bits = a.bits := by
    rw [← UInt32.toNat_inj, toNat_ofOctets, hOctet 24 (by decide), hOctet 16 (by decide),
      hOctet 8 (by decide), hLast]
    rw [show UInt32.toNat 24 = 24 from rfl, show UInt32.toNat 16 = 16 from rfl,
      show UInt32.toNat 8 = 8 from rfl]
    omega
  exact congrArg (fun bits => some (Ipv4.mk bits)) hBits

theorem byteArray_toList_loop (bs : ByteArray) (i : Nat) (front : List UInt8) :
    ByteArray.toList.loop bs i front = front.reverse ++ bs.data.toList.drop i := by
  fun_induction ByteArray.toList.loop bs i front with
  | case1 i front hLt ih =>
    have hByte : bs.get! i = bs.data[i] := getElem!_pos bs.data i hLt
    have hDrop : bs.data.toList.drop i = bs.data[i] :: bs.data.toList.drop (i + 1) := by
      rw [List.drop_eq_getElem_cons (by simpa using hLt), Array.getElem_toList]
    rw [ih, List.reverse_cons, List.append_assoc, List.singleton_append, hByte, hDrop]
  | case2 i front hGe =>
    have hNone : bs.data.toList.drop i = [] :=
      List.drop_eq_nil_of_le (by simpa using Nat.le_of_not_lt hGe)
    rw [hNone, List.append_nil]

theorem byteArray_toList (bs : ByteArray) : bs.toList = bs.data.toList := by
  rw [ByteArray.toList, byteArray_toList_loop, List.drop_zero]
  rfl

theorem toUTF8_eq_toList (name : String) : name.toUTF8 = ⟨name.toUTF8.toList.toArray⟩ := by
  rw [byteArray_toList, Array.toArray_toList]

theorem length_toUTF8 (name : String) : name.toUTF8.toList.length = name.utf8ByteSize := by
  rw [byteArray_toList, Array.length_toList]
  rfl

end SocksGateway
