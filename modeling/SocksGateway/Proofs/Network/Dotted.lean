import SocksGateway.Network
import SocksGateway.Proofs.Socks.Octets
import SocksGateway.Proofs.Text.Decimal

/-!
# Dotted forms read back

Four octets with points between them are read as the address that they were written for
(`Ipv4.parse?_chars`), and so are two addresses with a slash between them as a network,
whatever the shape of its mask (`Network.parse?_chars`).  Either text is one word.
-/

namespace SocksGateway

open Text

namespace Ipv4

/-- **Written octets read back**: they are short enough and have no leading zero. -/
theorem readOctet_decimal (x : UInt8) : readOctet (decimal x.toNat) = some x := by
  have hSmall : x.toNat < 10 ^ 3 := Nat.lt_trans x.toNat_lt (by decide)
  have hShort : (decimal x.toNat).length ≤ 3 :=
    (Nat.length_toDigits_le_iff (by decide) (by decide)).mpr hSmall
  have hSome : (decimal x.toNat).length ≠ 0 := by simpa using decimal_ne_nil x.toNat
  have hHead : ¬(1 < (decimal x.toNat).length ∧ (decimal x.toNat).head? = some '0') := by
    rintro ⟨hLong, hZero⟩
    rw [head?_decimal hZero] at hLong
    exact absurd hLong (by decide)
  have hFits : ¬((decimal x.toNat).length = 0 ∨ 3 < (decimal x.toNat).length ∨
      (1 < (decimal x.toNat).length ∧ (decimal x.toNat).head? = some '0')) := by
    rintro (hNone | hLong | hLeading)
    · exact hSome hNone
    · omega
    · exact hHead hLeading
  rw [readOctet, if_neg hFits, readDigits_decimal]
  dsimp only
  rw [if_pos x.toNat_lt]
  exact congrArg some UInt8.ofNat_toNat

theorem mem_chars {a : Ipv4} {c : Char} (hc : c ∈ a.chars) : c.isDigit = true ∨ c = '.' := by
  simp only [chars, List.mem_append, List.mem_cons] at hc
  rcases hc with hc | hc | hc | hc | hc | hc | hc
  case inr.inl => exact .inr hc
  case inr.inr.inr.inl => exact .inr hc
  case inr.inr.inr.inr.inr.inl => exact .inr hc
  all_goals exact .inl (isDigit_of_mem_decimal hc)

theorem split_decimal (n : Nat) : split (· == '.') (decimal n) = [decimal n] :=
  split_at_of_not_mem fun hPoint => absurd (isDigit_of_mem_decimal hPoint) (by decide)

theorem parse?_chars (a : Ipv4) : parse? a.chars = some a := by
  rw [parse?, chars, split_at_append_cons, split_at_append_cons, split_at_append_cons]
  simp only [split_decimal, List.singleton_append, readOctet_decimal]
  exact ofBytes?_octets a

end Ipv4

namespace Network

theorem mem_chars {n : Network} {c : Char} (hc : c ∈ n.chars) :
    c.isDigit = true ∨ c = '.' ∨ c = '/' := by
  rw [chars, List.mem_append, List.mem_cons] at hc
  rcases hc with hc | hc | hc
  · exact (Ipv4.mem_chars hc).imp_right .inl
  · exact .inr (.inr hc)
  · exact (Ipv4.mem_chars hc).imp_right .inl

theorem isWord_chars (n : Network) : IsWord n.chars where
  ne_nil := by simp [chars]
  not_blank := by
    intro c hc
    rcases mem_chars hc with hDigit | rfl | rfl
    · exact not_blank_of_isDigit hDigit
    · decide
    · decide

theorem parse?_chars (n : Network) : parse? n.chars = some n := by
  have hSlash : '/' ∉ Ipv4.chars ⟨n.address⟩ := by
    intro hMem
    rcases Ipv4.mem_chars hMem with hDigit | hPoint
    · exact absurd hDigit (by decide)
    · exact absurd hPoint (by decide)
  have hDotted : (Ipv4.chars ⟨n.mask⟩).contains '.' = true :=
    List.contains_iff_mem.mpr (by simp [Ipv4.chars])
  have hMask : readMask (Ipv4.chars ⟨n.mask⟩) = some n.mask := by
    rw [readMask, if_pos hDotted, Ipv4.parse?_chars]
    rfl
  rw [parse?, chars, cutFirst_append_cons hSlash]
  dsimp only
  rw [Ipv4.parse?_chars, hMask]

end Network

end SocksGateway
