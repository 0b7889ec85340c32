import SocksGateway.Proofs.Network.Dotted
import SocksGateway.Proofs.Network.Relocation

/-!
# The spellings of networks

A network is spelled by an address, alone or with a slash behind it and then its mask, in
dotted form or as a count of bits.

* `TopBits`, `topBits_iff`: the masks that a count of bits stands for.
* `prefixShift?_eq_some_iff`: what is shifted for them.
* `Suffix`, `Spelled`: masks and networks in text.
* `readMask_eq_some_iff`, `parse?_eq_some_iff`: the readers know both.
* `networks_in_text`: what is read, what is refused, and the same network spelled in several
  ways.
-/

namespace SocksGateway

open Text

/-! ### Addresses -/

namespace Ipv4

variable {s : List Char} {c : Char}

theorem isDigit_of_readOctet {x : UInt8} (h : readOctet s = some x) :
    ∀ c ∈ s, c.isDigit = true := by
  unfold readOctet at h
  split at h
  case isTrue => cases h
  case isFalse =>
    cases hDigits : readDigits 0 s with
    | none =>
      rw [hDigits] at h
      cases h
    | some n => exact isDigit_of_readDigits hDigits

theorem mem_of_parse? {a : Ipv4} (h : parse? s = some a) (hc : c ∈ s) :
    c.isDigit = true ∨ c = '.' := by
  by_cases hPoint : c = '.'
  · exact .inr hPoint
  obtain ⟨piece, hPiece, hMem⟩ := exists_mem_split (p := (· == '.')) hc (beq_false_of_ne hPoint)
  unfold parse? at h
  split at h
  case h_2 => cases h
  case h_1 w x y z hSplit =>
    split at h
    case h_2 => cases h
    case h_1 hw hx hy hz =>
      rw [hSplit] at hPiece
      simp only [List.mem_cons, List.not_mem_nil, or_false] at hPiece
      rcases hPiece with rfl | rfl | rfl | rfl
      · exact .inl (isDigit_of_readOctet hw c hMem)
      · exact .inl (isDigit_of_readOctet hx c hMem)
      · exact .inl (isDigit_of_readOctet hy c hMem)
      · exact .inl (isDigit_of_readOctet hz c hMem)

theorem slash_not_mem {a : Ipv4} (h : parse? s = some a) : '/' ∉ s := by
  intro hMem
  rcases mem_of_parse? h hMem with hDigit | hPoint
  · exact absurd hDigit (by decide)
  · exact absurd hPoint (by decide)

end Ipv4

namespace Network

variable {s m : List Char} {mask mask' : UInt32} {n : Network}

/-! ### Counted bits -/

/-- **The top bits of the mask are set**, so many of them, and no others. -/
def TopBits (count : Nat) (mask : UInt32) : Prop :=
  ∀ i < 32, mask.toNat.testBit i = decide (32 ≤ i + count)

instance (count : Nat) (mask : UInt32) : Decidable (TopBits count mask) :=
  inferInstanceAs (Decidable (∀ i < 32, _))

theorem TopBits.unique {count : Nat} (h : TopBits count mask) (h' : TopBits count mask') :
    mask = mask' :=
  eq_of_testBit fun i hi => (h i hi).trans (h' i hi).symm

/-- **Nothing is shifted by the whole width or more**, as long as there are no more bits than
that: what is left of them is what is shifted by. -/
theorem prefixShift?_eq_some_iff {bits : UInt8} {shift : UInt32} (hBits : bits.toNat ≤ 32) :
    prefixShift? bits = some shift ↔ shift.toNat + bits.toNat = 32 ∧ shift.toNat < 32 := by
  have hLe : bits.toUInt32 ≤ 32 := by
    rw [UInt32.le_iff_toNat_le, UInt8.toNat_toUInt32]
    exact hBits
  have hLeft : (32 - bits.toUInt32).toNat = 32 - bits.toNat := by
    rw [UInt32.toNat_sub_of_le _ _ hLe, UInt8.toNat_toUInt32]
    rfl
  have hZero : bits = 0 ↔ bits.toNat = 0 := UInt8.toNat_inj.symm
  rw [prefixShift?]
  by_cases hNone : bits = 0
  · have hNat := hZero.mp hNone
    rw [if_pos hNone]
    refine iff_of_false (fun h => nomatch h) ?_
    rintro ⟨hSum, hLt⟩
    omega
  · have hSome : bits.toNat ≠ 0 := fun h => hNone (hZero.mpr h)
    rw [if_neg hNone, Option.some.injEq, ← UInt32.toNat_inj, hLeft]
    omega

theorem topBits_prefixMask {bits : UInt8} (hBits : bits.toNat ≤ 32) :
    TopBits bits.toNat (prefixMask bits) := by
  intro i hi
  rw [prefixMask]
  cases hShift : prefixShift? bits with
  | none =>
    have hNone : bits = 0 := by
      by_contra hSome
      rw [prefixShift?, if_neg hSome] at hShift
      cases hShift
    rw [hNone]
    dsimp only
    rw [UInt32.toNat_zero, Nat.zero_testBit, UInt8.toNat_zero]
    exact (decide_eq_false (by omega)).symm
  | some shift =>
    obtain ⟨hSum, hLt⟩ := (prefixShift?_eq_some_iff hBits).mp hShift
    have hOnes : (0xFFFFFFFF : UInt32).toNat = 2 ^ 32 - 1 := rfl
    dsimp only
    rw [UInt32.toNat_shiftLeft, Nat.mod_eq_of_lt hLt, hOnes, Nat.testBit_mod_two_pow,
      Nat.testBit_shiftLeft, Nat.testBit_two_pow_sub_one, decide_eq_true hi, Bool.true_and,
      ← Bool.decide_and, decide_eq_decide]
    omega

theorem topBits_iff {bits : UInt8} (hBits : bits.toNat ≤ 32) :
    TopBits bits.toNat mask ↔ mask = prefixMask bits := by
  refine ⟨fun h => h.unique (topBits_prefixMask hBits), ?_⟩
  rintro rfl
  exact topBits_prefixMask hBits

/-! ### Masks and networks -/

/-- **The spellings of a mask**: a dotted form, told by its points, or a number of bits up to
the width. -/
inductive Suffix : List Char → UInt32 → Prop
  | dotted {m : List Char} {a : Ipv4} (hPoint : '.' ∈ m) (hRead : Ipv4.parse? m = some a) :
      Suffix m a.bits
  | count {m : List Char} {bits : UInt8} {mask : UInt32} (hPlain : '.' ∉ m)
      (hRead : readUInt8 m = some bits) (hBits : bits.toNat ≤ 32)
      (hTop : TopBits bits.toNat mask) : Suffix m mask

/-- **The spellings of a network**: without a mask every bit counts. -/
inductive Spelled : List Char → Network → Prop
  | plain {s : List Char} {a : Ipv4} (hRead : Ipv4.parse? s = some a) :
      Spelled s ⟨a.bits, 0xFFFFFFFF⟩
  | masked {s m : List Char} {a : Ipv4} {mask : UInt32} (hRead : Ipv4.parse? s = some a)
      (hMask : Suffix m mask) : Spelled (s ++ '/' :: m) ⟨a.bits, mask⟩

theorem readMask_eq_some_iff : readMask m = some mask ↔ Suffix m mask := by
  have hLimit (bits : UInt8) : bits ≤ 32 ↔ bits.toNat ≤ 32 := UInt8.le_iff_toNat_le
  rw [readMask]
  by_cases hPoint : '.' ∈ m
  · rw [if_pos (List.contains_iff_mem.mpr hPoint), Option.map_eq_some_iff]
    constructor
    · rintro ⟨a, hRead, rfl⟩
      exact .dotted hPoint hRead
    · intro h
      cases h with
      | dotted _ hRead => exact ⟨_, hRead, rfl⟩
      | count hPlain => exact absurd hPoint hPlain
  · rw [if_neg fun h => hPoint (List.contains_iff_mem.mp h)]
    constructor
    · intro h
      split at h
      case h_2 => cases h
      case h_1 bits hRead =>
        split at h
        case isFalse => cases h
        case isTrue hBits =>
          cases h
          exact .count hPoint hRead ((hLimit bits).mp hBits)
            (topBits_prefixMask ((hLimit bits).mp hBits))
    · intro h
      cases h with
      | dotted hMem => exact absurd hMem hPoint
      | count _ hRead hBits hTop =>
        rw [hRead, (topBits_iff hBits).mp hTop]
        exact if_pos ((hLimit _).mpr hBits)

/-- **The reader knows the spellings.** -/
theorem parse?_eq_some_iff : parse? s = some n ↔ Spelled s n := by
  rw [parse?]
  constructor
  · intro h
    split at h
    case h_1 =>
      obtain ⟨a, hRead, rfl⟩ := Option.map_eq_some_iff.mp h
      exact .plain hRead
    case h_2 front m hCut =>
      split at h
      case h_2 => cases h
      case h_1 a mask hRead hMask =>
        cases h
        rw [append_of_cutFirst hCut]
        exact .masked hRead (readMask_eq_some_iff.mp hMask)
  · intro h
    cases h with
    | plain hRead =>
      rw [cutFirst_eq_none_iff.mpr (Ipv4.slash_not_mem hRead)]
      exact Option.map_eq_some_iff.mpr ⟨_, hRead, rfl⟩
    | masked hRead hMask =>
      rw [cutFirst_append_cons (Ipv4.slash_not_mem hRead)]
      dsimp only
      rw [hRead, readMask_eq_some_iff.mpr hMask]

/-- The refusal of a text, which it is told with. -/
def refused (s : List Char) : Except ConfigFault Network := .error (.badNetwork (String.ofList s))

theorem parse_eq_ok_iff : parse s = .ok n ↔ Spelled s n := by
  rw [← parse?_eq_some_iff, parse]
  cases parse? s <;> simp

theorem parse_eq_refused_iff : parse s = refused s ↔ ∀ n, ¬ Spelled s n := by
  simp only [← parse?_eq_some_iff, parse, refused]
  cases parse? s <;> simp

/-! ### Texts that are refused -/

theorem not_spelled_plain (hSlash : '/' ∉ s) (hRead : Ipv4.parse? s = none) : ¬ Spelled s n := by
  intro h
  cases h with
  | plain hRead' => cases hRead.symm.trans hRead'
  | masked => exact hSlash (by simp)

/-- The first slash parts the address from the mask. -/
theorem spelled_masked_iff (hSlash : '/' ∉ s) :
    Spelled (s ++ '/' :: m) n ↔ (∃ a, Ipv4.parse? s = some a ∧ a.bits = n.address) ∧
      Suffix m n.mask := by
  constructor
  · intro h
    have hCut := cutFirst_append_cons (b := m) hSlash
    generalize hText : s ++ '/' :: m = text at h hCut
    cases h with
    | plain hRead => exact absurd (hText ▸ by simp) (Ipv4.slash_not_mem hRead)
    | masked hRead hMask =>
      rw [cutFirst_append_cons (Ipv4.slash_not_mem hRead)] at hCut
      cases hCut
      exact ⟨⟨_, hRead, rfl⟩, hMask⟩
  · rintro ⟨⟨a, hRead, hBits⟩, hMask⟩
    have h := Spelled.masked hRead hMask
    rw [hBits] at h
    exact h

/-- **Networks in text.**  Whatever its mask, a network that is written is read again.  What is
read are the spellings, and every other text is refused: among them those whose address is
malformed, and those whose mask is a malformed dotted form, or has no point in it and is no
octet in decimal, or one over 32.  For every address, as many bits as there may be and the mask
with these bits at its top, the address with the count behind it and the address with the dotted
mask behind it are that network; the address alone is the network with all bits.  No mask of so
many bits asks for a shift by the whole width or more. -/
theorem networks_in_text :
    (∀ n : Network, parse n.text.toList = .ok n) ∧
    (∀ s n, parse s = .ok n ↔ Spelled s n) ∧
    (∀ s, (∀ n, parse s ≠ .ok n) → parse s = refused s) ∧
    (∀ s, '/' ∉ s → Ipv4.parse? s = none →
      parse s = refused s ∧ ∀ m, parse (s ++ '/' :: m) = refused (s ++ '/' :: m)) ∧
    (∀ s m, '/' ∉ s → '.' ∈ m → Ipv4.parse? m = none →
      parse (s ++ '/' :: m) = refused (s ++ '/' :: m)) ∧
    (∀ s m, '/' ∉ s → '.' ∉ m → (∀ bits, readUInt8 m = some bits → 32 < bits.toNat) →
      parse (s ++ '/' :: m) = refused (s ++ '/' :: m)) ∧
    (∀ (a : Ipv4) (bits : UInt8), bits.toNat ≤ 32 → ∃ mask, TopBits bits.toNat mask ∧
      parse (a.chars ++ '/' :: decimal bits.toNat) = .ok ⟨a.bits, mask⟩ ∧
      parse (a.chars ++ '/' :: Ipv4.chars ⟨mask⟩) = .ok ⟨a.bits, mask⟩) ∧
    (∀ a : Ipv4, parse a.chars = .ok ⟨a.bits, 0xFFFFFFFF⟩ ∧
      parse (a.chars ++ "/32".toList) = parse a.chars) ∧
    ∀ m mask, readMask m = some mask → '.' ∉ m → ∃ bits, readUInt8 m = some bits ∧
      mask = prefixMask bits ∧
      ∀ shift, prefixShift? bits = some shift →
        shift.toNat + bits.toNat = 32 ∧ shift.toNat < 32 := by
  have hCount {a : Ipv4} {bits : UInt8} {mask : UInt32} (hBits : bits.toNat ≤ 32)
      (hTop : TopBits bits.toNat mask) :
      parse (a.chars ++ '/' :: decimal bits.toNat) = .ok ⟨a.bits, mask⟩ := by
    have hPlain : '.' ∉ decimal bits.toNat := fun hMem =>
      absurd (isDigit_of_mem_decimal hMem) (by decide)
    exact parse_eq_ok_iff.mpr
      (.masked (Ipv4.parse?_chars a) (.count hPlain (readUInt8_decimal bits) hBits hTop))
  refine ⟨?_, fun s n => parse_eq_ok_iff, ?_, ?_, ?_, ?_, ?_, ?_, ?_⟩
  · intro n
    rw [text, String.toList_ofList]
    exact parse_eq_ok_iff.mpr (parse?_eq_some_iff.mp (parse?_chars n))
  · intro s hNone
    exact parse_eq_refused_iff.mpr fun n h => hNone n (parse_eq_ok_iff.mpr h)
  · intro s hSlash hRead
    refine ⟨parse_eq_refused_iff.mpr fun n => not_spelled_plain hSlash hRead, fun m => ?_⟩
    refine parse_eq_refused_iff.mpr fun n h => ?_
    obtain ⟨⟨a, hRead', -⟩, -⟩ := (spelled_masked_iff hSlash).mp h
    cases hRead.symm.trans hRead'
  · intro s m hSlash hPoint hRead
    refine parse_eq_refused_iff.mpr fun ⟨address, mask⟩ h => ?_
    cases ((spelled_masked_iff hSlash).mp h).2 with
    | dotted _ hRead' => cases hRead.symm.trans hRead'
    | count hPlain => exact hPlain hPoint
  · intro s m hSlash hPlain hLarge
    refine parse_eq_refused_iff.mpr fun ⟨address, mask⟩ h => ?_
    cases ((spelled_masked_iff hSlash).mp h).2 with
    | dotted hPoint => exact hPlain hPoint
    | count _ hRead hBits => exact absurd (hLarge _ hRead) (Nat.not_lt.mpr hBits)
  · intro a bits hBits
    have hTop := topBits_prefixMask hBits
    refine ⟨prefixMask bits, hTop, hCount hBits hTop, ?_⟩
    exact parse_eq_ok_iff.mpr (parse?_eq_some_iff.mp (parse?_chars ⟨a.bits, prefixMask bits⟩))
  · intro a
    have hPlain : parse a.chars = .ok ⟨a.bits, 0xFFFFFFFF⟩ :=
      parse_eq_ok_iff.mpr (.plain (Ipv4.parse?_chars a))
    have hAll : TopBits (32 : UInt8).toNat 0xFFFFFFFF := by decide
    exact ⟨hPlain, (hCount (by decide) hAll).trans hPlain.symm⟩
  · intro m mask hRead hPlain
    cases readMask_eq_some_iff.mp hRead with
    | dotted hPoint => exact absurd hPoint hPlain
    | count _ hBits hSmall hTop =>
      exact ⟨_, hBits, (topBits_iff hSmall).mp hTop,
        fun shift => (prefixShift?_eq_some_iff hSmall).mp⟩

end Network

end SocksGateway
