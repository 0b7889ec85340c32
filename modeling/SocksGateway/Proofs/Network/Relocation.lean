import Mathlib.Data.Set.Function
import SocksGateway.Network

/-!
# Relocation bit by bit

A mask of any shape parts the bits of an address in two: those it covers belong to the network,
the others to the address.  Relocation exchanges the first and keeps the second, and is told
by that: `relocate_eq_iff` says that the relocated address is the one address of the network
that agrees with the given one outside the mask.  What else is stated here about relocation
follows from it.

* `Covers`, `AgreeOutside`: a mask bit by bit.
* `testBit_relocate`, `contains_iff`: the definitions bit by bit.
* `relocate_eq_iff`, `relocate_eq_relocate_iff`: what a relocated address is, and when two of
  them are the same.
* `relocate_relocate`: of two relocations the later one counts.
* `injOn_relocate_iff`, `surjOn_relocate_iff`: when relocation is one-to-one between two
  networks, and when it reaches every address.
-/

namespace SocksGateway

namespace Network

variable {n t : Network} {a b c : UInt32} {i : Nat}

/-! ### Bits -/

theorem eq_of_testBit (h : ∀ i < 32, a.toNat.testBit i = b.toNat.testBit i) : a = b := by
  refine UInt32.eq_of_toBitVec_eq (BitVec.eq_of_getLsbD_eq fun i hi => ?_)
  rw [← BitVec.testBit_toNat, ← BitVec.testBit_toNat]
  exact h i hi

theorem testBit_not (hi : i < 32) : (~~~a).toNat.testBit i = !a.toNat.testBit i := by
  rw [← UInt32.toNat_toBitVec, ← UInt32.toNat_toBitVec, UInt32.toBitVec_not,
    BitVec.testBit_toNat, BitVec.testBit_toNat, BitVec.getLsbD_not, decide_eq_true hi,
    Bool.true_and]

/-- The mask counts the bit at this place to the network. -/
def Covers (n : Network) (i : Nat) : Prop := n.mask.toNat.testBit i = true

instance (n : Network) (i : Nat) : Decidable (n.Covers i) := inferInstanceAs (Decidable (_ = _))

/-- Every bit that the mask does not cover is the same in both addresses. -/
def AgreeOutside (n : Network) (a b : UInt32) : Prop :=
  ∀ i < 32, ¬ n.Covers i → a.toNat.testBit i = b.toNat.testBit i

instance (n : Network) (a b : UInt32) : Decidable (n.AgreeOutside a b) :=
  inferInstanceAs (Decidable (∀ i < 32, _))

theorem covers_congr (hMask : n.mask = t.mask) : n.Covers i ↔ t.Covers i := by
  rw [Covers, Covers, hMask]

theorem mask_eq_of_covers (h : ∀ i < 32, n.Covers i ↔ t.Covers i) : n.mask = t.mask :=
  eq_of_testBit fun i hi => Bool.eq_iff_iff.mpr (h i hi)

namespace AgreeOutside

theorem refl (n : Network) (a : UInt32) : n.AgreeOutside a a := fun _ _ _ => rfl

theorem symm (h : n.AgreeOutside a b) : n.AgreeOutside b a :=
  fun i hi hOutside => (h i hi hOutside).symm

theorem trans (h : n.AgreeOutside a b) (h' : n.AgreeOutside b c) : n.AgreeOutside a c :=
  fun i hi hOutside => (h i hi hOutside).trans (h' i hi hOutside)

theorem mono (hMore : ∀ i < 32, n.Covers i → t.Covers i) (h : n.AgreeOutside a b) :
    t.AgreeOutside a b :=
  fun i hi hOutside => h i hi fun hCovers => hOutside (hMore i hi hCovers)

end AgreeOutside

/-! ### The definitions bit by bit -/

theorem testBit_relocate (n : Network) (a : UInt32) (hi : i < 32) :
    (n.relocate a).toNat.testBit i =
      if n.Covers i then n.address.toNat.testBit i else a.toNat.testBit i := by
  rw [relocate, UInt32.toNat_or, UInt32.toNat_and, UInt32.toNat_and, Nat.testBit_or,
    Nat.testBit_and, Nat.testBit_and, testBit_not hi]
  by_cases hCovers : n.Covers i
  · rw [if_pos hCovers, show n.mask.toNat.testBit i = true from hCovers]
    simp
  · rw [if_neg hCovers, Bool.eq_false_of_not_eq_true hCovers]
    simp

/-- **A network holds the addresses that agree with its own where its mask covers the bit.** -/
theorem contains_iff : n.contains a = true ↔
    ∀ i < 32, n.Covers i → a.toNat.testBit i = n.address.toNat.testBit i := by
  have hBits (b : UInt32) (i : Nat) : (b &&& n.mask).toNat.testBit i =
      (b.toNat.testBit i && n.mask.toNat.testBit i) := by
    rw [UInt32.toNat_and, Nat.testBit_and]
  rw [contains, beq_iff_eq]
  constructor
  · intro h i _ hCovers
    have hBit := congrArg (fun b => b.toNat.testBit i) h
    simpa only [hBits, show n.mask.toNat.testBit i = true from hCovers, Bool.and_true] using hBit
  · intro h
    refine eq_of_testBit fun i hi => ?_
    rw [hBits, hBits]
    by_cases hCovers : n.Covers i
    · rw [h i hi hCovers]
    · rw [Bool.eq_false_of_not_eq_true hCovers, Bool.and_false, Bool.and_false]

/-! ### Relocated addresses -/

/-- **The relocated address is the one address of the network that agrees with the given one
outside the mask.** -/
theorem relocate_eq_iff : n.relocate a = b ↔ n.contains b = true ∧ n.AgreeOutside a b := by
  rw [contains_iff]
  constructor
  · rintro rfl
    refine ⟨fun i hi hCovers => ?_, fun i hi hOutside => ?_⟩
    · rw [testBit_relocate n a hi, if_pos hCovers]
    · rw [testBit_relocate n a hi, if_neg hOutside]
  · rintro ⟨hInside, hOutside⟩
    refine eq_of_testBit fun i hi => ?_
    rw [testBit_relocate n a hi]
    split
    case isTrue hCovers => exact (hInside i hi hCovers).symm
    case isFalse hNot => exact hOutside i hi hNot

theorem contains_relocate (n : Network) (a : UInt32) : n.contains (n.relocate a) = true :=
  (relocate_eq_iff.mp rfl).1

theorem agreeOutside_relocate (n : Network) (a : UInt32) : n.AgreeOutside a (n.relocate a) :=
  (relocate_eq_iff.mp rfl).2

theorem contains_iff_relocate_eq : n.contains a = true ↔ n.relocate a = a :=
  ⟨fun h => relocate_eq_iff.mpr ⟨h, .refl n a⟩, fun h => (relocate_eq_iff.mp h).1⟩

theorem relocate_eq_relocate_iff : n.relocate a = n.relocate b ↔ n.AgreeOutside a b := by
  rw [relocate_eq_iff]
  constructor
  · rintro ⟨-, h⟩
    exact h.trans (agreeOutside_relocate n b).symm
  · intro h
    exact ⟨contains_relocate n b, h.trans (agreeOutside_relocate n b)⟩

/-- **Of two relocations the later one counts**, if its mask covers at least as much. -/
theorem relocate_relocate (hMore : ∀ i < 32, n.Covers i → t.Covers i) (a : UInt32) :
    t.relocate (n.relocate a) = t.relocate a :=
  relocate_eq_relocate_iff.mpr ((agreeOutside_relocate n a).symm.mono hMore)

/-- An address of a network is found again in it, wherever it was relocated to by a mask that
covers no more. -/
theorem relocate_relocate_of_contains (hLess : ∀ i < 32, t.Covers i → n.Covers i)
    (ha : n.contains a = true) : n.relocate (t.relocate a) = a :=
  (relocate_relocate hLess a).trans (contains_iff_relocate_eq.mp ha)

/-! ### From one network into another -/

/-- The addresses of the network. -/
def addresses (n : Network) : Set UInt32 := {a | n.contains a = true}

/-- **Relocation from one network into another is one-to-one** exactly if it overwrites no bit
that tells two addresses of the first apart. -/
theorem injOn_relocate_iff :
    Set.InjOn t.relocate n.addresses ↔ ∀ i < 32, t.Covers i → n.Covers i := by
  constructor
  · intro hInj i hi ht
    by_contra hn
    -- These two addresses of the first network differ only in bits that the second overwrites.
    have hSame : t.relocate (n.relocate 0) = t.relocate (n.relocate t.mask) := by
      refine relocate_eq_relocate_iff.mpr fun j hj hOutside => ?_
      rw [testBit_relocate n 0 hj, testBit_relocate n t.mask hj,
        Bool.eq_false_of_not_eq_true hOutside, UInt32.toNat_zero, Nat.zero_testBit]
    have hBit := relocate_eq_relocate_iff.mp
      (hInj (contains_relocate n 0) (contains_relocate n t.mask) hSame) i hi hn
    rw [UInt32.toNat_zero, Nat.zero_testBit, show t.mask.toNat.testBit i = true from ht] at hBit
    cases hBit
  · intro hLess a ha b hb hSame
    have hBack := congrArg n.relocate hSame
    rwa [relocate_relocate_of_contains hLess ha, relocate_relocate_of_contains hLess hb] at hBack

-- A target whose mask covers more makes one address of two.
example :
    let n : Network := ⟨0x0A000000, 0xFF000000⟩
    let t : Network := ⟨0xC0A80000, 0xFFFF0000⟩
    n.contains 0x0A010203 = true ∧ n.contains 0x0A020203 = true ∧
      t.AgreeOutside 0x0A010203 0x0A020203 ∧ t.relocate 0x0A010203 = t.relocate 0x0A020203 := by
  decide

/-- **Relocation from one network into another reaches every address** exactly if it overwrites
every bit that the addresses of the first have in common. -/
theorem surjOn_relocate_iff :
    Set.SurjOn t.relocate n.addresses t.addresses ↔ ∀ i < 32, n.Covers i → t.Covers i := by
  constructor
  · intro hSurj i hi hn
    by_contra ht
    obtain ⟨a, ha, hSame⟩ := hSurj (contains_relocate t (~~~n.address))
    have hBit := relocate_eq_relocate_iff.mp hSame i hi ht
    rw [contains_iff.mp ha i hi hn, testBit_not hi] at hBit
    exact (Bool.eq_not_self _).mp hBit
  · intro hMore b hb
    exact ⟨n.relocate b, contains_relocate n b, relocate_relocate_of_contains hMore hb⟩

theorem mapsTo_relocate (t : Network) (s : Set UInt32) : Set.MapsTo t.relocate s t.addresses :=
  fun a _ => contains_relocate t a

/-- **Two networks correspond address by address** exactly if they have the same mask. -/
theorem bijOn_relocate_iff :
    Set.BijOn t.relocate n.addresses t.addresses ↔ n.mask = t.mask := by
  constructor
  · rintro ⟨-, hInj, hSurj⟩
    exact mask_eq_of_covers fun i hi =>
      ⟨surjOn_relocate_iff.mp hSurj i hi, injOn_relocate_iff.mp hInj i hi⟩
  · intro hMask
    exact ⟨mapsTo_relocate t _, injOn_relocate_iff.mpr fun i _ => (covers_congr hMask).mpr,
      surjOn_relocate_iff.mpr fun i _ => (covers_congr hMask).mp⟩

theorem invOn_relocate (hMask : n.mask = t.mask) :
    Set.InvOn n.relocate t.relocate n.addresses t.addresses :=
  ⟨fun _ ha => relocate_relocate_of_contains (fun _ _ => (covers_congr hMask).mpr) ha,
    fun _ hb => relocate_relocate_of_contains (fun _ _ => (covers_congr hMask).mp) hb⟩

end Network

end SocksGateway
