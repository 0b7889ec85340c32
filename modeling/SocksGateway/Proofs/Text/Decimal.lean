import SocksGateway.Proofs.Text.Words
import SocksGateway.Text.Decimal

/-!
# Written numbers read back

A number is written with its digits and without leading zeros, which every reader of numbers
accepts.

* `readDigits_decimal`, `readUInt8_decimal`, `readUInt16_decimal`: the digits are read as the
  number.
* `isDigit_of_readNat`: and nothing but digits, with a sign in front of them, is read as one.
* `head?_decimal`: only zero begins with a zero.
* `isWord_decimal`: a written number is one word.
-/

namespace SocksGateway.Text

variable {cs : List Char} {c : Char}

/-! ### Digits -/

theorem toNat_of_isDigit (hDigit : c.isDigit = true) : 48 ≤ c.toNat ∧ c.toNat ≤ 57 := by
  rw [Char.isDigit, Bool.and_eq_true, decide_eq_true_eq, decide_eq_true_eq] at hDigit
  exact hDigit

theorem digit?_of_isDigit (hDigit : c.isDigit = true) :
    digit? c = some (c.toNat - '0'.toNat) := by
  rw [Char.isDigit, Bool.and_eq_true, decide_eq_true_eq, decide_eq_true_eq] at hDigit
  exact if_pos hDigit

theorem not_blank_of_isDigit (hDigit : c.isDigit = true) : isBlank c = false := by
  have hRange := toNat_of_isDigit hDigit
  simp only [isBlank, blankRanges, List.any_cons, List.any_nil, Bool.or_false, Bool.or_eq_false_iff,
    Bool.and_eq_false_iff, decide_eq_false_iff_not]
  omega

theorem readDigits_of_forall {acc : Nat} (hDigits : ∀ c ∈ cs, c.isDigit = true) :
    readDigits acc cs = some (Nat.ofDigitChars 10 cs acc) := by
  induction cs generalizing acc with
  | nil => rfl
  | cons c cs ih =>
    rw [readDigits, digit?_of_isDigit (hDigits c List.mem_cons_self)]
    exact ih fun d hd => hDigits d (List.mem_cons_of_mem c hd)

theorem readNat_of_forall (hSome : cs ≠ []) (hDigits : ∀ c ∈ cs, c.isDigit = true) :
    readNat cs = readDigits 0 cs := by
  unfold readNat
  split
  case h_1 => exact absurd rfl hSome
  case h_2 => exact absurd (hDigits '+' List.mem_cons_self) (by decide)
  case h_3 => exact absurd (hDigits '+' List.mem_cons_self) (by decide)
  case h_4 => rfl

theorem isDigit_of_digit? {d : Nat} (h : digit? c = some d) : c.isDigit = true := by
  unfold digit? at h
  split at h
  case isTrue hRange =>
    rw [Char.isDigit, Bool.and_eq_true, decide_eq_true_eq, decide_eq_true_eq]
    exact hRange
  case isFalse => cases h

theorem isDigit_of_readDigits {acc n : Nat} (h : readDigits acc cs = some n) :
    ∀ c ∈ cs, c.isDigit = true := by
  induction cs generalizing acc with
  | nil => exact fun c hc => absurd hc List.not_mem_nil
  | cons c cs ih =>
    rw [readDigits] at h
    cases hDigit : digit? c with
    | none =>
      rw [hDigit] at h
      cases h
    | some d =>
      rw [hDigit] at h
      rw [List.forall_mem_cons]
      exact ⟨isDigit_of_digit? hDigit, ih h⟩

theorem isDigit_of_readNat {n : Nat} (h : readNat cs = some n) :
    ∀ c ∈ cs, c.isDigit = true ∨ c = '+' := by
  unfold readNat at h
  split at h
  case h_1 => cases h
  case h_2 => cases h
  case h_3 =>
    rw [List.forall_mem_cons]
    exact ⟨.inr rfl, fun c hc => .inl (isDigit_of_readDigits h c hc)⟩
  case h_4 => exact fun c hc => .inl (isDigit_of_readDigits h c hc)

/-! ### Written numbers -/

theorem decimal_ne_nil (n : Nat) : decimal n ≠ [] := Nat.toDigits_ne_nil

theorem isDigit_of_mem_decimal {n : Nat} (hc : c ∈ decimal n) : c.isDigit = true :=
  Nat.isDigit_of_mem_toDigits (by decide) (by decide) hc

theorem isWord_decimal (n : Nat) : IsWord (decimal n) where
  ne_nil := decimal_ne_nil n
  not_blank _ hc := not_blank_of_isDigit (isDigit_of_mem_decimal hc)

theorem readDigits_decimal (n : Nat) : readDigits 0 (decimal n) = some n := by
  rw [readDigits_of_forall fun c => isDigit_of_mem_decimal]
  exact congrArg some Nat.ofDigitChars_ten_toDigits

theorem head?_decimal {n : Nat} (hZero : (decimal n).head? = some '0') : n = 0 := by
  induction n using Nat.strongRecOn with
  | _ n ih =>
    rw [decimal, Nat.toDigits_eq_if (by decide)] at hZero
    by_cases hSmall : n < 10
    · rw [if_pos hSmall, List.head?_cons, Option.some.injEq] at hZero
      have hDigits : ∀ m < 10, Nat.digitChar m = '0' → m = 0 := by decide
      exact hDigits n hSmall hZero
    · rw [if_neg hSmall, List.head?_append] at hZero
      cases hFront : (Nat.toDigits 10 (n / 10)).head? with
      | none => exact absurd (List.head?_eq_none_iff.mp hFront) Nat.toDigits_ne_nil
      | some c =>
        rw [hFront] at hZero
        have hQuotient := ih (n / 10) (by omega) (hFront.trans hZero)
        omega

theorem readUInt16_decimal (p : UInt16) : readUInt16 (decimal p.toNat) = some p := by
  rw [readUInt16, readNat_of_forall (decimal_ne_nil _) fun c => isDigit_of_mem_decimal,
    readDigits_decimal]
  dsimp only
  rw [if_pos p.toNat_lt]
  exact congrArg some UInt16.ofNat_toNat

theorem readUInt8_decimal (n : UInt8) : readUInt8 (decimal n.toNat) = some n := by
  rw [readUInt8, readNat_of_forall (decimal_ne_nil _) fun c => isDigit_of_mem_decimal,
    readDigits_decimal]
  dsimp only
  rw [if_pos n.toNat_lt]
  exact congrArg some UInt8.ofNat_toNat

end SocksGateway.Text
