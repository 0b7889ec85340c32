import Mathlib.Data.List.Forall2
import SocksGateway.Json.Parser
import SocksGateway.Json.Quote
import SocksGateway.Proofs.Text.Decimal
import SocksGateway.Text.Join

/-!
# Written JSON read back

A value is read back from its text whatever follows it, as long as a comma or a bracket comes
first.

* `readString_quote`: a string in quotes is read as that string.
* `Value.ofNat`, `readNumber_decimal`: a number of 64 bits is read as that number.
* `Reads`: a text is read as a value; `reads_object`, `reads_array` put such texts together.
* `parse?_of_reads`: what a whole text is.
-/

namespace SocksGateway

namespace Json

variable {depth fuel n : Nat} {c : Char} {cs rest text : List Char}

/-! ### Strings -/

theorem hexByte_of_lt : ∀ n < 32,
    Text.hexByte n.toUInt8 = [Nat.digitChar (n / 16), Nat.digitChar (n % 16)] ∧
      Text.hexDigit? (Nat.digitChar (n / 16)) = some (n / 16) ∧
      Text.hexDigit? (Nat.digitChar (n % 16)) = some (n % 16) := by
  decide

theorem readEscape_control (hControl : c.toNat < 0x20) :
    readEscape ('u' :: '0' :: '0' :: (Text.hexByte c.toNat.toUInt8 ++ rest)) = some (c, rest) := by
  obtain ⟨hByte, hHigh, hLow⟩ := hexByte_of_lt c.toNat hControl
  have hZero : Text.hexDigit? '0' = some 0 := by decide
  have hUnit : readUnit ('0' :: '0' :: (Text.hexByte c.toNat.toUInt8 ++ rest)) =
      some (c.toNat, rest) := by
    have hSum : 16 * (16 * (16 * 0 + 0) + c.toNat / 16) + c.toNat % 16 = c.toNat := by omega
    simp only [hByte, List.cons_append, List.nil_append, readUnit, hZero, hHigh, hLow,
      Option.bind_eq_bind, Option.bind_some, hSum]
  have hPlain : ¬ 0xD800 ≤ c.toNat := by omega
  have hPlainLow : ¬ 0xDC00 ≤ c.toNat := by omega
  simp [readEscape, readCodePoint, hUnit, hPlain, hPlainLow]

/-- **A character in quotes** is an escape, which is read as the character, or it stands for
itself. -/
theorem quoteChar_cases (c : Char) :
    (∃ escape, quoteChar c = '\\' :: escape ∧
      ∀ rest, readEscape (escape ++ rest) = some (c, rest)) ∨
    (quoteChar c = [c] ∧ c ≠ '"' ∧ c ≠ '\\' ∧ ¬ c.toNat < 0x20) := by
  unfold quoteChar
  split
  case h_1 => exact .inl ⟨_, rfl, fun _ => rfl⟩
  case h_2 => exact .inl ⟨_, rfl, fun _ => rfl⟩
  case h_3 => exact .inl ⟨_, rfl, fun _ => rfl⟩
  case h_4 => exact .inl ⟨_, rfl, fun _ => rfl⟩
  case h_5 => exact .inl ⟨_, rfl, fun _ => rfl⟩
  case h_6 hQuote hBackslash _ _ _ =>
    by_cases hBack : c.toNat = 0x8
    · obtain rfl : c = '\x08' := Char.toNat_inj.mp hBack
      exact .inl ⟨_, rfl, fun _ => rfl⟩
    by_cases hFeed : c.toNat = 0xC
    · obtain rfl : c = '\x0c' := Char.toNat_inj.mp hFeed
      exact .inl ⟨_, rfl, fun _ => rfl⟩
    rw [if_neg hBack, if_neg hFeed]
    by_cases hControl : c.toNat < 0x20
    · rw [if_pos hControl]
      exact .inl ⟨_, rfl, fun _ => readEscape_control hControl⟩
    · rw [if_neg hControl]
      exact .inr ⟨rfl, hQuote, hBackslash, hControl⟩

/-- **The characters of a string** are read back, one at a time, up to the closing quote. -/
theorem readChars_quoteChars (hFuel : cs.length < fuel) :
    readChars fuel (cs.flatMap quoteChar ++ '"' :: rest) = some (cs, rest) := by
  induction cs generalizing fuel with
  | nil =>
    obtain ⟨fuel, rfl⟩ := Nat.exists_eq_add_one_of_ne_zero (Nat.ne_zero_of_lt hFuel)
    simp [readChars]
  | cons c cs ih =>
    obtain ⟨fuel, rfl⟩ := Nat.exists_eq_add_one_of_ne_zero (Nat.ne_zero_of_lt hFuel)
    have hRest := @ih fuel (by simpa using hFuel)
    rw [List.flatMap_cons, List.append_assoc]
    rcases quoteChar_cases c with ⟨escape, hQuoted, hRead⟩ | ⟨hQuoted, hQuote, hBackslash, hPlain⟩
    · simp [hQuoted, readChars, hRead, hRest]
    · simp [hQuoted, readChars, hQuote, hBackslash, hPlain, hRest]

theorem length_le_quoteChars (cs : List Char) : cs.length ≤ (cs.flatMap quoteChar).length := by
  induction cs with
  | nil => exact Nat.le_refl 0
  | cons c cs ih =>
    rw [List.flatMap_cons, List.length_append, List.length_cons]
    rcases quoteChar_cases c with ⟨escape, hQuoted, -⟩ | ⟨hQuoted, -⟩
    · rw [hQuoted, List.length_cons]
      omega
    · rw [hQuoted, List.length_singleton]
      omega

theorem readString_quote (s : String) :
    readString ((quote s).toList ++ rest) = some (s, rest) := by
  have hFuel : s.toList.length < (s.toList.flatMap quoteChar ++ '"' :: rest).length := by
    rw [List.length_append, List.length_cons]
    exact Nat.lt_of_le_of_lt (length_le_quoteChars s.toList) (by omega)
  have hText : (quote s).toList ++ rest = '"' :: (s.toList.flatMap quoteChar ++ '"' :: rest) := by
    simp [quote]
  rw [hText, readString, readChars_quoteChars hFuel]
  exact congrArg (fun s => some (s, rest)) String.ofList_toList

/-! ### Numbers -/

/-- What may follow a value: nothing, a comma, or a closing bracket. -/
def Ends (rest : List Char) : Prop := ∀ c ∈ rest.head?, c = ',' ∨ c = ']' ∨ c = '\x7d'

theorem ends_nil : Ends [] := fun c hc => by cases hc

theorem ends_cons (cs : List Char) (h : c = ',' ∨ c = ']' ∨ c = '\x7d') : Ends (c :: cs) := by
  rintro _ ⟨⟩
  exact h

/-- The digits of a number by value. -/
def digitsOf (n : Nat) : List Nat := (Text.decimal n).map fun c => c.toNat - '0'.toNat

/-- A number as a value. -/
def Value.ofNat (n : Nat) : Value := .number { whole := digitsOf n }

theorem ofDigits_digitsOf (n : Nat) : Number.ofDigits (digitsOf n) = n := by
  rw [Number.ofDigits, digitsOf, List.foldl_map]
  exact Nat.ofDigitChars_ten_toDigits

theorem le_foldl_digits (ds : List Nat) (n : Nat) : n ≤ ds.foldl (fun n d => 10 * n + d) n := by
  induction ds generalizing n with
  | nil => exact Nat.le_refl n
  | cons d ds ih => exact Nat.le_trans (by omega) (ih (10 * n + d))

theorem takeDigits_of_lt {ds : List Nat}
    (hLimit : ds.foldl (fun n d => 10 * n + d) n < Number.wholeLimit) :
    Number.takeDigits n ds = (ds.foldl (fun n d => 10 * n + d) n, 0) := by
  induction ds generalizing n with
  | nil => rfl
  | cons d ds ih =>
    rw [List.foldl_cons] at hLimit
    rw [Number.takeDigits, if_pos (Nat.lt_of_le_of_lt (le_foldl_digits ds _) hLimit), ih hLimit]
    rfl

theorem round53_le (n : Nat) : Number.round53 n ≤ 2 * n := by
  unfold Number.round53
  by_cases hSmall : n < Nat.pow 2 53
  · rw [if_pos hSmall]
    omega
  rw [if_neg hSmall]
  have hPos : n ≠ 0 := by
    rintro rfl
    exact hSmall (by decide)
  have hUnit : Nat.pow 2 (Nat.log2 n - 52) ≤ n :=
    Nat.le_trans (Nat.pow_le_pow_right (by decide) (Nat.sub_le _ _)) (Nat.log2_self_le hPos)
  have hDown := Nat.div_mul_le_self n (Nat.pow 2 (Nat.log2 n - 52))
  dsimp only
  split
  · rw [Nat.add_mul, Nat.one_mul]
    omega
  · omega

theorem isFinite_ofNat (hLimit : n < Number.wholeLimit) :
    Number.isFinite { whole := digitsOf n } = true := by
  have hTake : Number.takeDigits 0 (digitsOf n) = (n, 0) := by
    have hDigits := ofDigits_digitsOf n
    rw [Number.ofDigits] at hDigits
    rw [takeDigits_of_lt (by rwa [hDigits]), hDigits]
  have hScaled : Number.scaled { whole := digitsOf n } = (n, 0) := by
    simp [Number.scaled, hTake, Number.takeDigits]
  have hRange : Number.round53 n * Number.round53 (Nat.pow 10 0) < Number.infinityThreshold :=
    calc Number.round53 n * Number.round53 (Nat.pow 10 0)
      _ = Number.round53 n := Nat.mul_one _
      _ ≤ 2 * n := round53_le n
      _ ≤ 2 * Number.wholeLimit := by omega
      _ < Number.infinityThreshold := by decide +kernel
  rw [Number.isFinite, hScaled]
  simpa using .inr hRange

theorem natural?_ofNat (hLimit : n < Number.wholeLimit) {limit : Nat} (h : n < limit) :
    (Value.ofNat n).natural? limit = some n := by
  simp [Value.ofNat, Value.natural?, Number.natural?, ofDigits_digitsOf, hLimit, h]

theorem digit?_of_ends (hEnds : Ends rest) : ∀ c ∈ rest.head?, Text.digit? c = none := by
  intro c hc
  rcases hEnds c hc with rfl | rfl | rfl <;> decide

theorem readDigits_append (hDigits : ∀ c ∈ cs, c.isDigit = true)
    (hRest : ∀ c ∈ rest.head?, Text.digit? c = none) :
    readDigits (cs ++ rest) = (cs.map fun c => c.toNat - '0'.toNat, rest) := by
  induction cs with
  | nil =>
    cases rest with
    | nil => rfl
    | cons c rest => simp [readDigits, hRest c rfl]
  | cons c cs ih =>
    have hFirst := Text.digit?_of_isDigit (hDigits c List.mem_cons_self)
    simp [readDigits, hFirst, ih fun d hd => hDigits d (List.mem_cons_of_mem c hd)]

theorem digitsOf_ne_zero_cons {d : Nat} {ds : List Nat} : digitsOf n ≠ 0 :: d :: ds := by
  intro hDigits
  obtain ⟨c, cs, hText, hValue, hMore⟩ := List.map_eq_cons_iff.mp hDigits
  have hDigit : c.isDigit = true := Text.isDigit_of_mem_decimal (n := n) (by simp [hText])
  have hRange := Text.toNat_of_isDigit hDigit
  have hZero : c.toNat = '0'.toNat := Nat.le_antisymm (Nat.sub_eq_zero_iff_le.mp hValue) hRange.1
  obtain rfl := Char.toNat_inj.mp hZero
  obtain rfl := Text.head?_decimal (n := n) (by rw [hText, List.head?_cons])
  obtain ⟨-, rfl⟩ := List.cons.inj (hText.symm.trans (show Text.decimal 0 = ['0'] by decide))
  cases hMore

theorem readWhole_decimal (hEnds : Ends rest) :
    readWhole (Text.decimal n ++ rest) = some (digitsOf n, rest) := by
  have hDigits : readDigits (Text.decimal n ++ rest) = (digitsOf n, rest) :=
    readDigits_append (fun _ => Text.isDigit_of_mem_decimal) (digit?_of_ends hEnds)
  rw [readWhole, readDigits1, hDigits]
  cases hValues : digitsOf n with
  | nil => exact absurd (List.map_eq_nil_iff.mp hValues) (Text.decimal_ne_nil n)
  | cons d ds =>
    cases d with
    | succ d => rfl
    | zero =>
      cases ds with
      | nil => rfl
      | cons e ds => exact absurd hValues digitsOf_ne_zero_cons

theorem readFraction_of_ends (hEnds : Ends rest) : readFraction rest = some (none, rest) := by
  cases rest with
  | nil => rfl
  | cons c rest => rcases hEnds c rfl with rfl | rfl | rfl <;> rfl

theorem readExponent_of_ends (hEnds : Ends rest) : readExponent rest = some (none, rest) := by
  cases rest with
  | nil => rfl
  | cons c rest => rcases hEnds c rfl with rfl | rfl | rfl <;> rfl

theorem exists_decimal (n : Nat) : ∃ c cs, Text.decimal n = c :: cs ∧ c.isDigit = true := by
  obtain ⟨c, cs, hText⟩ := List.exists_cons_of_ne_nil (Text.decimal_ne_nil n)
  exact ⟨c, cs, hText, Text.isDigit_of_mem_decimal (n := n) (by simp [hText])⟩

theorem readNumber_decimal (hLimit : n < Number.wholeLimit) (hEnds : Ends rest) :
    readNumber (Text.decimal n ++ rest) = some ({ whole := digitsOf n }, rest) := by
  have hUnsigned : readUnsigned false (Text.decimal n ++ rest) =
      some ({ whole := digitsOf n }, rest) := by
    simp [readUnsigned, readWhole_decimal hEnds, readFraction_of_ends hEnds,
      readExponent_of_ends hEnds, isFinite_ofNat hLimit]
  obtain ⟨c, cs, hText, hDigit⟩ := exists_decimal n
  rw [hText, List.cons_append] at hUnsigned ⊢
  have hSign : c ≠ '-' := by
    rintro rfl
    cases hDigit
  rw [← hUnsigned]
  unfold readNumber
  split
  case h_1 hEq => exact absurd (List.cons.inj hEq).1 hSign
  case h_2 => rfl

/-! ### Values -/

theorem skipSpaces_of_not_space (hSpace : isSpace c = false) :
    skipSpaces (c :: cs) = c :: cs := by
  simp [skipSpaces, hSpace]

theorem readValue_of_scalar (hSpace : isSpace c = false) (hArray : c ≠ '[') (hObject : c ≠ '\x7b') :
    readValue (fuel + 1) depth (c :: cs) = readScalar (c :: cs) := by
  rw [readValue, skipSpaces_of_not_space hSpace]
  split
  case h_1 hEq => exact absurd (List.cons.inj hEq).1 hArray
  case h_2 hEq => exact absurd (List.cons.inj hEq).1 hObject
  case h_3 => rfl

/-- **The text is read as this value**, in front of anything that may follow a value.  Twice its
length is fuel enough. -/
structure Reads (depth : Nat) (text : List Char) (v : Value) : Prop where
  starts : ∃ c cs, text = c :: cs ∧ isSpace c = false ∧ c ≠ ']'
  read : ∀ (fuel : Nat) {rest : List Char}, 2 * text.length ≤ fuel → Ends rest →
    readValue fuel depth (text ++ rest) = some (v, rest)

theorem reads_of_scalar {v : Value} (hSpace : isSpace c = false)
    (hBracket : c ≠ '[' ∧ c ≠ ']' ∧ c ≠ '\x7b')
    (hRead : ∀ rest, Ends rest → readScalar (c :: (cs ++ rest)) = some (v, rest)) :
    Reads depth (c :: cs) v where
  starts := ⟨c, cs, rfl, hSpace, hBracket.2.1⟩
  read fuel rest hFuel hEnds := by
    obtain ⟨fuel, rfl⟩ := Nat.exists_eq_add_one_of_ne_zero (n := fuel) (by grind)
    rw [List.cons_append, readValue_of_scalar hSpace hBracket.1 hBracket.2.2]
    exact hRead rest hEnds

theorem reads_string (s : String) : Reads depth (quote s).toList (.string s) := by
  have hText : (quote s).toList = '"' :: (s.toList.flatMap quoteChar ++ ['"']) := by
    rw [quote, String.toList_ofList]
  have hScalar (cs : List Char) : readScalar ('"' :: cs) =
      (readString ('"' :: cs)).map fun r => (.string r.1, r.2) := rfl
  rw [hText]
  refine reads_of_scalar (by decide) (by decide) fun rest _ => ?_
  rw [hScalar, ← List.cons_append, ← hText, readString_quote, Option.map_some]

theorem reads_nat (hLimit : n < Number.wholeLimit) :
    Reads depth (toString n).toList (.ofNat n) := by
  have hDecimal : (toString n).toList = Text.decimal n := String.toList_ofList
  obtain ⟨c, cs, hText, hDigit⟩ := exists_decimal n
  have hOther {d : Char} (hd : d.isDigit = false) : c ≠ d := by
    rintro rfl
    rw [hd] at hDigit
    cases hDigit
  have hScalar (cs : List Char) : readScalar (c :: cs) =
      (readNumber (c :: cs)).map fun r => (.number r.1, r.2) := by
    unfold readScalar
    split
    case h_1 hEq => exact absurd (List.cons.inj hEq).1 (hOther rfl)
    case h_2 hEq => exact absurd (List.cons.inj hEq).1 (hOther rfl)
    case h_3 hEq => exact absurd (List.cons.inj hEq).1 (hOther rfl)
    case h_4 hEq => exact absurd (List.cons.inj hEq).1 (hOther rfl)
    case h_5 => rfl
  rw [hDecimal, hText]
  refine reads_of_scalar ?_ ⟨hOther rfl, hOther rfl, hOther rfl⟩ fun rest hEnds => ?_
  · simp [isSpace, hOther]
  · rw [hScalar, ← List.cons_append, ← hText, readNumber_decimal hLimit hEnds]
    rfl

theorem reads_null : Reads depth "null".toList .null := by
  have hText : "null".toList = ['n', 'u', 'l', 'l'] := by decide
  rw [hText]
  refine reads_of_scalar (by decide) (by decide) fun rest _ => ?_
  simp [readScalar, expect]

/-! ### Arrays and objects -/

/-- **Items with commas between them** are read one after the other, up to the bracket. -/
theorem readItems_join {texts : List String} {values : List Value}
    (hItems : List.Forall₂ (fun t v => Reads depth t.toList v) texts values) (hSome : texts ≠ [])
    (hFuel : 2 * (Text.join "," texts).toList.length < fuel) :
    readItems fuel depth ((Text.join "," texts).toList ++ ']' :: rest) = some (values, rest) := by
  induction hItems generalizing fuel with
  | nil => exact absurd rfl hSome
  | @cons t v texts values hFirst hRest ih =>
    obtain ⟨fuel, rfl⟩ := Nat.exists_eq_add_one_of_ne_zero (Nat.ne_zero_of_lt hFuel)
    cases texts with
    | nil =>
      obtain rfl := List.forall₂_nil_left_iff.mp hRest
      rw [Text.join] at hFuel
      have hRead := hFirst.read fuel (Nat.lt_succ_iff.mp hFuel) (ends_cons rest (.inr (.inl rfl)))
      simp [Text.join, readItems, hRead, skipSpaces_of_not_space (c := ']') rfl]
    | cons u texts =>
      have hComma : ",".toList = [','] := by decide
      rw [Text.toList_join_cons, hComma, List.singleton_append, List.length_append,
        List.length_cons] at hFuel
      have hMore := @ih fuel (List.cons_ne_nil u texts) (by omega)
      have hRead := hFirst.read fuel (by omega)
        (ends_cons ((Text.join "," (u :: texts)).toList ++ ']' :: rest) (.inl rfl))
      simp [Text.toList_join_cons, hComma, readItems, hRead, hMore,
        skipSpaces_of_not_space (c := ',') rfl]

/-- One member of an object. -/
def member (field : String × String) : String := quote field.1 ++ ":" ++ field.2

theorem toList_member (field : String × String) :
    (member field).toList = (quote field.1).toList ++ ':' :: field.2.toList := by
  simp [member]

theorem readKey_quote (key : String) :
    readKey ((quote key).toList ++ ':' :: rest) = some (key, rest) := by
  have hSkip : skipSpaces ((quote key).toList ++ ':' :: rest) =
      (quote key).toList ++ ':' :: rest := by
    rw [quote, String.toList_ofList, List.cons_append]
    exact skipSpaces_of_not_space rfl
  simp [readKey, hSkip, readString_quote, skipSpaces_of_not_space (c := ':') rfl, expect]

/-- **Members with commas between them** are read one after the other, up to the brace. -/
theorem readMembers_join {fields : List (String × String)} {members : List (String × Value)}
    (hMembers : List.Forall₂ (fun f m => f.1 = m.1 ∧ Reads depth f.2.toList m.2) fields members)
    (hSome : fields ≠ [])
    (hFuel : 2 * (Text.join "," (fields.map member)).toList.length < fuel) :
    readMembers fuel depth ((Text.join "," (fields.map member)).toList ++ '\x7d' :: rest) =
      some (members, rest) := by
  induction hMembers generalizing fuel with
  | nil => exact absurd rfl hSome
  | @cons f m fields members hFirst hRest ih =>
    obtain ⟨fuel, rfl⟩ := Nat.exists_eq_add_one_of_ne_zero (Nat.ne_zero_of_lt hFuel)
    obtain ⟨key, v⟩ := m
    obtain ⟨rfl, hValue⟩ := hFirst
    cases fields with
    | nil =>
      obtain rfl := List.forall₂_nil_left_iff.mp hRest
      rw [List.map_singleton, Text.join, toList_member, List.length_append,
        List.length_cons] at hFuel
      have hRead := hValue.read fuel (by omega)
        (ends_cons rest (.inr (.inr rfl)))
      simp [Text.join, toList_member, readMembers, readKey_quote, hRead,
        skipSpaces_of_not_space (c := '\x7d') rfl]
    | cons g fields =>
      have hComma : ",".toList = [','] := by decide
      rw [List.map_cons, List.map_cons, Text.toList_join_cons, toList_member, hComma,
        List.singleton_append, List.length_append, List.length_append, List.length_cons,
        List.length_cons, ← List.map_cons] at hFuel
      have hMore := @ih fuel (List.cons_ne_nil g fields) (by omega)
      have hRead := hValue.read fuel (by omega)
        (ends_cons ((Text.join "," ((g :: fields).map member)).toList ++ '\x7d' :: rest)
          (.inl rfl))
      rw [List.map_cons] at hMore hRead
      simp [Text.toList_join_cons, hComma, toList_member, readMembers, readKey_quote, hRead, hMore,
        skipSpaces_of_not_space (c := ',') rfl]

theorem readValue_array (hSpace : isSpace c = false) (hClose : c ≠ ']') :
    readValue (fuel + 1) (depth + 1) ('[' :: c :: cs) =
      (readItems fuel depth (c :: cs)).map fun r => (.array r.1, r.2) := by
  simp [readValue, skipSpaces_of_not_space (c := '[') rfl, skipSpaces_of_not_space hSpace, hClose]

theorem readValue_object (hSpace : isSpace c = false) (hClose : c ≠ '\x7d') :
    readValue (fuel + 1) (depth + 1) ('\x7b' :: c :: cs) =
      (readMembers fuel depth (c :: cs)).map fun r => (.object r.1, r.2) := by
  simp [readValue, skipSpaces_of_not_space (c := '\x7b') rfl, skipSpaces_of_not_space hSpace,
    hClose]

theorem exists_toList_join (t : String) (texts : List String) :
    ∃ more, (Text.join "," (t :: texts)).toList = t.toList ++ more := by
  cases texts with
  | nil => exact ⟨[], (List.append_nil _).symm⟩
  | cons u texts => exact ⟨_, Text.toList_join_cons "," t u texts⟩

theorem reads_object {fields : List (String × String)} {members : List (String × Value)}
    (hMembers : List.Forall₂ (fun f m => f.1 = m.1 ∧ Reads depth f.2.toList m.2) fields members)
    (hSome : fields ≠ []) :
    Reads (depth + 1) ("\x7b" ++ Text.join "," (fields.map member) ++ "\x7d").toList
      (.object members) := by
  obtain ⟨f, fields, rfl⟩ := List.exists_cons_of_ne_nil hSome
  obtain ⟨cs, hStart⟩ : ∃ cs, (Text.join "," ((f :: fields).map member)).toList = '"' :: cs := by
    obtain ⟨more, hMore⟩ := exists_toList_join (member f) (fields.map member)
    exact ⟨_, by rw [List.map_cons, hMore, toList_member, quote, String.toList_ofList]; rfl⟩
  have hText : ("\x7b" ++ Text.join "," ((f :: fields).map member) ++ "\x7d").toList =
      '\x7b' :: ((Text.join "," ((f :: fields).map member)).toList ++ ['\x7d']) := by
    rw [String.toList_append, String.toList_append, List.append_assoc]
    rfl
  rw [hText]
  refine ⟨⟨_, _, rfl, rfl, by decide⟩, fun fuel rest hFuel _ => ?_⟩
  rw [List.length_cons, List.length_append, List.length_singleton] at hFuel
  obtain ⟨fuel, rfl⟩ := Nat.exists_eq_add_one_of_ne_zero (n := fuel) (by omega)
  have hRead : readMembers fuel depth (_ ++ '\x7d' :: rest) = some (members, rest) :=
    readMembers_join hMembers hSome (by omega)
  rw [List.cons_append, List.append_assoc, List.singleton_append]
  rw [hStart, List.cons_append] at hRead ⊢
  rw [readValue_object rfl (by decide), hRead, Option.map_some]

theorem reads_array {texts : List String} {values : List Value}
    (hItems : List.Forall₂ (fun t v => Reads depth t.toList v) texts values) :
    Reads (depth + 1) ("[" ++ Text.join "," texts ++ "]").toList (.array values) := by
  have hText : ("[" ++ Text.join "," texts ++ "]").toList =
      '[' :: ((Text.join "," texts).toList ++ [']']) := by
    rw [String.toList_append, String.toList_append, List.append_assoc]
    rfl
  rw [hText]
  refine ⟨⟨_, _, rfl, rfl, by decide⟩, fun fuel rest hFuel _ => ?_⟩
  rw [List.length_cons, List.length_append, List.length_singleton] at hFuel
  obtain ⟨fuel, rfl⟩ := Nat.exists_eq_add_one_of_ne_zero (n := fuel) (by omega)
  rw [List.cons_append, List.append_assoc, List.singleton_append]
  cases hItems with
  | nil => simp [Text.join, readValue, skipSpaces, isSpace]
  | @cons t v texts values hFirst hRest =>
    have hRead : readItems fuel depth (_ ++ ']' :: rest) = some (v :: values, rest) :=
      readItems_join (.cons hFirst hRest) (List.cons_ne_nil t texts) (by omega)
    obtain ⟨c, cs, hStart, hSpace, hClose⟩ := hFirst.starts
    obtain ⟨more, hMore⟩ := exists_toList_join t texts
    rw [hMore, hStart, List.cons_append, List.cons_append] at hRead ⊢
    rw [readValue_array hSpace hClose, hRead, Option.map_some]

theorem parse?_of_reads {v : Value} (h : Reads depthLimit text v) :
    Value.parse? text = some v := by
  have hRead := h.read (2 * text.length + 2) (by omega) ends_nil
  rw [List.append_nil] at hRead
  rw [Value.parse?, hRead]
  rfl

end Json

end SocksGateway
