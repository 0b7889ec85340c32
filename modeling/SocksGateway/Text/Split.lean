/-!
# Cutting text at separators

Texts are lists of characters here.  `split` cuts at every separator and keeps
empty pieces, so a text with `n` separators has `n + 1` pieces; `cutFirst` and
`cutLast` cut once, at the first or at the last separator.
-/

namespace SocksGateway.Text

/-- The pieces between the characters that satisfy `p`, empty pieces included. -/
def split (p : Char → Bool) : List Char → List (List Char)
  | [] => [[]]
  | c :: cs =>
    if p c then [] :: split p cs
    else
      match split p cs with
      | [] => [[c]]
      | w :: ws => (c :: w) :: ws

/-- Cut at the first occurrence of `sep`, which belongs to neither part. -/
def cutFirst (sep : Char) : List Char → Option (List Char × List Char)
  | [] => none
  | c :: cs =>
    if c = sep then some ([], cs)
    else (cutFirst sep cs).map fun (l, r) => (c :: l, r)

/-- Cut at the last occurrence of `sep`, which belongs to neither part. -/
def cutLast (sep : Char) : List Char → Option (List Char × List Char)
  | [] => none
  | c :: cs =>
    match cutLast sep cs with
    | some (l, r) => some (c :: l, r)
    | none => if c = sep then some ([], cs) else none

/-- Cutting at one place or another loses only the separator. -/
theorem append_of_cutFirst {sep : Char} {s l r : List Char} (h : cutFirst sep s = some (l, r)) :
    s = l ++ sep :: r := by
  induction s generalizing l with
  | nil => simp [cutFirst] at h
  | cons c cs ih =>
    by_cases hc : c = sep
    · simp only [cutFirst, if_pos hc, Option.some.injEq, Prod.mk.injEq] at h
      obtain ⟨rfl, rfl⟩ := h
      simp [hc]
    · simp only [cutFirst, if_neg hc, Option.map_eq_some_iff] at h
      obtain ⟨⟨l', r'⟩, h', heq⟩ := h
      simp only [Prod.mk.injEq] at heq
      obtain ⟨rfl, rfl⟩ := heq
      simp [ih h']

theorem split_ne_nil (p : Char → Bool) (s : List Char) : split p s ≠ [] := by
  cases s with
  | nil => simp [split]
  | cons c cs =>
    unfold split
    split
    · simp
    · split <;> simp

end SocksGateway.Text
