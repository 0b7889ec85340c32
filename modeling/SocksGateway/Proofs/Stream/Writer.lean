import SocksGateway.Stream

/-!
# What a writer lets through

What `Writer.writeAll` lets through is the front of what it was given, and the
whole of it exactly when no call has failed.  A reliable writer, each call of
which takes at least one byte, lets everything through, in however many calls.
-/

namespace SocksGateway

namespace Stream

/-- A call with this response takes at least one byte. -/
def WriteResponse.Progresses : WriteResponse → Prop
  | .takes count => 0 < count
  | .takesAll => True
  | .fails _ => False

namespace Writer

/-- Every call of the writer takes at least one byte. -/
structure Reliable (w : Writer) : Prop where
  next : ∀ r ∈ w.next, r.Progresses
  later : w.later.Progresses
  broken : w.broken = none

theorem reliable_default : ({} : Writer).Reliable := ⟨by simp, trivial, rfl⟩

theorem Reliable.respond {w : Writer} (h : w.Reliable) :
    w.respond.1.Progresses ∧ w.respond.2.Reliable := by
  obtain ⟨next, later, broken, flush⟩ := w
  obtain ⟨hNext, hLater, hBroken⟩ := h
  simp only at hNext hLater hBroken
  subst hBroken
  cases next with
  | nil => exact ⟨hLater, hNext, hLater, rfl⟩
  | cons r rs =>
    exact ⟨hNext r (by simp), fun q hq => hNext q (List.mem_cons_of_mem r hq), hLater, rfl⟩

theorem Reliable.writeAll {w : Writer} (h : w.Reliable) (bytes : List UInt8) :
    (w.writeAll bytes).bytes = bytes ∧ (w.writeAll bytes).fault = none ∧
      (w.writeAll bytes).writer.Reliable := by
  fun_induction Writer.writeAll w bytes with
  | case1 w => exact ⟨rfl, rfl, h⟩
  | case2 w b bs f w' hr => exact absurd (hr ▸ h.respond).1 id
  | case3 w b bs w' hr => exact ⟨rfl, rfl, (hr ▸ h.respond).2⟩
  | case4 w b bs w' hr => exact absurd (hr ▸ h.respond).1 (Nat.lt_irrefl 0)
  | case5 w b bs n w' hr rest ih =>
    obtain ⟨hBytes, hFault, hReliable⟩ := ih (hr ▸ h.respond).2
    exact ⟨by rw [hBytes, List.cons_append, List.take_append_drop], hFault, hReliable⟩

theorem writeAll_prefix (w : Writer) (bytes : List UInt8) :
    (w.writeAll bytes).bytes <+: bytes := by
  fun_induction Writer.writeAll w bytes with
  | case1 w => exact List.prefix_rfl
  | case2 w b bs f w' hr => exact List.nil_prefix
  | case3 w b bs w' hr => exact List.prefix_rfl
  | case4 w b bs w' hr => exact List.nil_prefix
  | case5 w b bs n w' hr rest ih =>
    obtain ⟨tail, hTail⟩ := ih
    exact ⟨tail, by simp [rest, hTail]⟩

/-- **Everything gets through exactly when no call fails.** -/
theorem writeAll_bytes_eq_iff (w : Writer) (bytes : List UInt8) :
    (w.writeAll bytes).bytes = bytes ↔ (w.writeAll bytes).fault = none := by
  fun_induction Writer.writeAll w bytes with
  | case1 w => simp
  | case2 w b bs f w' hr => simp
  | case3 w b bs w' hr => simp
  | case4 w b bs w' hr => simp
  | case5 w b bs n w' hr rest ih =>
    rw [← ih]
    constructor
    · intro h
      have hSplit : bs.take n ++ rest.bytes = bs.take n ++ bs.drop n := by
        rw [List.take_append_drop]
        exact List.tail_eq_of_cons_eq h
      exact List.append_cancel_left hSplit
    · intro h
      rw [show rest.bytes = bs.drop n from h, List.cons_append, List.take_append_drop]

theorem length_writeAll_lt {w : Writer} {bytes : List UInt8}
    (h : (w.writeAll bytes).fault ≠ none) : (w.writeAll bytes).bytes.length < bytes.length := by
  have hPrefix := writeAll_prefix w bytes
  refine Nat.lt_of_le_of_ne hPrefix.length_le fun hLength => h ?_
  exact (writeAll_bytes_eq_iff w bytes).mp (hPrefix.eq_of_length hLength)

end Writer

end Stream

end SocksGateway
