/-!
# Transcripts

A transcript is what has happened so far, in order.  It grows at its end only,
and growing takes as long as what is new is long, whatever came before: the
latest entry lies in front.  `toList` gives the entries in their order, and each
operation is known by what it does to that list.
-/

namespace SocksGateway

structure Transcript (α : Type) where
  /-- The entries, the latest first. -/
  latest : List α := []
deriving DecidableEq, Repr

namespace Transcript

variable {α : Type}

/-- The entries in order. -/
def toList (t : Transcript α) : List α := t.latest.reverse

/-- The number of entries. -/
def size (t : Transcript α) : Nat := t.latest.length

/-- The transcript with one more entry. -/
def push (t : Transcript α) (x : α) : Transcript α := ⟨x :: t.latest⟩

/-- The transcript with more entries, in order. -/
def extend (t : Transcript α) (xs : List α) : Transcript α := ⟨xs.reverseAux t.latest⟩

@[simp] theorem toList_empty : ({} : Transcript α).toList = [] := rfl

@[simp] theorem toList_push (t : Transcript α) (x : α) : (t.push x).toList = t.toList ++ [x] := by
  simp [toList, push]

@[simp] theorem toList_extend (t : Transcript α) (xs : List α) :
    (t.extend xs).toList = t.toList ++ xs := by
  simp [toList, extend, List.reverseAux_eq]

@[simp] theorem length_toList (t : Transcript α) : t.toList.length = t.size := by
  simp [toList, size]

end Transcript

end SocksGateway
