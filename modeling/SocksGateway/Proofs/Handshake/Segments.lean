import SocksGateway.Proofs.Handshake.Reading

/-!
# Bytes that come in pieces

A client's bytes come in pieces, and a handshake goes on after each piece as far as
it can.  Where they are cut makes no difference: `feedPieces_eq` says that the pieces
do what all of their bytes do in one go, for `feed` on an append is one `feed` after
the other, with what the first one has left over put in front.
-/

namespace SocksGateway

namespace Socks

namespace Handshake

/-- Another piece comes in behind the bytes that were left over. -/
def offer (x : Handshake × List UInt8) (piece : List UInt8) : Handshake × List UInt8 :=
  x.1.feed (x.2 ++ piece)

/-- The handshake after these pieces, and the bytes that it has left over. -/
def feedPieces (h : Handshake) (pieces : List (List UInt8)) : Handshake × List UInt8 :=
  pieces.foldl offer (h, [])

variable {h : Handshake}

theorem feed_append (h : Handshake) (front back : List UInt8) :
    h.feed (front ++ back) = offer (h.feed front) back := by
  induction front generalizing h with
  | nil => rfl
  | cons b front ih =>
    by_cases hReading : h.isReading = true
    · rw [List.cons_append, feed, if_pos hReading, feed, if_pos hReading]
      exact ih (h.receive b)
    · have hEnd : h.isReading = false := by simpa using hReading
      rw [feed_of_not_reading hEnd, offer, feed_of_not_reading hEnd, feed_of_not_reading hEnd]

theorem foldl_offer (h : Handshake) (front : List UInt8) (pieces : List (List UInt8)) :
    pieces.foldl offer (h.feed front) = h.feed (front ++ pieces.flatten) := by
  induction pieces generalizing front with
  | nil => rw [List.flatten_nil, List.append_nil, List.foldl_nil]
  | cons piece pieces ih =>
    rw [List.foldl_cons, ← feed_append, ih, List.flatten_cons, List.append_assoc]

/-- **Pieces do what all of their bytes do in one go.** -/
theorem feedPieces_eq (h : Handshake) (pieces : List (List UInt8)) :
    h.feedPieces pieces = h.feed pieces.flatten := by
  have hFold := foldl_offer h [] pieces
  rw [List.nil_append] at hFold
  exact hFold

theorem feedPieces_append (h : Handshake) (front back : List (List UInt8)) :
    h.feedPieces (front ++ back) = offer (h.feedPieces front) back.flatten := by
  rw [feedPieces_eq, feedPieces_eq, List.flatten_append, feed_append]

/-! ### What has been written stays written -/

theorem written_obey (h : Handshake) (v : Verdict) : h.written <+: (h.obey v).written := by
  cases v with
  | read phase => exact List.prefix_rfl
  | invalid fault => exact List.prefix_rfl
  | acceptMethod =>
    rw [obey, mustWrite_eq]
    exact List.prefix_append _ _
  | refuseMethods offered =>
    rw [obey, mustWrite_eq]
    exact List.prefix_append _ _
  | unsupported version => exact List.prefix_append _ _
  | request r =>
    rw [obey, settle]
    cases refusal? r with
    | none => exact List.prefix_rfl
    | some refused => exact List.prefix_append _ _

theorem written_receive (h : Handshake) (b : UInt8) : h.written <+: (h.receive b).written := by
  unfold receive
  split
  · dsimp only
    split
    · exact List.prefix_rfl
    · exact written_obey h _
  · exact List.prefix_rfl

theorem written_feed (h : Handshake) (bytes : List UInt8) :
    h.written <+: (h.feed bytes).1.written := by
  induction bytes generalizing h with
  | nil => exact List.prefix_rfl
  | cons b bytes ih =>
    by_cases hReading : h.isReading = true
    · rw [feed, if_pos hReading]
      exact (written_receive h b).trans (ih (h.receive b))
    · have hStays : h.feed (b :: bytes) = (h, b :: bytes) := by rw [feed, if_neg hReading]
      simp [hStays]

/-! ### What is left over -/

theorem suffix_feed (h : Handshake) (bytes : List UInt8) : (h.feed bytes).2 <:+ bytes := by
  induction bytes generalizing h with
  | nil => exact List.suffix_rfl
  | cons b bytes ih =>
    by_cases hReading : h.isReading = true
    · rw [feed, if_pos hReading]
      exact (ih (h.receive b)).trans (List.suffix_cons b bytes)
    · have hStays : h.feed (b :: bytes) = (h, b :: bytes) := by rw [feed, if_neg hReading]
      simp [hStays]

theorem feed_eq_nil (h : Handshake) (bytes : List UInt8)
    (hReading : (h.feed bytes).1.isReading = true) : (h.feed bytes).2 = [] := by
  induction bytes generalizing h with
  | nil => rfl
  | cons b bytes ih =>
    by_cases hStart : h.isReading = true
    · rw [feed, if_pos hStart] at hReading ⊢
      exact ih (h.receive b) hReading
    · rw [feed, if_neg hStart] at hReading
      exact absurd hReading hStart

/-- **Where the client's bytes are cut makes no difference.**  Two ways to cut the same
bytes lead to the same handshake: as far, with the same error if it has failed, with the
same session, and with the same bytes written; and they leave the same bytes over, which
are the last of those that came, and none while the handshake reads.  This is so whatever
the session holds at the start, and however the writer takes what is written, as long as
that depends on nothing but what was written before.  On the way what has been written is
the front of what will be written, however the input goes on and however that is cut; and
a handshake that is over stays as it is, while all that still comes is left over. -/
theorem segmentation_independent (s : Session) (w : Stream.Writer) {xs ys : List (List UInt8)}
    (hSame : xs.flatten = ys.flatten) :
    let start : Handshake := { session := s, writer := w }
    start.feedPieces xs = start.feedPieces ys ∧
      (start.feedPieces xs = start.feed xs.flatten ∧
        (start.feedPieces xs).2 <:+ xs.flatten ∧
        ((start.feedPieces xs).1.isReading = true → (start.feedPieces xs).2 = [])) ∧
      ∀ more zs : List (List UInt8), (xs ++ more).flatten = zs.flatten →
        (start.feedPieces xs).1.written <+: (start.feedPieces zs).1.written ∧
          ((start.feedPieces xs).1.isReading = false →
            start.feedPieces zs =
              ((start.feedPieces xs).1, (start.feedPieces xs).2 ++ more.flatten)) := by
  intro start
  have hWhole := feedPieces_eq start
  refine ⟨?_, ⟨hWhole xs, ?_, ?_⟩, ?_⟩
  · rw [hWhole xs, hWhole ys, hSame]
  · rw [hWhole xs]
    exact suffix_feed start xs.flatten
  · rw [hWhole xs]
    exact feed_eq_nil start xs.flatten
  · intro more zs hMore
    have hLater : start.feedPieces zs = offer (start.feedPieces xs) more.flatten := by
      rw [hWhole zs, ← hMore, ← hWhole, feedPieces_append]
    rw [hLater]
    refine ⟨written_feed _ _, ?_⟩
    intro hOver
    rw [offer, feed_of_not_reading hOver]

/-- A client asks for a name in pieces that end within fields, and its first byte for the
other end comes with the last of them. -/
theorem segmentation_independent_name :
    let s : Session := .accept 1 ⟨1, { port := 1080, kind := .socks }⟩ {} 0
    let w : Stream.Writer := { later := .takes 1 }
    let start : Handshake := { session := s, writer := w }
    let xs : List (List UInt8) := [[5], [1, 0, 5, 1], [], [0, 3, 2, 0x68], [0x69, 0], [80, 7]]
    let ys : List (List UInt8) := [[5, 1, 0], [5, 1, 0, 3, 2, 0x68, 0x69, 0, 80, 7]]
    xs.flatten = ys.flatten ∧ start.feedPieces xs = start.feedPieces ys ∧
      (start.feedPieces ys).1.progress = .accepted ∧
      (start.feedPieces ys).1.written = [5, 0] ∧ (start.feedPieces ys).2 = [7] := by
  intro s w start xs ys
  have hSame : xs.flatten = ys.flatten := rfl
  have hEqual := (segmentation_independent s w hSame).1
  exact ⟨hSame, hEqual, by decide +kernel, by decide +kernel, by decide +kernel⟩

end Handshake

end Socks

end SocksGateway
