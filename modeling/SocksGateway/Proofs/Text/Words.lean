import SocksGateway.Text.Blank
import SocksGateway.Text.Join

/-!
# Pieces and words of joined texts

Cutting undoes joining as long as no piece holds the separator.

* `split_append_cons`, `split_of_forall`, `cutFirst_eq_some_iff`, `cutLast_eq_some_iff`: where a
  text is cut.
* `words_append_cons`: a blank parts the words in front of it from those behind it.
* `words_join`: a blank between texts adds no word and joins none.
-/

namespace SocksGateway.Text

variable {p : Char → Bool} {s a b piece w : List Char} {sep : Char}

/-! ### Pieces -/

theorem split_eq_splitOnP (p : Char → Bool) (s : List Char) : split p s = s.splitOnP p := by
  induction s with
  | nil => rw [split, List.splitOnP_nil]
  | cons c cs ih =>
    rw [split, List.splitOnP_cons_eq_if_modifyHead, ih]
    by_cases hc : p c = true
    · rw [if_pos hc, if_pos hc]
    · rw [if_neg hc, if_neg hc]
      cases h : cs.splitOnP p with
      | nil => exact absurd h (List.splitOnP_ne_nil p cs)
      | cons w ws => rfl

theorem split_append_cons (hSep : p sep = true) :
    split p (a ++ sep :: b) = split p a ++ split p b := by
  rw [split_eq_splitOnP, split_eq_splitOnP, split_eq_splitOnP, List.splitOnP_append_cons a b hSep]

theorem split_of_forall (h : ∀ c ∈ s, p c = false) : split p s = [s] := by
  rw [split_eq_splitOnP, List.splitOnP_eq_singleton h]

theorem split_at_append_cons :
    split (· == sep) (a ++ sep :: b) = split (· == sep) a ++ split (· == sep) b :=
  split_append_cons (beq_self_eq_true sep)

theorem split_at_of_not_mem (hFree : sep ∉ s) : split (· == sep) s = [s] := by
  refine split_of_forall fun c hc => beq_eq_false_iff_ne.mpr ?_
  rintro rfl
  exact hFree hc

theorem of_mem_split (hPiece : piece ∈ split p s) : ∀ c ∈ piece, c ∈ s ∧ p c = false := by
  induction s generalizing piece with
  | nil =>
    intro c hc
    rw [split, List.mem_singleton] at hPiece
    rw [hPiece] at hc
    exact absurd hc List.not_mem_nil
  | cons d cs ih =>
    have hTail {piece : List Char} (h : piece ∈ split p cs) :
        ∀ c ∈ piece, c ∈ d :: cs ∧ p c = false :=
      fun c hc => ⟨List.mem_cons_of_mem d (ih h c hc).1, (ih h c hc).2⟩
    rw [split] at hPiece
    by_cases hd : p d = true
    · rw [if_pos hd] at hPiece
      cases hPiece with
      | head => exact fun c hc => absurd hc List.not_mem_nil
      | tail _ hPiece => exact hTail hPiece
    · rw [if_neg hd] at hPiece
      cases h : split p cs with
      | nil => exact absurd h (split_ne_nil p cs)
      | cons w ws =>
        rw [h] at hPiece hTail
        cases hPiece with
        | tail _ hPiece => exact hTail (List.mem_cons_of_mem w hPiece)
        | head =>
          intro c hc
          cases hc with
          | head => exact ⟨List.mem_cons_self, eq_false_of_ne_true hd⟩
          | tail _ hc => exact hTail List.mem_cons_self c hc

theorem exists_mem_split {c : Char} (hc : c ∈ s) (hNot : p c = false) :
    ∃ piece ∈ split p s, c ∈ piece := by
  induction s with
  | nil => exact absurd hc List.not_mem_nil
  | cons d cs ih =>
    rw [split]
    by_cases hd : p d = true
    · rw [if_pos hd]
      have hTail : c ∈ cs := by
        rcases List.mem_cons.mp hc with rfl | hTail
        · rw [hNot] at hd
          cases hd
        · exact hTail
      obtain ⟨piece, hPiece, hMem⟩ := ih hTail
      exact ⟨piece, List.mem_cons_of_mem _ hPiece, hMem⟩
    · rw [if_neg hd]
      cases h : split p cs with
      | nil => exact absurd h (split_ne_nil p cs)
      | cons w ws =>
        rcases List.mem_cons.mp hc with rfl | hTail
        · exact ⟨c :: w, List.mem_cons_self, List.mem_cons_self⟩
        · obtain ⟨piece, hPiece, hMem⟩ := ih hTail
          rw [h] at hPiece
          cases hPiece with
          | head => exact ⟨d :: w, List.mem_cons_self, List.mem_cons_of_mem d hMem⟩
          | tail _ hPiece => exact ⟨piece, List.mem_cons_of_mem _ hPiece, hMem⟩

theorem cutFirst_append_cons (hFree : sep ∉ a) : cutFirst sep (a ++ sep :: b) = some (a, b) := by
  induction a with
  | nil => rw [List.nil_append, cutFirst, if_pos rfl]
  | cons c cs ih =>
    rw [List.mem_cons, not_or] at hFree
    rw [List.cons_append, cutFirst, if_neg (Ne.symm hFree.1), ih hFree.2]
    rfl

theorem cutFirst_eq_none_iff : cutFirst sep s = none ↔ sep ∉ s := by
  induction s with
  | nil => exact iff_of_true rfl List.not_mem_nil
  | cons c cs ih =>
    rw [cutFirst, List.mem_cons, not_or, ← ih]
    by_cases hc : c = sep
    · simp [hc]
    · simp [hc, Ne.symm hc]

theorem cutFirst_eq_some_iff : cutFirst sep s = some (a, b) ↔ s = a ++ sep :: b ∧ sep ∉ a := by
  refine ⟨fun h => ⟨append_of_cutFirst h, ?_⟩, ?_⟩
  · induction s generalizing a with
    | nil => cases h
    | cons c cs ih =>
      rw [cutFirst] at h
      by_cases hc : c = sep
      · rw [if_pos hc] at h
        cases h
        exact List.not_mem_nil
      · rw [if_neg hc, Option.map_eq_some_iff] at h
        obtain ⟨⟨front, back⟩, hCut, h⟩ := h
        cases h
        exact List.not_mem_cons_of_ne_of_not_mem (Ne.symm hc) (ih hCut)
  · rintro ⟨rfl, hFree⟩
    exact cutFirst_append_cons hFree

theorem cutLast_eq_none_iff : cutLast sep s = none ↔ sep ∉ s := by
  induction s with
  | nil => exact iff_of_true rfl List.not_mem_nil
  | cons c cs ih =>
    rw [cutLast, List.mem_cons, not_or, ← ih]
    cases cutLast sep cs with
    | some parts => simp
    | none =>
      by_cases hc : c = sep
      · simp [hc]
      · simp [hc, Ne.symm hc]

theorem cutLast_eq_some_iff : cutLast sep s = some (a, b) ↔ s = a ++ sep :: b ∧ sep ∉ b := by
  induction s generalizing a b with
  | nil => simp [cutLast]
  | cons c cs ih =>
    rw [cutLast]
    cases hCut : cutLast sep cs with
    | none =>
      have hFree := cutLast_eq_none_iff.mp hCut
      by_cases hc : c = sep
      · rw [if_pos hc, hc, Option.some.injEq, Prod.mk.injEq]
        constructor
        · rintro ⟨rfl, rfl⟩
          exact ⟨rfl, hFree⟩
        · rintro ⟨hText, -⟩
          cases a with
          | nil => exact ⟨rfl, (List.cons.inj hText).2⟩
          | cons d ds => exact absurd ((List.cons.inj hText).2 ▸ by simp) hFree
      · rw [if_neg hc]
        refine iff_of_false (fun h => nomatch h) ?_
        rintro ⟨hText, -⟩
        have hMem : sep ∈ c :: cs := by
          rw [hText]
          simp
        exact List.not_mem_cons_of_ne_of_not_mem (Ne.symm hc) hFree hMem
    | some parts =>
      obtain ⟨front, back⟩ := parts
      obtain ⟨hCs, hFree⟩ := ih.mp hCut
      dsimp only
      rw [Option.some.injEq, Prod.mk.injEq]
      constructor
      · rintro ⟨rfl, rfl⟩
        exact ⟨congrArg (c :: ·) hCs, hFree⟩
      · rintro ⟨hText, hLast⟩
        cases a with
        | nil =>
          have hMem : sep ∈ cs := by
            rw [hCs]
            simp
          exact absurd ((List.cons.inj hText).2 ▸ hMem) hLast
        | cons d ds =>
          obtain ⟨rfl, hTail⟩ := List.cons.inj hText
          have hSame := hCut.symm.trans (ih.mpr ⟨hTail, hLast⟩)
          cases hSame
          exact ⟨rfl, rfl⟩

theorem toList_join_cons (sep s t : String) (rest : List String) :
    (join sep (s :: t :: rest)).toList =
      s.toList ++ (sep.toList ++ (join sep (t :: rest)).toList) := by
  rw [join, String.toList_append, String.toList_append, List.append_assoc]

/-! ### Words -/

/-- **A word** has a character, and none that is a blank. -/
structure IsWord (w : List Char) : Prop where
  ne_nil : w ≠ []
  not_blank : ∀ c ∈ w, isBlank c = false

theorem isWord_iff_all : IsWord w ↔ (!w.isEmpty && w.all fun c => !isBlank c) = true := by
  rw [Bool.and_eq_true, List.all_eq_true]
  constructor
  · intro h
    exact ⟨by simpa using h.ne_nil, fun c hc => by simpa using h.not_blank c hc⟩
  · rintro ⟨hSome, hNone⟩
    exact ⟨by simpa using hSome, fun c hc => by simpa using hNone c hc⟩

theorem isWord_of_mem_words (hw : w ∈ words s) : IsWord w := by
  obtain ⟨hPiece, hSome⟩ := List.mem_filter.mp hw
  exact ⟨by simpa using hSome, fun c hc => (of_mem_split hPiece c hc).2⟩

theorem isWord_join {text : String} {texts : List String} (hText : text.toList = [sep])
    (hSep : isBlank sep = false) (hSome : texts ≠ []) (hWords : ∀ t ∈ texts, IsWord t.toList) :
    IsWord (join text texts).toList := by
  induction texts with
  | nil => exact absurd rfl hSome
  | cons t texts ih =>
    have hFirst := hWords t List.mem_cons_self
    cases texts with
    | nil => exact hFirst
    | cons u texts =>
      have hRest := ih (List.cons_ne_nil u texts) fun v hv => hWords v (List.mem_cons_of_mem t hv)
      rw [toList_join_cons, hText, List.singleton_append]
      refine ⟨List.append_ne_nil_of_left_ne_nil hFirst.ne_nil _, fun c hc => ?_⟩
      rcases List.mem_append.mp hc with hc | hc
      · exact hFirst.not_blank c hc
      · rcases List.mem_cons.mp hc with rfl | hc
        · exact hSep
        · exact hRest.not_blank c hc

theorem IsWord.words_eq (h : IsWord w) : words w = [w] := by
  rw [words, split_of_forall h.not_blank, List.filter_cons_of_pos (by simpa using h.ne_nil),
    List.filter_nil]

theorem words_append_cons (hBlank : isBlank sep = true) :
    words (a ++ sep :: b) = words a ++ words b := by
  rw [words, split_append_cons hBlank, List.filter_append, words, words]

/-- A blank between texts adds no word and joins none. -/
theorem words_join (texts : List String) :
    words (join " " texts).toList = texts.flatMap fun t => words t.toList := by
  induction texts with
  | nil => rfl
  | cons t texts ih =>
    cases texts with
    | nil => rw [join, List.flatMap_cons, List.flatMap_nil, List.append_nil]
    | cons u texts =>
      rw [toList_join_cons, List.flatMap_cons, ← ih]
      exact words_append_cons (by decide)

theorem words_join_of_forall {texts : List String} (h : ∀ t ∈ texts, IsWord t.toList) :
    words (join " " texts).toList = texts.map String.toList := by
  rw [words_join]
  induction texts with
  | nil => rfl
  | cons t texts ih =>
    rw [List.flatMap_cons, (h t List.mem_cons_self).words_eq,
      ih fun u hu => h u (List.mem_cons_of_mem t hu)]
    rfl

end SocksGateway.Text
