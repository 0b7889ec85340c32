import SocksGateway.Proofs.Network.Dotted
import SocksGateway.Proofs.Rule.Grammar
import SocksGateway.Rule.Printer

/-!
# Written rules read back

A rule is written in an order of its own, with numbers and networks in one of their many forms.
Reading what is written gives the rule again if the texts in it are words and its tunnels go by
names that hold no comma, and of every rule that was read this is so.

* `Clause.written`, `clauses`: what is written, in words.
* `Writable.words_line`, `Writable.line_words`: what is written is a line of the grammar.
* `Writable.parse_line`: a rule that can be written is read back, at whatever place.
* `writable_of_parse`: what was read can be written.
* `parse_stripped`: reading, writing, removing the place and reading again.
-/

namespace SocksGateway

namespace Rule

open Text

variable {registry : TunnelRegistry} {place : Provenance} {r : Rule} {c : Clause}
  {cs : List Clause} {ws : List (List Char)} {via : Option (List String)} {line : List Char}

/-! ### What is written -/

/-- The words that a clause is written with. -/
def Clause.written : Clause → List String
  | is s => ["is", s]
  | startsWith s => ["startsWith", s]
  | endsWith s => ["endsWith", s]
  | contains s => ["contains", s]
  | port p => ["port", String.ofList (decimal p.toNat)]
  | network n => ["network", n.text]
  | map n => ["map", n.text]
  | target n => ["to", n.text]
  | resolveDns => ["resolveDNS"]

/-- What a rule says in front of `via`, in the order in which it is written. -/
def clauses (r : Rule) : List Clause :=
  (r.is.map Clause.is).toList ++ (r.startsWith.map Clause.startsWith).toList
    ++ (r.endsWith.map Clause.endsWith).toList ++ (r.contains.map Clause.contains).toList
    ++ (r.port.map Clause.port).toList ++ (r.network.map Clause.network).toList
    ++ (r.map.map Clause.map).toList ++ (r.target.map Clause.target).toList
    ++ (if r.resolveDns then [.resolveDns] else [])

/-- The words behind the clauses. -/
def viaWords (r : Rule) : List String :=
  if r.tunnels.isEmpty then [] else ["via", Text.join "," r.tunnelNames]

theorem clauseText_eq {α : Type} {keyword : String} {text : α → String} {o : Option α}
    {value : Option String} (make : α → Clause) (hValue : o.map text = value)
    (hMake : ∀ a, (make a).written = [keyword, text a]) :
    clauseText keyword value = (o.map make).toList.map fun c => Text.join " " c.written := by
  subst hValue
  cases o with
  | none => rfl
  | some a =>
    change [keyword ++ " " ++ text a] = [Text.join " " (make a).written]
    rw [hMake]
    rfl

theorem clauseTexts_eq (r : Rule) :
    r.clauseTexts = r.clauses.map (fun c => Text.join " " c.written)
      ++ if r.tunnels.isEmpty then [] else [Text.join " " r.viaWords] := by
  have hVia : (if r.tunnels.isEmpty then [] else ["via " ++ Text.join "," r.tunnelNames]) =
      if r.tunnels.isEmpty then [] else [Text.join " " r.viaWords] := by
    split
    case isTrue => rfl
    case isFalse hSome =>
      rw [viaWords, if_neg hSome]
      rfl
  have hResolve : (if r.resolveDns then ["resolveDNS"] else []) =
      (if r.resolveDns then [Clause.resolveDns] else []).map
        fun c => Text.join " " c.written := by
    cases r.resolveDns <;> rfl
  rw [clauseTexts, clauses, hVia, hResolve,
    clauseText_eq Clause.is Option.map_id_apply fun _ => rfl,
    clauseText_eq Clause.startsWith Option.map_id_apply fun _ => rfl,
    clauseText_eq Clause.endsWith Option.map_id_apply fun _ => rfl,
    clauseText_eq Clause.contains Option.map_id_apply fun _ => rfl,
    clauseText_eq Clause.port rfl fun _ => rfl,
    clauseText_eq Clause.network rfl fun _ => rfl,
    clauseText_eq Clause.map rfl fun _ => rfl,
    clauseText_eq Clause.target rfl fun _ => rfl]
  simp only [List.map_append]

/-- The texts that a clause asks for are words. -/
def Clause.Plain : Clause → Prop
  | is s | startsWith s | endsWith s | contains s => IsWord s.toList
  | port _ | network _ | map _ | target _ | resolveDns => True

theorem isWord_keyword (c : Clause) : IsWord c.keyword.toList := by
  rw [isWord_iff_all]
  cases c
  all_goals
    dsimp only [Clause.keyword]
    decide

theorem Clause.Plain.isWord (h : c.Plain) : ∀ t ∈ c.written, IsWord t.toList := by
  have hValue {keyword value : String} (hKeyword : IsWord keyword.toList)
      (hWord : IsWord value.toList) : ∀ t ∈ [keyword, value], IsWord t.toList := by
    intro t ht
    rcases List.mem_cons.mp ht with rfl | ht
    · exact hKeyword
    · rw [List.mem_singleton.mp ht]
      exact hWord
  have hKeyword := isWord_keyword c
  cases c with
  | is | startsWith | endsWith | contains => exact hValue hKeyword h
  | port p =>
    refine hValue hKeyword ?_
    rw [String.toList_ofList]
    exact isWord_decimal _
  | network n | map n | target n =>
    refine hValue hKeyword ?_
    rw [Network.text, String.toList_ofList]
    exact n.isWord_chars
  | resolveDns =>
    intro t ht
    rw [List.mem_singleton.mp ht]
    exact hKeyword

/-- **A clause is spelled as it is written.** -/
theorem Clause.spelled_written (c : Clause) : c.Spelled (c.written.map String.toList) := by
  have hText {make : String → Clause} {keyword : List Char} (s : String)
      (hMake : ∀ value, (make (String.ofList value)).Spelled [keyword, value]) :
      (make s).Spelled [keyword, s.toList] := by
    have h := hMake s.toList
    rwa [String.ofList_toList] at h
  have hNetwork (n : Network) : Network.parse? n.text.toList = some n := by
    rw [Network.text, String.toList_ofList]
    exact n.parse?_chars
  cases c with
  | is s => exact hText s .is
  | startsWith s => exact hText s .startsWith
  | endsWith s => exact hText s .endsWith
  | contains s => exact hText s .contains
  | port p =>
    refine .port ?_
    rw [String.toList_ofList]
    exact readUInt16_decimal p
  | network n => exact .network (hNetwork n)
  | map n => exact .map (hNetwork n)
  | target n => exact .target (hNetwork n)
  | resolveDns => exact .resolveDns

/-! ### Rules that can be written -/

/-- **A rule that can be written**: the texts in it are words, and its tunnels are found by
their names, which are words without a comma. -/
structure Writable (registry : TunnelRegistry) (r : Rule) : Prop where
  plain : ∀ c ∈ r.clauses, c.Plain
  isWord_name : ∀ name ∈ r.tunnelNames, IsWord name.toList
  comma_notMem : ∀ name ∈ r.tunnelNames, ',' ∉ name.toList
  tunnels : r.tunnels.map some = r.tunnelNames.map registry.lookup

/-- The names behind `via`, if it is written. -/
def named (r : Rule) : Option (List String) :=
  if r.tunnels.isEmpty then none else some r.tunnelNames

theorem words_clauses (hPlain : ∀ c ∈ cs, c.Plain) :
    (cs.map fun c => Text.join " " c.written).flatMap (fun t => words t.toList) =
      (cs.flatMap Clause.written).map String.toList := by
  induction cs with
  | nil => rfl
  | cons c cs ih =>
    rw [List.map_cons, List.flatMap_cons, List.flatMap_cons, List.map_append,
      ih fun d hd => hPlain d (List.mem_cons_of_mem c hd),
      words_join_of_forall (hPlain c List.mem_cons_self).isWord]

namespace Writable

theorem isWord_names (h : Writable registry r) (hSome : r.tunnels ≠ []) :
    IsWord (Text.join "," r.tunnelNames).toList :=
  isWord_join rfl (by decide) (fun hNone => hSome (List.map_eq_nil_iff.mp hNone)) h.isWord_name

theorem words_line (h : Writable registry r) :
    words r.line.toList = (r.clauses.flatMap Clause.written ++ r.viaWords).map String.toList := by
  rw [line, words_join, clauseTexts_eq, List.flatMap_append, words_clauses h.plain,
    List.map_append]
  congr 1
  split
  case isTrue hNone =>
    rw [viaWords, if_pos hNone]
    rfl
  case isFalse hSome =>
    rw [viaWords, if_neg hSome, List.flatMap_cons, List.flatMap_nil, List.append_nil]
    refine words_join_of_forall fun t ht => ?_
    rcases List.mem_cons.mp ht with rfl | ht
    · exact isWord_iff_all.mpr (by decide)
    · rw [List.mem_singleton.mp ht]
      exact h.isWord_names fun hNone => hSome (List.isEmpty_iff.mpr hNone)

theorem lists_join {names : List String} (hSome : names ≠ [])
    (hNames : ∀ name ∈ names, name.toList ≠ [] ∧ ',' ∉ name.toList) :
    Lists (Text.join "," names).toList names := by
  induction names with
  | nil => exact absurd rfl hSome
  | cons name names ih =>
    obtain ⟨hFirst, hRest⟩ := List.forall_mem_cons.mp hNames
    cases names with
    | nil => simpa [Text.join] using Lists.name hFirst.1 hFirst.2
    | cons other names =>
      rw [toList_join_cons]
      simpa using Lists.comma hFirst.1 hFirst.2 (ih (List.cons_ne_nil other names) hRest)

theorem line_via (h : Writable registry r) :
    Line registry (r.viaWords.map String.toList) [] (named r) := by
  by_cases hNone : r.tunnels.isEmpty = true
  · rw [viaWords, named, if_pos hNone, if_pos hNone]
    exact .done
  · have hSome : r.tunnels ≠ [] := fun hNil => hNone (List.isEmpty_iff.mpr hNil)
    rw [viaWords, named, if_neg hNone, if_neg hNone]
    have hLists : List.Forall₂ Lists [(Text.join "," r.tunnelNames).toList] [r.tunnelNames] :=
      .cons (lists_join (fun hNil => hSome (List.map_eq_nil_iff.mp hNil)) fun name hName =>
        ⟨(h.isWord_name name hName).ne_nil, h.comma_notMem name hName⟩) .nil
    have hFlat : [r.tunnelNames].flatten = r.tunnelNames := List.flatten_singleton
    have hVia : Line registry ("via".toList :: _) [] (some [r.tunnelNames].flatten) :=
      .via hLists (hFlat.symm ▸ (tunnels_ne_nil_iff h.tunnels).mp hSome)
        (hFlat.symm ▸ known_of_tunnels h.tunnels)
    rwa [hFlat] at hVia

/-- **A written rule is a line of the grammar**, with the clauses of the rule. -/
theorem line_words (h : Writable registry r) :
    Line registry (words r.line.toList) r.clauses (named r) := by
  rw [h.words_line, List.map_append]
  induction r.clauses with
  | nil => exact h.line_via
  | cons c cs ih =>
    rw [List.flatMap_cons, List.map_append, List.append_assoc]
    exact .clause c.spelled_written ih

end Writable

/-! ### Reading what is written -/

theorem foldl_segment {α : Type} {s : Rule} (make : α → Clause) (put : Rule → Option α → Rule)
    (hNone : put s none = s) (hSome : ∀ a, withClause s (make a) = put s (some a))
    (o : Option α) : (o.map make).toList.foldl withClause s = put s o := by
  cases o with
  | none => exact hNone.symm
  | some a => exact hSome a

theorem foldl_clauses (r : Rule) (place : Provenance) :
    r.clauses.foldl withClause { place } = { r with tunnels := [], place } := by
  have hResolve (s : Rule) (hClear : s.resolveDns = false) :
      (if r.resolveDns then [Clause.resolveDns] else []).foldl withClause s =
        { s with resolveDns := r.resolveDns } := by
    cases r.resolveDns with
    | false =>
      cases s
      cases hClear
      rfl
    | true => rfl
  rw [clauses]
  repeat rw [List.foldl_append]
  rw [foldl_segment Clause.is (fun s o => { s with is := o }) rfl (fun _ => rfl),
    foldl_segment Clause.startsWith (fun s o => { s with startsWith := o }) rfl (fun _ => rfl),
    foldl_segment Clause.endsWith (fun s o => { s with endsWith := o }) rfl (fun _ => rfl),
    foldl_segment Clause.contains (fun s o => { s with contains := o }) rfl (fun _ => rfl),
    foldl_segment Clause.port (fun s o => { s with port := o }) rfl (fun _ => rfl),
    foldl_segment Clause.network (fun s o => { s with network := o }) rfl (fun _ => rfl),
    foldl_segment Clause.map (fun s o => { s with map := o }) rfl (fun _ => rfl),
    foldl_segment Clause.target (fun s o => { s with target := o }) rfl (fun _ => rfl),
    hResolve _ rfl]

theorem Writable.parse_line (h : Writable registry r) (place : Provenance) :
    parse registry place r.line.toList = .ok { r with place } := by
  have hTunnels : r.tunnels.map some = ((named r).getD []).map registry.lookup := by
    rw [h.tunnels, named]
    split
    case isTrue hNone => rw [tunnelNames, List.isEmpty_iff.mp hNone]; rfl
    case isFalse => rfl
  refine parse_eq_ok_iff.mpr ⟨_, _, readWords_eq_ok_iff.mpr ⟨_, h.line_words, hTunnels⟩, ?_⟩
  rw [foldl_clauses]

/-! ### Rules that were read -/

theorem Clause.Spelled.plain (h : c.Spelled ws) (hWords : ∀ w ∈ ws, IsWord w) : c.Plain := by
  cases h with
  | is value | startsWith value | endsWith value | contains value =>
    change IsWord (String.ofList value).toList
    rw [String.toList_ofList]
    exact hWords value (List.mem_cons_of_mem _ List.mem_cons_self)
  | port | network | map | target | resolveDns => trivial

theorem Line.plain (h : Line registry ws cs via) (hWords : ∀ w ∈ ws, IsWord w) :
    ∀ c ∈ cs, c.Plain := by
  induction h with
  | done | via => exact fun c hc => absurd hc List.not_mem_nil
  | clause hSpelled hRest ih =>
    intro d hd
    rcases List.mem_cons.mp hd with rfl | hd
    · exact hSpelled.plain fun w hw => hWords w (List.mem_append_left _ hw)
    · exact ih (fun w hw => hWords w (List.mem_append_right _ hw)) d hd

theorem Lists.isWord {w : List Char} {names : List String} (h : Lists w names)
    (hBlank : ∀ c ∈ w, isBlank c = false) :
    ∀ name ∈ names, IsWord name.toList ∧ ',' ∉ name.toList := by
  induction h with
  | empty => exact fun name hName => absurd hName List.not_mem_nil
  | name hSome hFree => simpa using ⟨⟨hSome, hBlank⟩, hFree⟩
  | skip _ ih => exact ih fun c hc => hBlank c (List.mem_cons_of_mem _ hc)
  | comma hSome hFree _ ih =>
    rw [List.forall_mem_append] at hBlank
    rw [List.forall_mem_cons, String.toList_ofList]
    exact ⟨⟨⟨hSome, hBlank.1⟩, hFree⟩, ih fun c hc => hBlank.2 c (List.mem_cons_of_mem _ hc)⟩

theorem isWord_of_lists {lists : List (List String)} (hLists : List.Forall₂ Lists ws lists)
    (hWords : ∀ w ∈ ws, IsWord w) :
    ∀ name ∈ lists.flatten, IsWord name.toList ∧ ',' ∉ name.toList := by
  induction hLists with
  | nil => exact fun name hName => absurd hName List.not_mem_nil
  | cons hFirst _ ih =>
    rw [List.forall_mem_cons] at hWords
    rw [List.flatten_cons, List.forall_mem_append]
    exact ⟨hFirst.isWord hWords.1.not_blank, ih hWords.2⟩

theorem Line.names (h : Line registry ws cs via) (hWords : ∀ w ∈ ws, IsWord w) :
    ∀ name ∈ via.getD [], IsWord name.toList ∧ ',' ∉ name.toList := by
  induction h with
  | done => exact fun name hName => absurd hName List.not_mem_nil
  | via hLists hSome hKnown =>
    exact isWord_of_lists hLists fun w hw => hWords w (List.mem_cons_of_mem _ hw)
  | clause hSpelled hRest ih => exact ih fun w hw => hWords w (List.mem_append_right _ hw)

theorem mem_of_lastOf {keyword : String} (h : lastOf cs keyword = some c) : c ∈ cs :=
  (List.mem_filter.mp (List.mem_of_getLast? h)).1

/-- A rule says only what the line says that it records. -/
theorem Records.mem_clauses (h : Records registry place cs via r) (hc : c ∈ r.clauses) :
    c ∈ cs := by
  have hKept {α : Type} {make : α → Clause} {o : Option α} {keyword : String}
      (hLast : o.map make = lastOf cs keyword) (hc : c ∈ (o.map make).toList) : c ∈ cs :=
    mem_of_lastOf (hLast.symm.trans (Option.mem_toList.mp hc))
  simp only [clauses, List.mem_append] at hc
  rcases hc with (((((((hc | hc) | hc) | hc) | hc) | hc) | hc) | hc) | hc
  · exact hKept h.is hc
  · exact hKept h.startsWith hc
  · exact hKept h.endsWith hc
  · exact hKept h.contains hc
  · exact hKept h.port hc
  · exact hKept h.network hc
  · exact hKept h.map hc
  · exact hKept h.target hc
  · by_cases hr : r.resolveDns = true
    · rw [if_pos hr] at hc
      rw [List.mem_singleton.mp hc]
      exact h.resolveDns.mp hr
    · rw [if_neg hr] at hc
      exact absurd hc List.not_mem_nil

theorem records_of_parse (hRead : parse registry place line = .ok r) :
    ∃ cs via, Line registry (words line) cs via ∧ Records registry place cs via r := by
  obtain ⟨cs, ts, hWords, rfl⟩ := parse_eq_ok_iff.mp hRead
  obtain ⟨via, hLine, hTunnels⟩ := readWords_eq_ok_iff.mp hWords
  exact ⟨cs, via, hLine, hLine.records hTunnels⟩

theorem writable_of_parse (hRead : parse registry place line = .ok r) : Writable registry r := by
  obtain ⟨cs, via, hLine, hRecords⟩ := records_of_parse hRead
  have hWords : ∀ w ∈ words line, IsWord w := fun w => isWord_of_mem_words
  have hNames := hLine.names hWords
  rw [← hRecords.tunnelNames] at hNames
  exact {
    plain := fun c hc => hLine.plain hWords c (hRecords.mem_clauses hc)
    isWord_name := fun name hName => (hNames name hName).1
    comma_notMem := fun name hName => (hNames name hName).2
    tunnels := hRecords.tunnelNames ▸ hRecords.tunnels }

/-! ### Without the place -/

/-- The end of a written rule, which tells its place. -/
def ending (place : Provenance) : List Char := (" (" ++ place.text ++ ")").toList

/-- What is written of a rule, without the end that tells its place. -/
def stripped (r : Rule) : List Char :=
  r.text.toList.take (r.text.toList.length - (ending r.place).length)

/-- A line read as a rule, written again and stripped. -/
def rewrite (registry : TunnelRegistry) (place : Provenance) (line : List Char) :
    Except ConfigError (List Char) :=
  (parse registry place line).map stripped

theorem toList_text (r : Rule) : r.text.toList = r.line.toList ++ ending r.place := by
  simp [text, ending]

theorem stripped_eq (r : Rule) : r.stripped = r.line.toList := by
  rw [stripped, toList_text, List.length_append, Nat.add_sub_cancel, List.take_left]

/-- **Written rules read back.**  For any line that is read as a rule with some registry and
place: the rule is written with its place at the end, and what is left without it is read as
the rule again, in all fields; at another place it differs in the place only.  So a line that
was read, written and stripped stays as it is when that is done again, at whatever place. -/
theorem parse_stripped (registry : TunnelRegistry) (place : Provenance) (line : List Char)
    (r : Rule) (hRead : parse registry place line = .ok r) :
    r.text.toList = r.stripped ++ ending place ∧
    parse registry place r.stripped = .ok r ∧
    (∀ other, parse registry other r.stripped = .ok { r with place := other }) ∧
    ∀ other, rewrite registry other r.stripped = .ok r.stripped := by
  obtain ⟨cs, via, -, hRecords⟩ := records_of_parse hRead
  have hPlace : r.place = place := hRecords.place
  have hAgain (other : Provenance) :
      parse registry other r.stripped = .ok { r with place := other } := by
    rw [stripped_eq]
    exact (writable_of_parse hRead).parse_line other
  refine ⟨?_, ?_, hAgain, fun other => ?_⟩
  · rw [stripped_eq, toList_text, hPlace]
  · rw [hAgain place, ← hPlace]
  · rw [rewrite, hAgain other]
    change Except.ok (stripped { r with place := other }) = _
    rw [stripped_eq, stripped_eq]
    rfl

/-- Tunnels that are called like the words of a rule line and like the end of a written rule. -/
def oddRegistry : TunnelRegistry := ⟨[⟨2, "via", 1080, none⟩, ⟨3, "(is", 1081, none⟩]⟩

/-- What is read of the line of `parse_stripped_odd`. -/
def oddRule : Rule where
  is := some "port"
  contains := some "#x"
  port := some 0
  network := some ⟨0x0A010203, 0xFF00FF00⟩
  map := some ⟨0x0A000001, 0xFF000000⟩
  target := some ⟨0x01020304, 0xFFFFFFFF⟩
  resolveDns := true
  tunnels := [.chained ⟨2, "via", 1080, none⟩, .chained ⟨3, "(is", 1081, none⟩,
    .chained ⟨2, "via", 1080, none⟩, .direct]
  place := ⟨"rules (old)", 3⟩

/-- Keywords as values, clauses that come again and in an order of their own, a port of zero, a
mask with gaps, and names with empty places between the commas. -/
theorem parse_stripped_odd :
    parse oddRegistry ⟨"rules (old)", 3⟩ (" map 10.0.0.1/8 is via\tport +00 network " ++
      "10.1.2.3/255.0.255.0 is port resolveDNS to 1.2.3.4 resolveDNS contains #x " ++
      "via ,via (is,, via direct").toList = .ok oddRule ∧
    oddRule.text.toList = oddRule.stripped ++ ending ⟨"rules (old)", 3⟩ ∧
    oddRule.stripped = ("is port contains #x port 0 network 10.1.2.3/255.0.255.0 map " ++
      "10.0.0.1/255.0.0.0 to 1.2.3.4/255.255.255.255 resolveDNS via via,(is,via,direct").toList ∧
    parse oddRegistry ⟨"rules (old)", 3⟩ oddRule.stripped = .ok oddRule ∧
    rewrite oddRegistry ⟨"other", 9⟩ oddRule.stripped = .ok oddRule.stripped := by
  have hRead : parse oddRegistry ⟨"rules (old)", 3⟩ (" map 10.0.0.1/8 is via\tport +00 network " ++
      "10.1.2.3/255.0.255.0 is port resolveDNS to 1.2.3.4 resolveDNS contains #x " ++
      "via ,via (is,, via direct").toList = .ok oddRule := by
    decide +kernel
  obtain ⟨hText, hSame, -, hAgain⟩ := parse_stripped _ _ _ _ hRead
  exact ⟨hRead, hText, by decide +kernel, hSame, hAgain _⟩

end Rule

end SocksGateway
