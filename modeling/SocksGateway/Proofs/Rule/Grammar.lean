import Mathlib.Data.List.Forall2
import Mathlib.Data.List.Induction
import SocksGateway.Proofs.Text.Words
import SocksGateway.Proofs.Tunnel.Registry
import SocksGateway.Rule.Parser

/-!
# The grammar of rule lines

A rule line is a sequence of clauses, maybe with the tunnels to take behind them.  The values
of clauses may be spelled as keywords, so that only the reader's way through the words tells
which word is which.

* `Clause.Spelled`, `Lists`, `Line`: the clauses, the lists of names and the lines, in words.
* `readClause_eq_ok_iff`, `lists_iff`, `readVia_eq_ok_iff`: the reader knows the parts.
* `readWords_eq_ok_iff`: and the whole, by induction on its way through the words.
* `lastOf_foldl`: of the clauses with one keyword the last counts.
* `Records`, `rule_grammar`: what is read of a line, and that the order of clauses with
  different keywords does not matter.
-/

namespace SocksGateway

namespace Rule

open Text

/-! ### Clauses and lines -/

/-- The keyword that a clause is spelled with. -/
def Clause.keyword : Clause → String
  | is _ => "is"
  | startsWith _ => "startsWith"
  | endsWith _ => "endsWith"
  | contains _ => "contains"
  | port _ => "port"
  | network _ => "network"
  | map _ => "map"
  | target _ => "to"
  | resolveDns => "resolveDNS"

/-- **How a clause is spelled**: its keyword and a word that reads as its value, if it has
one. -/
inductive Clause.Spelled : Clause → List (List Char) → Prop
  | is (value : List Char) : Spelled (.is (String.ofList value)) ["is".toList, value]
  | startsWith (value : List Char) :
      Spelled (.startsWith (String.ofList value)) ["startsWith".toList, value]
  | endsWith (value : List Char) :
      Spelled (.endsWith (String.ofList value)) ["endsWith".toList, value]
  | contains (value : List Char) :
      Spelled (.contains (String.ofList value)) ["contains".toList, value]
  | port {value : List Char} {p : UInt16} (hPort : readUInt16 value = some p) :
      Spelled (.port p) ["port".toList, value]
  | network {value : List Char} {n : Network} (hNetwork : Network.parse? value = some n) :
      Spelled (.network n) ["network".toList, value]
  | map {value : List Char} {n : Network} (hNetwork : Network.parse? value = some n) :
      Spelled (.map n) ["map".toList, value]
  | target {value : List Char} {n : Network} (hNetwork : Network.parse? value = some n) :
      Spelled (.target n) ["to".toList, value]
  | resolveDns : Spelled .resolveDns ["resolveDNS".toList]

/-- **The names that a word lists**, with commas between them.  A place between commas may be
left empty, and so may the whole word. -/
inductive Lists : List Char → List String → Prop
  | empty : Lists [] []
  | name {name : List Char} (hSome : name ≠ []) (hFree : ',' ∉ name) :
      Lists name [String.ofList name]
  | skip {w : List Char} {names : List String} (hRest : Lists w names) : Lists (',' :: w) names
  | comma {name w : List Char} {names : List String} (hSome : name ≠ []) (hFree : ',' ∉ name)
      (hRest : Lists w names) : Lists (name ++ ',' :: w) (String.ofList name :: names)

/-- **The words of a line**: clauses, one behind the other, and behind them either nothing or
`via`, with the names that all words that are left list, of which there is one, and each of
which is built in or registered. -/
inductive Line (registry : TunnelRegistry) :
    List (List Char) → List Clause → Option (List String) → Prop
  | done : Line registry [] [] none
  | via {ws : List (List Char)} {lists : List (List String)} (hLists : List.Forall₂ Lists ws lists)
      (hSome : lists.flatten ≠ [])
      (hKnown : ∀ name ∈ lists.flatten,
        name = "direct" ∨ name = "null" ∨ ∃ c ∈ registry.chained, c.name = name) :
      Line registry ("via".toList :: ws) [] (some lists.flatten)
  | clause {c : Clause} {ws rest : List (List Char)} {cs : List Clause}
      {via : Option (List String)} (hSpelled : c.Spelled ws) (hRest : Line registry rest cs via) :
      Line registry (ws ++ rest) (c :: cs) via

variable {registry : TunnelRegistry} {place : Provenance} {c : Clause} {cs ds : List Clause}
  {via : Option (List String)} {ws : List (List Char)} {ts : List Tunnel}
  {keyword value : List Char}

/-! ### The parts of a line -/

theorem map_eq_ok_iff {ε α β : Type} {x : Except ε α} {f : α → β} {b : β} :
    x.map f = .ok b ↔ ∃ a, x = .ok a ∧ f a = b := by
  cases x <;> simp [Except.map]

theorem readNetwork_eq_ok_iff {n : Network} :
    readNetwork value = .ok n ↔ Network.parse? value = some n := by
  rw [readNetwork, Network.parse]
  cases Network.parse? value <;> simp

theorem readClause_eq_ok_iff : readClause keyword value = .ok c ↔ c.Spelled [keyword, value] := by
  constructor
  · intro h
    unfold readClause at h
    split at h
    · subst keyword
      cases h
      exact .is value
    split at h
    · subst keyword
      cases h
      exact .startsWith value
    split at h
    · subst keyword
      cases h
      exact .endsWith value
    split at h
    · subst keyword
      cases h
      exact .contains value
    split at h
    · subst keyword
      split at h
      · rename_i hPort
        cases h
        exact .port hPort
      · cases h
    split at h
    · subst keyword
      obtain ⟨n, hNetwork, rfl⟩ := map_eq_ok_iff.mp h
      exact .network (readNetwork_eq_ok_iff.mp hNetwork)
    split at h
    · subst keyword
      obtain ⟨n, hNetwork, rfl⟩ := map_eq_ok_iff.mp h
      exact .map (readNetwork_eq_ok_iff.mp hNetwork)
    split at h
    · subst keyword
      obtain ⟨n, hNetwork, rfl⟩ := map_eq_ok_iff.mp h
      exact .target (readNetwork_eq_ok_iff.mp hNetwork)
    · cases h
  · intro h
    cases h with
    | is => rfl
    | startsWith => rfl
    | endsWith => rfl
    | contains => rfl
    | port hPort =>
      unfold readClause
      rw [if_neg (by decide), if_neg (by decide), if_neg (by decide), if_neg (by decide),
        if_pos rfl, hPort]
    | network hNetwork => exact map_eq_ok_iff.mpr ⟨_, readNetwork_eq_ok_iff.mpr hNetwork, rfl⟩
    | map hNetwork => exact map_eq_ok_iff.mpr ⟨_, readNetwork_eq_ok_iff.mpr hNetwork, rfl⟩
    | target hNetwork => exact map_eq_ok_iff.mpr ⟨_, readNetwork_eq_ok_iff.mpr hNetwork, rfl⟩

/-- A clause with a value begins with its keyword, which is none of those without a value. -/
theorem Clause.Spelled.cases (h : c.Spelled ws) :
    (c = .resolveDns ∧ ws = ["resolveDNS".toList]) ∨
      ∃ value, ws = [c.keyword.toList, value] ∧ c.keyword.toList ≠ "resolveDNS".toList ∧
        c.keyword.toList ≠ "via".toList := by
  cases h with
  | resolveDns => exact .inl ⟨rfl, rfl⟩
  | _ =>
    refine .inr ⟨_, rfl, ?_⟩
    dsimp only [Clause.keyword]
    decide

theorem readTunnels_eq_ok_iff {names : List (List Char)} :
    readTunnels registry names = .ok ts ↔
      ts.map some = (names.map String.ofList).map registry.lookup := by
  induction names generalizing ts with
  | nil =>
    rw [readTunnels, List.map_nil, List.map_nil, List.map_eq_nil_iff, Except.ok.injEq]
    exact eq_comm
  | cons name names ih =>
    rw [readTunnels, List.map_cons, List.map_cons]
    cases registry.lookup (String.ofList name) with
    | none => cases ts <;> simp
    | some t =>
      cases ts with
      | nil => cases readTunnels registry names <;> simp
      | cons u us =>
        rw [List.map_cons, List.cons.injEq, ← ih]
        cases readTunnels registry names <;> simp [eq_comm]

/-- The names of a word, as the reader cuts them out of it. -/
def namesOf (w : List Char) : List String :=
  ((split (· == ',') w).filter fun name => !name.isEmpty).map String.ofList

theorem namesOf_append_cons (a b : List Char) :
    namesOf (a ++ ',' :: b) = namesOf a ++ namesOf b := by
  rw [namesOf, split_at_append_cons, List.filter_append, List.map_append]
  rfl

theorem namesOf_of_free {name : List Char} (hSome : name ≠ []) (hFree : ',' ∉ name) :
    namesOf name = [String.ofList name] := by
  rw [namesOf, split_at_of_not_mem hFree, List.filter_cons_of_pos (by simpa using hSome)]
  rfl

theorem lists_namesOf (w : List Char) : Lists w (namesOf w) := by
  -- The word is cut at its first comma.
  induction hLength : w.length using Nat.strongRecOn generalizing w with
  | _ n ih =>
    subst n
    cases hCut : cutFirst ',' w with
    | none =>
      by_cases hSome : w = []
      · rw [hSome]
        exact .empty
      · rw [namesOf_of_free hSome (cutFirst_eq_none_iff.mp hCut)]
        exact .name hSome (cutFirst_eq_none_iff.mp hCut)
    | some parts =>
      obtain ⟨name, rest⟩ := parts
      obtain ⟨rfl, hFree⟩ := cutFirst_eq_some_iff.mp hCut
      have hRest := ih rest.length (by simp; omega) rest rfl
      rw [namesOf_append_cons]
      by_cases hSome : name = []
      · rw [hSome]
        exact .skip hRest
      · rw [namesOf_of_free hSome hFree]
        exact .comma hSome hFree hRest

/-- **A word lists the names that the reader cuts out of it**, and no others. -/
theorem lists_iff {w : List Char} {names : List String} : Lists w names ↔ names = namesOf w := by
  constructor
  · intro h
    induction h with
    | empty => rfl
    | name hSome hFree => exact (namesOf_of_free hSome hFree).symm
    | skip _ ih => exact ih.trans (namesOf_append_cons [] _).symm
    | comma hSome hFree _ ih =>
      rw [namesOf_append_cons, namesOf_of_free hSome hFree, ih]
      rfl
  · rintro rfl
    exact lists_namesOf w

theorem forall₂_lists_iff {lists : List (List String)} :
    List.Forall₂ Lists ws lists ↔ ws.map namesOf = lists := by
  have hSame : Lists = fun w names => namesOf w = names := by
    funext w names
    exact propext (lists_iff.trans eq_comm)
  rw [← List.forall₂_eq_eq_eq, List.forall₂_map_left_iff, hSame]

theorem flatten_namesOf (ws : List (List Char)) :
    (ws.map namesOf).flatten = (listedNames ws).map String.ofList := by
  induction ws with
  | nil => rfl
  | cons w ws ih =>
    rw [List.map_cons, List.flatten_cons, ih, listedNames, listedNames, List.flatMap_cons,
      List.filter_append, List.map_append]
    rfl

theorem readVia_eq_ok_iff :
    readVia registry ws = .ok ts ↔
      ts ≠ [] ∧ ts.map some = ((listedNames ws).map String.ofList).map registry.lookup := by
  rw [readVia, ← readTunnels_eq_ok_iff]
  cases readTunnels registry (listedNames ws) with
  | error fault => exact ⟨fun h => (nomatch h), fun h => (nomatch h.2)⟩
  | ok us =>
    cases us with
    | nil =>
      refine ⟨fun h => (nomatch h), ?_⟩
      rintro ⟨hSome, h⟩
      cases h
      exact absurd rfl hSome
    | cons u us =>
      refine ⟨?_, And.right⟩
      intro h
      cases h
      exact ⟨List.cons_ne_nil u us, rfl⟩

section Names

variable {names : List String}

theorem exists_tunnels
    (hKnown : ∀ name ∈ names,
      name = "direct" ∨ name = "null" ∨ ∃ c ∈ registry.chained, c.name = name) :
    ∃ ts : List Tunnel, ts.map some = names.map registry.lookup := by
  induction names with
  | nil => exact ⟨[], rfl⟩
  | cons name names ih =>
    obtain ⟨t, hFound⟩ := TunnelRegistry.exists_lookup_iff.mpr (hKnown name List.mem_cons_self)
    obtain ⟨ts, hTunnels⟩ := ih fun other hOther => hKnown other (List.mem_cons_of_mem name hOther)
    exact ⟨t :: ts, by rw [List.map_cons, List.map_cons, hFound, hTunnels]⟩

theorem known_of_tunnels (hTunnels : ts.map some = names.map registry.lookup) :
    ∀ name ∈ names, name = "direct" ∨ name = "null" ∨ ∃ c ∈ registry.chained, c.name = name := by
  intro name hName
  have hLookup := List.mem_map_of_mem (f := registry.lookup) hName
  rw [← hTunnels] at hLookup
  obtain ⟨t, -, hFound⟩ := List.mem_map.mp hLookup
  exact TunnelRegistry.exists_lookup_iff.mp ⟨t, hFound.symm⟩

theorem tunnels_ne_nil_iff (hTunnels : ts.map some = names.map registry.lookup) :
    ts ≠ [] ↔ names ≠ [] := by
  have hLength := congrArg List.length hTunnels
  rw [List.length_map, List.length_map] at hLength
  rw [← List.length_pos_iff, ← List.length_pos_iff, hLength]

theorem map_name_of_tunnels (hTunnels : ts.map some = names.map registry.lookup) :
    ts.map Tunnel.name = names := by
  induction names generalizing ts with
  | nil =>
    obtain rfl := List.map_eq_nil_iff.mp hTunnels
    rfl
  | cons name names ih =>
    obtain ⟨t, us, rfl, hFound, hRest⟩ := List.map_eq_cons_iff.mp hTunnels
    rw [List.map_cons, ih hRest, TunnelRegistry.name_of_lookup hFound.symm]

end Names

/-! ### Whole lines -/

/-- **The reader knows the lines**, and finds the tunnels that they name. -/
theorem readWords_eq_ok_iff :
    readWords registry ws = .ok (cs, ts) ↔
      ∃ via, Line registry ws cs via ∧ ts.map some = (via.getD []).map registry.lookup := by
  constructor
  · intro h
    fun_induction readWords registry ws generalizing cs ts with
    | case1 =>
      cases h
      exact ⟨none, .done, rfl⟩
    | case2 rest ih =>
      obtain ⟨⟨cs, ts⟩, hRest, h⟩ := map_eq_ok_iff.mp h
      cases h
      obtain ⟨via, hLine, hTunnels⟩ := ih hRest
      exact ⟨via, .clause .resolveDns hLine, hTunnels⟩
    | case3 => cases h
    | case4 hNot value rest =>
      obtain ⟨ts, hVia, h⟩ := map_eq_ok_iff.mp h
      cases h
      obtain ⟨hSome, hTunnels⟩ := readVia_eq_ok_iff.mp hVia
      rw [← flatten_namesOf] at hTunnels
      exact ⟨_, .via (forall₂_lists_iff.mpr rfl) ((tunnels_ne_nil_iff hTunnels).mp hSome)
        (known_of_tunnels hTunnels), hTunnels⟩
    | case5 => cases h
    | case6 keyword hNot value rest hVia c hClause ih =>
      obtain ⟨⟨cs, ts⟩, hRest, h⟩ := map_eq_ok_iff.mp h
      cases h
      obtain ⟨via, hLine, hTunnels⟩ := ih hRest
      exact ⟨via, .clause (readClause_eq_ok_iff.mp hClause) hLine, hTunnels⟩
  · rintro ⟨via, hLine, hTunnels⟩
    induction hLine generalizing ts with
    | done =>
      obtain rfl := List.map_eq_nil_iff.mp hTunnels
      rfl
    | via hLists hSome hKnown =>
      rename_i ws lists
      obtain rfl := forall₂_lists_iff.mp hLists
      have hVia : readVia registry ws = .ok ts := by
        refine readVia_eq_ok_iff.mpr ⟨(tunnels_ne_nil_iff hTunnels).mpr hSome, ?_⟩
        rw [← flatten_namesOf]
        exact hTunnels
      cases ws with
      | nil => exact absurd rfl hSome
      | cons value rest =>
        rw [readWords, if_neg (by decide)]
        dsimp only
        rw [if_pos rfl, hVia]
        rfl
    | clause hSpelled hRest ih =>
      have hRead := ih hTunnels
      rcases hSpelled.cases with ⟨rfl, rfl⟩ | ⟨value, rfl, hNot, hNotVia⟩
      · rw [List.singleton_append, readWords.eq_def]
        dsimp only
        rw [if_pos rfl, hRead]
        rfl
      · rw [List.cons_append, List.singleton_append, readWords, if_neg hNot]
        dsimp only
        rw [if_neg hNotVia, readClause_eq_ok_iff.mpr hSpelled]
        dsimp only
        rw [hRead]
        rfl

theorem parse_eq_ok_iff {line : List Char} {r : Rule} :
    parse registry place line = .ok r ↔
      ∃ cs ts, readWords registry (words line) = .ok (cs, ts) ∧
        r = { cs.foldl withClause { place } with tunnels := ts } := by
  rw [parse]
  cases readWords registry (words line) with
  | error fault => simp
  | ok parts => simp [Prod.ext_iff, eq_comm]

theorem parse_eq_error_iff {line : List Char} {e : ConfigError} :
    parse registry place line = .error e ↔
      ∃ fault, readWords registry (words line) = .error fault ∧ e = .rule place fault := by
  rw [parse]
  cases readWords registry (words line) with
  | error fault => simp [eq_comm]
  | ok parts => simp

/-! ### Clauses that come again -/

/-- The last clause with a keyword. -/
def lastOf (cs : List Clause) (keyword : String) : Option Clause :=
  (cs.filter fun c => c.keyword == keyword).getLast?

/-- **The clauses of each keyword come in the same order**, and how they are mixed with those
of other keywords may differ. -/
def Reordered (cs ds : List Clause) : Prop :=
  ∀ keyword, (cs.filter fun c => c.keyword == keyword) = ds.filter fun c => c.keyword == keyword

theorem lastOf_concat (cs : List Clause) (c : Clause) (keyword : String) :
    lastOf (cs ++ [c]) keyword = if c.keyword = keyword then some c else lastOf cs keyword := by
  by_cases h : c.keyword = keyword
  · simp [lastOf, h]
  · simp [lastOf, h]

/-- **Of the clauses with one keyword the last counts**, for what a rule keeps of them. -/
theorem lastOf_foldl {keyword : String} {r : Rule} (kept : Rule → Option Clause)
    (hStart : kept r = none)
    (hStep : ∀ r c, kept (withClause r c) = if c.keyword = keyword then some c else kept r) :
    kept (cs.foldl withClause r) = lastOf cs keyword := by
  induction cs using List.reverseRecOn with
  | nil => exact hStart
  | append_singleton cs c ih =>
    rw [List.foldl_append, List.foldl_cons, List.foldl_nil, hStep, lastOf_concat, ih]

theorem resolveDns_foldl {r : Rule} :
    (cs.foldl withClause r).resolveDns = true ↔ r.resolveDns = true ∨ .resolveDns ∈ cs := by
  induction cs generalizing r with
  | nil => simp
  | cons c cs ih =>
    rw [List.foldl_cons, ih]
    cases c <;> simp [withClause]

theorem place_foldl {r : Rule} : (cs.foldl withClause r).place = r.place := by
  induction cs generalizing r with
  | nil => rfl
  | cons c cs ih =>
    rw [List.foldl_cons, ih]
    cases c <;> rfl

/-- Clauses with distinct keywords may come in any order. -/
theorem reordered_of_perm (hPerm : cs.Perm ds) (hDistinct : (cs.map Clause.keyword).Nodup) :
    Reordered cs ds := by
  intro keyword
  have hFilter := hPerm.filter fun c => c.keyword == keyword
  have hNodup := hDistinct.sublist ((List.filter_sublist (p := fun c => c.keyword == keyword)).map
    Clause.keyword)
  have hKeyword {c : Clause} (hc : c ∈ cs.filter fun c => c.keyword == keyword) :
      c.keyword = keyword := by simpa using (List.mem_filter.mp hc).2
  -- There is at most one clause with the keyword, which leaves no choice.
  cases hOnly : cs.filter fun c => c.keyword == keyword with
  | nil =>
    rw [hOnly] at hFilter
    exact hFilter.nil_eq
  | cons c rest =>
    rw [hOnly] at hFilter hNodup hKeyword
    cases rest with
    | nil => exact hFilter.singleton_eq
    | cons d rest =>
      rw [List.map_cons, List.map_cons, hKeyword List.mem_cons_self,
        hKeyword (List.mem_cons_of_mem c List.mem_cons_self)] at hNodup
      exact absurd List.mem_cons_self (List.nodup_cons.mp hNodup).1

/-! ### What is read of a line -/

/-- **What a rule records of a line**: of each keyword the last clause, whether names are to
be resolved, and the tunnels by their names. -/
structure Records (registry : TunnelRegistry) (place : Provenance) (cs : List Clause)
    (via : Option (List String)) (r : Rule) : Prop where
  is : r.is.map .is = lastOf cs "is"
  startsWith : r.startsWith.map .startsWith = lastOf cs "startsWith"
  endsWith : r.endsWith.map .endsWith = lastOf cs "endsWith"
  contains : r.contains.map .contains = lastOf cs "contains"
  port : r.port.map .port = lastOf cs "port"
  network : r.network.map .network = lastOf cs "network"
  map : r.map.map .map = lastOf cs "map"
  target : r.target.map .target = lastOf cs "to"
  resolveDns : r.resolveDns = true ↔ .resolveDns ∈ cs
  tunnels : r.tunnels.map some = (via.getD []).map registry.lookup
  tunnelNames : r.tunnelNames = via.getD []
  isTerminal : r.tunnels ≠ [] ↔ via.isSome = true
  place : r.place = place

theorem Line.names_ne_nil (h : Line registry ws cs via) : via.getD [] ≠ [] ↔ via.isSome = true := by
  induction h with
  | done => simp
  | via hNames hSome hKnown => simpa using hSome
  | clause hSpelled hRest ih => exact ih

theorem Line.known (h : Line registry ws cs via) : ∀ name ∈ via.getD [],
    name = "direct" ∨ name = "null" ∨ ∃ c ∈ registry.chained, c.name = name := by
  induction h with
  | done => simp
  | via hNames hSome hKnown => exact hKnown
  | clause hSpelled hRest ih => exact ih

theorem Line.records (h : Line registry ws cs via)
    (hTunnels : ts.map some = (via.getD []).map registry.lookup) :
    Records registry place cs via { cs.foldl withClause { place } with tunnels := ts } where
  is := lastOf_foldl (fun r => r.is.map .is) rfl fun r c => by cases c <;> rfl
  startsWith := lastOf_foldl (fun r => r.startsWith.map .startsWith) rfl
    fun r c => by cases c <;> rfl
  endsWith := lastOf_foldl (fun r => r.endsWith.map .endsWith) rfl
    fun r c => by cases c <;> rfl
  contains := lastOf_foldl (fun r => r.contains.map .contains) rfl
    fun r c => by cases c <;> rfl
  port := lastOf_foldl (fun r => r.port.map .port) rfl fun r c => by cases c <;> rfl
  network := lastOf_foldl (fun r => r.network.map .network) rfl
    fun r c => by cases c <;> rfl
  map := lastOf_foldl (fun r => r.map.map .map) rfl fun r c => by cases c <;> rfl
  target := lastOf_foldl (fun r => r.target.map .target) rfl fun r c => by cases c <;> rfl
  resolveDns := resolveDns_foldl.trans (by simp)
  tunnels := hTunnels
  tunnelNames := map_name_of_tunnels hTunnels
  isTerminal := (tunnels_ne_nil_iff hTunnels).trans h.names_ne_nil
  place := place_foldl

attribute [ext] Rule

/-- What is recorded leaves no choice, and neither does the order among other keywords. -/
theorem Records.eq_of_reordered {r r' : Rule} (h : Records registry place cs via r)
    (h' : Records registry place ds via r') (hSame : Reordered cs ds) : r' = r := by
  have hLast (keyword : String) : lastOf ds keyword = lastOf cs keyword :=
    congrArg List.getLast? (hSame keyword).symm
  have hResolve : .resolveDns ∈ ds ↔ .resolveDns ∈ cs := by
    have hFilter : (.resolveDns ∈ ds.filter fun c => c.keyword == "resolveDNS") ↔
        .resolveDns ∈ cs.filter fun c => c.keyword == "resolveDNS" := by
      rw [hSame "resolveDNS"]
    simpa [Clause.keyword] using hFilter
  have hKept {α : Type} {make : α → Clause} {o o' : Option α} {keyword : String}
      (hMake : ∀ a b, make a = make b → a = b) (ho : o.map make = lastOf cs keyword)
      (ho' : o'.map make = lastOf ds keyword) : o' = o :=
    Option.map_injective hMake (ho'.trans ((hLast keyword).trans ho.symm))
  apply Rule.ext
  case is => exact hKept (fun _ _ => Clause.is.inj) h.is h'.is
  case startsWith => exact hKept (fun _ _ => Clause.startsWith.inj) h.startsWith h'.startsWith
  case endsWith => exact hKept (fun _ _ => Clause.endsWith.inj) h.endsWith h'.endsWith
  case contains => exact hKept (fun _ _ => Clause.contains.inj) h.contains h'.contains
  case port => exact hKept (fun _ _ => Clause.port.inj) h.port h'.port
  case network => exact hKept (fun _ _ => Clause.network.inj) h.network h'.network
  case map => exact hKept (fun _ _ => Clause.map.inj) h.map h'.map
  case target => exact hKept (fun _ _ => Clause.target.inj) h.target h'.target
  case resolveDns =>
    exact Bool.eq_iff_iff.mpr (h'.resolveDns.trans (hResolve.trans h.resolveDns.symm))
  case tunnels =>
    exact (List.map_inj_right fun _ _ => Option.some.inj).mp (h'.tunnels.trans h.tunnels.symm)
  case place => rw [h'.place, h.place]

theorem Line.parse {line : List Char} (h : Line registry (words line) cs via)
    (place : Provenance) :
    ∃ r, parse registry place line = .ok r ∧ Records registry place cs via r := by
  obtain ⟨ts, hTunnels⟩ := exists_tunnels h.known
  refine ⟨_, ?_, h.records hTunnels⟩
  rw [Rule.parse, readWords_eq_ok_iff.mpr ⟨via, h, hTunnels⟩]

/-- **The grammar of rule lines.**  For any registry and line: the line is read as a rule
exactly when its words make up a line of the grammar, and then the rule records what they
say.  A line with the same clauses in another order, apart from clauses with one keyword, is
read as the same rule; any order will do for clauses with distinct keywords. -/
theorem rule_grammar (registry : TunnelRegistry) (place : Provenance) (line : List Char) :
    ((∃ r, parse registry place line = .ok r) ↔
      ∃ cs via, Line registry (words line) cs via) ∧
    (∀ cs via, Line registry (words line) cs via →
      (∃ r, parse registry place line = .ok r ∧ Records registry place cs via r) ∧
      ∀ other ds, Line registry (words other) ds via → Reordered cs ds →
        parse registry place other = parse registry place line) ∧
    ∀ cs ds : List Clause, cs.Perm ds → (cs.map Clause.keyword).Nodup → Reordered cs ds := by
  refine ⟨⟨?_, ?_⟩, ?_, fun cs ds => reordered_of_perm⟩
  · rintro ⟨r, h⟩
    rw [parse] at h
    cases hRead : readWords registry (words line) with
    | error fault =>
      rw [hRead] at h
      cases h
    | ok parts =>
      obtain ⟨via, hLine, -⟩ := readWords_eq_ok_iff.mp hRead
      exact ⟨parts.1, via, hLine⟩
  · rintro ⟨cs, via, hLine⟩
    obtain ⟨r, hRule, -⟩ := hLine.parse place
    exact ⟨r, hRule⟩
  · intro cs via hLine
    obtain ⟨r, hRule, hRecords⟩ := hLine.parse place
    refine ⟨⟨r, hRule, hRecords⟩, ?_⟩
    intro other ds hOther hSame
    obtain ⟨r', hRule', hRecords'⟩ := hOther.parse place
    rw [hRule, hRule', hRecords.eq_of_reordered hRecords' hSame]

/-- A clause whose value spells a keyword, one that comes again, and names with empty places
between the commas. -/
example :
    parse {} ⟨"rules", 1⟩ "is via port 80 resolveDNS port 443 via ,direct, null".toList =
      .ok { is := some "via", port := some 443, resolveDns := true,
            tunnels := [.direct, .null], place := ⟨"rules", 1⟩ } := by
  decide +kernel

end Rule

end SocksGateway
