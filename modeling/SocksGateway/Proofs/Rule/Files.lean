import Mathlib.Data.List.Forall2
import SocksGateway.Config.Files
import SocksGateway.Proofs.Rule.Grammar
import SocksGateway.Proofs.Text.Words

/-!
# The rules of a file and of a configuration

Lines are numbered before those without a significant part are dropped, so that a rule and a
refusal tell the number that the line has in the whole text.

* `significantLines`: the lines that count, by their numbers.  `significantLines_eq`: they may
  be counted between the line feeds, whatever ends a line or the text.
* `ReadAs`, `Refuses`: what numbered lines are read as, and which of them is refused.
* `parseNumbered_eq_ok_iff`, `parseNumbered_eq_error_iff`: reading knows both.
* `parseNumbered_renumber`: numbers make no other difference.
* `rules_in_order`: rules files and configurations.
-/

namespace SocksGateway

namespace Rule

open Text

variable {registry : TunnelRegistry} {place : Provenance} {file : String} {r : Rule}
  {rules : List Rule} {e : ConfigError} {line : List Char} {ls : List (Nat × List Char)}

/-! ### Lines that count -/

/-- The significant parts of lines, numbered from one, the empty ones left out. -/
def counted (ps : List (List Char)) : List (Nat × List Char) :=
  (ps.zipIdx 1).filterMap fun (line, n) =>
    if significant line = [] then none else some (n, significant line)

/-- **The lines with a significant part**, by their numbers: that part of each. -/
def significantLines (text : List Char) : List (Nat × List Char) := counted (lines text)

theorem numberLines_eq (n : Nat) (ps : List (List Char)) :
    numberLines n ps = (ps.zipIdx n).filterMap fun (line, n) =>
      if significant line = [] then none else some (n, significant line) := by
  induction ps generalizing n with
  | nil => rfl
  | cons p ps ih =>
    rw [numberLines, List.zipIdx_cons, List.filterMap_cons, ih]
    by_cases hp : significant p = []
    · simp [hp]
    · simp [hp]

theorem trim_concat {s : List Char} {c : Char} (hBlank : isBlank c = true) :
    trim (s ++ [c]) = trim s := by
  rw [trim, trim, List.dropWhile_append]
  cases hs : s.dropWhile isBlank with
  | nil => simp [hBlank]
  | cons d ds => simp [hBlank]

theorem significant_concat_return (line : List Char) :
    significant (line ++ ['\r']) = significant line := by
  rw [significant, significant, List.takeWhile_append]
  split
  case isTrue hWhole =>
    rw [(List.takeWhile_prefix _).eq_of_length hWhole]
    exact trim_concat (by decide)
  case isFalse => rfl

theorem significant_dropReturn (line : List Char) :
    significant (dropReturn line) = significant line := by
  unfold dropReturn
  split
  case h_1 front hLine =>
    have hConcat : line = front.reverse ++ ['\r'] := by
      rw [← List.reverse_reverse line, hLine, List.reverse_cons]
    rw [hConcat, significant_concat_return]
  case h_2 => rfl

theorem numberLines_endLines (n : Nat) (ps : List (List Char)) :
    numberLines n (endLines ps) = numberLines n ps := by
  induction ps generalizing n with
  | nil => rfl
  | cons p ps ih =>
    cases ps with
    | nil =>
      cases p with
      | nil => rfl
      | cons c cs => rfl
    | cons q qs =>
      rw [endLines.eq_3 p (q :: qs) (List.cons_ne_nil q qs), numberLines, numberLines,
        significant_dropReturn, ih]

/-- **Lines may be counted between the line feeds**, whatever ends a line or the text. -/
theorem significantLines_eq (text : List Char) :
    significantLines text = counted (text.splitOn '\n') := by
  rw [significantLines, counted, ← numberLines_eq, lines, numberLines_endLines, numberLines_eq,
    split_eq_splitOnP, List.splitOn_eq_splitOnP, counted]

theorem numberLines_append (n : Nat) (front back : List (List Char)) :
    numberLines n (front ++ back) = numberLines n front ++ numberLines (n + front.length) back := by
  rw [numberLines_eq, numberLines_eq, numberLines_eq, List.zipIdx_append, List.filterMap_append]

theorem of_mem_numberLines {n k : Nat} {part : List Char} {ps : List (List Char)}
    (h : (k, part) ∈ numberLines n ps) : n ≤ k ∧ k < n + ps.length := by
  rw [numberLines_eq] at h
  obtain ⟨⟨line, m⟩, hLine, hPart⟩ := List.mem_filterMap.mp h
  have hRange := List.mem_zipIdx hLine
  dsimp only at hPart
  split at hPart
  case isTrue => cases hPart
  case isFalse =>
    cases hPart
    omega

theorem numberLines_succ (n : Nat) (ps : List (List Char)) :
    numberLines (n + 1) ps = (numberLines n ps).map fun l => (l.1 + 1, l.2) := by
  induction ps generalizing n with
  | nil => rfl
  | cons p ps ih =>
    rw [numberLines, numberLines, ih]
    cases significant p with
    | nil => rfl
    | cons c cs => rfl

/-- The numbers of lines after one more line was put in behind the first `k`. -/
def pushed (k n : Nat) : Nat := if n ≤ k then n else n + 1

/-- A line without a significant part only moves the lines behind it. -/
theorem numberLines_insert {line : List Char} (hLine : significant line = [])
    (front back : List (List Char)) :
    numberLines 1 (front ++ line :: back) =
      (numberLines 1 (front ++ back)).map fun l => (pushed front.length l.1, l.2) := by
  have hFront : ∀ l ∈ numberLines 1 front, (pushed front.length l.1, l.2) = l := by
    intro l hl
    have hRange := of_mem_numberLines hl
    rw [pushed, if_pos (by omega)]
  have hBack : ∀ l ∈ numberLines (1 + front.length) back,
      (pushed front.length l.1, l.2) = (l.1 + 1, l.2) := by
    intro l hl
    have hRange := of_mem_numberLines hl
    rw [pushed, if_neg (by omega)]
  have hSkip (n : Nat) : numberLines n (line :: back) = numberLines (n + 1) back := by
    rw [numberLines, hLine]
    rfl
  rw [numberLines_append, numberLines_append, List.map_append, List.map_congr_left hFront,
    List.map_congr_left hBack, hSkip, numberLines_succ (1 + front.length), List.map_id']

/-! ### Numbered lines -/

/-- **Numbered lines are read as rules**, one each and in their order. -/
def ReadAs (registry : TunnelRegistry) (file : String) :
    List (Nat × List Char) → List Rule → Prop :=
  List.Forall₂ fun l r => parse registry ⟨file, l.1⟩ l.2 = .ok r

/-- **One of the lines is refused**, and those in front of it are not: the error tells its
number. -/
inductive Refuses (registry : TunnelRegistry) (file : String) :
    List (Nat × List Char) → ConfigError → Prop
  | intro {front back : List (Nat × List Char)} {n : Nat} {line : List Char} {rules : List Rule}
      {fault : RuleFault} (hFront : ReadAs registry file front rules)
      (hFault : parse registry ⟨file, n⟩ line = .error (.rule ⟨file, n⟩ fault)) :
      Refuses registry file (front ++ (n, line) :: back) (.rule ⟨file, n⟩ fault)

theorem parseNumbered_append {front back : List (Nat × List Char)}
    (hFront : ReadAs registry file front rules) :
    parseNumbered registry file (front ++ back) =
      (parseNumbered registry file back).map (rules ++ ·) := by
  induction hFront with
  | nil =>
    rw [List.nil_append]
    cases parseNumbered registry file back <;> rfl
  | cons hLine _ ih =>
    rw [List.cons_append, parseNumbered, hLine]
    dsimp only
    rw [ih]
    cases parseNumbered registry file back <;> rfl

theorem ReadAs.parseNumbered_eq (h : ReadAs registry file ls rules) :
    parseNumbered registry file ls = .ok rules := by
  rw [← List.append_nil ls, parseNumbered_append h, parseNumbered]
  exact congrArg Except.ok (List.append_nil rules)

theorem Refuses.parseNumbered_eq (h : Refuses registry file ls e) :
    parseNumbered registry file ls = .error e := by
  cases h with
  | intro hFront hFault =>
    rw [parseNumbered_append hFront, parseNumbered, hFault]
    rfl

theorem readAs_or_refuses (registry : TunnelRegistry) (file : String)
    (ls : List (Nat × List Char)) :
    (∃ rules, ReadAs registry file ls rules) ∨ ∃ e, Refuses registry file ls e := by
  induction ls with
  | nil => exact .inl ⟨[], .nil⟩
  | cons l ls ih =>
    obtain ⟨n, line⟩ := l
    cases hLine : parse registry ⟨file, n⟩ line with
    | error e =>
      obtain ⟨fault, -, rfl⟩ := parse_eq_error_iff.mp hLine
      have hFirst : Refuses registry file ([] ++ (n, line) :: ls) (.rule ⟨file, n⟩ fault) :=
        .intro .nil hLine
      exact .inr ⟨_, hFirst⟩
    | ok r =>
      rcases ih with ⟨rules, hRead⟩ | ⟨e, hRefused⟩
      · exact .inl ⟨r :: rules, .cons hLine hRead⟩
      · cases hRefused with
        | intro hFront hFault => exact .inr ⟨_, .intro (.cons hLine hFront) hFault⟩

theorem parseNumbered_eq_ok_iff :
    parseNumbered registry file ls = .ok rules ↔ ReadAs registry file ls rules := by
  refine ⟨fun h => ?_, ReadAs.parseNumbered_eq⟩
  rcases readAs_or_refuses registry file ls with ⟨rules', hRead⟩ | ⟨e, hRefused⟩
  · cases hRead.parseNumbered_eq.symm.trans h
    exact hRead
  · cases hRefused.parseNumbered_eq.symm.trans h

/-- **Reading fails with the first line that is refused.** -/
theorem parseNumbered_eq_error_iff :
    parseNumbered registry file ls = .error e ↔ Refuses registry file ls e := by
  refine ⟨fun h => ?_, Refuses.parseNumbered_eq⟩
  rcases readAs_or_refuses registry file ls with ⟨rules, hRead⟩ | ⟨e', hRefused⟩
  · cases hRead.parseNumbered_eq.symm.trans h
  · cases hRefused.parseNumbered_eq.symm.trans h
    exact hRefused

theorem exists_readAs_iff :
    (∃ rules, ReadAs registry file ls rules) ↔
      ∀ l ∈ ls, ∃ r, parse registry ⟨file, l.1⟩ l.2 = .ok r := by
  induction ls with
  | nil => exact ⟨fun _ l hl => absurd hl List.not_mem_nil, fun _ => ⟨[], .nil⟩⟩
  | cons l ls ih =>
    rw [List.forall_mem_cons, ← ih]
    constructor
    · rintro ⟨rules, hRead⟩
      cases hRead with
      | cons hLine hRest => exact ⟨⟨_, hLine⟩, _, hRest⟩
    · rintro ⟨⟨r, hLine⟩, rules, hRest⟩
      exact ⟨r :: rules, .cons hLine hRest⟩

/-! ### Other numbers -/

/-- The rule with another line number. -/
def renumbered (f : Nat → Nat) (r : Rule) : Rule :=
  { r with place := ⟨r.place.file, f r.place.line⟩ }

/-- What is read, with other line numbers in the places. -/
def renumber (f : Nat → Nat) : Except ConfigError (List Rule) → Except ConfigError (List Rule)
  | .ok rules => .ok (rules.map (renumbered f))
  | .error (.rule place fault) => .error (.rule ⟨place.file, f place.line⟩ fault)
  | .error e => .error e

theorem foldl_withClause_place (cs : List Clause) (r : Rule) (place : Provenance) :
    cs.foldl withClause { r with place } = { cs.foldl withClause r with place } := by
  induction cs generalizing r with
  | nil => rfl
  | cons c cs ih =>
    rw [List.foldl_cons, List.foldl_cons, ← ih]
    cases c <;> rfl

theorem parse_of_ok {n : Nat} (f : Nat → Nat) (h : parse registry ⟨file, n⟩ line = .ok r) :
    parse registry ⟨file, f n⟩ line = .ok (renumbered f r) := by
  obtain ⟨cs, ts, hWords, rfl⟩ := parse_eq_ok_iff.mp h
  refine parse_eq_ok_iff.mpr ⟨cs, ts, hWords, ?_⟩
  have hFold : cs.foldl withClause { place := ⟨file, f n⟩ } =
      { cs.foldl withClause { place := ⟨file, n⟩ } with place := ⟨file, f n⟩ } :=
    foldl_withClause_place cs { place := ⟨file, n⟩ } ⟨file, f n⟩
  dsimp only [renumbered]
  rw [hFold, place_foldl]

/-- **Numbers make no other difference.** -/
theorem parseNumbered_renumber (f : Nat → Nat) (ls : List (Nat × List Char)) :
    parseNumbered registry file (ls.map fun l => (f l.1, l.2)) =
      renumber f (parseNumbered registry file ls) := by
  induction ls with
  | nil => rfl
  | cons l ls ih =>
    obtain ⟨n, line⟩ := l
    rw [List.map_cons, parseNumbered, parseNumbered, ih]
    cases hLine : parse registry ⟨file, n⟩ line with
    | error e =>
      obtain ⟨fault, hWords, rfl⟩ := parse_eq_error_iff.mp hLine
      rw [parse_eq_error_iff.mpr ⟨fault, hWords, rfl⟩]
      rfl
    | ok r =>
      rw [parse_of_ok f hLine]
      cases parseNumbered registry file ls with
      | ok rules => rfl
      | error e => cases e <;> rfl

theorem parseFile_eq (text : List Char) :
    parseFile registry file text = parseNumbered registry file (significantLines text) := by
  rw [parseFile, significantLines, counted, ← numberLines_eq]

theorem parseFile_intercalate {pieces : List (List Char)}
    (hPieces : ∀ piece ∈ pieces, '\n' ∉ piece) :
    parseFile registry file (['\n'].intercalate pieces) =
      parseNumbered registry file (numberLines 1 pieces) := by
  rw [parseFile_eq, significantLines_eq]
  by_cases hNone : pieces = []
  · rw [hNone]
    rfl
  · rw [List.splitOn_intercalate _ hPieces hNone, counted, ← numberLines_eq]

/-- **A line without a significant part** only gives other numbers to what stands behind it. -/
theorem parseFile_insert {front back : List (List Char)}
    (hPieces : ∀ piece ∈ front ++ line :: back, '\n' ∉ piece) (hLine : significant line = []) :
    parseFile registry file (['\n'].intercalate (front ++ line :: back)) =
      renumber (pushed front.length)
        (parseFile registry file (['\n'].intercalate (front ++ back))) := by
  have hFew : ∀ piece ∈ front ++ back, '\n' ∉ piece := fun piece hPiece =>
    hPieces piece (List.mem_append.mpr ((List.mem_append.mp hPiece).imp_right
      (List.mem_cons_of_mem line)))
  rw [parseFile_intercalate hPieces, parseFile_intercalate hFew, numberLines_insert hLine,
    parseNumbered_renumber]

/-! ### Configurations -/

/-- The inline rules by their numbers. -/
def entries (c : Config) : List (Nat × List Char) :=
  (c.rules.zipIdx 1).map fun (entry, n) => (n, entry.toList)

theorem enumerate_eq (n : Nat) (es : List String) :
    enumerate n es = (es.zipIdx n).map fun (entry, n) => (n, entry.toList) := by
  induction es generalizing n with
  | nil => rfl
  | cons entry es ih => rw [enumerate, ih, List.zipIdx_cons, List.map_cons]

/-- **What the rules file gives**: nothing if there is none. -/
inductive FileGives (files : Files) (c : Config) (registry : TunnelRegistry) :
    Except ConfigError (List Rule) → Prop
  | none (hNone : c.rulesFile = none) : FileGives files c registry (.ok [])
  | unreadable {file : String} {e : ConfigError} (hSome : c.rulesFile = some file)
      (hText : files.readText (c.rulesPath file) = .error e) :
      FileGives files c registry (.error e)
  | read {file text : String} (hSome : c.rulesFile = some file)
      (hText : files.readText (c.rulesPath file) = .ok text) :
      FileGives files c registry (parseFile registry (c.rulesPath file) text.toList)

theorem fileGives_iff {files : Files} {c : Config} {result : Except ConfigError (List Rule)} :
    FileGives files c registry result ↔ c.loadRulesFile files registry = result := by
  rw [Config.loadRulesFile]
  constructor
  · intro h
    cases h with
    | none hNone => rw [hNone]
    | unreadable hSome hText =>
      rw [hSome]
      dsimp only
      rw [hText]
    | read hSome hText =>
      rw [hSome]
      dsimp only
      rw [hText]
  · intro h
    subst h
    cases hFile : c.rulesFile with
    | none => exact .none hFile
    | some file =>
      dsimp only
      cases hText : files.readText (c.rulesPath file) with
      | error e => exact .unreadable hFile hText
      | ok text => exact .read hFile hText

section Config

variable {files : Files} {c : Config}

theorem parseEntries_eq :
    parseEntries registry c.rulesLabel c.rules =
      parseNumbered registry c.rulesLabel (entries c) := by
  rw [parseEntries, enumerate_eq, entries]

theorem loadRules_eq_ok_iff :
    c.loadRules files registry = .ok rules ↔
      ∃ inline behind, ReadAs registry c.rulesLabel (entries c) inline ∧
        FileGives files c registry (.ok behind) ∧ rules = inline ++ behind := by
  rw [Config.loadRules, parseEntries_eq]
  constructor
  · intro h
    split at h
    case h_1 => cases h
    case h_2 inline hInline =>
      obtain ⟨behind, hBehind, rfl⟩ := map_eq_ok_iff.mp h
      exact ⟨inline, behind, parseNumbered_eq_ok_iff.mp hInline, fileGives_iff.mpr hBehind, rfl⟩
  · rintro ⟨inline, behind, hInline, hBehind, rfl⟩
    rw [hInline.parseNumbered_eq]
    exact map_eq_ok_iff.mpr ⟨behind, fileGives_iff.mp hBehind, rfl⟩

theorem loadRules_eq_error_iff :
    c.loadRules files registry = .error e ↔
      Refuses registry c.rulesLabel (entries c) e ∨
        (∃ inline, ReadAs registry c.rulesLabel (entries c) inline) ∧
          FileGives files c registry (.error e) := by
  rw [Config.loadRules, parseEntries_eq, fileGives_iff]
  constructor
  · intro h
    split at h
    case h_1 hInline =>
      cases h
      exact .inl (parseNumbered_eq_error_iff.mp hInline)
    case h_2 inline hInline =>
      refine .inr ⟨⟨inline, parseNumbered_eq_ok_iff.mp hInline⟩, ?_⟩
      cases hFile : c.loadRulesFile files registry with
      | ok behind =>
        rw [hFile] at h
        cases h
      | error e' =>
        rw [hFile] at h
        cases h
        rfl
  · rintro (hRefused | ⟨⟨inline, hRead⟩, hFile⟩)
    · rw [hRefused.parseNumbered_eq]
    · rw [hRead.parseNumbered_eq, hFile]
      rfl

end Config

/-- **Rules files and configurations.**  For any registry, name and text of a file: its lines
may be counted between line feeds, and the file is read when each line with a significant part
is.  Then it gives the rules of those lines in their order, each with the number that its line
has in the text; else it fails with the first of them that is refused, which it tells by that
number.  So a line without a significant part, wherever it is put in or taken out, gives other
numbers to what stands behind it and changes nothing else.  A configuration gives its inline
rules, which are numbered and kept as they are, and behind them those of its rules file; what
is wrong with an inline rule comes before all that is wrong with the file. -/
theorem rules_in_order (registry : TunnelRegistry) (file : String) (text : List Char)
    (files : Files) (c : Config) :
    significantLines text = counted (text.splitOn '\n') ∧
    ((∃ rules, parseFile registry file text = .ok rules) ↔
      ∀ l ∈ significantLines text, ∃ r, parse registry ⟨file, l.1⟩ l.2 = .ok r) ∧
    (∀ rules, parseFile registry file text = .ok rules ↔
      ReadAs registry file (significantLines text) rules) ∧
    (∀ e, parseFile registry file text = .error e ↔
      Refuses registry file (significantLines text) e) ∧
    (∀ front line back, (∀ piece ∈ front ++ line :: back, '\n' ∉ piece) → significant line = [] →
      parseFile registry file (['\n'].intercalate (front ++ line :: back)) =
        renumber (pushed front.length)
          (parseFile registry file (['\n'].intercalate (front ++ back)))) ∧
    (∀ rules, c.loadRules files registry = .ok rules ↔
      ∃ inline behind, ReadAs registry c.rulesLabel (entries c) inline ∧
        FileGives files c registry (.ok behind) ∧ rules = inline ++ behind) ∧
    ∀ e, c.loadRules files registry = .error e ↔
      Refuses registry c.rulesLabel (entries c) e ∨
        (∃ inline, ReadAs registry c.rulesLabel (entries c) inline) ∧
          FileGives files c registry (.error e) := by
  have hRead {rules : List Rule} : parseFile registry file text = .ok rules ↔
      ReadAs registry file (significantLines text) rules := by
    rw [parseFile_eq, parseNumbered_eq_ok_iff]
  refine ⟨significantLines_eq text, ?_, fun rules => hRead, fun e => ?_,
    fun front line back => parseFile_insert, fun rules => loadRules_eq_ok_iff,
    fun e => loadRules_eq_error_iff⟩
  · simp only [hRead]
    exact exists_readAs_iff
  · rw [parseFile_eq, parseNumbered_eq_error_iff]

/-- Lines that end in both ways, skipped ones, a comment behind a rule and no line feed at the
end; then one more comment in front of the second rule; and an inline rule that is refused, with
a rules file that is not there. -/
theorem rules_in_order_commented :
    parseFile {} "rules" ("# header\r\n\nendsWith .corp via direct\r\n" ++
      "  port 25 via null # smtp").toList =
      .ok [{ endsWith := some ".corp", tunnels := [.direct], place := ⟨"rules", 3⟩ },
        { port := some 25, tunnels := [.null], place := ⟨"rules", 4⟩ }] ∧
    parseFile {} "rules" (['\n'].intercalate (["# header\r".toList, [],
      "endsWith .corp via direct\r".toList] ++ " # mail".toList ::
        ["  port 25 via null # smtp".toList])) =
      .ok [{ endsWith := some ".corp", tunnels := [.direct], place := ⟨"rules", 3⟩ },
        { port := some 25, tunnels := [.null], place := ⟨"rules", 5⟩ }] ∧
    Config.loadRules (fun _ => .error .notFound)
      { rules := ["port 80 via null", "via missing"], rulesFile := some "rules" } {} =
      .error (.rule ⟨"<command line>", 2⟩ (.unknownTunnel "missing")) := by
  obtain ⟨-, -, hOk, -, hInsert, -, hError⟩ := rules_in_order {} "rules"
    ("# header\r\n\nendsWith .corp via direct\r\n" ++ "  port 25 via null # smtp").toList
    (fun _ => .error .notFound)
    { rules := ["port 80 via null", "via missing"], rulesFile := some "rules" }
  have hLines : significantLines ("# header\r\n\nendsWith .corp via direct\r\n" ++
      "  port 25 via null # smtp").toList =
      [(3, "endsWith .corp via direct".toList), (4, "port 25 via null".toList)] := by
    decide +kernel
  rw [hLines] at hOk
  have hFile := (hOk [{ endsWith := some ".corp", tunnels := [.direct], place := ⟨"rules", 3⟩ },
    { port := some 25, tunnels := [.null], place := ⟨"rules", 4⟩ }]).mpr
      (.cons (by decide +kernel) (.cons (by decide +kernel) .nil))
  have hMore := hInsert ["# header\r".toList, [], "endsWith .corp via direct\r".toList]
    " # mail".toList ["  port 25 via null # smtp".toList] (by decide +kernel) (by decide +kernel)
  refine ⟨hFile, hMore.trans ((congrArg (renumber (pushed 3)) hFile).trans rfl), ?_⟩
  refine (hError _).mpr (.inl ?_)
  have hFirst : ReadAs {} "<command line>" [(1, "port 80 via null".toList)]
      [{ port := some 80, tunnels := [.null], place := ⟨"<command line>", 1⟩ }] :=
    .cons (by decide +kernel) .nil
  have hRefused : Refuses {} "<command line>"
      ([(1, "port 80 via null".toList)] ++ (2, "via missing".toList) :: [])
      (.rule ⟨"<command line>", 2⟩ (.unknownTunnel "missing")) :=
    .intro hFirst (by decide +kernel)
  exact hRefused

end Rule

end SocksGateway
