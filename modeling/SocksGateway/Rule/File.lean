import SocksGateway.Rule.Parser

/-!
# Rules files

One rule a line.  What follows a `#` is a comment, and a line that holds nothing
else is skipped; lines are numbered from one, the skipped ones included.
-/

namespace SocksGateway

open Text

namespace Rule

/-- The part of a line that counts. -/
def significant (line : List Char) : List Char := trim (line.takeWhile (· ≠ '#'))

/-- Numbers lines from `n` and drops those without a significant part. -/
def numberLines (n : Nat) : List (List Char) → List (Nat × List Char)
  | [] => []
  | line :: rest =>
    let part := significant line
    if part.isEmpty then numberLines (n + 1) rest
    else (n, part) :: numberLines (n + 1) rest

/-- Reads numbered lines, up to the first that is refused. -/
def parseNumbered (registry : TunnelRegistry) (file : String) :
    List (Nat × List Char) → Except ConfigError (List Rule)
  | [] => .ok []
  | (n, line) :: rest =>
    match parse registry ⟨file, n⟩ line with
    | .error e => .error e
    | .ok r => (parseNumbered registry file rest).map (r :: ·)

/-- The rules of a rules file. -/
def parseFile (registry : TunnelRegistry) (file : String) (text : List Char) :
    Except ConfigError (List Rule) :=
  parseNumbered registry file (numberLines 1 (lines text))

/-- Numbers all of `lines` from `n`. -/
def enumerate (n : Nat) : List String → List (Nat × List Char)
  | [] => []
  | line :: rest => (n, line.toList) :: enumerate (n + 1) rest

/-- The rules of a list of entries: no comments, and no entry is skipped. -/
def parseEntries (registry : TunnelRegistry) (label : String) (entries : List String) :
    Except ConfigError (List Rule) :=
  parseNumbered registry label (enumerate 1 entries)

end Rule

end SocksGateway
