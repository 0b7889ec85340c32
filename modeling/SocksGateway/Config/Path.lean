/-!
# Paths

A path is a text with `/` between its parts.  Joining and cutting look at the
text alone and ask no file system.
-/

namespace SocksGateway

namespace Path

def isAbsolute : List Char → Bool
  | '/' :: _ => true
  | _ => false

/-- Drops what ends a path without naming anything, read from the end: slashes,
and dots that stand alone behind a slash.  A slash that stands alone is the
root and stays. -/
def dropIdle : List Char → List Char
  | '/' :: c :: rest => dropIdle (c :: rest)
  | '.' :: '/' :: rest => dropIdle ('/' :: rest)
  | r => r

/-- The directory of the file at a path; empty for a file that has none. -/
def parent (path : List Char) : List Char :=
  (dropIdle (path.reverse.dropWhile (· ≠ '/'))).reverse

/-- What `file` means in `directory`. -/
def join (directory file : List Char) : List Char :=
  if isAbsolute file || directory.isEmpty then file
  else if directory.getLast? = some '/' then directory ++ file
  else directory ++ '/' :: file

end Path

end SocksGateway
