/-
  VersionPick.Http.Target — the target of a request: the path and the query that a
  web address asks for.

  Tabs and line ends do not count. A number sign ends the address, a question mark
  its path. Slashes of both kinds separate the segments of the path; the segments
  `.` and `..` stand for this one and the one above. What may not stand in a path or
  a query is written as bytes after percent signs.
-/

import VersionPick.Http.Form

namespace VersionPick.Http

def isVisible (c : Char) : Bool := '!' ≤ c && c ≤ '~'

def notInPath : List Char := ['"', '#', '<', '>', '?', '\x60', '\x7b', '\x7d']

def notInQuery : List Char := ['"', '#', '<', '>', '\'']

def mayStandInPath (c : Char) : Bool := isVisible c && !notInPath.contains c

def mayStandInQuery (c : Char) : Bool := isVisible c && !notInQuery.contains c

/-- Takes written dots for dots. -/
def plainDots : List Char → List Char
  | '%' :: '2' :: 'e' :: cs => '.' :: plainDots cs
  | '%' :: '2' :: 'E' :: cs => '.' :: plainDots cs
  | c :: cs => c :: plainDots cs
  | [] => []

/-- Whether a segment is the letter of a drive: there is none above it. -/
def isDrive : List Char → Bool
  | [letter, mark] => letter.isAlpha && (mark == ':' || mark == '|')
  | _ => false

/-- The segments above, last one first. -/
def above : List (List Char) → List (List Char)
  | [] => []
  | s :: before => if isDrive s then s :: before else before

/-- Follows the segments of a path, where `done` are those before, last one first. A path that ends
    with a `.` or `..` ends with a slash. -/
def follow (done : List (List Char)) : List (List Char) → List (List Char)
  | [] => done.reverse
  | s :: more =>
    let slash := if more.isEmpty then [[]] else []
    if plainDots s = ['.', '.'] then follow (slash ++ above done) more
    else if plainDots s = ['.'] then follow (slash ++ done) more
    else follow (s :: done) more

def writePath (path : List Char) : List Char :=
  -- a backslash separates segments as a slash does
  let slashes := path.map fun c => if c = '\\' then '/' else c
  let segments := (Text.pieces ['/'] slashes).tail
  (follow [] segments).flatMap fun s => '/' :: s.flatMap (escape mayStandInPath)

/-- The target of an address that starts with the slash after its site, with further fields for its
    query. -/
def target (address : String) (fields : Form.Fields) : String :=
  let s := address.toList.filter fun c => c != '\t' && c != '\n' && c != '\r'
  let s := (Text.cut? '#' s).elim s (·.1)
  let (path, query) := (Text.cut? '?' s).getD (s, [])
  let query := query.flatMap (escape mayStandInQuery)
  let query := if query.isEmpty then Form.write fields else query ++ '&' :: Form.write fields
  String.ofList (writePath path ++ '?' :: query)

end VersionPick.Http
