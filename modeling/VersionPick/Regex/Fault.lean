/-
  VersionPick.Regex.Fault — what is wrong with a pattern, where, and how that is shown.

  A stretch of a pattern is given by how much of the pattern is left at its two ends, which a
  reader knows without counting what it has read. It is shown by carets below the line that it is
  in, and an empty one by a single caret. Lines are numbered, and set off by rules, if there are
  several; of a stretch that goes over the end of a line only the places of its ends are given.
-/

import VersionPick.Text.Cut

namespace VersionPick.Regex

structure Span where
  start : Nat
  stop : Nat
deriving DecidableEq, Repr

namespace Span

/-- From the start of a text to what follows the stretch. -/
def upTo (s rest : List Char) : Span := { start := s.length, stop := rest.length }

def firstChar (s : List Char) : Span := upTo s (s.drop 1)

def before (s : List Char) : Span := upTo s s

def through (a b : Span) : Span := { start := a.start, stop := b.stop }

end Span

inductive Mistake where
  | classEscape
  | classRange
  | classRangeEnd
  | classUnclosed
  | countTooLarge
  | hexEmpty
  | hexNoChar
  | hexDigit
  | escapeUnfinished
  | escapeUnknown
  | flagDangling
  | flagTwice
  | flagNegatedTwice
  | flagMissing
  | flagUnknown
  | nameTwice
  | nameEmpty
  | nameChar
  | nameUnclosed
  | groupUnclosed
  | groupUnopened
  | tooDeep (limit : Nat)
  | countRange
  | countEmpty
  | countUnclosed
  | nothingToRepeat
  | wordSideUnclosed
  | wordSideUnknown
  | wordSideUnfinished
  | propertyLetter
  | backReference
  | lookAround
  -- what can be read, but means nothing
  | notInBytes
  | notText
  | noProperty
  | noPropertyValue
deriving DecidableEq, Repr

def Mistake.message : Mistake → String
  | .classEscape => "invalid escape sequence found in character class"
  | .classRange => "invalid character class range, the start must be <= the end"
  | .classRangeEnd => "invalid range boundary, must be a literal"
  | .classUnclosed => "unclosed character class"
  | .countTooLarge => "decimal literal invalid"
  | .hexEmpty => "hexadecimal literal empty"
  | .hexNoChar => "hexadecimal literal is not a Unicode scalar value"
  | .hexDigit => "invalid hexadecimal digit"
  | .escapeUnfinished => "incomplete escape sequence, reached end of pattern prematurely"
  | .escapeUnknown => "unrecognized escape sequence"
  | .flagDangling => "dangling flag negation operator"
  | .flagTwice => "duplicate flag"
  | .flagNegatedTwice => "flag negation operator repeated"
  | .flagMissing => "expected flag but got end of regex"
  | .flagUnknown => "unrecognized flag"
  | .nameTwice => "duplicate capture group name"
  | .nameEmpty => "empty capture group name"
  | .nameChar => "invalid capture group character"
  | .nameUnclosed => "unclosed capture group name"
  | .groupUnclosed => "unclosed group"
  | .groupUnopened => "unopened group"
  | .tooDeep limit =>
    "exceed the maximum number of nested parentheses/brackets (" ++ toString limit ++ ")"
  | .countRange => "invalid repetition count range, the start must be <= the end"
  | .countEmpty => "repetition quantifier expects a valid decimal"
  | .countUnclosed => "unclosed counted repetition"
  | .nothingToRepeat => "repetition operator missing expression"
  | .wordSideUnclosed =>
    "special word boundary assertion is either unclosed or contains an invalid character"
  | .wordSideUnknown =>
    "unrecognized special word boundary assertion, valid choices are: " ++
      "start, end, start-half or end-half"
  | .wordSideUnfinished =>
    "found either the beginning of a special word boundary or a bounded repetition on a \\b " ++
      "with an opening brace, but no closing brace"
  | .propertyLetter => "invalid Unicode character class"
  | .backReference => "backreferences are not supported"
  | .lookAround => "look-around, including look-ahead and look-behind, is not supported"
  | .notInBytes => "Unicode not allowed here"
  | .notText => "pattern can match invalid UTF-8"
  | .noProperty => "Unicode property not found"
  | .noPropertyValue => "Unicode property value not found"

structure Fault where
  mistake : Mistake
  span : Span
  /-- What is there already, if something is given twice. -/
  original : Option Span := none
deriving DecidableEq, Repr

/-! ## Lines and places -/

/-- A line of a pattern and a place in it, both counted from 0. -/
structure Place where
  line : Nat := 0
  column : Nat := 0
deriving DecidableEq, Repr

def Place.after (p : Place) (c : Char) : Place :=
  if c = '\n' then { line := p.line + 1 } else { p with column := p.column + 1 }

def placeOf (pattern : List Char) (left : Nat) : Place :=
  (pattern.take (pattern.length - left)).foldl Place.after {}

def withoutReturn (line : List Char) : List Char :=
  if line.getLast? = some '\r' then line.dropLast else line

/-- The lines to show, of which the last one may be missing if it is empty. -/
def shownLines (pattern : List Char) : List (List Char) :=
  let pieces := Text.pieces ['\n'] pattern
  pieces.dropLast.map withoutReturn ++ pieces.getLast?.toList.filter fun line => !line.isEmpty

/-! ## Showing a fault -/

def repeated (c : Char) (n : Nat) : String := String.ofList (List.replicate n c)

/-- Carets from one place of a line to another, after those that reach up to `column`. -/
def carets (column : Nat) (a b : Place) : String :=
  repeated ' ' (a.column - column) ++ repeated '^' (max 1 (b.column - a.column))

def caretsFrom (column : Nat) : List (Place × Place) → String
  | [] => ""
  | (a, b) :: rest =>
    carets column a b ++ caretsFrom (max column a.column + max 1 (b.column - a.column)) rest

/-- What comes before a line: its number, if there are several lines. -/
def margin (width line : Nat) : String :=
  if width = 0 then repeated ' ' 4
  else
    let number := toString (line + 1)
    repeated ' ' (width - number.length) ++ number ++ ": "

/-- The lines with the carets below them, where `marks` go over no end of a line. -/
def notated (width : Nat) (marks : List (Place × Place)) (lines : List (List Char)) : String :=
  String.join (lines.zipIdx.map fun (text, line) =>
    let here := marks.filter fun m => m.1.line == line
    let below := if here.isEmpty then "" else
      repeated ' ' (margin width line).length ++ caretsFrom 0 here ++ "\n"
    margin width line ++ String.ofList text ++ "\n" ++ below)

def longNote (m : Place × Place) : String :=
  "on line " ++ toString (m.1.line + 1) ++ " (column " ++ toString (m.1.column + 1) ++
    ") through line " ++ toString (m.2.line + 1) ++ " (column " ++ toString m.2.column ++ ")"

def Fault.message (pattern : List Char) (f : Fault) : String :=
  let spans := f.original.toList ++ [f.span]
  let places := spans.map fun s => (placeOf pattern s.start, placeOf pattern s.stop)
  let marks := places.filter fun m => m.1.line == m.2.line
  let long := places.filter fun m => m.1.line != m.2.line
  let count := (Text.pieces ['\n'] pattern).length
  let rule := repeated '~' 79 ++ "\n"
  let notes := if long.isEmpty then "" else "\n".intercalate (long.map longNote) ++ "\n"
  let shown :=
    if count ≤ 1 then notated 0 marks (shownLines pattern)
    else rule ++ notated (toString count).length marks (shownLines pattern) ++ rule ++ notes
  "regex parse error:\n" ++ shown ++ "error: " ++ f.mistake.message

end VersionPick.Regex
