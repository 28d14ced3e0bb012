/-
  VersionPick.Regex.Flags — the flags that are in force at a point of a pattern, and
  what they make of characters, sets and assertions.

  Without the `unicode` flag a pattern speaks of bytes. Since text is never cut
  inside a character, such a pattern may name ASCII characters only, and nothing
  that stands for all characters but some.
-/

import VersionPick.Regex.Expr
import VersionPick.Regex.Fault
import VersionPick.Unicode.CaseFolding

namespace VersionPick.Regex

open Unicode (CharSet)

inductive Flag where
  | foldCase
  | multiLine
  | dotAll
  /-- Repetitions try few rounds first, unless marked. -/
  | swapGreed
  | unicode
  | crlf
  /-- Blanks and comments in the pattern do not count. -/
  | ignoreBlanks
deriving DecidableEq, Repr

def Flag.ofChar? : Char → Option Flag
  | 'i' => some .foldCase
  | 'm' => some .multiLine
  | 's' => some .dotAll
  | 'U' => some .swapGreed
  | 'u' => some .unicode
  | 'R' => some .crlf
  | 'x' => some .ignoreBlanks
  | _ => none

structure Flags where
  foldCase : Bool := false
  multiLine : Bool := false
  dotAll : Bool := false
  swapGreed : Bool := false
  unicode : Bool := true
  crlf : Bool := false
  ignoreBlanks : Bool := false
deriving DecidableEq, Repr

namespace Flags

def set (on : Bool) (f : Flags) : Flag → Flags
  | .foldCase => { f with foldCase := on }
  | .multiLine => { f with multiLine := on }
  | .dotAll => { f with dotAll := on }
  | .swapGreed => { f with swapGreed := on }
  | .unicode => { f with unicode := on }
  | .crlf => { f with crlf := on }
  | .ignoreBlanks => { f with ignoreBlanks := on }

def foldAscii (s : CharSet) : CharSet :=
  let upper := s.inter (.range 65 90)
  let lower := s.inter (.range 97 122)
  .ofRanges (s.ranges ++ upper.ranges.map (fun r => (r.1 + 32, r.2 + 32)) ++
    lower.ranges.map fun r => (r.1 - 32, r.2 - 32))

def fold (f : Flags) (s : CharSet) : CharSet :=
  if f.foldCase then (if f.unicode then s.foldCase else foldAscii s) else s

/-- The set, or all other characters if `negated`; case is folded before. -/
def finish (f : Flags) (negated : Bool) (s : CharSet) : Except Mistake CharSet :=
  if !negated then .ok (f.fold s)
  else if f.unicode then .ok (f.fold s).compl
  else .error .notText

/-- One character as a member of a class; `asByte` if it was given as the number of a byte. -/
def member (f : Flags) (c : Char) (asByte : Bool) : Except Mistake CharSet :=
  if f.unicode || c.toNat < 128 then .ok (.ofChar c)
  else .error (if asByte then .notText else .notInBytes)

def literal (f : Flags) (c : Char) (asByte : Bool) : Except Mistake Expr :=
  if f.unicode || c.toNat < 128 then .ok (.chars (f.fold (.ofChar c)))
  else if asByte then .error .notText
  else .ok (.chars (.ofChar c))

def dot (f : Flags) : Except Mistake Expr :=
  if !f.unicode then .error .notText
  else if f.dotAll then .ok (.chars .all)
  else if f.crlf then .ok (.chars (CharSet.ofRanges [(10, 10), (13, 13)]).compl)
  else .ok (.chars (CharSet.ofChar '\n').compl)

def lineStart (f : Flags) : Look :=
  if f.multiLine then (if f.crlf then .lineStartCrlf else .lineStart) else .textStart

def lineEnd (f : Flags) : Look :=
  if f.multiLine then (if f.crlf then .lineEndCrlf else .lineEnd) else .textEnd

def shorthand (f : Flags) (letter : Char) : Except Mistake CharSet :=
  let set := match letter.toLower with
    | 'd' => if f.unicode then Unicode.decimalDigits else .range 48 57
    | 's' => if f.unicode then Unicode.spaces else .ofRanges [(9, 13), (32, 32)]
    | _ => if f.unicode then Unicode.wordChars else asciiWord
  if !letter.isUpper then .ok set
  else if f.unicode then .ok set.compl
  else .error .notText

def propertyValue (name value : List Char) : Except Mistake CharSet :=
  match Unicode.propertyValueSet? name value with
  | some set => .ok set
  | none => .error (if Unicode.isProperty name then .noPropertyValue else .noProperty)

/-- The characters that have the property between the braces of `\p`, and whether those that have it
    not are meant: a value after `!=` is one that the property must not have. -/
def propertySet (name : List Char) : Except Mistake (Bool × CharSet) :=
  match Text.cutAt? ['!', '='] name with
  | some (n, v) => (propertyValue n v).map (true, ·)
  | none =>
    match (Text.cut? ':' name).or (Text.cut? '=' name) with
    | some (n, v) => (propertyValue n v).map (false, ·)
    | none =>
      match Unicode.propertySet? name with
      | some set => .ok (false, set)
      | none => .error .noProperty

def property (f : Flags) (negated : Bool) (name : List Char) : Except Mistake CharSet :=
  if f.unicode then
    (propertySet name).bind fun (other, set) => f.finish (negated != other) set
  else .error .notInBytes

end Flags

def posixSet? (name : List Char) : Option CharSet :=
  if name = "alnum".toList then some (.ofRanges [(48, 57), (65, 90), (97, 122)])
  else if name = "alpha".toList then some (.ofRanges [(65, 90), (97, 122)])
  else if name = "ascii".toList then some (.range 0 127)
  else if name = "blank".toList then some (.ofRanges [(9, 9), (32, 32)])
  else if name = "cntrl".toList then some (.ofRanges [(0, 31), (127, 127)])
  else if name = "digit".toList then some (.range 48 57)
  else if name = "graph".toList then some (.range 33 126)
  else if name = "lower".toList then some (.range 97 122)
  else if name = "print".toList then some (.range 32 126)
  else if name = "punct".toList then
    some (.ofRanges [(33, 47), (58, 64), (91, 96), (123, 126)])
  else if name = "space".toList then some (.ofRanges [(9, 13), (32, 32)])
  else if name = "upper".toList then some (.range 65 90)
  else if name = "word".toList then some asciiWord
  else if name = "xdigit".toList then some (.ofRanges [(48, 57), (65, 70), (97, 102)])
  else none

end VersionPick.Regex
