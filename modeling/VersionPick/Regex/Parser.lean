/-
  VersionPick.Regex.Parser — the notation of regular expressions.

  A pattern is read in one pass from the left: flags are known where they apply, so every part
  becomes an expression at once. Reading ends at the first thing that the notation does not allow,
  references back into the text and looking around among them. A part that means nothing, such as
  a property that there is not, is an expression that failed, which is told only when the whole
  pattern was read and is not nested too deep.

  The parts of a pattern are the nodes of a tree, of which only the first node of every level is
  kept: that is enough to say how deep the tree is, and which node is the first to be too deep.

  The reader is called again only after it has gone past a character, so a fuel of one more than
  the length of the pattern never runs out.
-/

import VersionPick.Regex.Flags
import VersionPick.Text.Decimal
import VersionPick.Text.Hex

namespace VersionPick.Regex

open Unicode (CharSet)

abbrev Read (α : Type) := Except Fault (α × List Char)

def fail {α : Type} (mistake : Mistake) (span : Span) : Except Fault α := .error { mistake, span }

def meaning {α : Type} (span : Span) (result : Except Mistake α) : Except Fault α :=
  result.mapError fun mistake => { mistake, span }

/-! ## Blanks -/

def isBlank (c : Char) : Bool := Unicode.spaces.contains c

def dropBlanks (inComment : Bool) : List Char → List Char
  | [] => []
  | c :: cs =>
    if inComment then dropBlanks (c != '\n') cs
    else if isBlank c then dropBlanks false cs
    else if c = '#' then dropBlanks true cs
    else c :: cs

def Flags.skip (f : Flags) (s : List Char) : List Char :=
  if f.ignoreBlanks then dropBlanks false s else s

/-- The characters up to the first one that is not `wanted`, and the text from there. Blanks and
    comments are left out where they do not count. -/
def Flags.take (f : Flags) (wanted : Char → Bool) (inComment : Bool) :
    List Char → List Char × List Char
  | [] => ([], [])
  | c :: cs =>
    if inComment then f.take wanted (c != '\n') cs
    else if f.ignoreBlanks && isBlank c then f.take wanted false cs
    else if f.ignoreBlanks && c = '#' then f.take wanted true cs
    else if wanted c then
      let rest := f.take wanted false cs
      (c :: rest.1, rest.2)
    else ([], c :: cs)

/-! ## Numbers -/

/-- A number of repetitions, which fits in 32 bits. Blanks around it never count. -/
def count (f : Flags) (s : List Char) : Except Fault Nat × List Char :=
  let s := s.dropWhile isBlank
  let (digits, rest) := f.take Char.isDigit false s
  let n := Text.Decimal.value digits
  let number :=
    if digits.isEmpty then fail .countEmpty (.upTo s rest)
    else if n < 0x100000000 then .ok n
    else fail .countTooLarge (.upTo s rest)
  (number, rest.dropWhile isBlank)

/-- The bounds of a repetition from its opening brace on. If a second bound follows, or should, the
    first one is looked at only then. -/
def bounds (f : Flags) (s : List Char) : Read (Nat × Option Nat) :=
  let closed (range : Nat × Option Nat) : List Char → Read (Nat × Option Nat)
    | '\x7d' :: rest => .ok (range, rest)
    | rest => fail .countUnclosed (.upTo s rest)
  match f.skip (s.drop 1) with
  | [] => fail .countUnclosed (.upTo s [])
  | t =>
    match count f t with
    | (_, []) => fail .countUnclosed (.upTo s [])
    | (lo, ',' :: t) =>
      match f.skip t with
      | [] => fail .countUnclosed (.upTo s [])
      | '\x7d' :: rest => lo.bind fun lo => .ok ((lo, none), rest)
      | t =>
        let (hi, rest) := count f t
        lo.bind fun lo => hi.bind fun hi => closed (lo, some hi) rest
    | (lo, rest) => lo.bind fun lo => closed (lo, some lo) rest

/-! ## Escapes -/

/-- What stands for a character, a set of them, or an assertion. -/
inductive Atom where
  | char (c : Char) (asByte : Bool)
  | set (s : Except Mistake CharSet)
  | look (l : Look)

def isHexDigit (c : Char) : Bool := (Text.Hex.digitValue? c).isSome

def hexChar? (digits : List Char) : Option Char :=
  (Text.Hex.read? digits).bind fun n => if n.isValidChar then some (Char.ofNat n) else none

/-- A fixed number of hexadecimal digits, of which there is one at least. -/
def hexDigits (f : Flags) : Nat → List Char → Read (List Char)
  | 0, s => .ok ([], s)
  | _ + 1, [] => fail .escapeUnfinished (.before [])
  | n + 1, c :: cs =>
    if isHexDigit c then
      -- blanks may stand between the digits, and are left to others behind the last one
      let rest := if n = 0 then cs else f.skip cs
      (hexDigits f n rest).map fun p => (c :: p.1, p.2)
    else fail .hexDigit (.firstChar (c :: cs))

/-- A code point after `\x`, `\u` or `\U`: so many digits, or any number of them in braces. Two
    digits may be meant as a byte. -/
def codePoint (f : Flags) (size : Nat) (s : List Char) : Read Atom :=
  match f.skip s with
  | [] => fail .escapeUnfinished (.before [])
  | '\x7b' :: t =>
    let brace := '\x7b' :: t
    match f.take isHexDigit false t with
    | (_, []) => fail .escapeUnfinished (.upTo brace [])
    | (digits, '\x7d' :: rest) =>
      if digits.isEmpty then fail .hexEmpty (.upTo brace (f.skip rest))
      else
        match hexChar? digits with
        | some c => .ok (.char c false, f.skip rest)
        | none => fail .hexNoChar (.upTo t ('\x7d' :: rest))
    | (_, rest) => fail .hexDigit (.firstChar rest)
  | s =>
    (hexDigits f size s).bind fun (digits, rest) =>
      match hexChar? digits with
      | some c => .ok (.char c (size == 2), f.skip rest)
      | none => fail .hexNoChar (.upTo s (f.skip rest))

def propertyEscape (f : Flags) (negated : Bool) (s : List Char) : Read Atom :=
  match f.skip s with
  | [] => fail .escapeUnfinished (.before [])
  | '\x7b' :: t =>
    match f.take (· != '\x7d') false t with
    | (_, []) => fail .escapeUnfinished (.before [])
    | (name, rest) => .ok (.set (f.property negated name), rest.drop 1)
  | c :: t =>
    if c = '\\' then fail .propertyLetter (.firstChar (c :: t))
    else .ok (.set (f.property negated [c]), f.skip t)

def wordSide? (unicode : Bool) (name : List Char) : Option Look :=
  if name = "start".toList then some (.wordStart unicode)
  else if name = "end".toList then some (.wordEnd unicode)
  else if name = "start-half".toList then some (.wordStartHalf unicode)
  else if name = "end-half".toList then some (.wordEndHalf unicode)
  else none

def isSideChar (c : Char) : Bool := c.isAlpha || c == '-'

/-- The rest of `\b`, which may name one side of a word in braces. Braces that do not start with a
    letter or a hyphen are left to be bounds of a repetition. -/
def wordEscape (f : Flags) (whole s : List Char) : Read Atom :=
  match s with
  | '\x7b' :: t =>
    match f.skip t with
    | [] => fail .wordSideUnfinished (.upTo whole [])
    | c :: t =>
      if isSideChar c then
        match f.take isSideChar false (c :: t) with
        | (name, '\x7d' :: rest) =>
          match wordSide? f.unicode name with
          | some look => .ok (.look look, rest)
          | none => fail .wordSideUnknown (.upTo (c :: t) ('\x7d' :: rest))
        | (_, rest) => fail .wordSideUnclosed (.upTo s rest)
      else .ok (.look (.wordEdge f.unicode), s)
  | _ => .ok (.look (.wordEdge f.unicode), s)

/-- An escape from its backslash on. Any ASCII character but a letter, a digit, `<` and `>` stands
    for itself; digits would refer back to a group, which the notation does not have. -/
def escape (f : Flags) (whole : List Char) : Read Atom :=
  match whole.drop 1 with
  | [] => fail .escapeUnfinished (.upTo whole [])
  | c :: s =>
    match c with
    | 'x' => codePoint f 2 s
    | 'u' => codePoint f 4 s
    | 'U' => codePoint f 8 s
    | 'p' => propertyEscape f false s
    | 'P' => propertyEscape f true s
    | 'd' | 's' | 'w' | 'D' | 'S' | 'W' => .ok (.set (f.shorthand c), s)
    | 'a' => .ok (.char '\x07' false, s)
    | 'f' => .ok (.char '\x0c' false, s)
    | 't' => .ok (.char '\t' false, s)
    | 'n' => .ok (.char '\n' false, s)
    | 'r' => .ok (.char '\r' false, s)
    | 'v' => .ok (.char '\x0b' false, s)
    | 'A' => .ok (.look .textStart, s)
    | 'z' => .ok (.look .textEnd, s)
    | 'b' => wordEscape f whole s
    | 'B' => .ok (.look (.noWordEdge f.unicode), s)
    | '<' => .ok (.look (.wordStart f.unicode), s)
    | '>' => .ok (.look (.wordEnd f.unicode), s)
    | _ =>
      if c.isDigit then fail .backReference (.upTo whole s)
      else if c.toNat < 128 && !c.isAlphanum then .ok (.char c false, s)
      else fail .escapeUnknown (.upTo whole s)

/-! ## Nodes -/

/-- The first node of each level of a part, top level first; a leaf is no node. -/
abbrev Levels := List Span

def Levels.beside : Levels → Levels → Levels
  | [], ms => ms
  | l :: ls, [] => l :: ls
  | l :: ls, _ :: ms => l :: Levels.beside ls ms

/-! ## Classes in brackets -/

inductive SetOp where
  | inter
  | diff
  | symmDiff
deriving DecidableEq, Repr

def SetOp.apply : SetOp → CharSet → CharSet → CharSet
  | .inter => CharSet.inter
  | .diff => CharSet.diff
  | .symmDiff => CharSet.symmDiff

structure ClassPart where
  set : Except Fault CharSet
  span : Span
  levels : Levels := []

/-- A class that is read so far: what stands left of the last operator, and the members after it. -/
structure ClassSoFar where
  left : Option (SetOp × ClassPart) := none
  members : ClassPart
  size : Nat := 0

namespace ClassSoFar

def beginning (s : List Char) (left : Option (SetOp × ClassPart) := none) : ClassSoFar :=
  { left, members := { set := .ok .empty, span := .before s } }

def add (k : ClassSoFar) (p : ClassPart) : ClassSoFar :=
  { k with
    members :=
      { set := k.members.set.bind fun s => p.set.map s.union
        span := if k.size = 0 then p.span else k.members.span.through p.span
        levels := k.members.levels.beside p.levels }
    size := k.size + 1 }

def addChar (k : ClassSoFar) (c : Char) (span : Span) : ClassSoFar :=
  k.add { set := .ok (.ofChar c), span }

def value (f : Flags) (k : ClassSoFar) : ClassPart :=
  let m := k.members
  -- a member by itself is no union, and so no node of its own
  let right := if k.size ≤ 1 then m else { m with levels := m.span :: m.levels }
  match k.left with
  | none => right
  | some (op, left) =>
    let span := left.span.through right.span
    { set := left.set.bind fun s => right.set.map fun t => op.apply (f.fold s) (f.fold t)
      span
      levels := span :: left.levels.beside right.levels }

def operator (f : Flags) (op : SetOp) (k : ClassSoFar) (s : List Char) : ClassSoFar :=
  beginning s (some (op, k.value f))

end ClassSoFar

def member (f : Flags) (s : List Char) : Read Atom :=
  match s with
  | [] => fail .classUnclosed (.before [])
  | c :: t => if c = '\\' then escape f s else .ok (.char c false, t)

def Atom.asMember (f : Flags) (span : Span) : Atom → Except Fault ClassPart
  | .char c asByte => .ok { set := meaning span (f.member c asByte), span }
  | .set s => .ok { set := meaning span s, span }
  | .look _ => fail .classEscape span

def Atom.asEnd (f : Flags) (span : Span) : Atom → Except Fault (Char × Except Fault CharSet)
  | .char c asByte => .ok (c, meaning span (f.member c asByte))
  | _ => fail .classRangeEnd span

/-- The first character that counts, if blanks do not; a comment ends with its first blank. -/
def peek (f : Flags) (s : List Char) : Option Char :=
  if f.ignoreBlanks then
    let t := s.dropWhile isBlank
    let t := match t with
      | '#' :: u => u.dropWhile isBlank
      | _ => t
    t.head?.or s.head?
  else s.head?

/-- A member of a class or a range, in a class that opens at `opening`. A hyphen is a range only
    between two characters. -/
def range (f : Flags) (opening : Span) (s : List Char) : Read ClassPart :=
  (member f s).bind fun (first, t) =>
    let firstSpan := Span.upTo s t
    match f.skip t with
    | [] => fail .classUnclosed opening
    | c :: u =>
      if c != '-' || peek f u == some ']' || peek f u == some '-' then
        (first.asMember f firstSpan).map fun part => (part, c :: u)
      else
        match f.skip u with
        | [] => fail .classUnclosed opening
        | u =>
          (member f u).bind fun (last, rest) =>
            (first.asEnd f firstSpan).bind fun (a, lo) =>
              (last.asEnd f (.upTo u rest)).bind fun (b, hi) =>
                let span := Span.upTo s rest
                let set := lo.bind fun _ => hi.map fun _ => CharSet.range a.toNat b.toNat
                if a ≤ b then .ok ({ set, span }, rest) else fail .classRange span

/-- A named class such as `:alpha:]` after its opening bracket: whether it is negated, the set, and
    the rest. -/
def named? (s : List Char) : Option (Bool × CharSet × List Char) :=
  match s with
  | ':' :: s =>
    let (negated, s) := match s with
      | '^' :: t => (true, t)
      | _ => (false, s)
    match Text.cut? ':' s with
    | some (name, ']' :: rest) => (posixSet? name).map fun set => (negated, set, rest)
    | _ => none
  | _ => none

structure ClassOpening where
  negated : Bool
  members : ClassSoFar
  span : Span

def hyphens (f : Flags) : Nat → ClassSoFar → List Char → ClassSoFar × List Char
  | 0, k, s => (k, s)
  | fuel + 1, k, '-' :: s => hyphens f fuel (k.addChar '-' (.firstChar ('-' :: s))) (f.skip s)
  | _ + 1, k, s => (k, s)

/-- The opening of a class from its bracket on: a caret negates, and hyphens, or else a closing
    bracket, stand for themselves. -/
def openClass (f : Flags) (whole : List Char) : Read ClassOpening :=
  let s := f.skip (whole.drop 1)
  let (negated, s) := match s with
    | '^' :: t => (true, f.skip t)
    | s => (false, s)
  match s with
  | [] => fail .classUnclosed (.upTo whole [])
  | s =>
    let (k, t) := hyphens f s.length (.beginning s) s
    match t with
    | [] => fail .classUnclosed (.before whole)
    | c :: u =>
      if k.size = 0 && c = ']' then
        let rest := f.skip u
        if rest.isEmpty then fail .classUnclosed (.upTo whole [])
        else .ok (⟨negated, k.addChar ']' (.firstChar t), .upTo whole rest⟩, rest)
      else .ok (⟨negated, k, .upTo whole t⟩, t)

def ClassOpening.close (o : ClassOpening) (f : Flags) (p : ClassPart) (span : Span) : ClassPart :=
  { set := p.set.bind fun s => meaning span (f.finish o.negated s)
    span
    levels := span :: p.levels }

def members (f : Flags) (opening : Span) : Nat → ClassSoFar → List Char → Read ClassPart
  | 0, _, _ => fail .classUnclosed opening
  | fuel + 1, k, s =>
    match f.skip s with
    | [] => fail .classUnclosed opening
    | ']' :: t => .ok (k.value f, t)
    | '&' :: '&' :: t => members f opening fuel (k.operator f .inter t) t
    | '-' :: '-' :: t => members f opening fuel (k.operator f .diff t) t
    | '~' :: '~' :: t => members f opening fuel (k.operator f .symmDiff t) t
    | '[' :: t =>
      match named? t with
      | some (negated, set, rest) =>
        let span := Span.upTo ('[' :: t) rest
        members f opening fuel (k.add { set := meaning span (f.finish negated set), span }) rest
      | none =>
        (openClass f ('[' :: t)).bind fun (o, u) =>
          (members f o.span fuel o.members u).bind fun (inner, rest) =>
            members f opening fuel (k.add (o.close f inner (.upTo ('[' :: t) rest))) rest
    | t => (range f opening t).bind fun (part, rest) => members f opening fuel (k.add part) rest

def bracketClass (f : Flags) (s : List Char) : Read ClassPart :=
  (openClass f s).bind fun (o, t) =>
    (members f o.span (s.length + 1) o.members t).map fun (inner, rest) =>
      (o.close f inner (.upTo s rest), rest)

/-! ## Groups -/

structure FlagsSoFar where
  flags : Flags
  seen : List (Flag × Span) := []
  minus : Option Span := none

/-- Flags up to a colon or a closing parenthesis, which comes first in the rest. A flag is given at
    most once, and so is the hyphen before the flags to take away. `dangling` if the last character
    was a hyphen. -/
def flagsFrom (k : FlagsSoFar) (dangling : Option Span) : List Char → Read FlagsSoFar
  | [] => fail .flagMissing (.before [])
  | c :: s =>
    let here := Span.firstChar (c :: s)
    if c = ':' || c = ')' then
      match dangling with
      | some minus => fail .flagDangling minus
      | none => .ok (k, c :: s)
    else if c = '-' then
      match k.minus with
      | some minus => .error { mistake := .flagNegatedTwice, span := here, original := some minus }
      | none => flagsFrom { k with minus := some here } (some here) s
    else
      match Flag.ofChar? c with
      | none => fail .flagUnknown here
      | some flag =>
        match k.seen.lookup flag with
        | some first => .error { mistake := .flagTwice, span := here, original := some first }
        | none =>
          let flags := k.flags.set k.minus.isNone flag
          flagsFrom { k with flags, seen := (flag, here) :: k.seen } none s

def isNameChar (first : Bool) (c : Char) : Bool :=
  c == '_' || Unicode.letters.contains c ||
    (!first && (c == '.' || c == '[' || c == ']' || Unicode.numbers.contains c))

def nameChars (first : Bool) : List Char → List Char × List Char
  | [] => ([], [])
  | c :: cs =>
    if isNameChar first c then
      let rest := nameChars false cs
      (c :: rest.1, rest.2)
    else ([], c :: cs)

structure GroupName where
  name : List Char
  span : Span

/-- The name of a group, up to the angle bracket that ends it. It is not one of the names before. -/
def groupName (names : List GroupName) (s : List Char) : Read GroupName :=
  match nameChars true s with
  | (_, []) => fail .nameUnclosed (.before [])
  | (name, '>' :: rest) =>
    let span := Span.upTo s ('>' :: rest)
    if name.isEmpty then fail .nameEmpty (.before s)
    else
      match names.find? fun n => n.name == name with
      | some n => .error { mistake := .nameTwice, span, original := some n.span }
      | none => .ok ({ name, span }, rest)
  | (_, rest) => fail .nameChar (.firstChar rest)

inductive Opening where
  /-- Flags for the rest of the group around. -/
  | flags (f : Flags)
  /-- A group in which these flags are in force. -/
  | group (f : Flags)
  | capture
  | named (name : GroupName)

def aroundMarks : List String := ["?=", "?!", "?<=", "?<!"]

def opening (f : Flags) (names : List GroupName) (whole : List Char) : Read Opening :=
  let s := f.skip (whole.drop 1)
  match aroundMarks.findSome? fun mark => mark.toList.isPrefixOf? s with
  | some rest => fail .lookAround (.upTo whole rest)
  | none =>
    match s with
    | '?' :: 'P' :: '<' :: t | '?' :: '<' :: t =>
      (groupName names t).map fun p => (.named p.1, p.2)
    | ['?'] => fail .groupUnclosed (.firstChar whole)
    | '?' :: t =>
      (flagsFrom { flags := f } none t).bind fun (k, rest) =>
        if rest.head? = some ':' then .ok (.group k.flags, rest.drop 1)
        else if k.seen.isEmpty then fail .nothingToRepeat (.before s)
        else .ok (.flags k.flags, rest.drop 1)
    | s => .ok (.capture, s)

/-! ## Patterns -/

structure Term where
  expr : Except Fault Expr
  span : Span
  levels : Levels := []
  repeatable : Bool := true

namespace Term

def combine (op : Expr → Expr → Expr) (a b : Except Fault Expr) : Except Fault Expr :=
  a.bind fun x => b.map (op x)

/-- One expression of all, the last two being combined first. -/
def combineAll (op : Expr → Expr → Expr) (e : Except Fault Expr) :
    List Term → Except Fault Expr
  | [] => e
  | t :: ts => combine op e (combineAll op t.expr ts)

def join (op : Expr → Expr → Expr) (span : Span) : List Term → Term
  | [] => { expr := .ok .empty, span }
  | [t] => t
  | t :: ts =>
    { expr := combineAll op t.expr ts
      span
      levels := span :: ts.foldl (fun ls u => Levels.beside ls u.levels) t.levels }

def ofAtom (f : Flags) (span : Span) : Atom → Term
  | .char c asByte => { expr := meaning span (f.literal c asByte), span }
  | .set s => { expr := (meaning span s).map .chars, span }
  | .look l => { expr := .ok (.look l), span }

def wrap (t : Term) (form : Expr → Expr) (span : Span) : Term :=
  { expr := t.expr.map form, span, levels := span :: t.levels }

end Term

/-- What is read of the group at hand: the names of the groups so far, the alternatives before the
    last bar and the parts after it, each with the last one first. The ends of the group and of its
    last alternative are where they begin. -/
structure GroupSoFar where
  names : List GroupName := []
  alternatives : List Term := []
  parts : List Term := []
  all : Span
  last : Span

namespace GroupSoFar

def beginning (names : List GroupName) (s : List Char) : GroupSoFar :=
  { names, all := .before s, last := .before s }

def push (g : GroupSoFar) (t : Term) : GroupSoFar := { g with parts := t :: g.parts }

def close (g : GroupSoFar) (s : List Char) : GroupSoFar :=
  { g with
    alternatives := Term.join .seq (g.last.through (.before s)) g.parts.reverse :: g.alternatives
    parts := [] }

def bar (g : GroupSoFar) (s : List Char) : GroupSoFar :=
  { g.close s with last := .before (s.drop 1) }

def term (g : GroupSoFar) (s : List Char) : Term :=
  Term.join .either (g.all.through (.before s)) (g.close s).alternatives.reverse

/-- The last part, if it can be repeated, and the group without it. -/
def takeLast (g : GroupSoFar) (s : List Char) : Except Fault (Term × GroupSoFar) :=
  match g.parts with
  | t :: ts =>
    if t.repeatable then .ok (t, { g with parts := ts })
    else fail .nothingToRepeat (.before s)
  | [] => fail .nothingToRepeat (.before s)

end GroupSoFar

/-- Whether a repetition tries few rounds first, and what follows its mark, if it has one. -/
def tryFew (f : Flags) : List Char → Bool × List Char
  | '?' :: s => (!f.swapGreed, s)
  | s => (f.swapGreed, s)

def repeatBySign (f : Flags) (g : GroupSoFar) (lo : Nat) (hi : Option Nat) (s : List Char) :
    Read GroupSoFar :=
  (g.takeLast s).map fun (t, g) =>
    let (few, rest) := tryFew f (s.drop 1)
    (g.push (t.wrap (.times lo hi few) (t.span.through (.before rest))), rest)

def repeatByCount (f : Flags) (g : GroupSoFar) (s : List Char) : Read GroupSoFar :=
  (g.takeLast s).bind fun (t, g) =>
    (bounds f s).bind fun ((lo, hi), rest) =>
      let (few, rest) := tryFew f (f.skip rest)
      if hi.all (lo ≤ ·) then
        .ok (g.push (t.wrap (.times lo hi few) (t.span.through (.before rest))), rest)
      else fail .countRange (.upTo s rest)

/-- A pattern up to its end, or up to the parenthesis that closes the group around, if there is one:
    the pattern, the names of the groups so far, and the rest. -/
def pattern (inside : Option Span) :
    Nat → Flags → GroupSoFar → List Char → Read (Term × List GroupName)
  | 0, _, _, _ => fail .groupUnclosed (.before [])
  | fuel + 1, f, g, s =>
    match f.skip s with
    | [] =>
      match inside with
      | some span => fail .groupUnclosed span
      | none => .ok ((g.term [], g.names), [])
    | c :: t =>
      let s := c :: t
      match c with
      | ')' =>
        if inside.isSome then .ok ((g.term s, g.names), t)
        else fail .groupUnopened (.firstChar s)
      | '|' => pattern inside fuel f (g.bar s) t
      | '(' =>
        (opening f g.names s).bind fun (o, u) =>
          let group (f' : Flags) (names : List GroupName) (form : Expr → Expr) :=
            (pattern (some (.firstChar s)) fuel f' (.beginning names u) u).bind
              fun ((inner, names), rest) =>
                pattern inside fuel f ({ g with names }.push (inner.wrap form (.upTo s rest))) rest
          match o with
          | .flags f' =>
            pattern inside fuel f'
              (g.push { expr := .ok .empty, span := .upTo s u, repeatable := false }) u
          | .group f' => group f' g.names .group
          | .capture => group f g.names .capture
          | .named name => group f (name :: g.names) .capture
      | '[' =>
        (bracketClass f s).bind fun (k, rest) =>
          pattern inside fuel f
            (g.push { expr := k.set.map .chars, span := k.span, levels := k.levels }) rest
      | '?' => (repeatBySign f g 0 (some 1) s).bind fun (g, rest) => pattern inside fuel f g rest
      | '*' => (repeatBySign f g 0 none s).bind fun (g, rest) => pattern inside fuel f g rest
      | '+' => (repeatBySign f g 1 none s).bind fun (g, rest) => pattern inside fuel f g rest
      | '\x7b' => (repeatByCount f g s).bind fun (g, rest) => pattern inside fuel f g rest
      | '.' =>
        let span := Span.firstChar s
        pattern inside fuel f (g.push { expr := meaning span f.dot, span }) t
      | '^' => pattern inside fuel f (g.push (.ofAtom f (.firstChar s) (.look f.lineStart))) t
      | '$' => pattern inside fuel f (g.push (.ofAtom f (.firstChar s) (.look f.lineEnd))) t
      | '\\' =>
        (escape f s).bind fun (a, rest) =>
          pattern inside fuel f (g.push (.ofAtom f (.upTo s rest) a)) rest
      | c => pattern inside fuel f (g.push (.ofAtom f (.firstChar s) (.char c false))) t

def depthLimit : Nat := 250

def read (s : List Char) : Except Fault Expr :=
  (pattern none (s.length + 1) {} (.beginning [] s) s).bind fun ((t, _), _) =>
    match t.levels[depthLimit]? with
    | some span => fail (.tooDeep depthLimit) span
    | none => t.expr

end VersionPick.Regex
