/-
  VersionPick.Unicode.CharSet — sets of characters as ascending ranges of code
  points, with the operations of a Boolean algebra, and the compact text in which
  the tables of Unicode properties are kept.

  A table is a row of entries, one for each range: how many code points are left
  out since the range before it, and after `+` how many follow its first one.
-/

namespace VersionPick.Unicode

def lastCode : Nat := 0x10FFFF

/-- A set of characters: ranges of code points with both ends included, ascending and apart. -/
structure CharSet where
  ranges : List (Nat × Nat)
deriving DecidableEq, Repr

namespace CharSet

def empty : CharSet := ⟨[]⟩

def all : CharSet := ⟨[(0, lastCode)]⟩

def containsCode (s : CharSet) (n : Nat) : Bool :=
  s.ranges.any fun r => decide (r.1 ≤ n) && decide (n ≤ r.2)

def contains (s : CharSet) (c : Char) : Bool := s.containsCode c.toNat

def joinFrom (r : Nat × Nat) : List (Nat × Nat) → List (Nat × Nat)
  | [] => [r]
  | q :: qs => if q.1 ≤ r.2 + 1 then joinFrom (r.1, max r.2 q.2) qs else r :: joinFrom q qs

def ofRanges (rs : List (Nat × Nat)) : CharSet :=
  match rs.mergeSort fun a b => decide (a.1 ≤ b.1) with
  | [] => empty
  | r :: rs => ⟨joinFrom r rs⟩

def range (lo hi : Nat) : CharSet := ⟨[(lo, hi)]⟩

def ofChar (c : Char) : CharSet := range c.toNat c.toNat

def union (s t : CharSet) : CharSet := ofRanges (s.ranges ++ t.ranges)

def unionAll (ss : List CharSet) : CharSet := ofRanges (ss.flatMap (·.ranges))

/-- The code point before, where surrogates, which are no characters, do not count. -/
def before (n : Nat) : Nat := if n = 0xE000 then 0xD7FF else n - 1

def after (n : Nat) : Nat := if n = 0xD7FF then 0xE000 else n + 1

/-- The gaps between ranges, and after them, where `last` is the end of the range before. A gap of
    nothing but surrogates is given by the two characters around it. -/
def gapsAfter (last : Nat) : List (Nat × Nat) → List (Nat × Nat)
  | [] => if last < lastCode then [(after last, lastCode)] else []
  | r :: rs =>
    (min (after last) (before r.1), max (after last) (before r.1)) :: gapsAfter r.2 rs

def compl (s : CharSet) : CharSet :=
  match s.ranges with
  | [] => all
  | r :: rs => ⟨(if 0 < r.1 then [(0, before r.1)] else []) ++ gapsAfter r.2 rs⟩

/-- What a range has in common with others, and those of them that go beyond it. -/
def meet (r : Nat × Nat) : List (Nat × Nat) → List (Nat × Nat) × List (Nat × Nat)
  | [] => ([], [])
  | q :: qs =>
    if r.2 < q.1 then ([], q :: qs)
    else
      let common := if q.2 < r.1 then [] else [(max r.1 q.1, min r.2 q.2)]
      if r.2 < q.2 then (common, q :: qs)
      else
        let (more, rest) := meet r qs
        (common ++ more, rest)

def meetAll : List (Nat × Nat) → List (Nat × Nat) → List (Nat × Nat)
  | [], _ => []
  | r :: rs, qs =>
    let (common, rest) := meet r qs
    common ++ meetAll rs rest

def inter (s t : CharSet) : CharSet := ⟨meetAll s.ranges t.ranges⟩

/-- What is left of the range from `lo` to `hi` without others, and those of them that go beyond
    it. -/
def strip (lo hi : Nat) : List (Nat × Nat) → List (Nat × Nat) × List (Nat × Nat)
  | [] => ([(lo, hi)], [])
  | q :: qs =>
    if q.2 < lo then strip lo hi qs
    else if hi < q.1 then ([(lo, hi)], q :: qs)
    else
      let left := if lo < q.1 then [(lo, before q.1)] else []
      if q.2 < hi then
        let (more, rest) := strip (after q.2) hi qs
        (left ++ more, rest)
      else (left, q :: qs)

def stripAll : List (Nat × Nat) → List (Nat × Nat) → List (Nat × Nat)
  | [], _ => []
  | r :: rs, qs =>
    let (left, rest) := strip r.1 r.2 qs
    left ++ stripAll rs rest

def diff (s t : CharSet) : CharSet := ⟨stripAll s.ranges t.ranges⟩

def symmDiff (s t : CharSet) : CharSet := (s.union t).diff (s.inter t)

def below (limit : Nat) (s : CharSet) : Bool := s.ranges.all fun r => decide (r.2 ≤ limit)

def size (s : CharSet) : Nat := s.ranges.foldl (fun n r => n + (r.2 + 1 - r.1)) 0

end CharSet

/-! ## Tables -/

def hexDigit (c : Char) : Nat :=
  if c.isDigit then c.toNat - '0'.toNat else c.toNat - 'a'.toNat + 10

/-- The entries of a table, where `entry` holds the numbers of the entry at hand that were read so
    far, last first: the numbers of an entry are hexadecimal and joined by `+`, and blanks and
    line ends separate entries. -/
def entriesFrom (entry : List Nat) : List Char → List (List Nat)
  | [] => if entry.isEmpty then [] else [entry.reverse]
  | c :: cs =>
    if c = ' ' || c = '\n' then
      if entry.isEmpty then entriesFrom [] cs else entry.reverse :: entriesFrom [] cs
    else if c = '+' then entriesFrom (0 :: entry) cs
    else match entry with
      | [] => entriesFrom [hexDigit c] cs
      | n :: ns => entriesFrom ((16 * n + hexDigit c) :: ns) cs

def tableEntries (table : String) : List (List Nat) := entriesFrom [] table.toList

/-- The ranges of the entries, where `next` is the code point after the range before: an entry has
    the number of code points left out and, unless it is 0, that of those after the first. -/
def rangesFrom (next : Nat) : List (List Nat) → List (Nat × Nat)
  | [] => []
  | entry :: entries =>
    let lo := next + entry.headD 0
    let hi := lo + (entry.drop 1).headD 0
    (lo, hi) :: rangesFrom (hi + 1) entries

def CharSet.ofTable (table : String) : CharSet := ⟨rangesFrom 0 (tableEntries table)⟩

structure NamedSet where
  names : List String
  table : String

def NamedSet.set (s : NamedSet) : CharSet := .ofTable s.table

end VersionPick.Unicode
