/-
  VersionPick.Regex.Plan — an expression as an automaton is built from it.

  A plan says the same as its expression with fewer parts: characters that follow each
  other are one text, alternatives that are single characters or sets of them are one
  set, what alternatives have in common at their start comes once before them, and
  repetitions of nothing are dropped.
-/

import VersionPick.Regex.Expr

namespace VersionPick.Regex

open Unicode (CharSet)

inductive Plan where
  | empty
  /-- A text that is not empty, as its bytes in UTF-8. -/
  | text (bytes : List UInt8)
  /-- Any character of a set that has none or several. -/
  | chars (set : CharSet)
  | look (look : Look)
  | times (min : Nat) (max : Option Nat) (few : Bool) (part : Plan)
  | capture (part : Plan)
  /-- Two parts or more. -/
  | seq (parts : List Plan)
  /-- Two alternatives or more. -/
  | choice (parts : List Plan)
deriving Repr

namespace Plan

/-! ## Comparison -/

mutual

/-- Whether two plans are the same. Parts whose text is kept never are, since each is kept in a
    place of its own. -/
def same : Plan → Plan → Bool
  | .empty, .empty => true
  | .text a, .text b => a == b
  | .chars s, .chars t => s == t
  | .look l, .look m => l == m
  | .times min max few p, .times min' max' few' q =>
    min == min' && max == max' && few == few' && same p q
  | .seq ps, .seq qs => sameAll ps qs
  | .choice ps, .choice qs => sameAll ps qs
  | _, _ => false

def sameAll : List Plan → List Plan → Bool
  | [], [] => true
  | p :: ps, q :: qs => same p q && sameAll ps qs
  | _, _ => false

end

/-! ## Lengths -/

/-- The lengths, in bytes, of the shortest and the longest text that a plan matches, where these are
    known. For a set without characters they are not, nor for alternatives among which there is
    one. -/
structure Extent where
  least : Option Nat
  greatest : Option Nat
deriving DecidableEq, Repr

namespace Extent

def zero : Extent := ⟨some 0, some 0⟩

def ofLength (n : Nat) : Extent := ⟨some n, some n⟩

def append (a b : Extent) : Extent :=
  ⟨a.least.bind fun m => b.least.map (m + ·), a.greatest.bind fun m => b.greatest.map (m + ·)⟩

def alternate (a b : Extent) : Extent :=
  ⟨a.least.bind fun m => b.least.map (min m), a.greatest.bind fun m => b.greatest.map (max m)⟩

def alternateAll : List Extent → Extent
  | [] => ⟨none, none⟩
  | [a] => a
  | a :: as => alternate a (alternateAll as)

def times (min : Nat) (max : Option Nat) (a : Extent) : Extent :=
  ⟨a.least.map (· * min), max.bind fun m => a.greatest.map (· * m)⟩

def onlyEmpty (a : Extent) : Bool := a.greatest == some 0

end Extent

def byteLength (n : Nat) : Nat :=
  if n < 0x80 then 1 else if n < 0x800 then 2 else if n < 0x10000 then 3 else 4

mutual

def extent : Plan → Extent
  | .empty => .zero
  | .text bytes => .ofLength bytes.length
  | .chars s =>
    ⟨s.ranges.head?.map fun r => byteLength r.1, s.ranges.getLast?.map fun r => byteLength r.2⟩
  | .look _ => .zero
  | .times min max _ p => .times min max p.extent
  | .capture p => p.extent
  | .seq ps => (extents ps).foldr .append .zero
  | .choice ps => .alternateAll (extents ps)

def extents : List Plan → List Extent
  | [] => []
  | p :: ps => p.extent :: extents ps

end

/-! ## Assertions and kept parts -/

mutual

def hasLook : Plan → Bool
  | .look _ => true
  | .times _ _ _ p => p.hasLook
  | .capture p => p.hasLook
  | .seq ps => anyHasLook ps
  | .choice ps => anyHasLook ps
  | _ => false

def anyHasLook : List Plan → Bool
  | [] => false
  | p :: ps => p.hasLook || anyHasLook ps

end

mutual

def hasCapture : Plan → Bool
  | .times _ _ _ p => p.hasCapture
  | .capture _ => true
  | .seq ps => anyHasCapture ps
  | .choice ps => anyHasCapture ps
  | _ => false

def anyHasCapture : List Plan → Bool
  | [] => false
  | p :: ps => p.hasCapture || anyHasCapture ps

end

mutual

def beginsWith (look : Look) : Plan → Bool
  | .look l => l == look
  | .times min _ _ p => min != 0 && p.beginsWith look
  | .capture p => p.beginsWith look
  | .seq ps => seqBeginsWith look ps
  | .choice ps => allBeginWith look ps
  | _ => false

/-- Parts that match only the empty text may stand before the assertion. -/
def seqBeginsWith (look : Look) : List Plan → Bool
  | [] => false
  | p :: ps => p.beginsWith look || (p.extent.onlyEmpty && seqBeginsWith look ps)

def allBeginWith (look : Look) : List Plan → Bool
  | [] => true
  | p :: ps => p.beginsWith look && allBeginWith look ps

end

mutual

def reversed : Plan → Plan
  | .text bytes => .text bytes.reverse
  | .times min max few p => .times min max few p.reversed
  | .capture p => .capture p.reversed
  | .seq ps => .seq (reversedAll ps).reverse
  | .choice ps => .choice (reversedAll ps)
  | p => p

def reversedAll : List Plan → List Plan
  | [] => []
  | p :: ps => p.reversed :: reversedAll ps

end

/-! ## Building plans -/

def ofChars (s : CharSet) : Plan :=
  match s.ranges with
  | [(lo, hi)] => if lo = hi then .text (String.utf8EncodeChar (Char.ofNat lo)) else .chars s
  | _ => .chars s

def toParts : Plan → List Plan
  | .empty => []
  | .seq ps => ps
  | p => [p]

def joinTexts : List Plan → List Plan
  | [] => []
  | p :: ps =>
    match p, joinTexts ps with
    | .text a, .text b :: qs => .text (a ++ b) :: qs
    | _, qs => p :: qs

def ofSeq (ps : List Plan) : Plan :=
  match joinTexts (ps.flatMap toParts) with
  | [] => .empty
  | [p] => p
  | ps => .seq ps

def toAlternatives : Plan → List Plan
  | .choice ps => ps
  | p => [p]

def singleChar? : Plan → Option Char
  | .text bytes =>
    match (String.fromUTF8? ⟨bytes.toArray⟩).map String.toList with
    | some [c] => some c
    | _ => none
  | _ => none

def set? : Plan → Option CharSet
  | .chars s => some s
  | _ => none

/-- Several alternatives as one set, if all are single characters or all are sets. -/
def asSet? (ps : List Plan) : Option CharSet :=
  ((ps.mapM singleChar?).map fun cs => .unionAll (cs.map .ofChar)).or
    ((ps.mapM set?).map .unionAll)

/-- How many parts two sequences have in common at their start. -/
def commonParts : List Plan → List Plan → Nat
  | p :: ps, q :: qs => if p.same q then commonParts ps qs + 1 else 0
  | _, _ => 0

def sequence? : Plan → Option (List Plan)
  | .seq ps => some ps
  | _ => none

/-- The parts that all alternatives have in common at their start, and what is left of each. -/
def shared? (ps : List Plan) : Option (List Plan × List (List Plan)) :=
  match ps.mapM sequence? with
  | some (first :: others) =>
    let n := others.foldl (fun n qs => min n (commonParts first qs)) first.length
    if n = 0 then none else some (first.take n, (first :: others).map (·.drop n))
  | _ => none

def ofDistinct (ps : List Plan) : Plan :=
  match ps.flatMap toAlternatives with
  | [] => .chars .empty
  | [p] => p
  | ps =>
    match asSet? ps with
    | some s => ofChars s
    | none => .choice ps

def ofChoice (ps : List Plan) : Plan :=
  match ofDistinct ps with
  | .choice ps =>
    match shared? ps with
    | some (common, rests) => ofSeq (common ++ [ofDistinct (rests.map ofSeq)])
    | none => .choice ps
  | p => p

/-- A repetition. One round is as good as many where there is only the empty text to match. -/
def ofTimes (min : Nat) (max : Option Nat) (few : Bool) (p : Plan) : Plan :=
  let (min, max) :=
    if p.extent.onlyEmpty then (Nat.min min 1, some ((max.map (Nat.min · 1)).getD 1))
    else (min, max)
  if min = 0 && max = some 0 then .empty
  else if min = 1 && max = some 1 then p
  else .times min max few p

def ofAlternatives : List (List Plan) → Plan
  | [ps] => ofSeq ps
  | pss => ofChoice (pss.map ofSeq)

/-- The alternatives that an expression consists of, each with the plans of its parts. -/
def alternatives : Expr → List (List Plan)
  | .empty => [[]]
  | .chars s => [[ofChars s]]
  | .look l => [[.look l]]
  | .seq a b =>
    match alternatives a, alternatives b with
    | [ps], [qs] => [ps ++ qs]
    | pss, qss => [[ofAlternatives pss, ofAlternatives qss]]
  | .either a b => alternatives a ++ alternatives b
  | .times min max few e => [[ofTimes min max few (ofAlternatives (alternatives e))]]
  | .group e => [[ofAlternatives (alternatives e)]]
  | .capture e => [[.capture (ofAlternatives (alternatives e))]]

def ofExpr (e : Expr) : Plan := ofAlternatives (alternatives e)

end Plan

end VersionPick.Regex
