/-
  VersionPick.Regex.Expr — regular expressions without their notation, and where in
  a text they match.

  A place in a text lies before, between or after its characters. An expression
  takes the places where a match may begin to the places where it may end: a set
  of characters steps over one of them, an assertion keeps the places at which it
  holds, and the other forms combine these steps. A search begins at every place
  and succeeds if any end is reached, so it needs neither an order among the
  alternatives nor backtracking.

  Sets of places are the bits of a number, the first place being the lowest bit.
-/

import VersionPick.Unicode.Property

namespace VersionPick.Regex

open Unicode (CharSet)

/-- What an assertion demands of the characters before and after a place. -/
inductive Look where
  | textStart
  | textEnd
  /-- Lines end at line feeds. -/
  | lineStart
  | lineEnd
  /-- Lines end at line feeds, carriage returns, and pairs of these. -/
  | lineStartCrlf
  | lineEndCrlf
  /-- Just one of the neighbours is a word character. -/
  | wordEdge (unicode : Bool)
  | noWordEdge (unicode : Bool)
  | wordStart (unicode : Bool)
  | wordEnd (unicode : Bool)
  /-- No word character comes before. -/
  | wordStartHalf (unicode : Bool)
  /-- No word character comes after. -/
  | wordEndHalf (unicode : Bool)
deriving DecidableEq, Repr

inductive Expr where
  | empty
  | chars (set : CharSet)
  | look (look : Look)
  | seq (first second : Expr)
  | either (left right : Expr)
  /-- At least `min` times, and at most `max` times if there is a bound. If `few`, fewer rounds are
      tried before more, which has no bearing on whether there is a match. -/
  | times (min : Nat) (max : Option Nat) (few : Bool) (e : Expr)
  /-- A part in parentheses. -/
  | group (e : Expr)
  /-- A part in parentheses whose text is kept. -/
  | capture (e : Expr)
deriving DecidableEq, Repr

/-! ## Assertions -/

def asciiWord : CharSet := .ofRanges [(48, 57), (65, 90), (95, 95), (97, 122)]

def isWord (unicode : Bool) (c : Option Char) : Bool :=
  match c with
  | some c => if unicode then Unicode.wordChars.contains c else asciiWord.contains c
  | none => false

def Look.holds (before after : Option Char) : Look → Bool
  | .textStart => before.isNone
  | .textEnd => after.isNone
  | .lineStart => before.isNone || before == some '\n'
  | .lineEnd => after.isNone || after == some '\n'
  | .lineStartCrlf =>
    before.isNone || before == some '\n' || (before == some '\r' && after != some '\n')
  | .lineEndCrlf =>
    after.isNone || after == some '\r' || (after == some '\n' && before != some '\r')
  | .wordEdge u => isWord u before != isWord u after
  | .noWordEdge u => isWord u before == isWord u after
  | .wordStart u => !isWord u before && isWord u after
  | .wordEnd u => isWord u before && !isWord u after
  | .wordStartHalf u => !isWord u before
  | .wordEndHalf u => !isWord u after

/-! ## Places -/

def ofBits : List Bool → Nat
  | [] => 0
  | b :: bs => (if b then 1 else 0) + 2 * ofBits bs

def placesBefore (set : CharSet) (text : List Char) : Nat := ofBits (text.map set.contains)

/-- The places at which an assertion holds, in a text that follows the character `before`. -/
def placesAt (look : Look) (before : Option Char) : List Char → List Bool
  | [] => [look.holds before none]
  | c :: cs => look.holds before (some c) :: placesAt look (some c) cs

/-- `step` done `n` times, or until it changes nothing. -/
def iterate (step : Nat → Nat) : Nat → Nat → Nat
  | 0, places => places
  | n + 1, places =>
    let next := step places
    if next = places then places else iterate step n next

/-- The places where a match of the expression may end if it begins at one of the given places.

    No more rounds of a repetition than there are places can make a difference: each round only
    goes forward or stays where it is. -/
def Expr.ends (text : List Char) : Expr → Nat → Nat
  | .empty, places => places
  | .chars set, places => (places &&& placesBefore set text) <<< 1
  | .look l, places => places &&& ofBits (placesAt l none text)
  | .seq a b, places => b.ends text (a.ends text places)
  | .either a b, places => a.ends text places ||| b.ends text places
  | .times min max _ e, places =>
    let rounds := text.length + 1
    let optional := match max with
      | some m => Nat.min (m - min) rounds
      | none => rounds
    let required := iterate (e.ends text) (Nat.min min rounds) places
    iterate (fun p => p ||| e.ends text p) optional required
  | .group e, places => e.ends text places
  | .capture e, places => e.ends text places

def allPlaces (text : List Char) : Nat := ofBits (List.replicate (text.length + 1) true)

def Expr.foundIn (e : Expr) (text : List Char) : Bool := e.ends text (allPlaces text) != 0

end VersionPick.Regex
