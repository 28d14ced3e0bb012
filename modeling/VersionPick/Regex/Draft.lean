/-
  VersionPick.Regex.Draft — how much room an automaton takes while it is built.

  States are numbered in the order in which they are added. A set of characters
  beyond ASCII is written as rows of bytes, and a state that is already there for
  the same bytes is used again as long as it is remembered: the memory has a fixed
  number of places, a state goes to the place that its links determine, and drives
  out the one that was there.
-/

import VersionPick.Regex.ByteRow
import Std.Data.HashMap

namespace VersionPick.Regex

open Unicode (CharSet)

structure Draft where
  /-- How many states there are. -/
  states : Nat := 0
  /-- The room of the links that forks and tables have, in bytes. -/
  links : Nat := 0
  /-- Whether the part that was added last ends in a fork. -/
  forkEnd : Bool := false
deriving DecidableEq, Repr

namespace Draft

def room (d : Draft) : Nat := 32 * d.states + d.links

/-- Adds states of which the last is no fork. -/
def add (n : Nat) (d : Draft) : Draft := { d with states := d.states + n, forkEnd := false }

def addLinks (n : Nat) (d : Draft) : Draft := { d with links := d.links + 4 * n }

def addTable (n : Nat) (d : Draft) : Draft := { d.add 1 with links := d.links + 8 * n }

/-- Links the end of the part that was added last to what comes after it. -/
def leave (d : Draft) : Draft := if d.forkEnd then d.addLinks 1 else d

/-! ## States that are remembered -/

structure Link where
  bytes : ByteRange
  next : Nat
deriving DecidableEq, Repr

/-- The states that are remembered, each at its place, with their links. -/
abbrev Memory := Std.HashMap Nat (List Link × Nat)

/-- The place for some numbers among so many: they are mixed into one word, each by an exclusive or
    and a product. -/
def place (places : Nat) (numbers : List Nat) : Nat :=
  let mixed := numbers.foldl (fun (h : UInt64) n => (h ^^^ n.toUInt64) * 1099511628211)
    14695981039346656037
  mixed.toNat % places

/-- The state at a place, if it has these links. -/
def known? (m : Memory) (spot : Nat) (links : List Link) : Option Nat :=
  match m[spot]? with
  | some (ls, state) => if ls = links then some state else none
  | none => none

/-! ## Sets, backwards -/

/-- A row from its first byte on, where `next` is the state that follows the first one. All rows
    meet in a fork. -/
def addRowBackwards (next : Nat) : ByteRow → Memory × Draft → Memory × Draft
  | [], (m, d) => (m, d.addLinks 1)
  | r :: rs, (m, d) =>
    let link : Link := ⟨r, next⟩
    let here := place 1000 [next, r.1, r.2]
    match known? m here [link] with
    | some state => addRowBackwards state rs (m, d)
    | none => addRowBackwards d.states rs (m.insert here ([link], d.states), d.add 1)

def addSetBackwards (s : CharSet) (d : Draft) : Draft :=
  ((setRows s).foldl (fun st row => addRowBackwards (d.states + 1) row st) (∅, d.add 2)).2

/-! ## Sets, forwards -/

/-- A state that may still get links. -/
structure OpenState where
  /-- The links that are settled, last first. -/
  links : List Link := []
  /-- The byte range whose link is not settled. -/
  pending : Option ByteRange := none

def OpenState.settle (next : Nat) (o : OpenState) : OpenState :=
  match o.pending with
  | some r => { links := ⟨r, next⟩ :: o.links }
  | none => o

def addState (o : OpenState) : Memory × Draft → Nat × Memory × Draft
  | (m, d) =>
    let links := o.links.reverse
    let here := place 10000 (links.flatMap fun l => [l.bytes.1, l.bytes.2, l.next])
    match known? m here links with
    | some state => (state, m, d)
    | none => (d.states, m.insert here (links, d.states), d.addTable links.length)

/-- Settles the open states but for the first `keep`; the last of the remaining ones gets its link.
    The open states are given last first, and `next` follows the last. -/
def settleFrom (keep next : Nat) :
    List OpenState → Memory × Draft → List OpenState × Memory × Draft
  | [], st => ([], st)
  | o :: before, st =>
    if keep < before.length then
      let (state, st) := addState (o.settle next) st
      settleFrom keep state before st
    else (o.settle next :: before, st)

def sharedStart : List OpenState → ByteRow → Nat
  | o :: os, r :: rs => if o.pending = some r then sharedStart os rs + 1 else 0
  | _, _ => 0

def openRow : ByteRow → List OpenState → List OpenState
  | r :: rs, o :: before =>
    rs.foldl (fun os r => { pending := some r } :: os) ({ o with pending := some r } :: before)
  | _, os => os

def addRow (last : Nat) (row : ByteRow) :
    List OpenState × Memory × Draft → List OpenState × Memory × Draft
  | (os, st) =>
    -- the bytes in front for which states are open already get no new ones
    let shared := sharedStart os.reverse row
    let (os, st) := settleFrom shared last os st
    (openRow (row.drop shared) os, st)

/-- States for a set, in which those that have the same links are one. -/
def addSetForwards (s : CharSet) (d : Draft) : Draft :=
  let last := d.states
  let (os, st) := (setRows s).foldl (fun st row => addRow last row st) ([{}], ∅, d.add 1)
  let (os, st) := settleFrom 0 last os st
  { (os.foldl (fun st o => (addState o st).2) st).2 with forkEnd := false }

def addSet (backwards : Bool) (s : CharSet) (d : Draft) : Draft :=
  -- ASCII needs no rows
  if s.below 0x7F then (d.add 1).addTable s.ranges.length
  else if backwards then addSetBackwards s d
  else addSetForwards s d

end Draft

end VersionPick.Regex
