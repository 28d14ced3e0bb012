/-
  VersionPick.Regex.Size — how much room the automata of a plan take, of which one reads
  text forwards and one backwards.

  Repetitions are written out, so bounds on them multiply the size, and a pattern whose
  automata would take too much room is refused. A draft that is over the limit is not
  drawn any further.
-/

import VersionPick.Regex.Draft
import VersionPick.Regex.Plan

namespace VersionPick.Regex

open Unicode (CharSet)

def roomLimit : Nat := 10 * 1024 * 1024

namespace Draft

/-! ## Alternatives that are texts -/

/-- What follows a state in a tree of texts, in rows: texts of a later row come after one that ends
    at the state. -/
structure Branches where
  rows : List (List (List UInt8)) := []
  row : List (List UInt8) := []

namespace Branches

def add (b : Branches) : List UInt8 → Branches
  | [] =>
    -- a text that ends where another one has ended adds nothing
    if b.row.isEmpty && !b.rows.isEmpty && b.rows.all (·.isEmpty) then b
    else { rows := b.rows ++ [b.row] }
  | text => { b with row := b.row ++ [text] }

def all (b : Branches) : List (List (List UInt8)) := b.rows ++ [b.row]

end Branches

/-- The texts that begin with the byte, without it. -/
def after (byte : UInt8) (texts : List (List UInt8)) : List (List UInt8) :=
  texts.filterMap fun
    | b :: rest => if b = byte then some rest else none
    | [] => none

/-- The states of a tree of texts: one for each row, and a fork of the rows and the ends between
    them. A state after which nothing follows is the end of all. `fuel` is more than the length of
    the longest text. -/
def addTree : Nat → List (List UInt8) → Draft → Draft
  | 0, _, d => d
  | fuel + 1, texts, d =>
    if texts.all (·.isEmpty) then d
    else
      let rows := (texts.foldl Branches.add {}).all
      let filled := rows.filter fun row => !row.isEmpty
      let d := filled.foldl
        (fun d row =>
          let bytes := (row.filterMap List.head?).eraseDups
          let d := bytes.foldl (fun d byte => addTree fuel (after byte row) d) d
          if bytes.length = 1 then d.add 1 else d.addTable bytes.length) d
      (d.add 1).addLinks (filled.length + (rows.length - 1))

def addTexts (texts : List (List UInt8)) (d : Draft) : Draft :=
  addTree ((texts.map List.length).foldl max 0 + 1) texts (d.add 1)

/-! ## Repetitions -/

def again (step : Draft → Draft) : Nat → Draft → Draft
  | 0, d => d
  | n + 1, d => if roomLimit < d.room then d else again step n (step d)

def exactly (part : Draft → Draft) (n : Nat) (d : Draft) : Draft :=
  if n = 0 then d.add 1 else again (fun d => part d.leave) (n - 1) (part d)

def atMostOnce (part : Draft → Draft) (d : Draft) : Draft :=
  ((part (d.add 1)).leave.add 1).addLinks 2

/-- A part any number of times from `min` on. If it can match the empty text, then none is told
    apart from one. -/
def atLeast (part : Draft → Draft) (takesText : Bool) (min : Nat) (d : Draft) : Draft :=
  if min = 0 then
    if takesText then { (part (d.add 1)).leave.addLinks 1 with forkEnd := true }
    else ((part d).leave.add 3).addLinks 4
  else
    let d := if min = 1 then d else (exactly part (min - 1) d).leave
    { ((part d).leave.add 1).addLinks 1 with forkEnd := true }

/-- A part from `min` to `max` times: each round beyond `min` has a fork that leads to the end. -/
def between (part : Draft → Draft) (min max : Nat) (d : Draft) : Draft :=
  let d := (exactly part min d).leave.add 1
  (again (fun d => (part (d.add 1)).leave.addLinks 2) (max - min) d).add 0

end Draft

/-! ## Plans -/

namespace Plan

def text? : Plan → Option (List UInt8)
  | .text bytes => some bytes
  | _ => none

mutual

/-- Adds the states of a plan. What a group matches is kept only by the automaton that reads
    forwards; a plan that is read backwards has been reversed. -/
def addTo (backwards : Bool) : Plan → Draft → Draft
  | .empty, d => d.add 1
  | .text bytes, d => d.add bytes.length
  | .chars s, d => d.addSet backwards s
  | .look _, d => d.add 1
  | .times min max _ p, d =>
    let part := p.addTo backwards
    match max with
    | none => d.atLeast part (p.extent.least.any (0 < ·)) min
    | some max =>
      if min = 0 && max = 1 then d.atMostOnce part
      else if min = max then d.exactly part min
      else d.between part min max
  | .capture p, d =>
    if backwards then p.addTo backwards d else (p.addTo backwards (d.add 1)).leave.add 1
  | .seq ps, d => addSeq backwards ps d
  | .choice ps, d =>
    match ps.mapM text? with
    | some texts => d.addTexts texts
    | none => { addChoice backwards 0 ps d with forkEnd := false }

def addSeq (backwards : Bool) : List Plan → Draft → Draft
  | [], d => d
  | [p], d => p.addTo backwards d
  | p :: ps, d => addSeq backwards ps (p.addTo backwards d).leave

/-- Adds alternatives after the first `known` ones. Their fork and their end come after two of
    them. -/
def addChoice (backwards : Bool) (known : Nat) : List Plan → Draft → Draft
  | [], d => d
  | p :: ps, d =>
    let d := (p.addTo backwards d).leave.addLinks 1
    addChoice backwards (known + 1) ps (if known = 1 then d.add 2 else d)

end

/-- The states before a plan: any bytes may come first, unless the plan is held to one end of the
    text. -/
def opening (held : Bool) : Draft :=
  if held then Draft.add 1 {} else ((Draft.add 2 {}).addTable 1).addLinks 2

/-- The room of the automaton that reads forwards and keeps the whole of a match. -/
def forwardRoom (p : Plan) : Nat :=
  ((p.addTo false ((opening (p.beginsWith .textStart)).add 1)).leave.add 2).room

def backwardRoom (p : Plan) : Nat :=
  ((p.reversed.addTo true (opening (p.reversed.beginsWith .textEnd))).leave.add 1).room

def fits (p : Plan) : Bool :=
  decide (p.forwardRoom ≤ roomLimit) && decide (p.backwardRoom ≤ roomLimit)

end Plan

end VersionPick.Regex
