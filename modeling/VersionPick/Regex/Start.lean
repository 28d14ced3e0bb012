/-
  VersionPick.Regex.Start — the texts with which the matches of a plan start.

  Where the starts are few and are all that a match consists of, a search looks for
  these texts and needs no automaton. Which plans count as such depends on bounds on
  the number and the length of starts, and on what makes a search for them fast.
-/

import VersionPick.Regex.Plan

namespace VersionPick.Regex

open Unicode (CharSet)

structure Start where
  bytes : List UInt8
  whole : Bool
deriving DecidableEq, Repr

/-- The texts of which every match starts with one, the preferred ones first; `none` if they are too
    many to be listed. -/
abbrev Starts := Option (List Start)

namespace Start

def countLimit : Nat := 250

def lengthLimit : Nat := 100

/-- How many characters a set may have, and how many rounds of a repetition are looked at. -/
def roundLimit : Nat := 10

def cut (n : Nat) (s : Start) : Start :=
  if s.bytes.length ≤ n then s else ⟨s.bytes.take n, false⟩

/-- A start followed by another. What follows a start that is not the whole is not known. -/
def append (s t : Start) : Start := if s.whole then ⟨s.bytes ++ t.bytes, t.whole⟩ else s

def joinEqual : List Start → List Start
  | [] => []
  | s :: ss =>
    match joinEqual ss with
    | t :: ts =>
      if s.bytes = t.bytes then ⟨s.bytes, s.whole && t.whole⟩ :: ts else s :: t :: ts
    | [] => [s]

def cutAll (n : Nat) (ss : List Start) : List Start := ss.map (cut n)

def allWhole (ss : List Start) : Bool := ss.all (·.whole)

end Start

namespace Starts

open Start

def closed : Starts → Bool
  | none => true
  | some ss => ss.all (!·.whole)

def partly (s : Starts) : Starts := s.map (·.map fun t => { t with whole := false })

def emptyText : Starts := some [⟨[], true⟩]

/-- The starts of either part. If they would be too many, they are cut short first. -/
def union (a b : Starts) : Starts :=
  match a, b with
  | some ss, some ts =>
    if ss.length + ts.length ≤ countLimit then some (joinEqual (ss ++ ts))
    else
      let ss := joinEqual (cutAll 4 ss)
      let ts := joinEqual (cutAll 4 ts)
      if ss.length + ts.length ≤ countLimit then some (joinEqual (ss ++ ts)) else none
  | _, _ => none

/-- The starts of one part after another. -/
def append (a b : Starts) : Starts :=
  match a, b with
  | none, _ => none
  | some ss, some ts =>
    if ss.length * ts.length ≤ countLimit then
      some (cutAll lengthLimit (joinEqual (ss.flatMap fun s =>
        if s.whole then ts.map s.append else [s])))
    else open_ ss
  | some ss, none => open_ ss
where
  /-- What follows may be anything. -/
  open_ (ss : List Start) : Starts :=
    if ss.any (·.bytes.isEmpty) then none else partly (some ss)

def ofSet (s : CharSet) : Starts :=
  if roundLimit < s.size then none
  else some (s.ranges.flatMap fun r =>
    (List.range' r.1 (r.2 + 1 - r.1)).map fun n => ⟨String.utf8EncodeChar (Char.ofNat n), true⟩)

def rounds (part : Starts) : Nat → Starts → Starts
  | 0, s => s
  | n + 1, s => if s.closed then s else rounds part n (s.append part)

def times (min : Nat) (max : Option Nat) (few : Bool) (part : Starts) : Starts :=
  if min = 0 then
    let part := if max = some 1 then part else part.partly
    if few then union emptyText part else union part emptyText
  else
    let s := rounds part (Nat.min min roundLimit) emptyText
    if max = some min ∧ min ≤ roundLimit then s else s.partly

end Starts

namespace Plan

mutual

def starts : Plan → Starts
  | .empty => .emptyText
  | .text bytes => some [Start.cut Start.lengthLimit ⟨bytes, true⟩]
  | .chars s => .ofSet s
  | .look _ => .emptyText
  | .times min max few p => p.starts.times min max few
  | .capture p => p.starts
  | .seq ps => seqStarts .emptyText ps
  | .choice ps => choiceStarts (some []) ps

def seqStarts (s : Starts) : List Plan → Starts
  | [] => s
  | p :: ps => if s.closed then s else seqStarts (s.append p.starts) ps

def choiceStarts (s : Starts) : List Plan → Starts
  | [] => s
  | p :: ps => if s.isNone then s else choiceStarts (s.union p.starts) ps

end

end Plan

/-! ## Searching for texts -/

namespace Start

/-- Drops the starts that begin with an earlier one, which is preferred to them. -/
def preferred (kept : List Start) : List Start → List Start
  | [] => kept.reverse
  | s :: ss =>
    if kept.any fun k => k.bytes.isPrefixOf s.bytes then preferred kept ss
    else preferred (s :: kept) ss

def commonLength : List UInt8 → List UInt8 → Nat
  | a :: as, b :: bs => if a = b then commonLength as bs + 1 else 0
  | _, _ => 0

def commonText : List Start → List UInt8
  | [] => []
  | s :: ss => s.bytes.take (ss.foldl (fun n t => min n (commonLength s.bytes t.bytes)) s.bytes.length)

/-- Bytes that are frequent in text: some ASCII characters, and all others. -/
def isFrequent (b : UInt8) : Bool :=
  128 ≤ b.toNat || "\n\r (),-./0129:_abcdefghilmnoprstuvxy|".toList.contains (Char.ofNat b.toNat)

/-- Cuts the starts, where they are more than `limit`, to the length `keep`, one pair after another. -/
def shorten (ss : List Start) : List (Nat × Nat) → List Start
  | [] => ss
  | (keep, limit) :: more =>
    if ss.length ≤ limit then ss else shorten (preferred [] (cutAll keep ss)) more

/-- Whether many starts become a few that are still long enough when they are cut. -/
def betterCut (ss : List Start) : Bool :=
  let cut := shorten ss [(5, 10), (4, 10), (3, 64), (2, 64), (1, 10)]
  !allWhole cut && cut.all (2 < ·.bytes.length) && cut.length ≤ 64

/-- Whether a search looks for these texts and for nothing else. It does not if it is faster to look
    for a part of them first: for a rare byte with which all begin, for a long common beginning, or
    for a few shorter texts. -/
def suffice (ss : List Start) : Bool :=
  if ss.isEmpty || ss.any (·.bytes.isEmpty) then false
  else
    let kept := preferred [] ss
    let common := commonText kept
    if 1 < ss.length && common.length ≤ 3 && common.head?.any (!isFrequent ·) then
      allWhole (cutAll 1 kept)
    else
      let fast := allWhole kept && kept.length ≤ 16
      let kept :=
        if 4 < common.length || (1 < common.length && !fast) then
          joinEqual (cutAll common.length kept)
        else kept
      allWhole kept && !betterCut kept

end Start

def manyTexts : Nat := 3000

def Plan.isManyTexts : Plan → Bool
  | .choice ps => manyTexts ≤ ps.length && (ps.all fun p => p matches .text _)
  | _ => false

/-- Whether a match is one of a few texts, or of very many that are alternatives, so that no
    automaton is needed. -/
def Plan.isFixed (p : Plan) : Bool :=
  !p.hasLook && !p.hasCapture && (p.starts.any Start.suffice || p.isManyTexts)

end VersionPick.Regex
