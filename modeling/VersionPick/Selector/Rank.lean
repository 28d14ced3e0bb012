/-
  VersionPick.Selector.Rank — ranks `FIRST+n` and `LAST-n` in an ascending list.

  A rank counts from one end of the list of distinct values, and `FIRST` and `LAST`
  alone are the ends themselves. A list that is too short has nothing at the rank.
-/

import VersionPick.Text.Decimal
import VersionPick.Version.Sorting

namespace VersionPick

inductive ListEnd where
  | first
  | last
deriving DecidableEq, Repr

namespace ListEnd

def keyword : ListEnd → String
  | first => "FIRST"
  | last => "LAST"

def sign : ListEnd → Char
  | first => '+'
  | last => '-'

end ListEnd

structure Rank where
  fromEnd : ListEnd
  offset : Nat := 0
deriving DecidableEq, Repr

inductive RankError where
  | noKeyword
  /-- The keyword is followed by something that is not its sign. -/
  | wrongSign (listEnd : ListEnd)
  /-- The sign is not followed by a number. -/
  | badOffset (listEnd : ListEnd)
deriving DecidableEq, Repr

def RankError.message : RankError → String
  | .noKeyword => "must start with FIRST or LAST"
  | .wrongSign e => "only allowed symbol after " ++ e.keyword ++ " is " ++ e.sign.toString
  | .badOffset e => e.keyword ++ e.sign.toString ++ " should be followed by a number"

namespace Rank

/-- The keyword at the start of a text, and what follows it. -/
def keyword? (s : List Char) : Option (ListEnd × List Char) :=
  match ListEnd.first.keyword.toList.isPrefixOf? s with
  | some rest => some (.first, rest)
  | none => (ListEnd.last.keyword.toList.isPrefixOf? s).map fun rest => (.last, rest)

def hasKeyword (text : String) : Bool := (keyword? text.toList).isSome

def parse (text : String) : Except RankError Rank :=
  match keyword? text.toList with
  | none => .error .noKeyword
  | some (e, []) => .ok { fromEnd := e }
  | some (e, c :: digits) =>
    if c = e.sign then
      match Text.Decimal.read? digits with
      | some n => .ok { fromEnd := e, offset := n }
      | none => .error (.badOffset e)
    else .error (.wrongSign e)

def text (r : Rank) : String :=
  if r.offset = 0 then r.fromEnd.keyword
  else r.fromEnd.keyword ++ r.fromEnd.sign.toString ++ Text.Decimal.toText r.offset

def index? (r : Rank) (size : Nat) : Option Nat :=
  if r.offset < size then
    match r.fromEnd with
    | .first => some r.offset
    | .last => some (size - 1 - r.offset)
  else none

def pick? {α : Type} (r : Rank) (as : List α) : Option α := (r.index? as.length).bind (as[·]?)

/-- The versions whose key has the rank among the distinct keys of the list. -/
def keepBy {α : Type} [Ord α] [BEq α] (r : Rank) (key : Version → α) (vs : List Version) :
    List Version :=
  match r.pick? (distinct (vs.map key)) with
  | some k => vs.filter fun v => key v == k
  | none => []

/-- The version that has the rank among the distinct versions of the list, if there is one. Of
    equal versions it is the first in the list. -/
def keepOne (r : Rank) (vs : List Version) : List Version := (r.pick? (distinct vs)).toList

/-- Whether a text without dots is meant as a rank. -/
def isMeant (text : String) : Bool := !text.toList.contains '.' && hasKeyword text

end Rank

end VersionPick
