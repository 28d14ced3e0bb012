/-
  VersionPick.Selector.SlotMatcher — what a pattern asks of one slot: anything, a
  rank, a match of a regular expression, or the very text.

  A text with a bracket or a parenthesis is a regular expression, also after a
  keyword; any other text that starts with a keyword has to be a rank.
-/

import VersionPick.Regex.Basic
import VersionPick.Selector.Rank
import VersionPick.Selector.Slot

namespace VersionPick

inductive SlotMatcher where
  | any
  | rank (r : Rank)
  | regex (r : Regex)
  | literal (text : String)
deriving DecidableEq, Repr

inductive SlotError where
  | empty
  | badRank (error : RankError)
  /-- What is wrong with a regular expression. -/
  | badRegex (message : String)
deriving DecidableEq, Repr

def SlotError.message : SlotError → String
  | .empty => "empty pattern"
  | .badRank e => e.message
  | .badRegex message => "wrong regexp format: " ++ message

namespace SlotMatcher

def looksLikeRegex (text : String) : Bool :=
  text.toList.contains '(' || text.toList.contains '['

def parse (text : String) : Except SlotError SlotMatcher :=
  if text.isEmpty then .error .empty
  else if text = "*" then .ok .any
  else if looksLikeRegex text then
    match Regex.compile text with
    | .ok r => .ok (.regex r)
    | .error e => .error (.badRegex (e.message text))
  else if Rank.hasKeyword text then
    match Rank.parse text with
    | .ok r => .ok (.rank r)
    | .error e => .error (.badRank e)
  else .ok (.literal text)

def text : SlotMatcher → String
  | any => "*"
  | rank r => r.text
  | regex r => r.source
  | literal t => t

def isRank : SlotMatcher → Bool
  | rank _ => true
  | _ => false

/-- The versions of a list whose slot is as asked for, in the order of the list. Ranks of majors and
    minors are those of their numbers, ranks of patches those of the patches in their order. -/
def keep (m : SlotMatcher) (slot : Slot) (vs : List Version) : List Version :=
  match m with
  | any => vs
  | rank r =>
    match slot with
    | .major => r.keepBy (·.major.value) vs
    | .minor => r.keepBy (·.minor.value) vs
    | .patch => r.keepBy (·.patch) vs
  | regex r => vs.filter fun v => r.isMatch (slot.textOf v)
  | literal t => vs.filter fun v => slot.textOf v == t

end SlotMatcher

end VersionPick
