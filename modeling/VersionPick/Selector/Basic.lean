/-
  VersionPick.Selector.Basic — selectors: criteria alone, one after the other, or
  side by side.

  A criterion is a pattern or a rank among all versions. Criteria joined by `and`
  apply in turn, each to what the one before it left; of criteria joined by `or`
  each applies to the same list, and what they keep is put together, of equal
  versions the first one. The empty selector keeps everything.
-/

import VersionPick.Selector.VersionPattern

namespace VersionPick

/-- A choice of versions out of a list, which may need the list to be ascending. -/
abbrev Choice := List Version → Except NotAscending (List Version)

namespace Choice

/-- Each choice is made among what the one before it left. -/
def inTurn (cs : List Choice) : Choice := fun vs => cs.foldlM (fun kept (c : Choice) => c kept) vs

/-- Every choice is made among the same versions; of equal versions the first is kept. -/
def sideBySide (cs : List Choice) : Choice := fun vs =>
  (cs.mapM fun (c : Choice) => c vs).map fun kept => kept.flatten.eraseDups

end Choice

inductive Criterion where
  | pattern (p : VersionPattern)
  | rank (r : Rank)
deriving DecidableEq, Repr

namespace Criterion

def text : Criterion → String
  | pattern p => p.text
  | rank r => r.text

def keep : Criterion → Choice
  | pattern p => p.keep
  | rank r => fun vs => .ok (r.keepOne vs)

end Criterion

inductive Selector where
  | everything
  | one (c : Criterion)
  | allOf (cs : List Criterion)
  | anyOf (cs : List Criterion)
deriving DecidableEq, Repr

namespace Selector

/-- What stands between criteria that apply in turn. -/
def andWord : String := " and "

/-- What stands between criteria that apply side by side. -/
def orWord : String := " or "

def text : Selector → String
  | everything => ""
  | one c => c.text
  | allOf cs => andWord.intercalate (cs.map Criterion.text)
  | anyOf cs => orWord.intercalate (cs.map Criterion.text)

def keep : Selector → Choice
  | everything => fun vs => .ok vs
  | one c => c.keep
  | allOf cs => Choice.inTurn (cs.map Criterion.keep)
  | anyOf cs => Choice.sideBySide (cs.map Criterion.keep)

end Selector

end VersionPick
