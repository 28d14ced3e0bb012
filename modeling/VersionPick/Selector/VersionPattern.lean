/-
  VersionPick.Selector.VersionPattern — patterns `major.minor.patch`, which ask
  something of every slot.

  A rank in a slot counts within the versions that agree in the slots before it:
  `*.*.LAST` keeps the last patch of every minor, not only the last one of all. So
  a pattern with a rank in its minor or patch slot looks at runs of equal majors
  and minors, for which the list has to be ascending.
-/

import VersionPick.Selector.SlotMatcher
import VersionPick.Version.Runs

namespace VersionPick

structure VersionPattern where
  major : SlotMatcher
  minor : SlotMatcher
  patch : SlotMatcher
deriving DecidableEq, Repr

namespace VersionPattern

def text (p : VersionPattern) : String :=
  p.major.text ++ "." ++ p.minor.text ++ "." ++ p.patch.text

def keepRest (p : VersionPattern) (vs : List Version) : List Version :=
  p.patch.keep .patch (p.minor.keep .minor vs)

/-- Keeps by minor and then, within each run of equal minors, by patch. -/
def keepRestInRuns (p : VersionPattern) (vs : List Version) : Except NotAscending (List Version) :=
  inRuns (·.minor.value) (fun run => .ok (p.patch.keep .patch run)) (p.minor.keep .minor vs)

def keep (p : VersionPattern) (vs : List Version) : Except NotAscending (List Version) :=
  let kept := p.major.keep .major vs
  if p.patch.isRank then inRuns (·.major.value) p.keepRestInRuns kept
  else if p.minor.isRank then inRuns (·.major.value) (fun run => .ok (p.keepRest run)) kept
  else .ok (p.keepRest kept)

end VersionPattern

end VersionPick
