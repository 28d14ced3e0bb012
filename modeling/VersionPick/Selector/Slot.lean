/-
  VersionPick.Selector.Slot — the three slots of a version that a pattern speaks of.
-/

import VersionPick.Version.Basic

namespace VersionPick

inductive Slot where
  | major
  | minor
  | patch
deriving DecidableEq, Repr

namespace Slot

def name : Slot → String
  | major => "major"
  | minor => "minor"
  | patch => "patch"

def textOf : Slot → Version → String
  | major, v => v.major.written
  | minor, v => v.minor.written
  | patch, v => v.patch.text

end Slot

end VersionPick
