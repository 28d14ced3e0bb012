/-
  VersionPick.Version.Sorting — lists of versions in order, and the distinct values
  of a part.

  Sorting is stable in both directions: versions that are equal but were written
  differently keep their order. Of equal values the first in the list stands for
  the others.
-/

import VersionPick.Version.Basic

namespace VersionPick

def ascending (vs : List Version) : List Version := vs.mergeSort Version.atMost

def descending (vs : List Version) : List Version := vs.mergeSort fun v w => w.atMost v

def sorted (reverse : Bool) (vs : List Version) : List Version :=
  if reverse then descending vs else ascending vs

/-- The distinct values of a list in ascending order. -/
def distinct {α : Type} [Ord α] [BEq α] (as : List α) : List α :=
  (as.mergeSort fun a b => (compare a b).isLE).eraseReps

def distinctMajors (vs : List Version) : List Nat := distinct (vs.map (·.major.value))

def distinctMinors (vs : List Version) : List Nat := distinct (vs.map (·.minor.value))

def distinctPatches (vs : List Version) : List Patch := distinct (vs.map (·.patch))

end VersionPick
