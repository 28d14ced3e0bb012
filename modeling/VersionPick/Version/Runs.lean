/-
  VersionPick.Version.Runs — an ascending list of versions taken apart into runs of
  neighbours that agree in a key, and put together again from what is kept of each
  run.

  Runs are what they should be, all versions with one key, only if the list is
  ascending; so a list that is not is refused before any run is looked at.
-/

import VersionPick.Version.Basic

namespace VersionPick

/-- A list of versions was to be taken apart into runs and is not ascending. -/
inductive NotAscending where
  | notAscending
deriving DecidableEq, Repr

def isAscending : List Version → Bool
  | [] => true
  | [_] => true
  | v :: w :: vs => v.atMost w && isAscending (w :: vs)

/-- The runs of neighbours with equal keys, in the order of the list. -/
def runs {κ : Type} [BEq κ] (key : Version → κ) (vs : List Version) : List (List Version) :=
  vs.splitBy fun v w => key v == key w

/-- What `keep` leaves of each run of an ascending list, put together again. -/
def inRuns {κ : Type} [BEq κ] (key : Version → κ)
    (keep : List Version → Except NotAscending (List Version)) (vs : List Version) :
    Except NotAscending (List Version) :=
  if isAscending vs then ((runs key vs).mapM keep).map List.flatten else .error .notAscending

end VersionPick
