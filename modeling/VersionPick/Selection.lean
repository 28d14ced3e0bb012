/-
  VersionPick.Selection — from the names a registry lists to the versions that a
  selector keeps.

  Registries list names in an order of their own, so the versions are sorted before
  the selector sees them. What it keeps is not sorted again.
-/

import VersionPick.Registry.Error
import VersionPick.Selector.Basic
import VersionPick.Source
import VersionPick.Version.Extraction

namespace VersionPick

/-- The versions among the names that the selector keeps. -/
def select (names : List String) (tagPrefix : String) (s : Selector) :
    Except NotAscending (List Version) :=
  s.keep (ascending (extract tagPrefix names).versions)

/-- Why there are no versions to put out. -/
inductive SelectionError where
  | unlisted (package : String) (source : Source) (cause : RegistryError)
  | unordered (cause : NotAscending)
deriving DecidableEq, Repr

/-- What failed, without the cause of it. -/
def SelectionError.context : SelectionError → String
  | .unlisted p s _ => "failed to fetch versions of " ++ p ++ " from " ++ s.name
  | .unordered _ => "failed to select versions"

def selectListed (source : Source) (package : String)
    (listed : Except RegistryError (List String)) (tagPrefix : String) (s : Selector) :
    Except SelectionError (List Version) :=
  match listed with
  | .error cause => .error (.unlisted package source cause)
  | .ok names => (select names tagPrefix s).mapError .unordered

end VersionPick
