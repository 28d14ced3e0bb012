/-
  VersionPick.Rendering — versions as lines of text, and as the one line that a
  workflow step puts out.
-/

import VersionPick.Settings
import VersionPick.Version.Sorting

namespace VersionPick

def render (flags : OutputFlags) (vs : List Version) : List String :=
  (sorted flags.reverse vs).map (if flags.noPrefix then Version.bareText else Version.text)

def plainText (lines : List String) : String := String.join (lines.map (· ++ "\n"))

/-- The line that sets the output `versions` of a step. -/
def actionText (lines : List String) : String := "versions=" ++ " ".intercalate lines ++ "\n"

end VersionPick
