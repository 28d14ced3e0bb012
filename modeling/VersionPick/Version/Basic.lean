/-
  VersionPick.Version.Basic — versions `major.minor` and `major.minor.patch`, with
  the tag prefix they are shown with.

  Major and minor keep the digits they were written with, so that a version shows
  as it was read. Order and equality ignore those digits, the patch's text and
  the tag prefix: they compare major, minor and patch, in this order.
-/

import VersionPick.Version.Patch

namespace VersionPick

/-- A number and the digits it was written with. -/
structure Numeral where
  value : Nat
  written : String
deriving DecidableEq, Repr

def Numeral.ofNat (n : Nat) : Numeral := { value := n, written := Text.Decimal.toText n }

structure Version where
  major : Numeral
  minor : Numeral
  patch : Patch
  tagPrefix : String := ""
deriving Repr

namespace Version

def ofParts (major minor : Nat) (patch : Patch) : Version :=
  { major := .ofNat major, minor := .ofNat minor, patch }

def withPrefix (v : Version) (tagPrefix : String) : Version := { v with tagPrefix }

/-- The text of a version without its tag prefix. -/
def bareText (v : Version) : String :=
  if v.patch.isEmpty then v.major.written ++ "." ++ v.minor.written
  else v.major.written ++ "." ++ v.minor.written ++ "." ++ v.patch.text

def text (v : Version) : String := v.tagPrefix ++ v.bareText

/-- What equality and hashing look at. -/
def identity (v : Version) : Nat × Nat × Option Nat × String :=
  (v.major.value, v.minor.value, v.patch.identity)

instance : BEq Version where
  beq v w := v.major.value == w.major.value && v.minor.value == w.minor.value && v.patch == w.patch

instance : Hashable Version where
  hash v := hash v.identity

instance : Ord Version where
  compare := compareLex (compareOn (·.major.value))
    (compareLex (compareOn (·.minor.value)) (compareOn Version.patch))

/-- The comparison as a partial one; it always decides. -/
def partialCompare (v w : Version) : Option Ordering := some (compare v w)

def atMost (v w : Version) : Bool := (compare v w).isLE

end Version

def listText (vs : List Version) : String :=
  "[" ++ ", ".intercalate (vs.map Version.text) ++ "]"

end VersionPick
