/-
  VersionPick.Version.Patch — the third part of a version: a number, a suffix, or
  both, with the text it was written with.

  The empty patch stands for a version that has no third part. Order and equality
  look at number and suffix only: the empty patch is least, a patch without a
  number lies below every numbered one, and among patches of one number those
  with a suffix come first, by their suffix, and the one without a suffix last.
-/

import VersionPick.Text.Cut
import VersionPick.Text.Decimal

namespace VersionPick

structure Patch where
  number : Option Nat := none
  suffix : String := ""
  /-- The text as it was written; empty when the patch was put together from its parts. -/
  written : String := ""
deriving Repr

namespace Patch

def empty : Patch := {}

def ofParts (number : Nat) (suffix : String) : Patch := { number := some number, suffix }

def isEmpty (p : Patch) : Bool := p.number.isNone && p.suffix.isEmpty

/-- A patch without a suffix is a release. -/
def isRelease (p : Patch) : Bool := p.suffix.isEmpty

def suffixHas (word : String) (p : Patch) : Bool := Text.occurs word.toList p.suffix.toList

def isDev (p : Patch) : Bool := p.suffixHas "dev"

def isPre (p : Patch) : Bool := p.suffixHas "pre"

def isCandidate (p : Patch) : Bool := p.suffixHas "rc"

/-- The text of the patch: as it was written, else its number and suffix. -/
def text (p : Patch) : String :=
  if p.written.isEmpty then
    match p.number with
    | some n => Text.Decimal.toText n ++ p.suffix
    | none => p.suffix
  else p.written

def identity (p : Patch) : Option Nat × String := (p.number, p.suffix)

instance : BEq Patch where
  beq p q := p.number == q.number && p.suffix == q.suffix

instance : Hashable Patch where
  hash p := hash p.identity

instance : Ord Patch where
  compare := compareLex (compareOn fun p => !p.isEmpty)
    (compareLex (compareOn Patch.number)
      (compareLex (compareOn isRelease) (compareOn Patch.suffix)))

def partialCompare (p q : Patch) : Option Ordering := some (compare p q)

end Patch

end VersionPick
