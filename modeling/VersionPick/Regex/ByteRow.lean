/-
  VersionPick.Regex.ByteRow — sets of characters as rows of byte ranges.

  A row has a range for each byte of a character in UTF-8, and stands for all
  characters whose bytes are in these ranges. The rows of a set are ascending and
  have no character in common.
-/

import VersionPick.Unicode.CharSet

namespace VersionPick.Regex

open Unicode (CharSet)

abbrev ByteRange := Nat × Nat

abbrev ByteRow := List ByteRange

def digitRows : Nat → Nat → Nat → List ByteRow
  | 0, _, _ => [[]]
  | digits + 1, lo, hi =>
    let unit := Nat.pow 64 digits
    let a := lo / unit
    let b := hi / unit
    let first := lo % unit
    let last := hi % unit
    if a = b then (digitRows digits first last).map ((a, a) :: ·)
    else
      let wholeFrom := if first = 0 then a else a + 1
      let wholeTo := if last = unit - 1 then b + 1 else b
      (if first = 0 then [] else (digitRows digits first (unit - 1)).map ((a, a) :: ·)) ++
      (if wholeFrom < wholeTo then [(wholeFrom, wholeTo - 1) :: List.replicate digits (0, 63)]
        else []) ++
      (if last = unit - 1 then [] else (digitRows digits 0 last).map ((b, b) :: ·))

/-- The row with the high bits that mark bytes: those of the first tell how many there are. -/
def markRow (lead : Nat) : ByteRow → ByteRow
  | [] => []
  | r :: rs => (r.1 + lead, r.2 + lead) :: rs.map fun r => (r.1 + 0x80, r.2 + 0x80)

/-- The code points of the same number of bytes: the first and the last of them, how many bytes
    they have, and the high bits of the first byte. No surrogate is among them. -/
def blocks : List (Nat × Nat × Nat × Nat) :=
  [(0, 0x7F, 1, 0), (0x80, 0x7FF, 2, 0xC0), (0x800, 0xD7FF, 3, 0xE0), (0xE000, 0xFFFF, 3, 0xE0),
    (0x10000, Unicode.lastCode, 4, 0xF0)]

def rangeRows (r : Nat × Nat) : List ByteRow :=
  blocks.flatMap fun (first, last, size, lead) =>
    let lo := max r.1 first
    let hi := min r.2 last
    if hi < lo then []
    else if size = 1 then [[(lo, hi)]]
    else (digitRows size lo hi).map (markRow lead)

def setRows (s : CharSet) : List ByteRow := s.ranges.flatMap rangeRows

end VersionPick.Regex
