/-
  VersionPick.Text.Hex — numbers in hexadecimal digits of either case.
-/

namespace VersionPick.Text.Hex

def digitValue? (c : Char) : Option Nat :=
  if c.isDigit then some (c.toNat - '0'.toNat)
  else if 'a' ≤ c && c ≤ 'f' then some (c.toNat - 'a'.toNat + 10)
  else if 'A' ≤ c && c ≤ 'F' then some (c.toNat - 'A'.toNat + 10)
  else none

def read? (ds : List Char) : Option Nat :=
  (ds.mapM digitValue?).map fun ns => ns.foldl (fun n d => 16 * n + d) 0

/-- The digit of a number below 16, as a capital. -/
def capital (n : Nat) : Char :=
  if n < 10 then Char.ofNat ('0'.toNat + n) else Char.ofNat ('A'.toNat + (n - 10))

end VersionPick.Text.Hex
