/-
  VersionPick.Text.Decimal — unsigned decimal numbers of 64 bits.

  A number is read from a non-empty run of the digits 0 to 9 whose value is below
  `bound`; leading zeros are allowed, signs and the digits of other scripts are
  not. It is written without leading zeros.
-/

namespace VersionPick.Text.Decimal

/-- The first number that 64 bits do not hold; every number that is read lies below. -/
def bound : Nat := 0x10000000000000000

def digitValue (c : Char) : Nat := c.toNat - '0'.toNat

def value (ds : List Char) : Nat := ds.foldl (fun n d => 10 * n + digitValue d) 0

def IsNumeral (s : List Char) : Prop := s ≠ [] ∧ (∀ c ∈ s, c.isDigit = true) ∧ value s < bound

instance (s : List Char) : Decidable (IsNumeral s) :=
  decidable_of_iff (s ≠ [] ∧ s.all Char.isDigit = true ∧ value s < bound) (by simp [IsNumeral])

def read? (s : List Char) : Option Nat := if IsNumeral s then some (value s) else none

/-- The digits of `n`, most significant first. -/
def write (n : Nat) : List Char := Nat.toDigits 10 n

def toText (n : Nat) : String := String.ofList (write n)

@[simp] theorem read?_eq_some_iff {s : List Char} {n : Nat} :
    read? s = some n ↔ IsNumeral s ∧ value s = n := by
  simp only [read?]
  split <;> simp_all

@[simp] theorem read?_eq_none_iff {s : List Char} : read? s = none ↔ ¬ IsNumeral s := by
  simp [read?]

end VersionPick.Text.Decimal
