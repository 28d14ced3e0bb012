/-
  VersionPick.Proofs.Text.Decimal — numbers and the digits they are written with.

  A number is read back from its digits (`value_write`). The other way around digits are
  what their value is written with, but for the zeros they start with, which have no
  weight (`write_value`); digits without any other have the value zero
  (`value_eq_zero_iff`).

  Padding is the zeros of them that another digit follows. Without it digits are just what
  their value is written with (`unpadded_eq_write`), so that digits with one value become the
  same digits (`unpadded_eq_iff`); and as padding is looked for at the start of a text only,
  it makes no difference what follows the digits (`LeadingDigits.unpad`).
-/

import Mathlib.Data.List.Induction
import VersionPick.Text.Decimal

namespace VersionPick.Text.Decimal

def significant (ds : List Char) : List Char := ds.dropWhile (· == '0')

/-! ## From numbers to digits -/

@[simp] theorem value_write (n : Nat) : value (write n) = n := by
  change (Nat.toDigits 10 n).foldl (fun n d => 10 * n + (d.toNat - '0'.toNat)) 0 = n
  rw [← Nat.ofDigitChars_eq_foldl, Nat.ofDigitChars_ten_toDigits]

theorem isDigit_of_mem_write {n : Nat} {c : Char} (h : c ∈ write n) : c.isDigit = true :=
  Nat.isDigit_of_mem_toDigits (by decide) (by decide) h

theorem isNumeral_write {n : Nat} (h : n < bound) : IsNumeral (write n) :=
  ⟨Nat.toDigits_ne_nil, fun _ => isDigit_of_mem_write, by rwa [value_write]⟩

/-! ## From digits to numbers -/

theorem value_concat (ds : List Char) (d : Char) : value (ds ++ [d]) = 10 * value ds + digitValue d := by
  rw [value, List.foldl_append]
  rfl

theorem isDigit_iff {c : Char} : c.isDigit = true ↔ 48 ≤ c.toNat ∧ c.toNat ≤ 57 := by
  rw [Char.isDigit, Bool.and_eq_true, decide_eq_true_iff, decide_eq_true_iff]
  rfl

theorem digitValue_lt {d : Char} (h : d.isDigit = true) : digitValue d < 10 := by
  obtain ⟨-, hhigh⟩ := isDigit_iff.mp h
  change d.toNat - 48 < 10
  omega

theorem write_digitValue {d : Char} (h : d.isDigit = true) : write (digitValue d) = [d] := by
  obtain ⟨hlow, -⟩ := isDigit_iff.mp h
  have hvalue : digitValue d = d.toNat - 48 := rfl
  rw [write, Nat.toDigits_of_lt_base (digitValue_lt h), List.singleton_inj]
  apply Char.toNat_inj.mp
  rw [Nat.toNat_digitChar_of_lt_ten (digitValue_lt h)]
  omega

theorem digitValue_eq_zero_iff {d : Char} (h : d.isDigit = true) : digitValue d = 0 ↔ d = '0' := by
  constructor
  · intro hzero
    have hd := write_digitValue h
    rw [hzero] at hd
    exact (List.singleton_inj.mp hd).symm
  · intro hd
    subst hd
    rfl

theorem significant_singleton (d : Char) : significant [d] = if d = '0' then [] else [d] := by
  by_cases h : d = '0' <;> simp [significant, h]

theorem significant_concat_of_nil {ds : List Char} (h : significant ds = []) (d : Char) :
    significant (ds ++ [d]) = significant [d] := by
  rw [significant] at h
  rw [significant, List.dropWhile_append, h]
  rfl

theorem significant_concat_of_ne_nil {ds : List Char} (h : significant ds ≠ []) (d : Char) :
    significant (ds ++ [d]) = significant ds ++ [d] := by
  rw [significant] at h
  rw [significant, List.dropWhile_append, if_neg (by simpa using h)]
  rfl

theorem value_eq_zero_iff {ds : List Char} (h : ∀ c ∈ ds, c.isDigit = true) :
    value ds = 0 ↔ significant ds = [] := by
  induction ds using List.reverseRecOn with
  | nil => simp [value, significant]
  | append_singleton ds d ih =>
    have hds := ih fun c hc => h c (List.mem_append_left _ hc)
    rw [value_concat]
    by_cases hzero : value ds = 0
    · have hd := digitValue_eq_zero_iff (h d (by simp))
      rw [significant_concat_of_nil (hds.mp hzero), significant_singleton, hzero]
      simp [hd]
    · rw [significant_concat_of_ne_nil (mt hds.mpr hzero)]
      refine iff_of_false ?_ (by simp)
      omega

/-- A value that is not zero is written with the digits from the first one that is not. -/
theorem write_value {ds : List Char} (h : ∀ c ∈ ds, c.isDigit = true) (hne : value ds ≠ 0) :
    write (value ds) = significant ds := by
  induction ds using List.reverseRecOn with
  | nil => exact absurd rfl hne
  | append_singleton ds d ih =>
    have hd : d.isDigit = true := h d (by simp)
    have hds : ∀ c ∈ ds, c.isDigit = true := fun c hc => h c (List.mem_append_left _ hc)
    rw [value_concat] at hne ⊢
    by_cases hzero : value ds = 0
    · rw [hzero, Nat.mul_zero, Nat.zero_add] at hne ⊢
      have hd0 : d ≠ '0' := mt (digitValue_eq_zero_iff hd).mpr hne
      rw [significant_concat_of_nil ((value_eq_zero_iff hds).mp hzero), significant_singleton, if_neg hd0,
        write_digitValue hd]
    · rw [significant_concat_of_ne_nil (mt (value_eq_zero_iff hds).mpr hzero), ← ih hds hzero,
        ← write_digitValue hd]
      exact (Nat.toDigits_append_toDigits (by decide) (Nat.pos_of_ne_zero hzero) (digitValue_lt hd)).symm

/-! ## The digits a text starts with -/

/-- The digits that a text starts with, all of them, and what follows them. -/
structure LeadingDigits (s digits rest : List Char) : Prop where
  eq : s = digits ++ rest
  digits : ∀ c ∈ digits, c.isDigit = true
  longest : ∀ c ∈ rest.head?, c.isDigit = false

theorem leadingDigits_iff {s digits rest : List Char} :
    LeadingDigits s digits rest ↔ s.takeWhile Char.isDigit = digits ∧ s.dropWhile Char.isDigit = rest := by
  constructor
  · intro h
    have hrest : rest.takeWhile Char.isDigit = [] ∧ rest.dropWhile Char.isDigit = rest := by
      cases rest with
      | nil => exact ⟨rfl, rfl⟩
      | cons c cs =>
        have hc := h.longest c rfl
        simp [hc]
    rw [h.eq, List.takeWhile_append_of_pos h.digits, List.dropWhile_append_of_pos h.digits, hrest.1, hrest.2,
      List.append_nil]
    exact ⟨rfl, rfl⟩
  · rintro ⟨rfl, rfl⟩
    refine ⟨List.takeWhile_append_dropWhile.symm, List.all_eq_true.mp List.all_takeWhile, fun c hc => ?_⟩
    have hnot := List.head?_dropWhile_not Char.isDigit s
    rw [Option.mem_def.mp hc] at hnot
    simpa using hnot

theorem LeadingDigits.exists_of_text (s : List Char) : ∃ digits rest, LeadingDigits s digits rest :=
  ⟨_, _, leadingDigits_iff.mpr ⟨rfl, rfl⟩⟩

theorem LeadingDigits.unique {s digits rest digits' rest' : List Char} (h : LeadingDigits s digits rest)
    (h' : LeadingDigits s digits' rest') : digits = digits' ∧ rest = rest' := by
  obtain ⟨hdigits, hrest⟩ := leadingDigits_iff.mp h
  obtain ⟨hdigits', hrest'⟩ := leadingDigits_iff.mp h'
  exact ⟨hdigits.symm.trans hdigits', hrest.symm.trans hrest'⟩

/-! ## Digits without padding -/

/-- The text without the zeros at its start that another digit follows. -/
def unpadded : List Char → List Char
  | [] => []
  | c :: s => if c = '0' ∧ s.head?.any Char.isDigit then unpadded s else c :: s

@[simp] theorem unpadded_nil : unpadded [] = [] := rfl

@[simp] theorem value_zero_cons (ds : List Char) : value ('0' :: ds) = value ds := rfl

theorem value_ne_zero_of_head {c : Char} {ds : List Char} (h : ∀ d ∈ c :: ds, d.isDigit = true) (hc : c ≠ '0') :
    value (c :: ds) ≠ 0 := by
  rw [Ne, value_eq_zero_iff h, significant, List.dropWhile_cons, if_neg (by simpa using hc)]
  exact List.cons_ne_nil _ _

/-- Without the zeros in front, digits are what their value is written with. -/
theorem unpadded_eq_write {ds : List Char} (hne : ds ≠ []) (h : ∀ c ∈ ds, c.isDigit = true) :
    unpadded ds = write (value ds) := by
  induction ds with
  | nil => exact absurd rfl hne
  | cons c ds ih =>
    have hds : ∀ d ∈ ds, d.isDigit = true := fun d hd => h d (List.mem_cons_of_mem _ hd)
    by_cases hc : c = '0'
    · subst hc
      cases ds with
      | nil => rfl
      | cons d ds =>
        rw [unpadded, if_pos ⟨rfl, hds d List.mem_cons_self⟩, value_zero_cons]
        exact ih (List.cons_ne_nil _ _) hds
    · rw [unpadded, if_neg fun hpad => hc hpad.1, write_value h (value_ne_zero_of_head h hc), significant,
        List.dropWhile_cons, if_neg (by simpa using hc)]

@[simp] theorem unpadded_eq_nil_iff {s : List Char} : unpadded s = [] ↔ s = [] := by
  induction s with
  | nil => exact Iff.rfl
  | cons c s ih =>
    rw [unpadded]
    split
    · rename_i hpad
      rw [ih]
      refine iff_of_false ?_ (List.cons_ne_nil _ _)
      rintro rfl
      exact absurd hpad.2 (by decide)
    · exact iff_of_false (List.cons_ne_nil _ _) (List.cons_ne_nil _ _)

theorem isDigit_of_mem_unpadded {digits : List Char} (h : ∀ c ∈ digits, c.isDigit = true) {c : Char}
    (hc : c ∈ unpadded digits) : c.isDigit = true := by
  by_cases hne : digits = []
  · subst hne
    cases hc
  · rw [unpadded_eq_write hne h] at hc
    exact isDigit_of_mem_write hc

/-- Digits agree without the zeros in front if their values do, and if there are any in both or in neither. -/
theorem unpadded_eq_iff {a b : List Char} (ha : ∀ c ∈ a, c.isDigit = true) (hb : ∀ c ∈ b, c.isDigit = true) :
    unpadded a = unpadded b ↔ (a = [] ↔ b = []) ∧ value a = value b := by
  by_cases hnil : a = [] ∨ b = []
  · have heither : unpadded a = unpadded b ↔ (a = [] ↔ b = []) := by
      rcases hnil with rfl | rfl
      · rw [unpadded_nil, eq_comm, unpadded_eq_nil_iff]
        simp
      · rw [unpadded_nil, unpadded_eq_nil_iff]
        simp
    rw [heither]
    refine ⟨fun h => ⟨h, ?_⟩, And.left⟩
    rcases hnil with rfl | rfl
    · rw [h.mp rfl]
    · rw [h.mpr rfl]
  · obtain ⟨hane, hbne⟩ := not_or.mp hnil
    rw [unpadded_eq_write hane ha, unpadded_eq_write hbne hb]
    constructor
    · intro h
      refine ⟨iff_of_false hane hbne, ?_⟩
      rw [← value_write (value a), h, value_write]
    · intro h
      rw [h.2]

/-- Zeros that no digit follows are no padding, whatever else follows them. -/
theorem unpadded_append {digits rest : List Char} (h : ∀ c ∈ digits, c.isDigit = true)
    (hrest : ∀ c ∈ rest.head?, c.isDigit = false) : unpadded (digits ++ rest) = unpadded digits ++ rest := by
  induction digits with
  | nil =>
    cases rest with
    | nil => rfl
    | cons c rest =>
      have hc : c ≠ '0' := by
        rintro rfl
        exact absurd (hrest '0' rfl) (by decide)
      exact if_neg fun hpad => hc hpad.1
  | cons c digits ih =>
    have hdigits : ∀ d ∈ digits, d.isDigit = true := fun d hd => h d (List.mem_cons_of_mem _ hd)
    have hnext : (digits ++ rest).head?.any Char.isDigit = digits.head?.any Char.isDigit := by
      cases digits with
      | nil =>
        cases rest with
        | nil => rfl
        | cons d rest => exact hrest d rfl
      | cons d digits => rfl
    rw [List.cons_append, unpadded, unpadded, hnext, ih hdigits]
    split <;> rfl

/-- What follows the digits stays as it is. -/
theorem LeadingDigits.unpad {s digits rest : List Char} (h : LeadingDigits s digits rest) :
    LeadingDigits (unpadded s) (unpadded digits) rest := by
  refine ⟨?_, fun _ => isDigit_of_mem_unpadded h.digits, h.longest⟩
  rw [h.eq, unpadded_append h.digits h.longest]

end VersionPick.Text.Decimal
