/-
  VersionPick.Proofs.Version.ReadBack — versions that are shown and read again.

  What was read is shown as it was written. What is put together from numbers is shown in
  decimal with dots in between, which are found again, as no digit is a dot; so major and
  minor are read back, and a patch if there is one (`Version.parse_ofParts`).

  Of a patch, number and suffix are shown with nothing in between. They are told apart where
  the digits end, and only some characters may follow: so a suffix is read back exactly if
  it does not start with a digit and has none but these (`Patch.reads_back_iff`).
-/

import VersionPick.Proofs.Version.Grammar
import VersionPick.Proofs.Version.Order

namespace VersionPick

open Text.Decimal (bound write LeadingDigits)

theorem Numeral.parse?_write {n : Nat} (h : n < bound) : parse? (write n) = some (.ofNat n) := by
  have hread : Text.Decimal.read? (write n) = some n := by simp [Text.Decimal.isNumeral_write h]
  rw [parse?, hread]
  rfl

@[simp] theorem Numeral.dot_not_mem_write (n : Nat) : '.' ∉ write n :=
  fun h => absurd (Text.Decimal.isDigit_of_mem_write h) (by decide)

/-! ## Patches -/

namespace Patch

structure IsSuffix (suffix : String) : Prop where
  chars : ∀ c ∈ suffix.toList, IsSuffixChar c
  start : ∀ c ∈ suffix.toList.head?, c.isDigit = false

theorem text_ofParts (n : Nat) (suffix : String) : (ofParts n suffix).text.toList = write n ++ suffix.toList := by
  simp [text, ofParts, Text.Decimal.toText]

/-- Number and suffix are read back, and not other ones that happen to be shown alike. -/
theorem reads_back_iff {n : Nat} (hn : n < bound) {suffix : String} :
    (∃ p, parse (ofParts n suffix).text = .ok p ∧ (p == ofParts n suffix) = true) ↔ IsSuffix suffix := by
  constructor
  · intro h
    obtain ⟨p, hp, hsame⟩ := h
    obtain ⟨hnumber, hsuffix⟩ := beq_iff.mp hsame
    cases ((parse_follows _).ok_iff p).mp hp with
    | @numbered digits rest hdigits _ hchars =>
      -- what follows the digits that were read is the suffix, so it starts where they end
      have hrest : rest = suffix.toList := by
        rw [← String.toList_ofList (l := rest)]
        exact congrArg String.toList hsuffix
      subst hrest
      exact ⟨hchars, hdigits.longest⟩
    | unnumbered => cases hnumber
  · intro h
    have hdigits : LeadingDigits (ofParts n suffix).text.toList (write n) suffix.toList :=
      ⟨text_ofParts n suffix, fun _ => Text.Decimal.isDigit_of_mem_write, h.start⟩
    refine ⟨_, parse_of_reads (.numbered hdigits (Text.Decimal.isNumeral_write hn) h.chars), beq_iff.mpr ⟨?_, ?_⟩⟩
    · exact congrArg some (Text.Decimal.value_write n)
    · exact String.ofList_toList

end Patch

/-! ## Versions -/

namespace Version

section

variable {major minor : Nat} (hmajor : major < bound) (hminor : minor < bound)

include hmajor hminor

theorem parse_ofParts {p : Patch} (hp : p.isEmpty = false) :
    parse (ofParts major minor p).text = (Patch.parse p.text).map (ofParts major minor) := by
  have hparts : parts? (ofParts major minor p).text.toList = some (write major, write minor, some p.text.toList) := by
    simp [text, bareText, ofParts, hp, Numeral.ofNat, Text.Decimal.toText]
  rw [parse, hparts]
  simp only [Numeral.parse?_write hmajor, Numeral.parse?_write hminor, String.ofList_toList]
  rfl

theorem parse_ofParts_empty : parse (ofParts major minor .empty).text = .ok (ofParts major minor .empty) := by
  have hparts : parts? (ofParts major minor .empty).text.toList = some (write major, write minor, none) := by
    simp [text, bareText, ofParts, Patch.empty, Patch.isEmpty, Numeral.ofNat, Text.Decimal.toText]
  rw [parse, hparts]
  simp only [Numeral.parse?_write hmajor, Numeral.parse?_write hminor]
  rfl

theorem reads_back_iff {n : Nat} (hn : n < bound) {suffix : String} :
    (∃ v, parse (ofParts major minor (.ofParts n suffix)).text = .ok v ∧
      (v == ofParts major minor (.ofParts n suffix)) = true) ↔ Patch.IsSuffix suffix := by
  have hnumbered : (Patch.ofParts n suffix).isEmpty = false := Patch.isEmpty_of_number rfl
  rw [← Patch.reads_back_iff hn, parse_ofParts hmajor hminor hnumbered]
  constructor
  · intro h
    obtain ⟨v, hv, hsame⟩ := h
    cases hp : Patch.parse (Patch.ofParts n suffix).text with
    | error e =>
      rw [hp] at hv
      cases hv
    | ok p =>
      rw [hp] at hv
      obtain rfl := Except.ok.inj hv
      exact ⟨p, rfl, (beq_iff.mp hsame).2.2⟩
  · intro h
    obtain ⟨p, hp, hsame⟩ := h
    exact ⟨ofParts major minor p, by rw [hp]; rfl, beq_iff.mpr ⟨rfl, rfl, hsame⟩⟩

end

theorem tagPrefix_of_parse {text : String} {v : Version} (h : parse text = .ok v) : v.tagPrefix = "" := by
  obtain ⟨a, b, major, minor, -, -, ⟨-, rfl⟩ | ⟨c, patch, -, -, rfl⟩⟩ := parse_eq_ok h
  · rfl
  · rfl

/-- A version that was read shows as what it was read from, with a prefix before that if it is given one. A version
    put together from 64-bit numbers shows as a text that reads as an equal version if it has no patch, and
    if it has a patch with a number, exactly if the suffix does not start with a digit and is made of
    lower-case letters, digits, dots, underscores and hyphens. -/
theorem shown_as_read_and_read_as_shown :
    (∀ text v, parse text = .ok v →
      v.text = text ∧ ∀ tagPrefix, (v.withPrefix tagPrefix).text = tagPrefix ++ text) ∧
    (∀ (major minor n : UInt64) (suffix : String),
      (∃ v, parse (ofParts major.toNat minor.toNat (.ofParts n.toNat suffix)).text = .ok v ∧
        (v == ofParts major.toNat minor.toNat (.ofParts n.toNat suffix)) = true) ↔ Patch.IsSuffix suffix) ∧
    ∀ major minor : UInt64, ∃ v, parse (ofParts major.toNat minor.toNat .empty).text = .ok v ∧
      (v == ofParts major.toNat minor.toNat .empty) = true := by
  refine ⟨fun text v h => ⟨?_, fun tagPrefix => ?_⟩, fun major minor n suffix => ?_, fun major minor => ?_⟩
  · rw [Version.text, tagPrefix_of_parse h, String.empty_append, bareText_of_parse h]
  · simp [bareText_of_parse h]
  · exact reads_back_iff major.toNat_lt minor.toNat_lt n.toNat_lt
  · exact ⟨_, parse_ofParts_empty major.toNat_lt minor.toNat_lt, BEq.rfl⟩

end Version

end VersionPick
