/-
  VersionPick.Proofs.Version.Padding — versions that were read are equal if their texts
  are the same but for padding.

  Padding is the zeros that a number starts with and that another digit follows. Major and
  minor are numbers, and a third part may start with one. Without padding, numbers of one
  value are the same digits. So the parts of two texts agree without it exactly if the
  numbers and suffixes that they read as are the same (`Numeral.Reads.unpadded_eq_iff`,
  `Patch.ReadsThird.unpadded_eq_iff`), and the texts agree exactly if their parts do, as no
  padding is a dot (`Version.Splits.unpad`).

  A text without a third part is like no text with one: what reads as a patch has a number
  or a suffix, and the patch that is missing has neither.
-/

import VersionPick.Proofs.Version.Grammar
import VersionPick.Proofs.Version.Order

namespace VersionPick

open Text.Decimal (LeadingDigits unpadded)

/-! ## Numbers -/

namespace Numeral

theorem Reads.unpadded_eq_iff {a b : List Char} {m n : Numeral} (hm : Reads a m) (hn : Reads b n) :
    unpadded a = unpadded b ↔ m.value = n.value := by
  cases hm with
  | mk ha =>
    cases hn with
    | mk hb =>
      rw [Text.Decimal.unpadded_eq_iff ha.2.1 hb.2.1]
      exact and_iff_right (iff_of_false ha.1 hb.1)

theorem Reads.dot_not_mem_unpadded {a : List Char} {m : Numeral} (h : Reads a m) : '.' ∉ unpadded a :=
  fun hdot => absurd (Text.Decimal.isDigit_of_mem_unpadded h.isNumeral.2.1 hdot) (by decide)

end Numeral

/-! ## Patches -/

namespace Patch

/-- The digits a text starts with are the number, if there are any, and what follows them is the suffix. -/
theorem Reads.exists_leadingDigits {text : String} {p : Patch} (h : Reads text p) :
    ∃ digits rest, LeadingDigits text.toList digits rest ∧ p.suffix = String.ofList rest ∧
      (digits = [] ∧ p.number = none ∨ digits ≠ [] ∧ p.number = some (Text.Decimal.value digits)) := by
  cases h with
  | numbered h hn => exact ⟨_, _, h, rfl, Or.inr ⟨hn.1, rfl⟩⟩
  | unnumbered hne h => exact ⟨_, _, h, String.ofList_toList.symm, Or.inl ⟨rfl, rfl⟩⟩

theorem Reads.not_missing {text : String} {p : Patch} (h : Reads text p) : ¬ (p.number = none ∧ p.suffix = "") := by
  cases h with
  | numbered => simp
  | unnumbered hne => simpa using hne

theorem Reads.unpadded_eq_iff {s t : String} {p q : Patch} (hp : Reads s p) (hq : Reads t q) :
    unpadded s.toList = unpadded t.toList ↔ p.number = q.number ∧ p.suffix = q.suffix := by
  obtain ⟨digits, rest, hs, hsuffix, hnumber⟩ := hp.exists_leadingDigits
  obtain ⟨digits', rest', ht, hsuffix', hnumber'⟩ := hq.exists_leadingDigits
  have hdigits : unpadded digits = unpadded digits' ↔ p.number = q.number := by
    rw [Text.Decimal.unpadded_eq_iff hs.digits ht.digits]
    rcases hnumber with ⟨rfl, hnone⟩ | ⟨hne, hsome⟩
    · rcases hnumber' with ⟨rfl, hnone'⟩ | ⟨hne', hsome'⟩
      · simp [hnone, hnone']
      · simp [hnone, hsome', hne']
    · rcases hnumber' with ⟨rfl, hnone'⟩ | ⟨hne', hsome'⟩
      · simp [hsome, hnone', hne]
      · simp [hsome, hsome', hne, hne']
  rw [hsuffix, hsuffix', ← hdigits, String.ofList_inj]
  constructor
  · intro h
    have ht' := ht.unpad
    rw [← h] at ht'
    exact hs.unpad.unique ht'
  · intro h
    rw [hs.unpad.eq, ht.unpad.eq, h.1, h.2]

inductive ReadsThird : Option (List Char) → Patch → Prop
  | missing : ReadsThird none .empty
  | given {c : List Char} {p : Patch} (h : Reads (String.ofList c) p) : ReadsThird (some c) p

/-- Third parts of one form: both are missing, or both have the same suffix and both start with a number
    or neither does. -/
inductive SameForm : Option (List Char) → Option (List Char) → Prop
  | missing : SameForm none none
  | given {c d digits digits' suffix : List Char} (hc : LeadingDigits c digits suffix)
      (hd : LeadingDigits d digits' suffix) (h : digits = [] ↔ digits' = []) : SameForm (some c) (some d)

section

variable {c? d? : Option (List Char)} {p q : Patch} (hp : ReadsThird c? p) (hq : ReadsThird d? q)

include hp hq

theorem ReadsThird.unpadded_eq_iff :
    c?.map unpadded = d?.map unpadded ↔ p.number = q.number ∧ p.suffix = q.suffix := by
  cases hp with
  | missing =>
    cases hq with
    | missing => simp
    | given hq => exact iff_of_false (by simp) fun h => hq.not_missing ⟨h.1.symm, h.2.symm⟩
  | given hp =>
    cases hq with
    | missing => exact iff_of_false (by simp) hp.not_missing
    | given hq => simpa using hp.unpadded_eq_iff hq

theorem ReadsThird.sameForm (h : p.number = q.number ∧ p.suffix = q.suffix) : SameForm c? d? := by
  cases hp with
  | missing =>
    cases hq with
    | missing => exact .missing
    | given hq => exact absurd ⟨h.1.symm, h.2.symm⟩ hq.not_missing
  | given hp =>
    cases hq with
    | missing => exact absurd h hp.not_missing
    | given hq =>
      obtain ⟨digits, rest, hc, hsuffix, hnumber⟩ := hp.exists_leadingDigits
      obtain ⟨digits', rest', hd, hsuffix', hnumber'⟩ := hq.exists_leadingDigits
      rw [hsuffix, hsuffix', String.ofList_inj] at h
      obtain ⟨hnum, rfl⟩ := h
      rw [String.toList_ofList] at hc hd
      refine .given hc hd ?_
      rcases hnumber with ⟨hnil, hnone⟩ | ⟨hne, hsome⟩
      · rcases hnumber' with ⟨hnil', -⟩ | ⟨-, hsome'⟩
        · exact iff_of_true hnil hnil'
        · rw [hnone, hsome'] at hnum
          cases hnum
      · rcases hnumber' with ⟨-, hnone'⟩ | ⟨hne', -⟩
        · rw [hsome, hnone'] at hnum
          cases hnum
        · exact iff_of_false hne hne'

end

end Patch

/-! ## Versions -/

namespace Version

def unpadded (text : String) : String :=
  match parts? text.toList with
  | none => text
  | some (a, b, none) => String.ofList (Text.Decimal.unpadded a ++ '.' :: Text.Decimal.unpadded b)
  | some (a, b, some c) =>
    String.ofList (Text.Decimal.unpadded a ++ '.' :: (Text.Decimal.unpadded b ++ '.' :: Text.Decimal.unpadded c))

theorem Splits.unpad {text : String} {a b : List Char} {c? : Option (List Char)} (h : Splits text a b c?)
    (ha : '.' ∉ Text.Decimal.unpadded a) (hb : '.' ∉ Text.Decimal.unpadded b) :
    Splits (unpadded text) (Text.Decimal.unpadded a) (Text.Decimal.unpadded b) (c?.map Text.Decimal.unpadded) := by
  rw [unpadded, splits_iff.mp h]
  cases c? with
  | none => exact .two String.toList_ofList ha hb
  | some c => exact .three String.toList_ofList ha hb

theorem Reads.exists_splits {text : String} {v : Version} (h : Reads text v) :
    ∃ a b c?, Splits text a b c? ∧ Numeral.Reads a v.major ∧ Numeral.Reads b v.minor ∧ Patch.ReadsThird c? v.patch := by
  cases h with
  | short h ha hb => exact ⟨_, _, _, h, ha, hb, .missing⟩
  | full h ha hb hc => exact ⟨_, _, _, h, ha, hb, .given hc⟩

section

variable {s t : String} {v w : Version} (hv : Reads s v) (hw : Reads t w)

include hv hw

theorem Reads.unpadded_eq_iff : unpadded s = unpadded t ↔ (v == w) = true := by
  obtain ⟨a, b, c?, hs, ha, hb, hc⟩ := hv.exists_splits
  obtain ⟨a', b', c?', ht, ha', hb', hc'⟩ := hw.exists_splits
  have hs' := hs.unpad ha.dot_not_mem_unpadded hb.dot_not_mem_unpadded
  have ht' := ht.unpad ha'.dot_not_mem_unpadded hb'.dot_not_mem_unpadded
  rw [beq_iff, Patch.beq_iff, ← ha.unpadded_eq_iff ha', ← hb.unpadded_eq_iff hb', ← hc.unpadded_eq_iff hc']
  constructor
  · intro h
    rw [h] at hs'
    exact hs'.unique ht'
  · intro h
    obtain ⟨hmajor, hminor, hpatch⟩ := h
    rw [hmajor, hminor, hpatch] at hs'
    exact hs'.text_inj ht'

theorem Reads.sameForm (h : (v == w) = true) {a b a' b' : List Char} {c? c?' : Option (List Char)}
    (hs : Splits s a b c?) (ht : Splits t a' b' c?') : Patch.SameForm c? c?' := by
  obtain ⟨_, _, _, hs', -, -, hc⟩ := hv.exists_splits
  obtain ⟨_, _, _, ht', -, -, hc'⟩ := hw.exists_splits
  obtain ⟨-, -, rfl⟩ := hs.unique hs'
  obtain ⟨-, -, rfl⟩ := ht.unique ht'
  exact hc.sameForm hc' (Patch.beq_iff.mp (beq_iff.mp h).2.2)

end

/-- Two versions that were read are equal, and neither comes before the other, exactly if the texts are the same
    without the zeros that major, minor and the number of the patch are padded with. Then both have a third
    part or neither, with the same suffix, and both with a number or neither. -/
theorem equal_iff_unpadded_eq {s t : String} {v w : Version} (hv : parse s = .ok v) (hw : parse t = .ok w) :
    ((v == w) = true ↔ unpadded s = unpadded t) ∧ (compare v w = .eq ↔ unpadded s = unpadded t) ∧
      ((v == w) = true → ∀ {a b a' b' : List Char} {c? c?' : Option (List Char)}, Splits s a b c? →
        Splits t a' b' c?' → Patch.SameForm c? c?') := by
  have hs := ((parse_follows s).ok_iff v).mp hv
  have ht := ((parse_follows t).ok_iff w).mp hw
  have hiff := hs.unpadded_eq_iff ht
  refine ⟨hiff.symm, ?_, hs.sameForm ht⟩
  rw [hiff, Std.compare_eq_iff_beq]

/-- `1.2`, `1.2.0` and `1.2.0-x` are three versions, and `001.02.00-x` is the last of them. -/
theorem missing_zero_and_suffixed_differ :
    ∃ missing zero suffixed padded, parse "1.2" = .ok missing ∧ parse "1.2.0" = .ok zero ∧
      parse "1.2.0-x" = .ok suffixed ∧ parse "001.02.00-x" = .ok padded ∧ (missing == zero) = false ∧
      (missing == suffixed) = false ∧ (zero == suffixed) = false ∧ (suffixed == padded) = true := by
  have hmissing : parse "1.2" = .ok ⟨.ofNat 1, .ofNat 2, .empty, ""⟩ := rfl
  have hzero : parse "1.2.0" = .ok ⟨.ofNat 1, .ofNat 2, ⟨some 0, "", "0"⟩, ""⟩ := rfl
  have hsuffixed : parse "1.2.0-x" = .ok ⟨.ofNat 1, .ofNat 2, ⟨some 0, "-x", "0-x"⟩, ""⟩ := rfl
  have hpadded : parse "001.02.00-x" = .ok ⟨⟨1, "001"⟩, ⟨2, "02"⟩, ⟨some 0, "-x", "00-x"⟩, ""⟩ := rfl
  refine ⟨_, _, _, _, hmissing, hzero, hsuffixed, hpadded, ?_, ?_, ?_, ?_⟩
  · rw [Bool.eq_false_iff, Ne, (equal_iff_unpadded_eq hmissing hzero).1]
    decide
  · rw [Bool.eq_false_iff, Ne, (equal_iff_unpadded_eq hmissing hsuffixed).1]
    decide
  · rw [Bool.eq_false_iff, Ne, (equal_iff_unpadded_eq hzero hsuffixed).1]
    decide
  · rw [(equal_iff_unpadded_eq hsuffixed hpadded).1]
    decide

end Version

end VersionPick
