/-
  VersionPick.Proofs.Version.Grammar — the texts that are versions, and what is wrong
  with the others.

  What a text reads as (`Reads`) and why it fails (`Fails`) are said of numbers, patches
  and versions in turn, and the parser follows both. Of several faults the leftmost
  decides: too few parts, then the major, the minor and the patch. Only a patch is blamed
  by itself, without the text around it.
-/

import VersionPick.Proofs.Follows
import VersionPick.Proofs.Text.Decimal
import VersionPick.Proofs.Version.Reading

namespace VersionPick

open Text.Decimal (IsNumeral LeadingDigits)

/-! ## Numbers -/

namespace Numeral

inductive Reads : List Char → Numeral → Prop
  | mk {digits : List Char} (h : IsNumeral digits) :
      Reads digits { value := Text.Decimal.value digits, written := String.ofList digits }

theorem Reads.isNumeral {digits : List Char} {n : Numeral} (h : Reads digits n) : IsNumeral digits := by
  cases h with
  | mk h => exact h

theorem parse?_of_reads {digits : List Char} {n : Numeral} (h : Reads digits n) : parse? digits = some n := by
  cases h with
  | mk h => simp [parse?, h]

theorem parse?_of_not_isNumeral {digits : List Char} (h : ¬ IsNumeral digits) : parse? digits = none := by
  simp [parse?, h]

end Numeral

/-! ## Patches -/

namespace Patch

def IsSuffixChar (c : Char) : Prop :=
  ('a' ≤ c ∧ c ≤ 'z') ∨ ('0' ≤ c ∧ c ≤ '9') ∨ c = '.' ∨ c = '_' ∨ c = '-'

@[simp] theorem isLower_iff {c : Char} : c.isLower = true ↔ 'a' ≤ c ∧ c ≤ 'z' := by
  change (decide _ && decide _) = true ↔ _
  rw [Bool.and_eq_true, decide_eq_true_eq, decide_eq_true_eq]
  rfl

@[simp] theorem isSuffixChar_iff {c : Char} : isSuffixChar c = true ↔ IsSuffixChar c := by
  simp only [isSuffixChar, isLower_iff, Char.isDigit, Bool.or_eq_true, Bool.and_eq_true, decide_eq_true_eq, beq_iff_eq,
    IsSuffixChar, or_assoc]
  rfl

instance : DecidablePred IsSuffixChar := fun _ => decidable_of_iff _ isSuffixChar_iff

inductive Reads (text : String) : Patch → Prop
  | numbered {digits suffix : List Char} (h : LeadingDigits text.toList digits suffix) (hn : IsNumeral digits)
      (hs : ∀ c ∈ suffix, IsSuffixChar c) :
      Reads text { number := some (Text.Decimal.value digits), suffix := String.ofList suffix, written := text }
  | unnumbered (hne : text ≠ "") (h : LeadingDigits text.toList [] text.toList) :
      Reads text { number := none, suffix := text, written := text }

theorem Reads.ne_empty {text : String} {p : Patch} (h : Reads text p) : text ≠ "" := by
  rintro rfl
  cases h with
  | numbered hdigits hn => exact hn.1 (List.append_eq_nil_iff.mp hdigits.eq.symm).1
  | unnumbered hne => exact hne rfl

theorem Reads.number_ne_none {text : String} {p : Patch} (h : Reads text p) {d : Char} (hd : d ∈ text.toList.head?)
    (hdigit : d.isDigit = true) : p.number ≠ none := by
  cases h with
  | numbered => exact Option.some_ne_none _
  | unnumbered _ hdigits =>
    rw [hdigits.longest d hd] at hdigit
    cases hdigit

inductive Fails (text : String) : VersionError → Prop
  | empty (h : text = "") : Fails text (.badPatch text)
  | tooLarge {digits suffix : List Char} (h : LeadingDigits text.toList digits suffix) (hne : digits ≠ [])
      (hn : Text.Decimal.bound ≤ Text.Decimal.value digits) : Fails text (.badPatch text)
  | badSuffix {digits suffix : List Char} {c : Char} (h : LeadingDigits text.toList digits suffix) (hne : digits ≠ [])
      (hc : c ∈ suffix) (hs : ¬ IsSuffixChar c) : Fails text (.badPatch text)

theorem parse_empty : parse "" = .error (.badPatch "") := rfl

/-- A text that starts with digits. -/
theorem parse_of_digits {text : String} {digits suffix : List Char} (h : LeadingDigits text.toList digits suffix)
    (hne : digits ≠ []) :
    parse text = if IsNumeral digits ∧ suffix.all isSuffixChar = true then
        .ok { number := some (Text.Decimal.value digits), suffix := String.ofList suffix, written := text }
      else .error (.badPatch text) := by
  obtain ⟨hdigits, hsuffix⟩ := Text.Decimal.leadingDigits_iff.mp h
  obtain ⟨c, cs, rfl⟩ := List.exists_cons_of_ne_nil hne
  have htext : text.toList = c :: (cs ++ suffix) := h.eq
  simp only [parse, htext, if_pos (h.digits c List.mem_cons_self)]
  rw [← htext, hdigits, hsuffix, Text.Decimal.read?]
  by_cases hn : IsNumeral (c :: cs)
  · simp only [hn, if_true, true_and]
  · simp only [hn, false_and, if_false]

theorem parse_of_no_digits {text : String} (hne : text ≠ "") (h : LeadingDigits text.toList [] text.toList) :
    parse text = .ok { number := none, suffix := text, written := text } := by
  obtain ⟨c, cs, htext⟩ := List.exists_cons_of_ne_nil (mt String.toList_eq_nil_iff.mp hne)
  have hc : c.isDigit = false := h.longest c (by rw [htext]; rfl)
  simp [parse, htext, hc]

theorem parse_of_reads {text : String} {p : Patch} (h : Reads text p) : parse text = .ok p := by
  cases h with
  | numbered h hn hs => rw [parse_of_digits h hn.1, if_pos ⟨hn, by simpa using hs⟩]
  | unnumbered hne h => exact parse_of_no_digits hne h

theorem parse_of_fails {text : String} {e : VersionError} (h : Fails text e) : parse text = .error e := by
  cases h with
  | empty h =>
    subst h
    exact parse_empty
  | tooLarge h hne hn =>
    rw [parse_of_digits h hne, if_neg fun hall => Nat.not_lt.mpr hn hall.1.2.2]
  | badSuffix h hne hc hs =>
    rw [parse_of_digits h hne, if_neg fun hall => hs (isSuffixChar_iff.mp (List.all_eq_true.mp hall.2 _ hc))]

theorem reads_or_fails (text : String) : (∃ p, Reads text p) ∨ ∃ e, Fails text e := by
  by_cases hempty : text = ""
  · exact Or.inr ⟨_, .empty hempty⟩
  obtain ⟨digits, suffix, h⟩ := LeadingDigits.exists_of_text text.toList
  by_cases hne : digits = []
  · subst hne
    have hsuffix : suffix = text.toList := h.eq.symm
    subst hsuffix
    exact Or.inl ⟨_, .unnumbered hempty h⟩
  by_cases hn : Text.Decimal.bound ≤ Text.Decimal.value digits
  · exact Or.inr ⟨_, .tooLarge h hne hn⟩
  by_cases hs : ∀ c ∈ suffix, IsSuffixChar c
  · exact Or.inl ⟨_, .numbered h ⟨hne, h.digits, Nat.lt_of_not_le hn⟩ hs⟩
  · simp only [not_forall] at hs
    obtain ⟨c, hc, hs⟩ := hs
    exact Or.inr ⟨_, .badSuffix h hne hc hs⟩

theorem parse_follows (text : String) : Follows (parse text) (Reads text) (Fails text) :=
  .of_total (reads_or_fails text) (fun _ => parse_of_reads) fun _ => parse_of_fails

end Patch

/-! ## Versions -/

namespace Version

inductive Splits (text : String) : List Char → List Char → Option (List Char) → Prop
  | two {a b : List Char} (h : text.toList = a ++ '.' :: b) (ha : '.' ∉ a) (hb : '.' ∉ b) : Splits text a b none
  | three {a b c : List Char} (h : text.toList = a ++ '.' :: (b ++ '.' :: c)) (ha : '.' ∉ a) (hb : '.' ∉ b) :
      Splits text a b (some c)

inductive Reads (text : String) : Version → Prop
  | short {a b : List Char} {major minor : Numeral} (h : Splits text a b none) (ha : Numeral.Reads a major)
      (hb : Numeral.Reads b minor) : Reads text { major, minor, patch := .empty }
  | full {a b c : List Char} {major minor : Numeral} {patch : Patch} (h : Splits text a b (some c))
      (ha : Numeral.Reads a major) (hb : Numeral.Reads b minor) (hc : Patch.Reads (String.ofList c) patch) :
      Reads text { major, minor, patch }

inductive Fails (text : String) : VersionError → Prop
  | tooFewParts (h : '.' ∉ text.toList) : Fails text (.tooFewParts text)
  | badMajor {a b : List Char} {c? : Option (List Char)} (h : Splits text a b c?) (ha : ¬ IsNumeral a) :
      Fails text (.badMajor text)
  | badMinor {a b : List Char} {c? : Option (List Char)} (h : Splits text a b c?) (ha : IsNumeral a)
      (hb : ¬ IsNumeral b) : Fails text (.badMinor text)
  | badPatch {a b c : List Char} {e : VersionError} (h : Splits text a b (some c)) (ha : IsNumeral a)
      (hb : IsNumeral b) (hc : Patch.Fails (String.ofList c) e) : Fails text e

theorem splits_iff {text : String} {a b : List Char} {c? : Option (List Char)} :
    Splits text a b c? ↔ parts? text.toList = some (a, b, c?) := by
  cases c? with
  | none =>
    rw [parts?_eq_two_iff]
    constructor
    · intro h
      cases h with
      | two h ha hb => exact ⟨h, ha, hb⟩
    · exact fun ⟨h, ha, hb⟩ => .two h ha hb
  | some c =>
    rw [parts?_eq_three_iff]
    constructor
    · intro h
      cases h with
      | three h ha hb => exact ⟨h, ha, hb⟩
    · exact fun ⟨h, ha, hb⟩ => .three h ha hb

theorem Splits.unique {text : String} {a b a' b' : List Char} {c? c?' : Option (List Char)} (h : Splits text a b c?)
    (h' : Splits text a' b' c?') : a = a' ∧ b = b' ∧ c? = c?' := by
  have hparts := (splits_iff.mp h).symm.trans (splits_iff.mp h')
  simpa using hparts

theorem Splits.text_inj {s t : String} {a b : List Char} {c? : Option (List Char)} (hs : Splits s a b c?)
    (ht : Splits t a b c?) : s = t := by
  cases hs with
  | two hs =>
    cases ht with
    | two ht => exact String.toList_inj.mp (hs.trans ht.symm)
  | three hs =>
    cases ht with
    | three ht => exact String.toList_inj.mp (hs.trans ht.symm)

/-- The parts of a text with two dots are those of the version it reads as. -/
theorem Reads.parts {text : String} {v : Version} (h : Reads text v) {a b c : List Char}
    (hsplits : Splits text a b (some c)) :
    Numeral.Reads a v.major ∧ Numeral.Reads b v.minor ∧ Patch.Reads (String.ofList c) v.patch := by
  cases h with
  | short hsplits' =>
    obtain ⟨-, -, hnone⟩ := hsplits.unique hsplits'
    cases hnone
  | full hsplits' hmajor hminor hpatch =>
    obtain ⟨rfl, rfl, hsome⟩ := hsplits.unique hsplits'
    obtain rfl := Option.some.inj hsome
    exact ⟨hmajor, hminor, hpatch⟩

theorem no_dot_or_splits (text : String) : '.' ∉ text.toList ∨ ∃ a b c?, Splits text a b c? := by
  cases hparts : parts? text.toList with
  | none => exact Or.inl (parts?_eq_none_iff.mp hparts)
  | some q => exact Or.inr ⟨q.1, q.2.1, q.2.2, splits_iff.mpr hparts⟩

theorem parse_of_reads {text : String} {v : Version} (h : Reads text v) : parse text = .ok v := by
  cases h with
  | short h ha hb =>
    rw [parse, splits_iff.mp h]
    simp only [Numeral.parse?_of_reads ha, Numeral.parse?_of_reads hb]
  | full h ha hb hc =>
    rw [parse, splits_iff.mp h]
    simp only [Numeral.parse?_of_reads ha, Numeral.parse?_of_reads hb, Patch.parse_of_reads hc]
    rfl

theorem parse_of_fails {text : String} {e : VersionError} (h : Fails text e) : parse text = .error e := by
  cases h with
  | tooFewParts h => rw [parse, parts?_eq_none_iff.mpr h]
  | badMajor h ha =>
    rw [parse, splits_iff.mp h]
    simp only [Numeral.parse?_of_not_isNumeral ha]
  | badMinor h ha hb =>
    rw [parse, splits_iff.mp h]
    simp only [Numeral.parse?_of_reads (.mk ha), Numeral.parse?_of_not_isNumeral hb]
  | badPatch h ha hb hc =>
    rw [parse, splits_iff.mp h]
    simp only [Numeral.parse?_of_reads (.mk ha), Numeral.parse?_of_reads (.mk hb), Patch.parse_of_fails hc]
    rfl

theorem reads_or_fails (text : String) : (∃ v, Reads text v) ∨ ∃ e, Fails text e := by
  rcases no_dot_or_splits text with h | ⟨a, b, c?, h⟩
  · exact Or.inr ⟨_, .tooFewParts h⟩
  by_cases ha : IsNumeral a
  · by_cases hb : IsNumeral b
    · cases c? with
      | none => exact Or.inl ⟨_, .short h (.mk ha) (.mk hb)⟩
      | some c =>
        rcases Patch.reads_or_fails (String.ofList c) with ⟨p, hp⟩ | ⟨e, he⟩
        · exact Or.inl ⟨_, .full h (.mk ha) (.mk hb) hp⟩
        · exact Or.inr ⟨_, .badPatch h ha hb he⟩
    · exact Or.inr ⟨_, .badMinor h ha hb⟩
  · exact Or.inr ⟨_, .badMajor h ha⟩

theorem parse_follows (text : String) : Follows (parse text) (Reads text) (Fails text) :=
  .of_total (reads_or_fails text) (fun _ => parse_of_reads) fun _ => parse_of_fails

/-- The version a text gives is the one it reads as, and the error the one it fails for, of which there
    is no more than one. -/
theorem version_by_grammar (text : String) :
    (∀ v, parse text = .ok v ↔ Reads text v) ∧ ∀ e, parse text = .error e ↔ Fails text e :=
  ⟨(parse_follows text).ok_iff, (parse_follows text).error_iff⟩

end Version

end VersionPick
