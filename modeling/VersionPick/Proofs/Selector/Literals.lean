/-
  VersionPick.Proofs.Selector.Literals — the text of a version as a selector.

  Versions and patterns are cut at the same two dots, so each part of the text of a version
  is one slot of the pattern. If the patch starts with a digit, the parts have only
  characters that patches may have behind their number, and none of these makes a star, a
  rank or a regular expression of a slot (`SlotMatcher.reads_literal`).

  Slots are compared with what the parts of a version were written as. Of a version that was
  read these are the parts of its text (`Version.WasRead.splits`), so that all three are as
  asked for only if the whole text is (`Version.WasRead.bareText_eq_iff`). A version without
  a patch is no exception: its third slot is empty, and no literal is.
-/

import VersionPick.Proofs.Output
import VersionPick.Proofs.Selector.Composition
import VersionPick.Proofs.Selector.Patterns

namespace VersionPick

/-! ## Literal slots -/

theorem SlotMatcher.reads_literal {text : String} (hne : text ≠ "") (h : ∀ c ∈ text.toList, Patch.IsSuffixChar c) :
    Reads text (.literal text) := by
  refine .literal hne ?_ ?_ ?_
  · intro hstar
    subst hstar
    exact absurd (h '*' (by decide)) (by decide)
  · rintro (hb | hb)
    · exact absurd (h _ hb) (by decide)
    · exact absurd (h _ hb) (by decide)
  · rintro ⟨e, hk⟩
    cases e with
    | first => exact absurd (h 'F' (hk.subset (by decide))) (by decide)
    | last => exact absurd (h 'L' (hk.subset (by decide))) (by decide)

namespace VersionPattern

def literally (major minor patch : String) : VersionPattern := ⟨.literal major, .literal minor, .literal patch⟩

def writtenAs (major minor patch : String) (v : Version) : Bool :=
  v.major.written == major && v.minor.written == minor && v.patch.text == patch

variable {major minor patch : String}

theorem keep_literally (vs : List Version) :
    (literally major minor patch).keep vs = .ok (vs.filter (writtenAs major minor patch)) :=
  keep_of_not_needsOrder rfl vs

theorem keep_literally_again (vs : List Version) :
    (literally major minor patch).keep (vs.filter (writtenAs major minor patch)) =
      .ok (vs.filter (writtenAs major minor patch)) := by
  rw [keep_literally, List.filter_filter]
  simp only [Bool.and_self]

end VersionPattern

/-! ## Versions that were read -/

namespace Version

/-- The version was read from a text, and may have been given a prefix since. -/
def WasRead (w : Version) : Prop := ∃ text tagPrefix v, parse text = .ok v ∧ w = v.withPrefix tagPrefix

theorem splits_of_parse {text : String} {v : Version} (h : parse text = .ok v) :
    ∃ c?, Splits text v.major.written.toList v.minor.written.toList c? ∧ v.patch.text.toList = c?.getD [] := by
  obtain ⟨a, b, major, minor, hmajor, hminor, ⟨hparts, rfl⟩ | ⟨c, patch, hparts, hpatch, rfl⟩⟩ := parse_eq_ok h
  · refine ⟨none, splits_iff.mpr ?_, rfl⟩
    simpa [Numeral.written_of_parse? hmajor, Numeral.written_of_parse? hminor] using hparts
  · refine ⟨some c, splits_iff.mpr ?_, ?_⟩
    · simpa [Numeral.written_of_parse? hmajor, Numeral.written_of_parse? hminor] using hparts
    · rw [(Patch.of_parse hpatch).1, String.toList_ofList]
      rfl

section

variable {w : Version} (h : w.WasRead)

include h

theorem WasRead.splits :
    ∃ c?, Splits w.bareText w.major.written.toList w.minor.written.toList c? ∧ w.patch.text.toList = c?.getD [] := by
  obtain ⟨text, tagPrefix, v, hv, rfl⟩ := h
  show ∃ c?, Splits v.bareText v.major.written.toList v.minor.written.toList c? ∧ v.patch.text.toList = c?.getD []
  rw [bareText_of_parse hv]
  exact splits_of_parse hv

theorem WasRead.bareText_eq_iff {text : String} {a b c : List Char} (hsplits : Splits text a b (some c))
    (hne : c ≠ []) :
    w.bareText = text ↔ w.major.written.toList = a ∧ w.minor.written.toList = b ∧ w.patch.text.toList = c := by
  obtain ⟨c?, hw, hpatch⟩ := h.splits
  rw [hpatch]
  constructor
  · intro htext
    rw [htext] at hw
    obtain ⟨ha, hb, rfl⟩ := hw.unique hsplits
    exact ⟨ha, hb, rfl⟩
  · intro hparts
    obtain ⟨rfl, rfl, rfl⟩ := hparts
    -- the parts are joined by one dot or by two, and by one only if the third is empty
    cases c? with
    | none => exact absurd rfl hne
    | some c => exact hw.text_inj hsplits

theorem WasRead.writtenAs_eq {text : String} {a b c : List Char} (hsplits : Splits text a b (some c)) (hne : c ≠ []) :
    VersionPattern.writtenAs (String.ofList a) (String.ofList b) (String.ofList c) w = (w.bareText == text) := by
  rw [Bool.eq_iff_iff, beq_iff_eq, h.bareText_eq_iff hsplits hne]
  simp [VersionPattern.writtenAs, String.ext_iff, and_assoc]

end

/-! ## The text of a version -/

section

variable {text : String} {v : Version} (h : Reads text v)

include h

/-- With a number in its patch, a version has no other characters than suffixes have. -/
theorem Reads.isSuffixChar (hnumber : v.patch.number ≠ none) {c : Char} (hc : c ∈ text.toList) :
    Patch.IsSuffixChar c := by
  by_contra hnot
  exact hnumber ((h.mem_iff hnot).mp hc).1

/-- Versions and patterns are cut at the same dots, and each of the parts is taken literally. -/
theorem Reads.reads_literally {a b c : List Char} (hsplits : Splits text a b (some c))
    (hnumber : v.patch.number ≠ none) :
    VersionPattern.Reads text (.literally (String.ofList a) (String.ofList b) (String.ofList c)) := by
  obtain ⟨hmajor, hminor, hpatch⟩ := h.parts hsplits
  have hc : c ≠ [] := by
    rintro rfl
    exact hpatch.ne_empty rfl
  have hslot : ∀ part : List Char, part ≠ [] → (∀ c ∈ part, c ∈ text.toList) →
      SlotMatcher.Reads (String.ofList part) (.literal (String.ofList part)) := by
    intro part hne hsub
    refine SlotMatcher.reads_literal (by simpa [String.ext_iff] using hne) fun c hc => ?_
    rw [String.toList_ofList] at hc
    exact h.isSuffixChar hnumber (hsub c hc)
  have hcut := VersionPattern.splits_iff.mpr (splits_iff.mp hsplits)
  cases hsplits with
  | three htext =>
    rw [htext] at hslot
    exact .slots hcut (hslot a hmajor.isNumeral.1 (by simp +contextual))
      (hslot b hminor.isNumeral.1 (by simp +contextual)) (hslot c hc (by simp +contextual))

end

end Version

namespace Selector

/-- The text of a version whose patch starts with a digit is a selector, one pattern of three literals that is
    written as this text. Of versions that were read it keeps, in any order, those with just this text behind
    their prefix; and asked again, of what it kept it keeps all. -/
theorem own_text_keeps_its_spelling {text : String} {v : Version} {a b rest : List Char} {d : Char}
    (h : Version.parse text = .ok v) (hsplits : Version.Splits text a b (some (d :: rest))) (hd : d.isDigit = true) :
    ∃ s, s = .one (.pattern (.literally (String.ofList a) (String.ofList b) (String.ofList (d :: rest)))) ∧
      parse text = .ok s ∧ s.text = text ∧
      (∀ vs, (∀ w ∈ vs, w.WasRead) → s.keep vs = .ok (vs.filter (·.bareText == text))) ∧
      ∀ vs, ∃ kept, s.keep vs = .ok kept ∧ s.keep kept = .ok kept := by
  have hreads := ((Version.parse_follows text).ok_iff v).mp h
  have hnumber := (hreads.parts hsplits).2.2.number_ne_none (d := d) (by simp) hd
  have hspace : ' ' ∉ text.toList := fun hspace => absurd (hreads.isSuffixChar hnumber hspace) (by decide)
  have hpattern := hreads.reads_literally hsplits hnumber
  refine ⟨_, rfl, parse_of_spaceless hspace (.pattern hpattern), ?_, fun vs hread => ?_, fun vs => ?_⟩
  · cases hsplits with
    | three htext =>
      show VersionPattern.text _ = text
      rw [String.ext_iff, VersionPattern.text_toList, htext]
      simp [VersionPattern.literally, SlotMatcher.text]
  · refine (VersionPattern.keep_literally vs).trans ?_
    exact congrArg Except.ok
      (List.filter_congr fun w hw => (hread w hw).writtenAs_eq hsplits (List.cons_ne_nil _ _))
  · exact ⟨_, VersionPattern.keep_literally vs, VersionPattern.keep_literally_again vs⟩

/-- `1.2.3` keeps the versions written like this, with a prefix and without one, and neither `01.2.3` nor
    `1.2.3-rc1`. The list does not ascend. -/
theorem other_spellings_are_not_kept :
    let own (tagPrefix : String) : Version := ⟨.ofNat 1, .ofNat 2, ⟨some 3, "", "3"⟩, tagPrefix⟩
    let zero : Version := ⟨⟨1, "01"⟩, .ofNat 2, ⟨some 3, "", "3"⟩, "v"⟩
    let candidate : Version := ⟨.ofNat 1, .ofNat 2, ⟨some 3, "-rc1", "3-rc1"⟩, ""⟩
    let vs : List Version := [own "v", candidate, zero, own ""]
    Version.parse "1.2.3" = .ok (own "") ∧ Version.Splits "1.2.3" ['1'] ['2'] (some ['3']) ∧
      (∀ w ∈ vs, w.WasRead) ∧ isAscending vs = false ∧
      ∃ s, parse "1.2.3" = .ok s ∧ s.text = "1.2.3" ∧ s.keep vs = .ok [own "v", own ""] := by
  intro own zero candidate vs
  have hparse : Version.parse "1.2.3" = .ok (own "") := rfl
  have hsplits : Version.Splits "1.2.3" ['1'] ['2'] (some ['3']) := .three rfl (by decide) (by decide)
  have hread : ∀ w ∈ vs, w.WasRead := by
    simp only [vs, List.forall_mem_cons]
    exact ⟨⟨"1.2.3", "v", _, hparse, rfl⟩, ⟨"1.2.3-rc1", "", _, rfl, rfl⟩, ⟨"01.2.3", "v", _, rfl, rfl⟩,
      ⟨"1.2.3", "", _, hparse, rfl⟩, List.forall_mem_nil _⟩
  obtain ⟨s, -, hs, htext, hkeep, -⟩ := own_text_keeps_its_spelling hparse hsplits (by decide)
  exact ⟨hparse, hsplits, hread, by decide, s, hs, htext, hkeep vs hread⟩

end Selector

end VersionPick
