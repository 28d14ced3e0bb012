/-
  VersionPick.Proofs.Output — which versions can be read back from what is put out.

  Versions are put out on lines of their own, or on one line with spaces between them, and
  nothing in them is escaped. So they are read back exactly if none of them holds a
  character that stands between them (`plainReadsBack_iff`, `actionReadsBack_iff`).

  Numbers, and patches that start with a digit, hold no such character; any other patch may
  (`Version.Reads.mem_iff`), and so it is these patches alone that decide
  (`render_free_iff`). One name with a space and a line break in its patch is enough to
  break both forms.
-/

import VersionPick.Proofs.Lines
import VersionPick.Proofs.Text.Joining
import VersionPick.Proofs.Version.Grammar

namespace VersionPick

open Text (Free)

/-! ## Blanks -/

def IsLineBreak (c : Char) : Prop := c = '\n' ∨ c = '\r'

def IsBlank (c : Char) : Prop := c = ' ' ∨ IsLineBreak c

instance : DecidablePred IsLineBreak := fun _ => inferInstanceAs (Decidable (_ ∨ _))

instance : DecidablePred IsBlank := fun _ => inferInstanceAs (Decidable (_ ∨ _))

theorem free_isBlank_iff {s : List Char} : Free IsBlank s ↔ ' ' ∉ s ∧ Free IsLineBreak s := by
  rw [← Text.free_eq_iff]
  constructor
  · exact fun h => ⟨fun c hc hspace => h c hc (Or.inl hspace), fun c hc hbreak => h c hc (Or.inr hbreak)⟩
  · rintro ⟨hspace, hbreak⟩ c hc (h | h)
    · exact hspace c hc h
    · exact hbreak c hc h

/-! ## Reading back -/

/-- One line sets the output, and the lines are read back from the value on it. -/
def ActionReadsBack (lines : List String) : Prop :=
  ∃ value : String, actionText lines = "versions=" ++ value ++ "\n" ∧ Free IsLineBreak value.toList ∧
    Text.Cut [' '] value.toList (lines.map String.toList)

/-- The lines are read back, each from before the end of its line; nothing follows the last one. -/
def PlainReadsBack (lines : List String) : Prop :=
  Text.Cut ['\n'] (plainText lines).toList (lines.map String.toList ++ [[]])

/-- There is only one text that can be the value. -/
theorem actionReadsBack_iff_cut {lines : List String} :
    ActionReadsBack lines ↔ Free IsLineBreak ([' '].intercalate (lines.map String.toList)) ∧
      Text.Cut [' '] ([' '].intercalate (lines.map String.toList)) (lines.map String.toList) := by
  have hvalue : (" ".intercalate lines).toList = [' '].intercalate (lines.map String.toList) :=
    String.toList_intercalate
  rw [← hvalue]
  constructor
  · intro h
    obtain ⟨value, htext, h⟩ := h
    have hsame : " ".intercalate lines = value := by simpa [actionText, String.ext_iff] using htext
    rwa [hsame]
  · exact fun h => ⟨_, rfl, h⟩

theorem actionReadsBack_iff {lines : List String} (hne : lines ≠ []) :
    ActionReadsBack lines ↔ ∀ line ∈ lines, Free IsBlank line.toList := by
  rw [actionReadsBack_iff_cut, Text.free_intercalate_iff (by decide),
    Text.cut_singleton_sep_iff (mt List.map_eq_nil_iff.mp hne), List.forall_mem_map, List.forall_mem_map]
  simp only [free_isBlank_iff]
  exact ⟨fun h line hline => ⟨h.2 line hline, h.1 line hline⟩,
    fun h => ⟨fun line hline => (h line hline).2, fun line hline => (h line hline).1⟩⟩

theorem plainText_toList (lines : List String) :
    (plainText lines).toList = ['\n'].intercalate (lines.map String.toList ++ [[]]) := by
  induction lines with
  | nil => rfl
  | cons line lines ih =>
    rw [List.map_cons, List.cons_append, List.intercalate_cons_of_ne_nil (by simp), ← ih]
    simp [plainText]

theorem plainReadsBack_iff {lines : List String} :
    PlainReadsBack lines ↔ ∀ line ∈ lines, Free (· = '\n') line.toList := by
  rw [PlainReadsBack, plainText_toList, Text.cut_singleton_sep_iff (by simp), List.forall_mem_append,
    List.forall_mem_map]
  simp [Text.free_eq_iff]

/-! ## The characters of versions -/

theorem Patch.isSuffixChar_of_isDigit {c : Char} (h : c.isDigit = true) : IsSuffixChar c :=
  isSuffixChar_iff.mp (by simp [isSuffixChar, h])

theorem not_isSuffixChar_of_isBlank {c : Char} (h : IsBlank c) : ¬ Patch.IsSuffixChar c := by
  rcases h with rfl | rfl | rfl <;> decide

theorem Numeral.Reads.isSuffixChar {digits : List Char} {n : Numeral} (h : Reads digits n) {c : Char}
    (hc : c ∈ digits) : Patch.IsSuffixChar c :=
  Patch.isSuffixChar_of_isDigit (h.isNumeral.2.1 c hc)

/-- Other characters than those of suffixes are found only in patches that do not start with a number. -/
theorem Patch.Reads.mem_iff {text : String} {p : Patch} (h : Reads text p) {c : Char} (hc : ¬ IsSuffixChar c) :
    c ∈ text.toList ↔ p.number = none ∧ c ∈ p.suffix.toList := by
  cases h with
  | numbered h hn hs =>
    have hnot : c ∉ text.toList := by
      rw [h.eq]
      intro hmem
      rcases List.mem_append.mp hmem with hmem | hmem
      · exact hc (isSuffixChar_of_isDigit (hn.2.1 c hmem))
      · exact hc (hs c hmem)
    simp [hnot]
  | unnumbered hne h => simp

theorem Version.Reads.mem_iff {text : String} {v : Version} (h : Reads text v) {c : Char}
    (hc : ¬ Patch.IsSuffixChar c) : c ∈ text.toList ↔ v.patch.number = none ∧ c ∈ v.patch.suffix.toList := by
  have hdot : c ≠ '.' := by
    rintro rfl
    exact hc (Or.inr (Or.inr (Or.inl rfl)))
  cases h with
  | short hsplits ha hb =>
    cases hsplits with
    | two h =>
      rw [h]
      simp [mt ha.isSuffixChar hc, mt hb.isSuffixChar hc, hdot, Patch.empty]
  | full hsplits ha hb hp =>
    cases hsplits with
    | three h =>
      rw [h, ← hp.mem_iff hc]
      simp [mt ha.isSuffixChar hc, mt hb.isSuffixChar hc, hdot]

def Patch.NumberedOrFree (bad : Char → Prop) (p : Patch) : Prop := p.number = none → Free bad p.suffix.toList

theorem Version.Reads.free_iff {text : String} {v : Version} (h : Reads text v) {bad : Char → Prop}
    (hbad : ∀ c, bad c → ¬ Patch.IsSuffixChar c) : Free bad text.toList ↔ v.patch.NumberedOrFree bad := by
  constructor
  · intro hfree hnum c hc hb
    exact hfree c ((h.mem_iff (hbad c hb)).mpr ⟨hnum, hc⟩) hb
  · intro hfree c hc hb
    obtain ⟨hnum, hc'⟩ := (h.mem_iff (hbad c hb)).mp hc
    exact hfree hnum c hc' hb

/-! ## Versions that are put out -/

section

variable {names : List String} {tagPrefix : String} {s : Selector} {kept : List Version}
  (hkept : select names tagPrefix s = .ok kept) {bad : Char → Prop} (hbad : ∀ c, bad c → ¬ Patch.IsSuffixChar c)
  (htag : Free bad tagPrefix.toList)

include hkept in
/-- What is kept was read from a name, behind the prefix. -/
theorem reads_of_mem_kept {v : Version} (hv : v ∈ kept) :
    ∃ w, Version.Reads v.bareText w ∧ v = w.withPrefix tagPrefix := by
  have hv' := Selector.mem_of_mem_keep (isAscending_ascending _) hkept v hv
  have hmem : v ∈ (extract tagPrefix names).versions := (sorted_perm false _).mem_iff.mp hv'
  obtain ⟨name, -, hread⟩ := exists_name_of_mem_extract hmem
  obtain ⟨rest, w, -, hw, rfl⟩ := readName_eq_ok_iff.mp hread
  refine ⟨w, ?_, rfl⟩
  change Version.Reads w.bareText w
  rw [Version.bareText_of_parse hw]
  exact ((Version.parse_follows rest).ok_iff w).mp hw

include hkept hbad in
theorem bareText_free_iff {v : Version} (hv : v ∈ kept) :
    Free bad v.bareText.toList ↔ v.patch.NumberedOrFree bad := by
  obtain ⟨w, hw, rfl⟩ := reads_of_mem_kept hkept hv
  exact hw.free_iff hbad

include hkept hbad htag in
theorem text_free_iff {v : Version} (hv : v ∈ kept) : Free bad v.text.toList ↔ v.patch.NumberedOrFree bad := by
  have hbare := bareText_free_iff hkept hbad hv
  obtain ⟨w, -, rfl⟩ := reads_of_mem_kept hkept hv
  rw [← hbare, Version.text, String.toList_append, Text.free_append_iff]
  exact and_iff_right htag

include hkept hbad htag in
theorem render_free_iff (flags : OutputFlags) :
    (∀ line ∈ render flags kept, Free bad line.toList) ↔ ∀ v ∈ kept, v.patch.NumberedOrFree bad := by
  have hmem : ∀ v, v ∈ sorted flags.reverse kept ↔ v ∈ kept := fun v => (sorted_perm flags.reverse kept).mem_iff
  rw [render, List.forall_mem_map]
  refine forall_congr' fun v => ?_
  rw [hmem]
  refine forall_congr' fun hv => ?_
  cases flags.noPrefix with
  | true => exact bareText_free_iff hkept hbad hv
  | false => exact text_free_iff hkept hbad htag hv

end

theorem render_eq_nil_iff {flags : OutputFlags} {vs : List Version} : render flags vs = [] ↔ vs = [] := by
  rw [render, List.map_eq_nil_iff, ← List.length_eq_zero_iff, (sorted_perm flags.reverse vs).length_eq,
    List.length_eq_zero_iff]

theorem select_everything_singleton {name tagPrefix : String} {v : Version} (h : readName tagPrefix name = .ok v) :
    select [name] tagPrefix .everything = .ok [v] := by
  simp [select, extract, h, ascending, Selector.keep]

/-- With a prefix that has no blanks, versions are read back from the output of a step exactly if there
    are no blanks in those of their patches that do not start with a number, and from lines exactly if
    there is no end of a line in them. -/
theorem read_back_iff_unnumbered_free {names : List String} {tagPrefix : String} {s : Selector}
    {kept : List Version} (flags : OutputFlags) (htag : Free IsBlank tagPrefix.toList)
    (hkept : select names tagPrefix s = .ok kept) (hne : kept ≠ []) :
    (ActionReadsBack (render flags kept) ↔ ∀ v ∈ kept, v.patch.NumberedOrFree IsBlank) ∧
    (PlainReadsBack (render flags kept) ↔ ∀ v ∈ kept, v.patch.NumberedOrFree (· = '\n')) := by
  constructor
  · rw [actionReadsBack_iff (mt render_eq_nil_iff.mp hne)]
    exact render_free_iff hkept (fun _ => not_isSuffixChar_of_isBlank) htag flags
  · have hblank : ∀ c, c = '\n' → IsBlank c := fun c hc => Or.inr (Or.inl hc)
    rw [plainReadsBack_iff]
    exact render_free_iff hkept (fun c hc => not_isSuffixChar_of_isBlank (hblank c hc))
      (fun c hc hbreak => htag c hc (hblank c hbreak)) flags

/-- A patch without a number that both forms read back. -/
theorem nightly_is_read_back :
    Free IsBlank "v".toList ∧ ∃ kept, select ["v1.2.nightly"] "v" .everything = .ok kept ∧ kept ≠ [] ∧
      ActionReadsBack (render {} kept) ∧ PlainReadsBack (render {} kept) := by
  have hread : readName "v" "v1.2.nightly" = .ok ⟨.ofNat 1, .ofNat 2, ⟨none, "nightly", "nightly"⟩, "v"⟩ := rfl
  have hkept := select_everything_singleton hread
  have hback := read_back_iff_unnumbered_free {} (by decide) hkept (List.cons_ne_nil _ _)
  refine ⟨by decide, _, hkept, List.cons_ne_nil _ _, hback.1.mpr ?_, hback.2.mpr ?_⟩
  · exact List.forall_mem_singleton.mpr fun _ => by decide
  · exact List.forall_mem_singleton.mpr fun _ => by decide

/-- A version with a space and a line break in its patch is read back from neither form. -/
theorem nightly_build_is_not_read_back :
    ∃ kept, Selector.parse "" = .ok .everything ∧ Free IsBlank "".toList ∧
      select ["1.2.nightly build\nlatest"] "" .everything = .ok kept ∧ kept ≠ [] ∧
      ¬ ActionReadsBack (render {} kept) ∧ ¬ PlainReadsBack (render {} kept) := by
  obtain ⟨v, hread⟩ : ∃ v, readName "" "1.2.nightly build\nlatest" = .ok v := ⟨_, rfl⟩
  have hlines : render {} [v] = ["1.2.nightly build\nlatest"] := by
    rw [render_singleton, (text_of_readName hread).2]
  refine ⟨[v], rfl, by decide, select_everything_singleton hread, List.cons_ne_nil _ _, ?_, ?_⟩
  · rw [hlines, actionReadsBack_iff (List.cons_ne_nil _ _)]
    decide
  · rw [hlines, plainReadsBack_iff]
    decide

end VersionPick
