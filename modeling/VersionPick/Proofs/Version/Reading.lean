/-
  VersionPick.Proofs.Version.Reading — a version shows as the text it was read from.

  The parts at the first two dots give the text back (`parts?_eq_two_iff`,
  `parts?_eq_three_iff`), each part keeps its text, and a patch that was read is never
  empty, so that its dot is shown again. A name that counts is the prefix and then the
  text of a version (`readName_eq_ok_iff`), and its version shows as the name.
-/

import Mathlib.Data.List.Basic
import VersionPick.Version.Extraction

namespace VersionPick

/-! ## Parts -/

namespace Version

@[simp] theorem parts?_eq_none_iff {s : List Char} : parts? s = none ↔ '.' ∉ s := by
  simp [parts?]

@[simp] theorem parts?_eq_two_iff {s a b : List Char} :
    parts? s = some (a, b, none) ↔ s = a ++ '.' :: b ∧ '.' ∉ a ∧ '.' ∉ b := by
  rw [parts?, Option.map_eq_some_iff]
  constructor
  · intro h
    obtain ⟨⟨a', b'⟩, hcut, h⟩ := h
    obtain ⟨hs, ha⟩ := Text.cut?_eq_some_iff.mp hcut
    cases hcut' : Text.cut? '.' b' with
    | none =>
      simp only [hcut', Prod.mk.injEq] at h
      obtain ⟨rfl, rfl, -⟩ := h
      exact ⟨hs, ha, by simpa using hcut'⟩
    | some q => simp [hcut'] at h
  · intro h
    obtain ⟨hs, ha, hb⟩ := h
    have hcut : Text.cut? '.' b = none := by simpa using hb
    exact ⟨(a, b), by simp [hs, ha], by simp only [hcut]⟩

@[simp] theorem parts?_eq_three_iff {s a b c : List Char} :
    parts? s = some (a, b, some c) ↔ s = a ++ '.' :: (b ++ '.' :: c) ∧ '.' ∉ a ∧ '.' ∉ b := by
  rw [parts?, Option.map_eq_some_iff]
  constructor
  · intro h
    obtain ⟨⟨a', b'⟩, hcut, h⟩ := h
    obtain ⟨hs, ha⟩ := Text.cut?_eq_some_iff.mp hcut
    cases hcut' : Text.cut? '.' b' with
    | none => simp [hcut'] at h
    | some q =>
      obtain ⟨hb', hb⟩ := Text.cut?_eq_some_iff.mp hcut'
      simp only [hcut', Prod.mk.injEq, Option.some.injEq] at h
      obtain ⟨rfl, rfl, rfl⟩ := h
      exact ⟨by rw [hs, hb'], ha, hb⟩
  · intro h
    obtain ⟨hs, ha, hb⟩ := h
    have hcut : Text.cut? '.' (b ++ '.' :: c) = some (b, c) := by simp [hb]
    exact ⟨(a, b ++ '.' :: c), by simp [hs, ha], by simp only [hcut]⟩

end Version

/-! ## Numbers, patches and versions -/

theorem Numeral.written_of_parse? {ds : List Char} {n : Numeral} (h : Numeral.parse? ds = some n) :
    n.written = String.ofList ds := by
  obtain ⟨k, -, rfl⟩ := Option.map_eq_some_iff.mp h
  rfl

theorem Patch.of_parse {part : String} {p : Patch} (h : Patch.parse part = .ok p) :
    p.text = part ∧ p.isEmpty = false := by
  have hne : part.toList ≠ [] := by
    intro hnil
    simp only [Patch.parse, hnil] at h
    cases h
  have hpart : part ≠ "" := fun hp => hne (String.toList_eq_nil_iff.mpr hp)
  have htext : ∀ q : Patch, q.written = part → q.text = part := by
    intro q hq
    rw [Patch.text, hq, if_neg (by simpa using hpart)]
  obtain ⟨c, cs, hcs⟩ := List.exists_cons_of_ne_nil hne
  simp only [Patch.parse, hcs] at h
  split at h
  · split at h
    · split at h
      · cases h
        exact ⟨htext _ rfl, by simp [Patch.isEmpty]⟩
      · cases h
    · cases h
  · cases h
    exact ⟨htext _ rfl, by simpa [Patch.isEmpty] using hpart⟩

namespace Version

/-- What a text was read as, part by part. -/
theorem parse_eq_ok {text : String} {v : Version} (h : parse text = .ok v) :
    ∃ a b major minor, Numeral.parse? a = some major ∧ Numeral.parse? b = some minor ∧
      ((parts? text.toList = some (a, b, none) ∧ v = { major, minor, patch := .empty }) ∨
        ∃ c patch, parts? text.toList = some (a, b, some c) ∧ Patch.parse (String.ofList c) = .ok patch ∧
          v = { major, minor, patch }) := by
  simp only [parse] at h
  cases hparts : parts? text.toList with
  | none => simp [hparts] at h
  | some parts =>
    obtain ⟨a, b, c?⟩ := parts
    simp only [hparts] at h
    cases hmajor : Numeral.parse? a with
    | none => simp [hmajor] at h
    | some major =>
      cases hminor : Numeral.parse? b with
      | none => simp [hmajor, hminor] at h
      | some minor =>
        simp only [hmajor, hminor] at h
        refine ⟨a, b, major, minor, hmajor, hminor, ?_⟩
        cases c? with
        | none => exact Or.inl ⟨rfl, (Except.ok.inj h).symm⟩
        | some c =>
          cases hpatch : Patch.parse (String.ofList c) with
          | error e => simp [hpatch, Except.map] at h
          | ok patch =>
            simp only [hpatch, Except.map, Except.ok.injEq] at h
            exact Or.inr ⟨c, patch, rfl, hpatch, h.symm⟩

theorem bareText_of_parse {text : String} {v : Version} (h : parse text = .ok v) : v.bareText = text := by
  obtain ⟨a, b, major, minor, hmajor, hminor, ⟨hparts, rfl⟩ | ⟨c, patch, hparts, hpatch, rfl⟩⟩ := parse_eq_ok h
  · have hs := (parts?_eq_two_iff.mp hparts).1
    rw [String.ext_iff, hs]
    simp [bareText, Patch.empty, Patch.isEmpty, Numeral.written_of_parse? hmajor, Numeral.written_of_parse? hminor]
  · have hs := (parts?_eq_three_iff.mp hparts).1
    obtain ⟨htext, hempty⟩ := Patch.of_parse hpatch
    rw [String.ext_iff, hs]
    simp [bareText, hempty, htext, Numeral.written_of_parse? hmajor, Numeral.written_of_parse? hminor]

end Version

/-! ## A version with another prefix -/

namespace Version

section

variable (v : Version) (q : String)

@[simp] theorem withPrefix_major : (v.withPrefix q).major = v.major := rfl

@[simp] theorem withPrefix_minor : (v.withPrefix q).minor = v.minor := rfl

@[simp] theorem withPrefix_patch : (v.withPrefix q).patch = v.patch := rfl

@[simp] theorem withPrefix_tagPrefix : (v.withPrefix q).tagPrefix = q := rfl

@[simp] theorem withPrefix_bareText : (v.withPrefix q).bareText = v.bareText := rfl

@[simp] theorem withPrefix_text : (v.withPrefix q).text = q ++ v.bareText := rfl

@[simp] theorem withPrefix_withPrefix (r : String) : (v.withPrefix q).withPrefix r = v.withPrefix r := rfl

@[simp] theorem withPrefix_self : v.withPrefix v.tagPrefix = v := rfl

@[simp] theorem withPrefix_beq (w : Version) : (v.withPrefix q == w.withPrefix q) = (v == w) := rfl

end

end Version

/-! ## Names -/

theorem exists_rest_iff {tagPrefix name : String} :
    (∃ rest, name = tagPrefix ++ rest) ↔ tagPrefix.toList <+: name.toList := by
  constructor
  · intro h
    obtain ⟨rest, rfl⟩ := h
    exact ⟨rest.toList, String.toList_append.symm⟩
  · intro h
    obtain ⟨rest, hrest⟩ := h
    refine ⟨String.ofList rest, ?_⟩
    rw [String.ext_iff, String.toList_append, String.toList_ofList, hrest]

theorem readName_of_unprefixed {tagPrefix name : String} (h : ¬ tagPrefix.toList <+: name.toList) :
    readName tagPrefix name = .error (.noPrefix name tagPrefix) := by
  have hnone : tagPrefix.toList.isPrefixOf? name.toList = none := by
    refine Option.eq_none_iff_forall_ne_some.mpr fun rest hrest => h ⟨rest, ?_⟩
    exact List.isPrefixOf?_eq_some_iff_append_eq.mp hrest
  rw [readName, hnone]

/-- With the prefix in front a name is read as what stands after the prefix. -/
theorem readName_append (tagPrefix rest : String) :
    readName tagPrefix (tagPrefix ++ rest) =
      ((Version.parse rest).map (·.withPrefix tagPrefix)).mapError .noVersion := by
  have hrest : tagPrefix.toList.isPrefixOf? (tagPrefix ++ rest).toList = some rest.toList :=
    List.isPrefixOf?_eq_some_iff_append_eq.mpr String.toList_append.symm
  simp only [readName, hrest, String.ofList_toList]
  cases Version.parse rest <;> rfl

theorem readName_eq_ok_iff {tagPrefix name : String} {v : Version} :
    readName tagPrefix name = .ok v ↔
      ∃ rest w, name = tagPrefix ++ rest ∧ Version.parse rest = .ok w ∧ v = w.withPrefix tagPrefix := by
  constructor
  · intro h
    by_cases hpre : tagPrefix.toList <+: name.toList
    · obtain ⟨rest, hname⟩ := exists_rest_iff.mpr hpre
      rw [hname, readName_append] at h
      cases hparse : Version.parse rest with
      | ok w =>
        rw [hparse] at h
        exact ⟨rest, w, hname, hparse, (Except.ok.inj h).symm⟩
      | error e =>
        rw [hparse] at h
        cases h
    · rw [readName_of_unprefixed hpre] at h
      cases h
  · intro h
    obtain ⟨rest, w, rfl, hw, rfl⟩ := h
    rw [readName_append, hw]
    rfl

/-- The version of a name has the prefix, and shows as the name. -/
theorem text_of_readName {tagPrefix name : String} {v : Version} (h : readName tagPrefix name = .ok v) :
    v.tagPrefix = tagPrefix ∧ v.text = name := by
  obtain ⟨rest, w, rfl, hw, rfl⟩ := readName_eq_ok_iff.mp h
  simp [Version.bareText_of_parse hw]

/-- What a name stands for: the version that it is without the prefix. -/
def versionOf? (tagPrefix name : String) : Option Version :=
  if tagPrefix.toList <+: name.toList then
    (Version.parse (String.ofList (name.toList.drop tagPrefix.toList.length))).toOption.map (·.withPrefix tagPrefix)
  else none

theorem versionOf?_append (tagPrefix rest : String) :
    versionOf? tagPrefix (tagPrefix ++ rest) = (Version.parse rest).toOption.map (·.withPrefix tagPrefix) := by
  rw [versionOf?, String.toList_append, if_pos (List.prefix_append _ _), List.drop_left, String.ofList_toList]

theorem versionOf?_eq (tagPrefix name : String) : versionOf? tagPrefix name = (readName tagPrefix name).toOption := by
  by_cases hpre : tagPrefix.toList <+: name.toList
  · obtain ⟨rest, rfl⟩ := exists_rest_iff.mpr hpre
    rw [versionOf?_append, readName_append]
    cases Version.parse rest <;> rfl
  · rw [versionOf?, if_neg hpre, readName_of_unprefixed hpre]
    rfl

def accepted (tagPrefix : String) (names : List String) : List (String × Version) :=
  names.filterMap fun name => (versionOf? tagPrefix name).map fun v => (name, v)

theorem accepted_cons_of_ok {tagPrefix name : String} {v : Version} (h : readName tagPrefix name = .ok v)
    (names : List String) : accepted tagPrefix (name :: names) = (name, v) :: accepted tagPrefix names := by
  rw [accepted, List.filterMap_cons, versionOf?_eq, h]
  rfl

theorem accepted_cons_of_error {tagPrefix name : String} {reason : IgnoredReason}
    (h : readName tagPrefix name = .error reason) (names : List String) :
    accepted tagPrefix (name :: names) = accepted tagPrefix names := by
  rw [accepted, List.filterMap_cons, versionOf?_eq, h]
  rfl

@[simp] theorem mem_accepted_iff {tagPrefix : String} {names : List String} {name : String} {v : Version} :
    (name, v) ∈ accepted tagPrefix names ↔ name ∈ names ∧ readName tagPrefix name = .ok v := by
  simp only [accepted, versionOf?_eq, List.mem_filterMap, Option.map_eq_some_iff, Prod.mk.injEq]
  constructor
  · intro h
    obtain ⟨name', hmem, v', hv, rfl, rfl⟩ := h
    refine ⟨hmem, ?_⟩
    cases hread : readName tagPrefix name' with
    | error e => simp [hread, Except.toOption] at hv
    | ok w => simpa [hread, Except.toOption] using hv
  · intro h
    obtain ⟨hmem, hread⟩ := h
    exact ⟨name, hmem, v, by rw [hread]; rfl, rfl, rfl⟩

theorem accepted_names_sublist (tagPrefix : String) (names : List String) :
    ((accepted tagPrefix names).map Prod.fst).Sublist names := by
  induction names with
  | nil => exact List.Sublist.refl _
  | cons name names ih =>
    cases hread : readName tagPrefix name with
    | error e =>
      rw [accepted_cons_of_error hread]
      exact ih.cons name
    | ok v =>
      rw [accepted_cons_of_ok hread]
      exact ih.cons_cons name

theorem extract_versions (tagPrefix : String) (names : List String) :
    (extract tagPrefix names).versions = (accepted tagPrefix names).map Prod.snd := by
  induction names with
  | nil => rfl
  | cons name names ih =>
    rw [extract]
    cases hread : readName tagPrefix name with
    | error e =>
      rw [accepted_cons_of_error hread]
      exact ih
    | ok v =>
      rw [accepted_cons_of_ok hread]
      exact congrArg (v :: ·) ih

theorem exists_name_of_mem_extract {tagPrefix : String} {names : List String} {v : Version}
    (h : v ∈ (extract tagPrefix names).versions) : ∃ name ∈ names, readName tagPrefix name = .ok v := by
  rw [extract_versions] at h
  obtain ⟨⟨name, w⟩, hmem, rfl⟩ := List.mem_map.mp h
  exact ⟨name, mem_accepted_iff.mp hmem⟩

end VersionPick
