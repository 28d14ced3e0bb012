/-
  VersionPick.Proofs.Version.Extraction — what becomes of the names of a list.

  A name counts if it is the prefix and then the text of a version. Then its version shows
  as the name, and without the prefix as the rest; the prefix may be any text, as it is only
  taken off in front and put there again. A name that does not count is set aside, and why is
  said by `SetAside`, which does not mention the reader (`readName_eq_error_iff`).

  A list is dealt out into versions and names set aside, one after the other
  (`interleaved_extract`), and each part depends on its name alone: so lists put together
  are dealt out as they are dealt out by themselves (`extract_append`).
-/

import VersionPick.Proofs.Version.ReadBack

namespace VersionPick

/-! ## One name -/

/-- The name is the prefix and then the text of a version. -/
def Counts (tagPrefix name : String) : Prop := ∃ rest v, name = tagPrefix ++ rest ∧ Version.parse rest = .ok v

inductive SetAside (tagPrefix name : String) : IgnoredReason → Prop
  | noPrefix (h : ¬ tagPrefix.toList <+: name.toList) : SetAside tagPrefix name (.noPrefix name tagPrefix)
  | noVersion {rest : String} {e : VersionError} (hname : name = tagPrefix ++ rest)
      (hparse : Version.parse rest = .error e) : SetAside tagPrefix name (.noVersion e)

section

variable {tagPrefix name : String}

theorem readName_eq_error_iff {reason : IgnoredReason} :
    readName tagPrefix name = .error reason ↔ SetAside tagPrefix name reason := by
  constructor
  · intro h
    by_cases hpre : tagPrefix.toList <+: name.toList
    · obtain ⟨rest, hname⟩ := exists_rest_iff.mpr hpre
      rw [hname, readName_append] at h
      cases hparse : Version.parse rest with
      | ok v =>
        rw [hparse] at h
        cases h
      | error e =>
        rw [hparse] at h
        obtain rfl := Except.error.inj h
        exact .noVersion hname hparse
    · rw [readName_of_unprefixed hpre] at h
      obtain rfl := Except.error.inj h
      exact .noPrefix hpre
  · intro h
    cases h with
    | noPrefix hpre => exact readName_of_unprefixed hpre
    | noVersion hname hparse =>
      rw [hname, readName_append, hparse]
      rfl

theorem counts_iff : Counts tagPrefix name ↔ ∃ v, readName tagPrefix name = .ok v := by
  simp only [readName_eq_ok_iff]
  constructor
  · intro h
    obtain ⟨rest, v, hname, hparse⟩ := h
    exact ⟨_, rest, v, hname, hparse, rfl⟩
  · intro h
    obtain ⟨_, rest, v, hname, hparse, -⟩ := h
    exact ⟨rest, v, hname, hparse⟩

theorem not_counts_iff : ¬ Counts tagPrefix name ↔ ∃ reason, readName tagPrefix name = .error reason := by
  rw [counts_iff]
  cases readName tagPrefix name with
  | ok v => simp
  | error reason => simp

end

/-! ## The messages of names set aside -/

theorem getLast?_append_of_eq {s t : String} {c : Char} (h : t.toList.getLast? = some c) :
    (s ++ t).toList.getLast? = some c := by
  rw [String.toList_append, List.getLast?_append, h, Option.some_or]

theorem getLast?_quote (s : String) : (Text.quote s).toList.getLast? = some '"' := by
  rw [Text.quote, String.toList_ofList, ← List.cons_append, List.getLast?_concat]

theorem VersionError.getLast?_message (e : VersionError) : ∃ c, e.message.toList.getLast? = some c ∧ c ≠ '"' := by
  cases e with
  | tooFewParts text => exact ⟨'s', getLast?_append_of_eq rfl, by decide⟩
  | badMajor text => exact ⟨'t', getLast?_append_of_eq rfl, by decide⟩
  | badMinor text => exact ⟨'t', getLast?_append_of_eq rfl, by decide⟩
  | badPatch part => exact ⟨'*', getLast?_append_of_eq rfl, by decide⟩

theorem IgnoredReason.message_noVersion_ne (e : VersionError) (name tagPrefix : String) :
    (noVersion e).message ≠ (noPrefix name tagPrefix).message := by
  intro h
  have hquote : (noPrefix name tagPrefix).message.toList.getLast? = some '"' :=
    getLast?_append_of_eq (getLast?_quote tagPrefix)
  obtain ⟨c, hlast, hc⟩ := e.getLast?_message
  rw [← h] at hquote
  exact hc (Option.some.inj (hlast.symm.trans hquote))

/-- The message says which of the two reasons it is, as only that of a missing prefix ends in a quotation. -/
theorem SetAside.message_eq_noPrefix_iff {tagPrefix name : String} {reason : IgnoredReason}
    (h : SetAside tagPrefix name reason) :
    reason.message = (IgnoredReason.noPrefix name tagPrefix).message ↔ ¬ tagPrefix.toList <+: name.toList := by
  cases h with
  | noPrefix hpre => exact iff_of_true rfl hpre
  | noVersion hname hparse =>
    exact iff_of_false (IgnoredReason.message_noVersion_ne _ name tagPrefix)
      (not_not.mpr (exists_rest_iff.mp ⟨_, hname⟩))

/-! ## A list of names -/

inductive Interleaved {α : Type} : List α → List α → List α → Prop
  | nil : Interleaved [] [] []
  | left (a : α) {as bs cs : List α} (h : Interleaved as bs cs) : Interleaved (a :: as) bs (a :: cs)
  | right (b : α) {as bs cs : List α} (h : Interleaved as bs cs) : Interleaved as (b :: bs) (b :: cs)

section

variable (tagPrefix : String)

theorem interleaved_extract (names : List String) :
    Interleaved ((extract tagPrefix names).versions.map Version.text)
      ((extract tagPrefix names).ignored.map (·.name)) names := by
  induction names with
  | nil => exact .nil
  | cons name names ih =>
    rw [extract]
    cases hread : readName tagPrefix name with
    | ok v =>
      rw [List.map_cons, (text_of_readName hread).2]
      exact .left name ih
    | error reason => exact .right name ih

theorem extract_append (names more : List String) :
    extract tagPrefix (names ++ more) =
      { versions := (extract tagPrefix names).versions ++ (extract tagPrefix more).versions
        ignored := (extract tagPrefix names).ignored ++ (extract tagPrefix more).ignored } := by
  induction names with
  | nil => rfl
  | cons name names ih =>
    rw [List.cons_append, extract, extract, ih]
    cases readName tagPrefix name with
    | ok v => rfl
    | error reason => rfl

variable {tagPrefix} {names : List String}

@[simp] theorem mem_extract_versions_iff {v : Version} :
    v ∈ (extract tagPrefix names).versions ↔ ∃ name ∈ names, readName tagPrefix name = .ok v := by
  refine ⟨exists_name_of_mem_extract, fun h => ?_⟩
  obtain ⟨name, hmem, hread⟩ := h
  rw [extract_versions]
  exact List.mem_map_of_mem (mem_accepted_iff.mpr ⟨hmem, hread⟩)

@[simp] theorem mem_extract_ignored_iff {i : IgnoredName} :
    i ∈ (extract tagPrefix names).ignored ↔ i.name ∈ names ∧ readName tagPrefix i.name = .error i.reason := by
  induction names with
  | nil => simp [extract]
  | cons name names ih =>
    rw [extract, List.mem_cons, or_and_right, ← ih]
    cases hread : readName tagPrefix name with
    | ok v =>
      refine (or_iff_right fun h => ?_).symm
      rw [h.1, hread] at h
      cases h.2
    | error reason =>
      refine List.mem_cons.trans (or_congr_left ?_)
      constructor
      · rintro rfl
        exact ⟨rfl, hread⟩
      · intro h
        obtain ⟨hname, hreason⟩ := h
        rw [hname, hread, Except.error.injEq] at hreason
        rw [hreason, ← hname]

theorem mem_versions_text_iff {name : String} (h : name ∈ names) :
    name ∈ (extract tagPrefix names).versions.map Version.text ↔ Counts tagPrefix name := by
  rw [List.mem_map, counts_iff]
  constructor
  · intro h
    obtain ⟨v, hv, rfl⟩ := h
    obtain ⟨name, -, hread⟩ := mem_extract_versions_iff.mp hv
    rw [(text_of_readName hread).2]
    exact ⟨v, hread⟩
  · intro hcounts
    obtain ⟨v, hread⟩ := hcounts
    exact ⟨v, mem_extract_versions_iff.mpr ⟨name, h, hread⟩, (text_of_readName hread).2⟩

theorem mem_ignored_name_iff {name : String} (h : name ∈ names) :
    name ∈ (extract tagPrefix names).ignored.map (·.name) ↔ ¬ Counts tagPrefix name := by
  rw [List.mem_map, not_counts_iff]
  constructor
  · intro h
    obtain ⟨i, hi, rfl⟩ := h
    exact ⟨i.reason, (mem_extract_ignored_iff.mp hi).2⟩
  · intro hfails
    obtain ⟨reason, hread⟩ := hfails
    exact ⟨{ name, reason }, mem_extract_ignored_iff.mpr ⟨h, hread⟩, rfl⟩

/-- A version shows as its name, and without the prefix as the text that it was read from. -/
theorem shown_of_mem_extract {v : Version} (h : v ∈ (extract tagPrefix names).versions) :
    ∃ rest, v.text = tagPrefix ++ rest ∧ Version.parse rest = .ok (v.withPrefix "") ∧ v.tagPrefix = tagPrefix ∧
      v.bareText = rest := by
  obtain ⟨name, -, hread⟩ := mem_extract_versions_iff.mp h
  have htext := text_of_readName hread
  obtain ⟨rest, w, hname, hparse, rfl⟩ := readName_eq_ok_iff.mp hread
  have hbare : w.withPrefix "" = w := by rw [← Version.tagPrefix_of_parse hparse, Version.withPrefix_self]
  exact ⟨rest, htext.2.trans hname, by simp [hbare, hparse], htext.1, by simp [Version.bareText_of_parse hparse]⟩

end

structure DealtOut (tagPrefix : String) (names : List String) : Prop where
  interleaved : Interleaved ((extract tagPrefix names).versions.map Version.text)
    ((extract tagPrefix names).ignored.map (·.name)) names
  counts_iff : ∀ name ∈ names, name ∈ (extract tagPrefix names).versions.map Version.text ↔ Counts tagPrefix name
  ignored_iff : ∀ name ∈ names, name ∈ (extract tagPrefix names).ignored.map (·.name) ↔ ¬ Counts tagPrefix name
  shown : ∀ v ∈ (extract tagPrefix names).versions, ∃ rest, v.text = tagPrefix ++ rest ∧
    Version.parse rest = .ok (v.withPrefix "") ∧ v.tagPrefix = tagPrefix ∧ v.bareText = rest
  reason : ∀ i ∈ (extract tagPrefix names).ignored, SetAside tagPrefix i.name i.reason
  message_iff : ∀ i ∈ (extract tagPrefix names).ignored,
    i.reason.message = (IgnoredReason.noPrefix i.name tagPrefix).message ↔ ¬ tagPrefix.toList <+: i.name.toList
  append : ∀ more, extract tagPrefix (names ++ more) =
    { versions := (extract tagPrefix names).versions ++ (extract tagPrefix more).versions
      ignored := (extract tagPrefix names).ignored ++ (extract tagPrefix more).ignored }

/-- The names of a list are dealt out, each in its turn: those that count give the versions, which show as they do,
    and the others are set aside with the reason, which the message tells. A version has the prefix and was
    read from what it shows without it. So two lists put together are dealt out as they are by themselves. -/
theorem every_name_is_dealt_out (tagPrefix : String) (names : List String) : DealtOut tagPrefix names := by
  have hreason : ∀ i ∈ (extract tagPrefix names).ignored, SetAside tagPrefix i.name i.reason :=
    fun i hi => readName_eq_error_iff.mp (mem_extract_ignored_iff.mp hi).2
  exact
    { interleaved := interleaved_extract tagPrefix names
      counts_iff := fun name hname => mem_versions_text_iff hname
      ignored_iff := fun name hname => mem_ignored_name_iff hname
      shown := fun v hv => shown_of_mem_extract hv
      reason := hreason
      message_iff := fun i hi => (hreason i hi).message_eq_noPrefix_iff
      append := extract_append tagPrefix names }

/-- The prefix is taken off once, and it is no matter if it looks like the start of a version itself. -/
example : (extract "1" ["11.2", "1.2", "2.1"]).versions.map (fun v => (v.text, v.bareText)) = [("11.2", "1.2")] ∧
    (extract "1" ["11.2", "1.2", "2.1"]).ignored =
      [⟨"1.2", .noVersion (.badMajor ".2")⟩, ⟨"2.1", .noPrefix "2.1" "1"⟩] := by
  decide

end VersionPick
