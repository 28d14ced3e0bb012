/-
  VersionPick.Proofs.Selector.Unions — what choices side by side keep.

  Each of them is made among the same versions. What they keep is put together in the order
  of the choices, and a version that is equal to one before it is dropped
  (`FirstOfEquals`). So it depends on the choices, and not on their order or on how often
  one is made, which versions are kept (`kept_iff_kept_by_one`); only how a version is
  written may depend on it, where the list holds equal versions that are written
  differently. Where it does not, the lines are the same, as these are put in order
  (`render_eq_of_writtenAlike`).
-/

import VersionPick.Proofs.Lines

namespace VersionPick

/-! ## Choices that make nothing up -/

namespace Choice

inductive OfSelectors : Choice → Prop
  | selector (s : Selector) : OfSelectors s.keep
  | inTurn {cs : List Choice} (h : ∀ c ∈ cs, OfSelectors c) : OfSelectors (inTurn cs)
  | sideBySide {cs : List Choice} (h : ∀ c ∈ cs, OfSelectors c) : OfSelectors (sideBySide cs)

def MakesNothingUp (c : Choice) : Prop := ∀ vs kept, c vs = .ok kept → ∀ v ∈ kept, v ∈ vs

theorem makesNothingUp_inTurn {cs : List Choice} (h : ∀ c ∈ cs, c.MakesNothingUp) : (inTurn cs).MakesNothingUp := by
  intro vs kept hkept
  induction cs generalizing vs with
  | nil =>
    obtain rfl : vs = kept := Except.ok.inj hkept
    exact fun _ hv => hv
  | cons c cs ih =>
    rw [inTurn_cons] at hkept
    cases hc : c vs with
    | error e =>
      rw [hc] at hkept
      cases hkept
    | ok left =>
      rw [hc] at hkept
      have hleft := ih (fun d hd => h d (List.mem_cons_of_mem _ hd)) left hkept
      exact fun v hv => h c List.mem_cons_self vs left hc v (hleft v hv)

theorem makesNothingUp_sideBySide {cs : List Choice} (h : ∀ c ∈ cs, c.MakesNothingUp) :
    (sideBySide cs).MakesNothingUp := by
  intro vs kept hkept v hv
  obtain ⟨kepts, hkepts, rfl⟩ := sideBySide_eq_ok_iff.mp hkept
  obtain ⟨k, hk, hvk⟩ := List.mem_flatten.mp ((eraseDups_sublist _).subset hv)
  obtain ⟨c, hc, hck⟩ := (mem_iff_of_forall₂ hkepts).mp hk
  exact h c hc vs k hck v hvk

end Choice

theorem Criterion.makesNothingUp (c : Criterion) : c.keep.MakesNothingUp := by
  intro vs kept hkept v hv
  cases c with
  | pattern p =>
    rw [keep, p.keep_eq] at hkept
    split at hkept
    · cases hkept
    · obtain rfl := Except.ok.inj hkept
      exact (List.mem_filter.mp hv).1
  | rank r =>
    obtain rfl := Except.ok.inj hkept
    exact (r.keepOne_sublist vs).subset hv

theorem Selector.makesNothingUp (s : Selector) : s.keep.MakesNothingUp := by
  refine keep_induction ?_ Criterion.makesNothingUp (fun _ => Choice.makesNothingUp_inTurn)
    (fun _ => Choice.makesNothingUp_sideBySide) s
  intro vs kept hkept
  obtain rfl : vs = kept := Except.ok.inj hkept
  exact fun _ hv => hv

theorem Choice.OfSelectors.makesNothingUp {c : Choice} (h : c.OfSelectors) : c.MakesNothingUp := by
  induction h with
  | selector s => exact s.makesNothingUp
  | inTurn _ ih => exact makesNothingUp_inTurn ih
  | sideBySide _ ih => exact makesNothingUp_sideBySide ih

/-! ## Equal versions that are written alike -/

/-- Equal versions of the list have the same prefix, and the same text in every slot. -/
def WrittenAlike (vs : List Version) : Prop :=
  ∀ v ∈ vs, ∀ w ∈ vs, (v == w) = true → v.tagPrefix = w.tagPrefix ∧ ∀ slot : Slot, slot.textOf v = slot.textOf w

theorem WrittenAlike.text_eq {vs : List Version} (h : WrittenAlike vs) {v w : Version} (hv : v ∈ vs) (hw : w ∈ vs)
    (hvw : (v == w) = true) : v.text = w.text ∧ v.bareText = w.bareText := by
  obtain ⟨htag, hslots⟩ := h v hv w hw hvw
  have hmajor : v.major.written = w.major.written := hslots .major
  have hminor : v.minor.written = w.minor.written := hslots .minor
  have hpatch : v.patch.text = w.patch.text := hslots .patch
  obtain ⟨-, -, hbeq⟩ := Version.beq_iff.mp hvw
  obtain ⟨hnumber, hsuffix⟩ := Patch.beq_iff.mp hbeq
  have hempty : v.patch.isEmpty = w.patch.isEmpty := by rw [Patch.isEmpty, hnumber, hsuffix, Patch.isEmpty]
  have hbare : v.bareText = w.bareText := by
    rw [Version.bareText, hempty, hmajor, hminor, hpatch, Version.bareText]
  exact ⟨by rw [Version.text, htag, hbare, Version.text], hbare⟩

/-- Lists that hold the same versions, each of them once, tie element by element when they are sorted. -/
theorem sorted_tie (reverse : Bool) {vs ws : List Version} (hvs : Differ vs) (hws : Differ ws)
    (hsame : ∀ u, (∃ v ∈ vs, (v == u) = true) ↔ ∃ w ∈ ws, (w == u) = true) :
    List.Forall₂ (fun v w => (v == w) = true) (sorted reverse vs) (sorted reverse ws) := by
  simp only [← Version.inOrder_ties reverse]
  refine forall₂_of_strict (Version.inOrder_trans reverse) (sorted_strict reverse hvs) (sorted_strict reverse hws)
    (fun v hv => ?_) fun w hw => ?_
  · obtain ⟨w, hw, hwv⟩ := (hsame v).mp ⟨v, (sorted_perm reverse vs).mem_iff.mp hv, BEq.rfl⟩
    exact ⟨w, (sorted_perm reverse ws).mem_iff.mpr hw, by rw [Version.inOrder_ties, BEq.comm, hwv]⟩
  · obtain ⟨v, hv, hvw⟩ := (hsame w).mpr ⟨w, (sorted_perm reverse ws).mem_iff.mp hw, BEq.rfl⟩
    exact ⟨v, (sorted_perm reverse vs).mem_iff.mpr hv, by rw [Version.inOrder_ties, hvw]⟩

theorem render_eq_of_writtenAlike {vs kept kept' : List Version} (halike : WrittenAlike vs) (hkept : ∀ v ∈ kept, v ∈ vs)
    (hkept' : ∀ v ∈ kept', v ∈ vs) (hdiff : Differ kept) (hdiff' : Differ kept')
    (hsame : ∀ u, (∃ v ∈ kept, (v == u) = true) ↔ ∃ w ∈ kept', (w == u) = true) (flags : OutputFlags) :
    render flags kept = render flags kept' := by
  have htie := sorted_tie flags.reverse hdiff hdiff' hsame
  have hlines : List.Forall₂ (fun v w : Version => v.text = w.text ∧ v.bareText = w.bareText)
      (sorted flags.reverse kept) (sorted flags.reverse kept') := by
    refine List.forall₂_iff_zip.mpr ⟨htie.length_eq, fun hmem => ?_⟩
    obtain ⟨hv, hw⟩ := List.of_mem_zip hmem
    exact halike.text_eq (hkept _ ((sorted_perm _ _).mem_iff.mp hv)) (hkept' _ ((sorted_perm _ _).mem_iff.mp hw))
      (List.forall₂_zip htie hmem)
  rw [render, render, ← List.forall₂_eq_eq_eq, List.forall₂_map_left_iff, List.forall₂_map_right_iff]
  refine hlines.imp fun v w hvw => ?_
  cases flags.noPrefix with
  | false => exact hvw.1
  | true => exact hvw.2

/-! ## Choices side by side -/

theorem Choice.differ_of_sideBySide {cs : List Choice} {vs kept : List Version} (h : sideBySide cs vs = .ok kept) :
    Differ kept := by
  obtain ⟨kepts, -, rfl⟩ := sideBySide_eq_ok_iff.mp h
  exact differ_eraseDups _

/-- A version is kept, as it is or written otherwise, if one of the choices keeps it so. -/
theorem Choice.kept_iff_kept_by_one {cs : List Choice} {vs kept : List Version} (h : sideBySide cs vs = .ok kept)
    (v : Version) :
    (∃ w ∈ kept, (w == v) = true) ↔ ∃ c ∈ cs, ∃ k, c vs = .ok k ∧ ∃ w ∈ k, (w == v) = true := by
  obtain ⟨kepts, hkepts, rfl⟩ := sideBySide_eq_ok_iff.mp h
  have hany : (∃ w ∈ kepts.flatten.eraseDups, (w == v) = true) ↔ ∃ w ∈ kepts.flatten, (w == v) = true := by
    rw [← List.any_eq_true, any_eraseDups, List.any_eq_true]
  rw [hany]
  constructor
  · rintro ⟨w, hw, hwv⟩
    obtain ⟨k, hk, hwk⟩ := List.mem_flatten.mp hw
    obtain ⟨c, hc, hck⟩ := (mem_iff_of_forall₂ hkepts).mp hk
    exact ⟨c, hc, k, hck, w, hwk, hwv⟩
  · rintro ⟨c, hc, k, hck, w, hwk, hwv⟩
    exact ⟨w, List.mem_flatten.mpr ⟨k, (mem_iff_of_forall₂ hkepts).mpr ⟨c, hc, hck⟩, hwk⟩, hwv⟩

structure KeptSideBySide (cs : List Choice) (vs : List Version) (parts : List (List Version)) (kept : List Version) :
    Prop where
  keeps : Choice.sideBySide cs vs = .ok kept
  firstOfEquals : FirstOfEquals parts.flatten kept
  kept_iff : ∀ v, (∃ w ∈ kept, (w == v) = true) ↔ ∃ c ∈ cs, ∃ part, c vs = .ok part ∧ ∃ w ∈ part, (w == v) = true
  differ : Differ kept
  find?_eq : ∀ v ∈ kept, parts.flatten.find? (· == v) = some v
  /-- It is of no account in which order the choices stand, or how often. -/
  of_same : ∀ cs' : List Choice, (∀ c, c ∈ cs' ↔ c ∈ cs) → ∃ kept', Choice.sideBySide cs' vs = .ok kept' ∧
    (∀ v, (∃ w ∈ kept', (w == v) = true) ↔ ∃ w ∈ kept, (w == v) = true) ∧
    ((∀ c ∈ cs, c.OfSelectors) → WrittenAlike vs → ∀ flags, render flags kept' = render flags kept)

/-- Choices side by side, none of which is refused the list, keep what they keep one after the other,
    without what is equal to a version before it; equal versions also hash alike, so that they can be
    found by their hashes. A version is kept if and only if one of the choices keeps it, no two that
    are kept are equal, and each is the first of its equals. The same choices in another order, or made
    more than once, keep the same versions; if they are put together from selectors and the list has
    equal versions written alike, they also put out the same lines. -/
theorem keep_first_of_equals {cs : List Choice} {vs : List Version} {kepts : List (List Version)}
    (h : List.Forall₂ (fun (c : Choice) kept => c vs = .ok kept) cs kepts) :
    (∀ v w : Version, (v == w) = true → hash v = hash w) ∧ ∃ kept, KeptSideBySide cs vs kepts kept := by
  refine ⟨fun v w hvw => ?_, ?_⟩
  · have hidentity := (Version.beq_iff_identity v w).mp hvw
    change hash v.identity = hash w.identity
    rw [hidentity]
  have hfirst := firstOfEquals_eraseDups kepts.flatten
  have hkept : Choice.sideBySide cs vs = .ok kepts.flatten.eraseDups :=
    Choice.sideBySide_eq_ok_iff.mpr ⟨kepts, h, rfl⟩
  refine ⟨_, hkept, hfirst, Choice.kept_iff_kept_by_one hkept, Choice.differ_of_sideBySide hkept,
    fun v hv => hfirst.find?_eq hv, fun cs' hsame => ?_⟩
  -- none of the choices is refused the list, as they are the same
  have heach : ∀ c ∈ cs', ∃ k, c vs = .ok k := fun c hc => exists_forall₂_iff.mp ⟨kepts, h⟩ c ((hsame c).mp hc)
  obtain ⟨kepts', h'⟩ := exists_forall₂_iff.mpr heach
  have hkept' : Choice.sideBySide cs' vs = .ok kepts'.flatten.eraseDups :=
    Choice.sideBySide_eq_ok_iff.mpr ⟨kepts', h', rfl⟩
  have hsets : ∀ v, (∃ w ∈ kepts'.flatten.eraseDups, (w == v) = true) ↔
      ∃ w ∈ kepts.flatten.eraseDups, (w == v) = true := by
    intro v
    rw [Choice.kept_iff_kept_by_one hkept, Choice.kept_iff_kept_by_one hkept']
    exact exists_congr fun c => and_congr_left fun _ => hsame c
  refine ⟨_, hkept', hsets, fun hmade halike flags => ?_⟩
  have hmade' : ∀ c ∈ cs', c.OfSelectors := fun c hc => hmade c ((hsame c).mp hc)
  exact render_eq_of_writtenAlike halike ((Choice.OfSelectors.sideBySide hmade').makesNothingUp vs _ hkept')
    ((Choice.OfSelectors.sideBySide hmade).makesNothingUp vs _ hkept) (Choice.differ_of_sideBySide hkept')
    (Choice.differ_of_sideBySide hkept) hsets flags

/-- Of `01.2.3` and `1.2.3`, which are equal, `1.*.* or 01.*.*` keeps the one that its first criterion does. Of
    `1.2.3` and `2.0` the same lines are put out whichever of `1.*.*` and `2.*.*` comes first. -/
theorem first_spelling_is_kept :
    let spelled (major : String) : Version := ⟨⟨1, major⟩, .ofNat 2, .ofParts 3 "", ""⟩
    let later : Version := .ofParts 2 0 .empty
    let of (major : String) : Choice := Criterion.keep (.pattern ⟨.literal major, .any, .any⟩)
    List.Forall₂ (fun (c : Choice) kept => c [spelled "01", spelled "1"] = .ok kept) [of "1", of "01"]
        [[spelled "1"], [spelled "01"]] ∧
      Choice.sideBySide [of "1", of "01"] [spelled "01", spelled "1"] = .ok [spelled "1"] ∧
      FirstOfEquals [spelled "1", spelled "01"] [spelled "1"] ∧
    List.Forall₂ (fun (c : Choice) kept => c [spelled "1", later] = .ok kept) [of "2", of "1"]
        [[later], [spelled "1"]] ∧
      WrittenAlike [spelled "1", later] ∧
      ∃ kept kept', Choice.sideBySide [of "2", of "1"] [spelled "1", later] = .ok kept ∧
        Choice.sideBySide [of "1", of "2", of "1"] [spelled "1", later] = .ok kept' ∧
        ∀ flags, render flags kept' = render flags kept := by
  intro spelled later of
  have hspelled : List.Forall₂ (fun (c : Choice) kept => c [spelled "01", spelled "1"] = .ok kept) [of "1", of "01"]
      [[spelled "1"], [spelled "01"]] := .cons rfl (.cons rfl .nil)
  have hlater : List.Forall₂ (fun (c : Choice) kept => c [spelled "1", later] = .ok kept) [of "2", of "1"]
      [[later], [spelled "1"]] := .cons rfl (.cons rfl .nil)
  have halike : WrittenAlike [spelled "1", later] := by
    intro v hv w hw hvw
    simp only [List.mem_cons, List.not_mem_nil, or_false] at hv hw
    rcases hv with rfl | rfl <;> rcases hw with rfl | rfl
    · exact ⟨rfl, fun _ => rfl⟩
    · exact absurd hvw (by decide)
    · exact absurd hvw (by decide)
    · exact ⟨rfl, fun _ => rfl⟩
  obtain ⟨kept, hkept⟩ := (keep_first_of_equals hspelled).2
  have hone : kept = [spelled "1"] := Except.ok.inj (hkept.keeps.symm.trans rfl)
  subst hone
  obtain ⟨left, hleft⟩ := (keep_first_of_equals hlater).2
  obtain ⟨left', hleft', -, hlines⟩ := hleft.of_same [of "1", of "2", of "1"] (by simp [or_comm])
  refine ⟨hspelled, hkept.keeps, hkept.firstOfEquals, hlater, halike, left, left', hleft.keeps, hleft',
    hlines ?_ halike⟩
  intro c hc
  rcases List.mem_pair.mp hc with rfl | rfl
  · exact .selector (.one (.pattern ⟨.literal "2", .any, .any⟩))
  · exact .selector (.one (.pattern ⟨.literal "1", .any, .any⟩))

end VersionPick
