/-
  VersionPick.Proofs.Selector.Repeated — a pattern that is asked again, of what it left.

  What a slot leaves of the versions that were left before depends on its rank alone
  (`left_again`). All versions that a rank left have one value in the slot, each among those
  that agree with it in the slots before, and that value is then at either end. So a rank at
  the end itself leaves them all, and any other rank leaves none. What is no rank asks
  the same of a version in every list.

  It does not matter what was taken away since: of a pattern, the slots after this one. So
  the three slots can be asked again one after the other (`keep_eq_left`).
-/

import VersionPick.Proofs.Selector.Slotwise

namespace VersionPick

/-! ## Versions that agree in a slot -/

namespace Slot

def agree (slot : Slot) (v w : Version) : Bool :=
  match slot with
  | major => v.major.value == w.major.value
  | minor => v.minor.value == w.minor.value
  | patch => v.patch == w.patch

theorem agree_eq (slot : Slot) (v w : Version) : slot.agree v w = (slot.key v == slot.key w) := by
  cases slot <;> rfl

theorem distance_eq_zero {slot : Slot} {e : ListEnd} {within : List Version} {v : Version}
    (h : ∀ w ∈ within, slot.agree w v = true) : slot.distance e within v = 0 := by
  rw [distance_eq, ListEnd.distance_eq_zero_iff, List.forall_mem_map]
  intro w hw
  have hagree := h w hw
  rw [agree_eq] at hagree
  rw [ListEnd.isNearer_congr_left (Std.compare_eq_iff_beq.mpr hagree), ListEnd.isNearer_self]

theorem agree_of_distance_eq {slot : Slot} {e : ListEnd} {within : List Version} {v w : Version} (hv : v ∈ within)
    (hw : w ∈ within) (h : slot.distance e within v = slot.distance e within w) : slot.agree v w = true := by
  rw [distance_eq, distance_eq] at h
  rw [agree_eq]
  exact Rank.beq_of_distance_eq (List.mem_map_of_mem hv) (List.mem_map_of_mem hw) h

/-! ## Peers -/

def agreeBefore (slot : Slot) (v w : Version) : Prop :=
  match slot with
  | major => True
  | minor => v.major.value = w.major.value
  | patch => v.major.value = w.major.value ∧ v.minor.value = w.minor.value

@[simp] theorem mem_peers_iff {slot : Slot} {vs : List Version} {v w : Version} :
    w ∈ slot.peers vs v ↔ w ∈ vs ∧ slot.agreeBefore w v := by
  cases slot with
  | major => simp [peers, agreeBefore]
  | minor => simp [peers, agreeBefore]
  | patch => simp [peers, agreeBefore, and_comm]

@[simp] theorem agreeBefore_refl (slot : Slot) (v : Version) : slot.agreeBefore v v := by
  cases slot with
  | major => trivial
  | minor => rfl
  | patch => exact ⟨rfl, rfl⟩

/-- Versions that agree have the same peers. -/
theorem peers_congr {slot : Slot} {v w : Version} (h : slot.agreeBefore w v) (vs : List Version) :
    slot.peers vs w = slot.peers vs v := by
  cases slot with
  | major => rfl
  | minor => rw [peers, peers, (h : w.major.value = v.major.value)]
  | patch =>
    obtain ⟨hmajor, hminor⟩ := h
    rw [peers, peers, hmajor, hminor]

end Slot

/-! ## A slot that is asked again -/

/-- Whether a rank is asked for that is not the end itself. -/
def SlotMatcher.isInner (m : SlotMatcher) : Bool :=
  match m with
  | rank r => r.offset != 0
  | _ => false

namespace VersionPattern

@[simp] theorem mem_left_iff {slot : Slot} {m : SlotMatcher} {vs : List Version} {v : Version} :
    v ∈ left slot m vs ↔ v ∈ vs ∧ m.accepts slot (slot.peers vs v) v = true := List.mem_filter

/-- What a rank left has one value in the slot, among versions that agree in the slots before. -/
theorem agree_of_mem_left {slot : Slot} {r : Rank} {vs : List Version} {v w : Version}
    (hv : v ∈ left slot (.rank r) vs) (hw : w ∈ left slot (.rank r) vs) (h : slot.agreeBefore w v) :
    slot.agree w v = true := by
  obtain ⟨hv, hvr⟩ := mem_left_iff.mp hv
  obtain ⟨hw, hwr⟩ := mem_left_iff.mp hw
  rw [Slot.peers_congr h vs] at hwr
  simp only [SlotMatcher.accepts, beq_iff_eq] at hvr hwr
  have hvmem : v ∈ slot.peers vs v := by simp [hv]
  have hwmem : w ∈ slot.peers vs v := by simp [hw, h]
  exact Slot.agree_of_distance_eq hwmem hvmem (hwr.trans hvr.symm)

/-- A slot that is asked of versions it left before leaves all of them, or none. -/
theorem accepts_again {slot : Slot} {m : SlotMatcher} {vs kept : List Version}
    (hkept : ∀ v ∈ kept, v ∈ left slot m vs) {v : Version} (hv : v ∈ kept) :
    m.accepts slot (slot.peers kept v) v = !m.isInner := by
  cases hrank : m.isRank with
  | false =>
    have haccepts := (mem_left_iff.mp (hkept v hv)).2
    rw [SlotMatcher.accepts_of_not_rank hrank slot _ (slot.peers vs v), haccepts]
    cases m with
    | rank r => cases hrank
    | any => rfl
    | regex r => rfl
    | literal t => rfl
  | true =>
    cases m with
    | rank r =>
      have hzero : slot.distance r.fromEnd (slot.peers kept v) v = 0 := by
        refine Slot.distance_eq_zero fun w hw => ?_
        obtain ⟨hw, hagree⟩ := Slot.mem_peers_iff.mp hw
        exact agree_of_mem_left (hkept v hv) (hkept w hw) hagree
      simp only [SlotMatcher.accepts, SlotMatcher.isInner, hzero]
      cases r.offset with
      | zero => rfl
      | succ n => rfl
    | any => cases hrank
    | regex r => cases hrank
    | literal t => cases hrank

theorem left_again {slot : Slot} {m : SlotMatcher} {vs kept : List Version}
    (hkept : ∀ v ∈ kept, v ∈ left slot m vs) : left slot m kept = if m.isInner then [] else kept := by
  have hsame : left slot m kept = kept.filter fun _ => !m.isInner :=
    List.filter_congr fun v hv => accepts_again hkept hv
  rw [hsame]
  cases m.isInner with
  | false => simp
  | true => simp

/-! ## A pattern that is asked again -/

def matchers (p : VersionPattern) : List SlotMatcher := [p.major, p.minor, p.patch]

def leftBySlots (p : VersionPattern) (vs : List Version) : List Version :=
  left .patch p.patch (left .minor p.minor (left .major p.major vs))

theorem keep_eq_left (p : VersionPattern) {vs : List Version} (hasc : isAscending vs = true) :
    p.keep vs = .ok (p.leftBySlots vs) := by
  rw [p.keep_of_ascending hasc, filter_selects_eq_left]
  rfl

theorem isAscending_leftBySlots (p : VersionPattern) {vs : List Version} (hasc : isAscending vs = true) :
    isAscending (p.leftBySlots vs) = true := by
  have hmajor := isAscending_left .major p.major hasc
  have hminor := isAscending_left .minor p.minor hmajor
  exact isAscending_left .patch p.patch hminor

theorem leftBySlots_again (p : VersionPattern) (vs : List Version) :
    p.leftBySlots (p.leftBySlots vs) = if p.matchers.any SlotMatcher.isInner then [] else p.leftBySlots vs := by
  have hpatch : ∀ v ∈ p.leftBySlots vs, v ∈ left .patch p.patch (left .minor p.minor (left .major p.major vs)) :=
    fun v hv => hv
  have hminor : ∀ v ∈ p.leftBySlots vs, v ∈ left .minor p.minor (left .major p.major vs) :=
    fun v hv => (mem_left_iff.mp (hpatch v hv)).1
  have hmajor : ∀ v ∈ p.leftBySlots vs, v ∈ left .major p.major vs :=
    fun v hv => (mem_left_iff.mp (hminor v hv)).1
  have hnil : ∀ (slot : Slot) (m : SlotMatcher), left slot m [] = [] := fun _ _ => rfl
  rw [leftBySlots, left_again hmajor, matchers]
  cases hmaj : p.major.isInner with
  | true => simp [hmaj, hnil]
  | false =>
    rw [if_neg Bool.false_ne_true, left_again hminor]
    cases hmin : p.minor.isInner with
    | true => simp [hmin, hnil]
    | false =>
      rw [if_neg Bool.false_ne_true, left_again hpatch]
      simp [hmaj, hmin]

/-- A pattern that is asked again of what it kept of an ascending list keeps all of it if each of its ranks
    is an end itself, or it has none; and it keeps nothing if it has a rank that is not an end. -/
theorem again_by_offsets (p : VersionPattern) {vs : List Version} (hasc : isAscending vs = true) :
    ∃ kept, p.keep vs = .ok kept ∧
      ((∀ r, .rank r ∈ p.matchers → r.offset = 0) → p.keep kept = .ok kept) ∧
      ((∃ r, .rank r ∈ p.matchers ∧ r.offset ≠ 0) → p.keep kept = .ok []) := by
  refine ⟨p.leftBySlots vs, p.keep_eq_left hasc, fun hends => ?_, fun hwithin => ?_⟩
  · have hnone : p.matchers.any SlotMatcher.isInner = false := by
      refine List.any_eq_false.mpr fun m hm => ?_
      cases m with
      | rank r => simp [SlotMatcher.isInner, hends r hm]
      | any => exact Bool.false_ne_true
      | regex r => exact Bool.false_ne_true
      | literal t => exact Bool.false_ne_true
    rw [p.keep_eq_left (p.isAscending_leftBySlots hasc), leftBySlots_again, hnone]
    rfl
  · have hsome : p.matchers.any SlotMatcher.isInner = true := by
      obtain ⟨r, hmem, hoffset⟩ := hwithin
      exact List.any_eq_true.mpr ⟨.rank r, hmem, by simpa [SlotMatcher.isInner] using hoffset⟩
    rw [p.keep_eq_left (p.isAscending_leftBySlots hasc), leftBySlots_again, hsome]
    rfl

/-- `*.*.LAST` keeps the last patches again; among the second patches `*.*.FIRST+1` finds no second one. -/
theorem last_patches_stay_second_ones_go :
    let vs : List Version := [.ofParts 1 0 (.ofParts 0 ""), .ofParts 1 0 (.ofParts 1 "-rc"), .ofParts 2 0 .empty]
    let last : VersionPattern := ⟨.any, .any, .rank ⟨.last, 0⟩⟩
    let second : VersionPattern := ⟨.any, .any, .rank ⟨.first, 1⟩⟩
    let lasts : List Version := [.ofParts 1 0 (.ofParts 1 "-rc"), .ofParts 2 0 .empty]
    let seconds : List Version := [.ofParts 1 0 (.ofParts 1 "-rc")]
    isAscending vs = true ∧ last.keep vs = .ok lasts ∧ last.keep lasts = .ok lasts ∧
      second.keep vs = .ok seconds ∧ second.keep seconds = .ok [] := by
  intro vs last second lasts seconds
  have hasc : isAscending vs = true := by decide
  have hlast : last.keep vs = .ok lasts := last.keep_eq_left hasc
  have hsecond : second.keep vs = .ok seconds := second.keep_eq_left hasc
  obtain ⟨kept, hkept, hstay, -⟩ := last.again_by_offsets hasc
  obtain rfl : kept = lasts := Except.ok.inj (hkept.symm.trans hlast)
  obtain ⟨kept', hkept', -, hgo⟩ := second.again_by_offsets hasc
  obtain rfl : kept' = seconds := Except.ok.inj (hkept'.symm.trans hsecond)
  have hends : ∀ r, .rank r ∈ last.matchers → r.offset = 0 := by
    intro r hr
    simp only [matchers, last, List.mem_cons, reduceCtorEq, SlotMatcher.rank.injEq, List.not_mem_nil, or_false,
      false_or] at hr
    rw [hr]
  have hinner : ∃ r, .rank r ∈ second.matchers ∧ r.offset ≠ 0 := ⟨⟨.first, 1⟩, by simp [matchers, second], by decide⟩
  exact ⟨hasc, hlast, hstay hends, hsecond, hgo hinner⟩

end VersionPattern

end VersionPick
