/-
  VersionPick.Proofs.Selector.Patterns — which versions of a list a pattern selects.

  One rule covers every pattern, whichever of its slots are ranks (`selects`): the
  major is looked at within the whole list, the minor within the versions of the same
  major that were left, and the patch within those of the same major and minor. A
  pattern looks at runs only where a rank makes it, but a slot that is no rank does not
  care within which list it is looked at (`accepts_of_not_rank`), and the runs of an
  ascending list are the versions that agree.

  A list that does not ascend is refused only on account of the majors that were left:
  within one of them the list that is handed on always ascends
  (`ascending_in_majors`), so that the runs of minors are never refused.
-/

import VersionPick.Proofs.Selector.Ranks
import VersionPick.Proofs.Version.Runs
import VersionPick.Selector.VersionPattern

namespace VersionPick

open Std

/-! ## One slot -/

namespace Slot

/-- How many distinct values the slot has in the list that are nearer to the end than that of `v`. -/
def distance (slot : Slot) (e : ListEnd) (within : List Version) (v : Version) : Nat :=
  match slot with
  | major => e.distance (within.map (·.major.value)) v.major.value
  | minor => e.distance (within.map (·.minor.value)) v.minor.value
  | patch => e.distance (within.map (·.patch)) v.patch

/-- What the slots are ranked by, so that the cases are split once and not by every lemma about ranks. -/
def Key : Slot → Type
  | major => Nat
  | minor => Nat
  | patch => Patch

def key : (slot : Slot) → Version → slot.Key
  | major, v => v.major.value
  | minor, v => v.minor.value
  | patch, v => v.patch

instance : (slot : Slot) → Ord slot.Key
  | major => inferInstanceAs (Ord Nat)
  | minor => inferInstanceAs (Ord Nat)
  | patch => inferInstanceAs (Ord Patch)

instance : (slot : Slot) → BEq slot.Key
  | major => inferInstanceAs (BEq Nat)
  | minor => inferInstanceAs (BEq Nat)
  | patch => inferInstanceAs (BEq Patch)

instance : (slot : Slot) → TransOrd slot.Key
  | major => inferInstanceAs (TransOrd Nat)
  | minor => inferInstanceAs (TransOrd Nat)
  | patch => inferInstanceAs (TransOrd Patch)

instance : (slot : Slot) → LawfulBEqOrd slot.Key
  | major => inferInstanceAs (LawfulBEqOrd Nat)
  | minor => inferInstanceAs (LawfulBEqOrd Nat)
  | patch => inferInstanceAs (LawfulBEqOrd Patch)

theorem distance_eq (slot : Slot) (e : ListEnd) (within : List Version) (v : Version) :
    slot.distance e within v = e.distance (within.map slot.key) (slot.key v) := by
  cases slot <;> rfl

end Slot

namespace SlotMatcher

theorem keep_rank (r : Rank) (slot : Slot) (vs : List Version) : (rank r).keep slot vs = r.keepBy slot.key vs := by
  cases slot <;> rfl

def accepts (m : SlotMatcher) (slot : Slot) (within : List Version) (v : Version) : Bool :=
  match m with
  | any => true
  | rank r => slot.distance r.fromEnd within v == r.offset
  | regex r => r.isMatch (slot.textOf v)
  | literal t => slot.textOf v == t

theorem keep_eq_filter (m : SlotMatcher) (slot : Slot) (vs : List Version) :
    m.keep slot vs = vs.filter (m.accepts slot vs) := by
  cases m with
  | any => exact (List.filter_eq_self.mpr fun _ _ => rfl).symm
  | rank r =>
    rw [keep_rank, r.keepBy_eq_filter]
    exact List.filter_congr fun v _ => by rw [accepts, Slot.distance_eq]
  | regex r => rfl
  | literal t => rfl

theorem keep_sublist (m : SlotMatcher) (slot : Slot) (vs : List Version) : (m.keep slot vs).Sublist vs := by
  rw [keep_eq_filter]
  exact List.filter_sublist

/-- Only a rank looks at the list. -/
theorem accepts_of_not_rank {m : SlotMatcher} (h : m.isRank = false) (slot : Slot) (vs ws : List Version) :
    m.accepts slot vs = m.accepts slot ws := by
  cases m with
  | any => rfl
  | rank r => cases h
  | regex r => rfl
  | literal t => rfl

end SlotMatcher

namespace VersionPattern

/-! ## The rule -/

/-- The versions that the major slot leaves and that have the major of `v`. -/
def majorPeers (p : VersionPattern) (vs : List Version) (v : Version) : List Version :=
  vs.filter fun w => p.major.accepts .major vs w && w.major.value == v.major.value

def minorPeers (p : VersionPattern) (vs : List Version) (v : Version) : List Version :=
  (p.majorPeers vs v).filter fun w =>
    p.minor.accepts .minor (p.majorPeers vs v) w && w.minor.value == v.minor.value

/-- Whether the pattern asks for a version of the list: every slot accepts it, the major within the
    list, the minor within its major, the patch within its major and minor. -/
def selects (p : VersionPattern) (vs : List Version) (v : Version) : Bool :=
  p.major.accepts .major vs v && p.minor.accepts .minor (p.majorPeers vs v) v &&
    p.patch.accepts .patch (p.minorPeers vs v) v

/-- Whether the pattern has to look at runs. -/
def needsOrder (p : VersionPattern) : Bool := p.minor.isRank || p.patch.isRank

/-! ## Minor and patch of one major -/

def selectsRest (p : VersionPattern) (within : List Version) (v : Version) : Bool :=
  p.minor.accepts .minor within v &&
    p.patch.accepts .patch
      (within.filter fun w => p.minor.accepts .minor within w && w.minor.value == v.minor.value) v

theorem keepRest_eq_filter {p : VersionPattern} (hpatch : p.patch.isRank = false) (vs : List Version) :
    p.keepRest vs = vs.filter (p.selectsRest vs) := by
  rw [keepRest, SlotMatcher.keep_eq_filter, SlotMatcher.keep_eq_filter, List.filter_filter]
  refine List.filter_congr fun v _ => ?_
  rw [selectsRest, Bool.and_comm, SlotMatcher.accepts_of_not_rank hpatch]

/-- Within one major the minors that are left ascend. -/
theorem ascending_in_majors {p : VersionPattern} {vs run : List Version} (hasc : isAscending vs = true)
    (hrun : run ∈ runs (·.major.value) vs) : isAscending (p.minor.keep .minor run) = true :=
  isAscending_of_sublist ((p.minor.keep_sublist .minor run).trans (sublist_of_mem_runs _ vs hrun)) hasc

theorem keepRestInRuns_eq_filter {p : VersionPattern} {vs run : List Version} (hasc : isAscending vs = true)
    (hrun : run ∈ runs (·.major.value) vs) : p.keepRestInRuns run = .ok (run.filter (p.selectsRest run)) := by
  have hsub := p.minor.keep_sublist .minor run
  have hminors : (p.minor.keep .minor run).Pairwise fun v w => v.minor.value ≤ w.minor.value :=
    minors_ascending (ascending_in_majors hasc hrun) fun v hv w hw =>
      key_eq_of_mem_run _ vs hrun (hsub.subset hv) (hsub.subset hw)
  rw [keepRestInRuns, inRuns_eq_filter (ascending_in_majors hasc hrun) hminors fun run' _ =>
    congrArg Except.ok (p.patch.keep_eq_filter .patch run')]
  rw [SlotMatcher.keep_eq_filter, List.filter_filter]
  refine congrArg Except.ok (List.filter_congr fun v _ => ?_)
  rw [selectsRest, List.filter_filter, Bool.and_comm]
  simp only [Bool.and_comm]

/-! ## The whole list -/

/-- The rule, said of the majors that are left. -/
theorem filter_selects (p : VersionPattern) (vs : List Version) :
    vs.filter (p.selects vs) = (p.major.keep .major vs).filter fun v =>
      p.selectsRest ((p.major.keep .major vs).filter fun w => w.major.value == v.major.value) v := by
  rw [SlotMatcher.keep_eq_filter, List.filter_filter]
  refine List.filter_congr fun v _ => ?_
  have hpeers : (vs.filter (p.major.accepts .major vs)).filter (fun w => w.major.value == v.major.value) =
      p.majorPeers vs v := by
    rw [List.filter_filter, majorPeers]
    exact List.filter_congr fun w _ => Bool.and_comm _ _
  rw [hpeers, selects, selectsRest, minorPeers, Bool.and_assoc, Bool.and_comm]

/-- The runs of majors taken apart into runs of minors. -/
theorem inRuns_keepRestInRuns (p : VersionPattern) {vs : List Version} (hasc : isAscending vs = true) :
    inRuns (·.major.value) p.keepRestInRuns vs =
      .ok (vs.filter fun v => p.selectsRest (vs.filter fun w => w.major.value == v.major.value) v) :=
  inRuns_eq_filter hasc (majors_ascending hasc) fun _ hrun => keepRestInRuns_eq_filter hasc hrun

/-- The runs of majors as they are. -/
theorem inRuns_keepRest {p : VersionPattern} (hpatch : p.patch.isRank = false) {vs : List Version}
    (hasc : isAscending vs = true) :
    inRuns (·.major.value) (fun run => .ok (p.keepRest run)) vs =
      .ok (vs.filter fun v => p.selectsRest (vs.filter fun w => w.major.value == v.major.value) v) :=
  inRuns_eq_filter hasc (majors_ascending hasc) fun run _ => congrArg Except.ok (keepRest_eq_filter hpatch run)

/-- No runs at all. -/
theorem keepRest_of_not_needsOrder {p : VersionPattern} (hneeds : p.needsOrder = false) (vs : List Version) :
    p.keepRest vs = vs.filter fun v => p.selectsRest (vs.filter fun w => w.major.value == v.major.value) v := by
  obtain ⟨hminor, hpatch⟩ := Bool.or_eq_false_iff.mp hneeds
  rw [keepRest_eq_filter hpatch]
  refine List.filter_congr fun v _ => ?_
  simp only [selectsRest]
  rw [SlotMatcher.accepts_of_not_rank hminor, SlotMatcher.accepts_of_not_rank hpatch]

theorem keep_of_needsOrder {p : VersionPattern} (hneeds : p.needsOrder = true) {vs : List Version}
    (hasc : isAscending (p.major.keep .major vs) = true) : p.keep vs = .ok (vs.filter (p.selects vs)) := by
  rw [filter_selects]
  cases hpatch : p.patch.isRank with
  | true =>
    rw [keep, if_pos hpatch]
    exact p.inRuns_keepRestInRuns hasc
  | false =>
    have hminor : p.minor.isRank = true := by simpa [needsOrder, hpatch] using hneeds
    rw [keep, if_neg (by simp [hpatch]), if_pos hminor]
    exact inRuns_keepRest hpatch hasc

theorem keep_of_not_ascending {p : VersionPattern} (hneeds : p.needsOrder = true) {vs : List Version}
    (hasc : isAscending (p.major.keep .major vs) = false) : p.keep vs = .error .notAscending := by
  rw [keep]
  cases hpatch : p.patch.isRank with
  | true => exact inRuns_of_not_ascending _ _ hasc
  | false =>
    have hminor : p.minor.isRank = true := by simpa [needsOrder, hpatch] using hneeds
    simp only [hminor, if_true, Bool.false_eq_true, if_false]
    exact inRuns_of_not_ascending _ _ hasc

theorem keep_of_not_needsOrder {p : VersionPattern} (hneeds : p.needsOrder = false) (vs : List Version) :
    p.keep vs = .ok (vs.filter (p.selects vs)) := by
  obtain ⟨hminor, hpatch⟩ := Bool.or_eq_false_iff.mp hneeds
  rw [filter_selects, keep, if_neg (by simp [hpatch]), if_neg (by simp [hminor])]
  exact congrArg Except.ok (keepRest_of_not_needsOrder hneeds _)

/-- What a pattern does to any list at all. -/
theorem keep_eq (p : VersionPattern) (vs : List Version) :
    p.keep vs = if p.needsOrder = true ∧ isAscending (p.major.keep .major vs) = false then .error .notAscending
      else .ok (vs.filter (p.selects vs)) := by
  cases hneeds : p.needsOrder with
  | false => simp [keep_of_not_needsOrder hneeds]
  | true =>
    cases hasc : isAscending (p.major.keep .major vs) with
    | true => simp [keep_of_needsOrder hneeds hasc]
    | false => simp [keep_of_not_ascending hneeds hasc]

theorem keep_of_ascending (p : VersionPattern) {vs : List Version} (hasc : isAscending vs = true) :
    p.keep vs = .ok (vs.filter (p.selects vs)) := by
  have hleft := isAscending_of_sublist (p.major.keep_sublist .major vs) hasc
  rw [keep_eq, if_neg (by simp [hleft])]

/-- What a pattern keeps, if it keeps anything of a list at all, are the versions that it selects, in
    the order of the list and as often as they stand there. It does if the list ascends, and always
    if neither minor nor patch is a rank. -/
theorem keeps_the_selected (p : VersionPattern) (vs : List Version) :
    (∀ kept, p.keep vs = .ok kept → kept = vs.filter (p.selects vs)) ∧
      (isAscending vs = true ∨ p.minor.isRank = false ∧ p.patch.isRank = false →
        p.keep vs = .ok (vs.filter (p.selects vs))) := by
  constructor
  · intro kept h
    rw [keep_eq] at h
    split at h
    · cases h
    · exact (Except.ok.inj h).symm
  · intro h
    rcases h with hasc | ⟨hminor, hpatch⟩
    · have hleft := isAscending_of_sublist (p.major.keep_sublist .major vs) hasc
      rw [keep_eq, if_neg (by simp [hleft])]
    · exact keep_of_not_needsOrder (by simp [needsOrder, hminor, hpatch]) vs

end VersionPattern

end VersionPick
