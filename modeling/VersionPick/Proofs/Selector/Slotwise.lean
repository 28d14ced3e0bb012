/-
  VersionPick.Proofs.Selector.Slotwise — a pattern asks its slots in turn.

  What a pattern keeps of an ascending list is what is left when its slots are asked for one
  after the other, each by a pattern that asks nothing of the other two. Such a pattern
  looks at a version among its peers, those that agree with it in the slots before
  (`selects_only`). The peers that a version has in the list that the patterns before it
  left are the ones that the whole pattern looks at (`majorPeers_eq`, `minorPeers_eq`): a
  version is left or not together with its peers, so the list need not be taken apart only
  once.

  For the same reason it makes no difference to what is kept whether a pattern takes the
  list apart into runs or not, as long as nothing that it asks depends on it.
-/

import VersionPick.Proofs.Selector.Safety

namespace VersionPick

/-- The versions of a list that agree with `v` in the slots before the slot. -/
def Slot.peers (slot : Slot) (vs : List Version) (v : Version) : List Version :=
  match slot with
  | major => vs
  | minor => vs.filter fun w => w.major.value == v.major.value
  | patch => (vs.filter fun w => w.major.value == v.major.value).filter fun w => w.minor.value == v.minor.value

namespace VersionPattern

/-! ## One slot -/

def only (slot : Slot) (m : SlotMatcher) : VersionPattern :=
  match slot with
  | .major => ⟨m, .any, .any⟩
  | .minor => ⟨.any, m, .any⟩
  | .patch => ⟨.any, .any, m⟩

theorem selects_only (slot : Slot) (m : SlotMatcher) (vs : List Version) (v : Version) :
    (only slot m).selects vs v = m.accepts slot (slot.peers vs v) v := by
  cases slot <;> simp [only, selects, majorPeers, minorPeers, SlotMatcher.accepts, Slot.peers]

def left (slot : Slot) (m : SlotMatcher) (vs : List Version) : List Version :=
  vs.filter fun v => m.accepts slot (slot.peers vs v) v

theorem keep_only (slot : Slot) (m : SlotMatcher) {vs : List Version} (hasc : isAscending vs = true) :
    (only slot m).keep vs = .ok (left slot m vs) := by
  rw [keep_of_ascending _ hasc]
  exact congrArg Except.ok (List.filter_congr fun v _ => selects_only slot m vs v)

theorem isAscending_left (slot : Slot) (m : SlotMatcher) {vs : List Version} (hasc : isAscending vs = true) :
    isAscending (left slot m vs) = true :=
  isAscending_of_sublist List.filter_sublist hasc

/-! ## Peers in what is left -/

variable (p : VersionPattern) (vs : List Version)

theorem majorPeers_eq (v : Version) : p.majorPeers vs v = Slot.minor.peers (left .major p.major vs) v := by
  rw [majorPeers, Slot.peers, left, List.filter_filter]
  exact List.filter_congr fun w _ => Bool.and_comm _ _

theorem minorPeers_eq (v : Version) :
    p.minorPeers vs v = Slot.patch.peers (left .minor p.minor (left .major p.major vs)) v := by
  rw [minorPeers, majorPeers_eq]
  generalize left .major p.major vs = ws
  rw [Slot.peers, left, Slot.peers, List.filter_filter, List.filter_filter, List.filter_filter]
  refine List.filter_congr fun w _ => ?_
  cases hmajor : w.major.value == v.major.value with
  | false => simp
  | true =>
    -- versions of one major have the same peers in it
    have hsame : w.major.value = v.major.value := by simpa using hmajor
    simp [Slot.peers, hsame, Bool.and_comm]

theorem filter_selects_eq_left :
    vs.filter (p.selects vs) = left .patch p.patch (left .minor p.minor (left .major p.major vs)) := by
  have hselects : p.selects vs = fun v => p.patch.accepts .patch
      (Slot.patch.peers (left .minor p.minor (left .major p.major vs)) v) v &&
        (p.minor.accepts .minor (Slot.minor.peers (left .major p.major vs) v) v && p.major.accepts .major vs v) := by
    funext v
    rw [selects, majorPeers_eq, minorPeers_eq, Bool.and_comm, Bool.and_comm (p.major.accepts _ _ _)]
  rw [hselects, left, left, left, List.filter_filter, List.filter_filter]
  rfl

/-! ## Slot by slot -/

def slotBySlot : Selector :=
  .allOf [.pattern (only .major p.major), .pattern (only .minor p.minor), .pattern (only .patch p.patch)]

theorem keep_slotBySlot {vs : List Version} (hasc : isAscending vs = true) :
    p.slotBySlot.keep vs = .ok (left .patch p.patch (left .minor p.minor (left .major p.major vs))) := by
  have hmajor := isAscending_left .major p.major hasc
  have hminor := isAscending_left .minor p.minor hmajor
  change Choice.inTurn [(only .major p.major).keep, (only .minor p.minor).keep, (only .patch p.patch).keep] vs = _
  rw [Choice.inTurn_cons, keep_only .major p.major hasc, Except.bind, Choice.inTurn_cons,
    keep_only .minor p.minor hmajor, Except.bind, Choice.inTurn_cons, keep_only .patch p.patch hminor]
  rfl

/-- A pattern keeps of an ascending list what its slots leave in turn. If its patch is no rank, it makes
    no difference to what is kept whether the runs of majors are taken apart into runs of minors, and
    if its minor is none either, whether the list is taken apart at all. -/
theorem keeps_slot_by_slot {vs : List Version} (hasc : isAscending vs = true) :
    (∃ kept, p.keep vs = .ok kept ∧ p.slotBySlot.keep vs = .ok kept) ∧
    (p.patch.isRank = false →
      inRuns (·.major.value) p.keepRestInRuns (p.major.keep .major vs) =
        inRuns (·.major.value) (fun run => .ok (p.keepRest run)) (p.major.keep .major vs)) ∧
    (p.minor.isRank = false → p.patch.isRank = false →
      inRuns (·.major.value) (fun run => .ok (p.keepRest run)) (p.major.keep .major vs) =
        .ok (p.keepRest (p.major.keep .major vs))) := by
  have hleft := isAscending_of_sublist (p.major.keep_sublist .major vs) hasc
  refine ⟨⟨_, ?_, p.keep_slotBySlot hasc⟩, fun hpatch => ?_, fun hminor hpatch => ?_⟩
  · rw [keep_eq, if_neg (by simp [hleft]), filter_selects_eq_left]
  · rw [inRuns_keepRestInRuns p hleft, inRuns_keepRest hpatch hleft]
  · rw [inRuns_keepRest hpatch hleft, keepRest_of_not_needsOrder (by simp [needsOrder, hminor, hpatch])]

/-- `*.FIRST+1.LAST` keeps nothing of a major that has one minor only. -/
theorem second_minor_slot_by_slot :
    let vs : List Version :=
      [.ofParts 1 0 (.ofParts 0 ""), .ofParts 1 1 (.ofParts 0 "-rc"), .ofParts 1 1 (.ofParts 0 ""), .ofParts 2 0 .empty]
    let p : VersionPattern := ⟨.any, .rank ⟨.first, 1⟩, .rank ⟨.last, 0⟩⟩
    isAscending vs = true ∧ p.keep vs = .ok [.ofParts 1 1 (.ofParts 0 "")] ∧
      p.slotBySlot.keep vs = .ok [.ofParts 1 1 (.ofParts 0 "")] := by
  intro vs p
  have hasc : isAscending vs = true := by decide
  have hleft : isAscending (p.major.keep .major vs) = true := hasc
  have hkeep : p.keep vs = .ok [.ofParts 1 1 (.ofParts 0 "")] := by
    rw [p.keep_eq, if_neg (by simp [hleft])]
    rfl
  obtain ⟨kept, hkept, hslots⟩ := (p.keeps_slot_by_slot hasc).1
  obtain rfl : kept = [.ofParts 1 1 (.ofParts 0 "")] := Except.ok.inj (hkept.symm.trans hkeep)
  exact ⟨hasc, hkeep, hslots⟩

end VersionPattern

end VersionPick
