/-
  VersionPick.Proofs.Selector.Ranks — what a rank picks: the value that has exactly so
  many distinct values between itself and the end.

  `ListEnd.distance` counts those values in a list as it stands, in any order and with
  repetitions. The rank itself looks at the distinct values in ascending order, where
  the distance of a value is its index from that end (`nearer_length`); the two counts
  agree because both lists stand for the same values (`distance_eq`).

  The index is within the list whenever there is one, and it is the same when 64-bit words
  compute it (`toNat_wordIndex?`). So a rank that stands alone finds a version unless the
  list has too few that are distinct, and finds it as it was written first
  (`keepOne_by_rank`).
-/

import VersionPick.Proofs.Version.Distinct
import VersionPick.Selector.Rank

namespace VersionPick

open Std

namespace ListEnd

def isNearer {α : Type} [Ord α] (e : ListEnd) (a b : α) : Bool :=
  match e with
  | first => compare a b == .lt
  | last => compare a b == .gt

/-- How many distinct values of the list are nearer to the end than `a` is. -/
def distance {α : Type} [Ord α] [BEq α] (e : ListEnd) (as : List α) (a : α) : Nat :=
  (as.filter fun b => e.isNearer b a).eraseDups.length

variable {α : Type} [Ord α] [TransOrd α]

@[simp] theorem isNearer_self (e : ListEnd) (a : α) : e.isNearer a a = false := by
  cases e <;> simp [isNearer]

theorem isNearer_congr_left {e : ListEnd} {a b c : α} (h : compare a b = .eq) :
    e.isNearer a c = e.isNearer b c := by
  cases e <;> simp only [isNearer, TransCmp.congr_left h]

theorem isNearer_congr_right {e : ListEnd} {a b c : α} (h : compare b c = .eq) :
    e.isNearer a b = e.isNearer a c := by
  cases e <;> simp only [isNearer, TransCmp.congr_right h]

/-- In a strictly ascending list, the values nearer to an end are those between a value and that end. -/
theorem nearer_length (e : ListEnd) {as pre post : List α} {a : α}
    (has : as.Pairwise fun a b => compare a b = .lt) (heq : as = pre ++ a :: post) :
    (as.filter fun b => e.isNearer b a).length = match e with
      | first => pre.length
      | last => post.length := by
  subst heq
  obtain ⟨-, hpost, hpre⟩ := List.pairwise_append.mp has
  have hlt : ∀ b ∈ pre, compare b a = .lt := fun b hb => hpre b hb a List.mem_cons_self
  have hgt : ∀ b ∈ post, compare b a = .gt := fun b hb =>
    OrientedCmp.gt_of_lt (List.rel_of_pairwise_cons hpost hb)
  rw [List.filter_append, List.filter_cons_of_neg (by simp [isNearer_self])]
  cases e with
  | first =>
    rw [List.filter_eq_self.mpr fun b hb => by simp [isNearer, hlt b hb],
      List.filter_eq_nil_iff.mpr fun b hb => by simp [isNearer, hgt b hb], List.append_nil]
  | last =>
    rw [List.filter_eq_nil_iff.mpr fun b hb => by simp [isNearer, hlt b hb],
      List.filter_eq_self.mpr fun b hb => by simp [isNearer, hgt b hb], List.nil_append]

variable [BEq α] [LawfulBEqOrd α]

theorem distance_congr {e : ListEnd} {as : List α} {a b : α} (h : (a == b) = true) :
    e.distance as a = e.distance as b := by
  have hc : ∀ c, e.isNearer c a = e.isNearer c b := fun c => isNearer_congr_right (compare_eq_iff_beq.mpr h)
  simp only [distance, hc]

theorem distance_eq_zero_iff {e : ListEnd} {as : List α} {a : α} :
    e.distance as a = 0 ↔ ∀ b ∈ as, e.isNearer b a = false := by
  unfold distance
  constructor
  · intro h b hb
    by_contra hnear
    have hmem : b ∈ as.filter fun b => e.isNearer b a := List.mem_filter.mpr ⟨hb, by simpa using hnear⟩
    obtain ⟨c, hc, -⟩ := represents_eraseDups _ b hmem
    rw [List.length_eq_zero_iff.mp h] at hc
    cases hc
  · intro h
    rw [List.filter_eq_nil_iff.mpr fun b hb => by simp [h b hb]]
    rfl

theorem distance_eq (e : ListEnd) (as : List α) (a : α) :
    e.distance as a = ((distinct as).filter fun b => e.isNearer b a).length := by
  refine length_eq_of_represents (differ_eraseDups _) ((differ_distinct as).filter _) ?_ ?_
  · intro b hb
    obtain ⟨hb, hnear⟩ := List.mem_filter.mp hb
    have hmem : b ∈ as.filter fun b => e.isNearer b a := List.mem_filter.mpr ⟨mem_of_mem_distinct hb, hnear⟩
    exact represents_eraseDups _ b hmem
  · intro b hb
    obtain ⟨hb, hnear⟩ := List.mem_filter.mp ((eraseDups_sublist _).subset hb)
    obtain ⟨c, hc, hcb⟩ := represents_distinct as b hb
    have hnear' : e.isNearer c a = true := by rwa [isNearer_congr_left (compare_eq_iff_beq.mpr hcb)]
    exact ⟨c, List.mem_filter.mpr ⟨hc, hnear'⟩, hcb⟩

end ListEnd

namespace Rank

theorem index?_eq_some_iff {r : Rank} {size i : Nat} :
    r.index? size = some i ↔ i < size ∧ match r.fromEnd with
      | .first => i = r.offset
      | .last => size - 1 - i = r.offset := by
  unfold index?
  cases r.fromEnd with
  | first =>
    split
    · simp only [Option.some.injEq]; omega
    · simp only [reduceCtorEq, false_iff]; omega
  | last =>
    split
    · simp only [Option.some.injEq]; omega
    · simp only [reduceCtorEq, false_iff]; omega

@[simp] theorem index?_eq_none_iff {r : Rank} {size : Nat} : r.index? size = none ↔ size ≤ r.offset := by
  unfold index?
  constructor
  · intro h
    split at h
    · cases hend : r.fromEnd <;> simp [hend] at h
    · omega
  · intro h
    rw [if_neg (by omega)]

/-- An index lies within the list, and nothing is cut off where it is counted from the last value. -/
theorem index?_exact {r : Rank} {size i : Nat} (h : r.index? size = some i) :
    i < size ∧ match r.fromEnd with
      | .first => i = r.offset
      | .last => i + r.offset + 1 = size := by
  obtain ⟨hlt, hi⟩ := index?_eq_some_iff.mp h
  refine ⟨hlt, ?_⟩
  cases hend : r.fromEnd with
  | first => simpa [hend] using hi
  | last =>
    simp only [hend] at hi ⊢
    omega

/-- The index as 64-bit words give it, in which a subtraction wraps around when it falls below zero. -/
def wordIndex? (e : ListEnd) (offset size : UInt64) : Option UInt64 :=
  if size ≤ offset then none
  else
    match e with
    | .first => some offset
    | .last => some (size - 1 - offset)

theorem toNat_wordIndex? (e : ListEnd) (offset size : UInt64) :
    (wordIndex? e offset size).map UInt64.toNat = index? { fromEnd := e, offset := offset.toNat } size.toNat := by
  unfold wordIndex? index?
  by_cases hle : size ≤ offset
  · have hle' : size.toNat ≤ offset.toNat := UInt64.le_iff_toNat_le.mp hle
    rw [if_pos hle, if_neg (Nat.not_lt.mpr hle')]
    rfl
  · have hlt : offset.toNat < size.toNat := by
      rw [UInt64.le_iff_toNat_le] at hle
      omega
    -- neither of the two subtractions falls below zero
    have hone : (1 : UInt64) ≤ size := UInt64.le_iff_toNat_le.mpr (by simp; omega)
    have hpred : (size - 1).toNat = size.toNat - 1 := UInt64.toNat_sub_of_le _ _ hone
    have hoffset : offset ≤ size - 1 := UInt64.le_iff_toNat_le.mpr (by rw [hpred]; omega)
    rw [if_neg hle, if_pos hlt]
    cases e with
    | first => rfl
    | last => simp [UInt64.toNat_sub_of_le _ _ hoffset, hpred]

theorem pick?_of_index? {α : Type} {r : Rank} {as : List α} {i : Nat} (h : r.index? as.length = some i) :
    r.pick? as = as[i]? := by
  rw [pick?, h, Option.bind_some]

@[simp] theorem pick?_eq_none_iff {α : Type} {r : Rank} {as : List α} : r.pick? as = none ↔ as.length ≤ r.offset := by
  rw [← index?_eq_none_iff]
  constructor
  · intro h
    cases hi : r.index? as.length with
    | none => rfl
    | some i =>
      have hlt := (index?_exact hi).1
      rw [pick?_of_index? hi, List.getElem?_eq_none_iff] at h
      omega
  · intro h
    rw [pick?, h, Option.bind_none]

variable {α : Type} [Ord α] [TransOrd α]

/-- A rank picks the value that has the offset as its distance from the end. -/
theorem pick?_eq_some_iff {r : Rank} {as : List α} (has : as.Pairwise fun a b => compare a b = .lt) {a : α} :
    r.pick? as = some a ↔ a ∈ as ∧ (as.filter fun b => r.fromEnd.isNearer b a).length = r.offset := by
  have hlen : ∀ {pre post}, as = pre ++ a :: post → as.length - 1 - pre.length = post.length := by
    intro pre post heq
    rw [heq, List.length_append, List.length_cons]
    omega
  constructor
  · intro h
    obtain ⟨i, hi, ha⟩ := Option.bind_eq_some_iff.mp h
    obtain ⟨hlt, rfl⟩ := List.getElem?_eq_some_iff.mp ha
    have heq : as = as.take i ++ as[i] :: as.drop (i + 1) := by
      rw [← List.drop_eq_getElem_cons hlt, List.take_append_drop]
    refine ⟨List.getElem_mem hlt, ?_⟩
    rw [ListEnd.nearer_length r.fromEnd has heq]
    have hi' := (index?_eq_some_iff.mp hi).2
    have hpre : (as.take i).length = i := List.length_take_of_le (Nat.le_of_lt hlt)
    cases hend : r.fromEnd with
    | first => rw [hend] at hi'; exact hpre.trans hi'
    | last => rw [hend] at hi'; rw [← hi', ← hlen heq, hpre]
  · intro h
    obtain ⟨hmem, hcount⟩ := h
    obtain ⟨pre, post, heq⟩ := List.append_of_mem hmem
    rw [ListEnd.nearer_length r.fromEnd has heq] at hcount
    have hlt : pre.length < as.length := by rw [heq, List.length_append, List.length_cons]; omega
    have hi : r.index? as.length = some pre.length := by
      refine index?_eq_some_iff.mpr ⟨hlt, ?_⟩
      cases hend : r.fromEnd with
      | first => rw [hend] at hcount; exact hcount
      | last => rw [hend] at hcount; rw [hlen heq]; exact hcount
    rw [pick?, hi, Option.bind_some, heq]
    simp

variable [BEq α] [LawfulBEqOrd α]

theorem pick?_distinct {r : Rank} {as : List α} {a : α} :
    r.pick? (distinct as) = some a ↔ a ∈ distinct as ∧ r.fromEnd.distance as a = r.offset := by
  rw [pick?_eq_some_iff (distinct_strict as), ListEnd.distance_eq]

/-- Values at the same distance from an end are equal. -/
theorem beq_of_distance_eq {e : ListEnd} {as : List α} {a b : α} (ha : a ∈ as) (hb : b ∈ as)
    (h : e.distance as a = e.distance as b) : (a == b) = true := by
  obtain ⟨a', ha', haa⟩ := represents_distinct as a ha
  obtain ⟨b', hb', hbb⟩ := represents_distinct as b hb
  -- the rank of that distance picks what stands for `a`, and it picks what stands for `b`
  have hpick : pick? { fromEnd := e, offset := e.distance as a } (distinct as) = some a' :=
    pick?_distinct.mpr ⟨ha', ListEnd.distance_congr haa⟩
  have hpick' : pick? { fromEnd := e, offset := e.distance as a } (distinct as) = some b' :=
    pick?_distinct.mpr ⟨hb', (ListEnd.distance_congr hbb).trans h.symm⟩
  obtain rfl : a' = b' := Option.some.inj (hpick.symm.trans hpick')
  exact BEq.trans (BEq.symm haa) hbb

/-- A rank keeps the versions whose key has the offset as its distance from the end. -/
theorem keepBy_eq_filter (r : Rank) (key : Version → α) (vs : List Version) :
    r.keepBy key vs = vs.filter fun v => r.fromEnd.distance (vs.map key) (key v) == r.offset := by
  cases hpick : r.pick? (distinct (vs.map key)) with
  | none =>
    rw [keepBy, hpick]
    refine (List.filter_eq_nil_iff.mpr fun v hv => ?_).symm
    -- the value that stands for the key of `v` would have been picked
    intro hdist
    obtain ⟨a, ha, hav⟩ := represents_distinct (vs.map key) (key v) (List.mem_map_of_mem hv)
    rw [← ListEnd.distance_congr hav, beq_iff_eq] at hdist
    rw [pick?_distinct.mpr ⟨ha, hdist⟩] at hpick
    cases hpick
  | some k =>
    rw [keepBy, hpick]
    refine List.filter_congr fun v hv => ?_
    obtain ⟨a, ha, hav⟩ := represents_distinct (vs.map key) (key v) (List.mem_map_of_mem hv)
    rw [← ListEnd.distance_congr hav, Bool.eq_iff_iff]
    constructor
    · intro hvk
      have hak : (a == k) = true := BEq.trans hav hvk
      rw [ListEnd.distance_congr hak, beq_iff_eq]
      exact (pick?_distinct.mp hpick).2
    · intro hdist
      have hpick' := pick?_distinct.mpr ⟨ha, beq_iff_eq.mp hdist⟩
      rw [hpick, Option.some.injEq] at hpick'
      rw [hpick']
      exact BEq.symm hav

/-! ## Among all versions -/

theorem keepOne_eq_nil_iff {r : Rank} {vs : List Version} : r.keepOne vs = [] ↔ vs.eraseDups.length ≤ r.offset := by
  rw [keepOne, Option.toList_eq_nil_iff, pick?_eq_none_iff, length_distinct]

/-- A rank among all versions leaves nothing of a list that has no more distinct versions than the offset
    says. Of any other list it leaves one version: the one with exactly so many distinct versions
    nearer to the end, as its first equal in the list stands there. It finds that version at an
    index within the distinct versions of the list; an index is always within the list it is made
    for, and as far from the end as the offset says, also if 64-bit words compute it. -/
theorem keepOne_by_rank (r : Rank) (vs : List Version) :
    (r.keepOne vs = [] ↔ vs.eraseDups.length ≤ r.offset) ∧
    (r.offset < vs.eraseDups.length →
      ∃ i v, r.index? (distinct vs).length = some i ∧ (distinct vs)[i]? = some v ∧ r.keepOne vs = [v] ∧
        v ∈ vs ∧ r.fromEnd.distance vs v = r.offset ∧ vs.find? (· == v) = some v) ∧
    (∀ size i, r.index? size = some i → i < size ∧ match r.fromEnd with
      | .first => i = r.offset
      | .last => i + r.offset + 1 = size) ∧
    ∀ offset size : UInt64, (wordIndex? r.fromEnd offset size).map UInt64.toNat =
      index? { r with offset := offset.toNat } size.toNat := by
  refine ⟨keepOne_eq_nil_iff, ?_, fun size i => index?_exact, toNat_wordIndex? r.fromEnd⟩
  intro hlt
  have hsize : r.offset < (distinct vs).length := by
    rw [length_distinct]
    exact hlt
  cases hi : r.index? (distinct vs).length with
  | none =>
    have hle := index?_eq_none_iff.mp hi
    omega
  | some i =>
    have hin : i < (distinct vs).length := (index?_exact hi).1
    have hget : (distinct vs)[i]? = some (distinct vs)[i] := List.getElem?_eq_getElem hin
    have hpick : r.pick? (distinct vs) = some (distinct vs)[i] := (pick?_of_index? hi).trans hget
    obtain ⟨hmem, hdist⟩ := pick?_distinct.mp hpick
    refine ⟨i, (distinct vs)[i], rfl, hget, ?_, mem_of_mem_distinct hmem, hdist, find?_of_mem_distinct hmem⟩
    rw [keepOne, hpick]
    rfl

end Rank

end VersionPick
