/-
  VersionPick.Proofs.Selector.SlotRanks — what a rank keeps in one slot, of a list in any
  order and with repetitions.

  A value of the list is so many distinct values away from the first one and so many from
  the last one, and with the value itself that makes all there are
  (`ListEnd.distance_first_add_last`). So a rank counted from one end is also one counted
  from the other (`Rank.keepBy_first_eq_last`), and a rank finds nothing only if the offset
  leaves the list (`Rank.keepBy_eq_nil_iff`).

  This is said once for any key of versions. Numbers are the keys of majors and minors, and
  patches their own, however any of them are written.
-/

import VersionPick.Proofs.Selector.Patterns

namespace VersionPick

open Std

section

variable {α : Type} [Ord α] [TransOrd α] [BEq α] [LawfulBEqOrd α]

/-- What is nearer to the first value, what is nearer to the last one, and the value itself. -/
theorem ListEnd.distance_first_add_last {as : List α} {a : α} (h : a ∈ as) :
    first.distance as a + last.distance as a + 1 = as.eraseDups.length := by
  obtain ⟨b, hb, hba⟩ := represents_distinct as a h
  obtain ⟨pre, post, heq⟩ := List.append_of_mem hb
  have hfirst : first.distance as b = pre.length := by
    rw [distance_eq, nearer_length first (distinct_strict as) heq]
  have hlast : last.distance as b = post.length := by
    rw [distance_eq, nearer_length last (distinct_strict as) heq]
  rw [← distance_congr hba, ← distance_congr hba, hfirst, hlast, ← length_distinct, heq, List.length_append,
    List.length_cons]
  omega

namespace Rank

variable {key : Version → α} {vs : List Version}

theorem keepBy_eq_nil_iff {r : Rank} : r.keepBy key vs = [] ↔ (vs.map key).eraseDups.length ≤ r.offset := by
  rw [← length_distinct, ← pick?_eq_none_iff]
  unfold keepBy
  cases hpick : r.pick? (distinct (vs.map key)) with
  | none => simp
  | some k =>
    -- the value that is picked stands in the list, so some version has it
    obtain ⟨v, hv, hvk⟩ := List.mem_map.mp (mem_of_mem_distinct (pick?_distinct.mp hpick).1)
    simp only [reduceCtorEq, iff_false]
    intro hnil
    have hnot := List.filter_eq_nil_iff.mp hnil v hv
    rw [hvk] at hnot
    exact hnot BEq.rfl

theorem keepBy_first_eq_last {n : Nat} (hn : n < (vs.map key).eraseDups.length) :
    keepBy ⟨.first, n⟩ key vs = keepBy ⟨.last, (vs.map key).eraseDups.length - 1 - n⟩ key vs := by
  rw [keepBy_eq_filter, keepBy_eq_filter]
  refine List.filter_congr fun v hv => ?_
  have hmem : key v ∈ vs.map key := List.mem_map_of_mem hv
  have hsum := ListEnd.distance_first_add_last hmem
  rw [Bool.eq_iff_iff, beq_iff_eq, beq_iff_eq]
  show ListEnd.first.distance (vs.map key) (key v) = n ↔
    ListEnd.last.distance (vs.map key) (key v) = (vs.map key).eraseDups.length - 1 - n
  omega

end Rank

end

/-! ## The three slots -/

namespace Slot

def count (slot : Slot) (vs : List Version) : Nat :=
  match slot with
  | major => (vs.map (·.major.value)).eraseDups.length
  | minor => (vs.map (·.minor.value)).eraseDups.length
  | patch => (vs.map (·.patch)).eraseDups.length

/-- How long the list of distinct values is in which a rank looks its value up. -/
def listed (slot : Slot) (vs : List Version) : Nat :=
  match slot with
  | major => (distinctMajors vs).length
  | minor => (distinctMinors vs).length
  | patch => (distinctPatches vs).length

theorem count_eq (slot : Slot) (vs : List Version) : slot.count vs = (vs.map slot.key).eraseDups.length := by
  cases slot <;> rfl

theorem listed_eq (slot : Slot) (vs : List Version) : slot.listed vs = (distinct (vs.map slot.key)).length := by
  cases slot <;> rfl

theorem listed_eq_count (slot : Slot) (vs : List Version) : slot.listed vs = slot.count vs := by
  rw [listed_eq, count_eq, length_distinct]

end Slot

namespace SlotMatcher

theorem keep_rank_eq_nil_iff {r : Rank} {slot : Slot} {vs : List Version} :
    (rank r).keep slot vs = [] ↔ slot.count vs ≤ r.offset := by
  rw [keep_rank, Slot.count_eq]
  exact Rank.keepBy_eq_nil_iff

theorem keep_first_eq_keep_last {slot : Slot} {vs : List Version} {n : Nat} (hn : n < slot.count vs) :
    (rank ⟨.first, n⟩).keep slot vs = (rank ⟨.last, slot.count vs - 1 - n⟩).keep slot vs := by
  rw [Slot.count_eq] at hn
  rw [keep_rank, keep_rank, Slot.count_eq]
  exact Rank.keepBy_first_eq_last hn

structure KeepsByDistance (r : Rank) (slot : Slot) (vs : List Version) : Prop where
  keeps : (rank r).keep slot vs = vs.filter fun v => slot.distance r.fromEnd vs v == r.offset
  keeps_none_iff : (rank r).keep slot vs = [] ↔ slot.count vs ≤ r.offset
  /-- From the other end the same versions have another rank. -/
  from_both_ends : ∀ n, n < slot.count vs →
    (rank ⟨.first, n⟩).keep slot vs = (rank ⟨.last, slot.count vs - 1 - n⟩).keep slot vs
  listed_eq_count : slot.listed vs = slot.count vs
  index_exact : ∀ i, r.index? (slot.listed vs) = some i → i < slot.listed vs ∧ match r.fromEnd with
    | .first => i = r.offset
    | .last => i + r.offset + 1 = slot.listed vs
  index_of_words : ∀ offset size : UInt64, (Rank.wordIndex? r.fromEnd offset size).map UInt64.toNat =
    Rank.index? { r with offset := offset.toNat } size.toNat

/-- A rank in a slot keeps the versions of a list, in their order and as often as they stand there, whose
    value has exactly so many distinct values of the list nearer to the end as the offset says. It keeps
    none only if there are no more distinct values than that; and what it keeps is kept by the rank from
    the other end that meets it. Its index lies within the list of distinct values, and as far from the
    end as the offset says, also if 64-bit words compute it. -/
theorem rank_keeps_by_distance (r : Rank) (slot : Slot) (vs : List Version) : KeepsByDistance r slot vs where
  keeps := keep_eq_filter (rank r) slot vs
  keeps_none_iff := keep_rank_eq_nil_iff
  from_both_ends _ hn := keep_first_eq_keep_last hn
  listed_eq_count := slot.listed_eq_count vs
  index_exact _ hi := Rank.index?_exact hi
  index_of_words := Rank.toNat_wordIndex? r.fromEnd

end SlotMatcher

end VersionPick
