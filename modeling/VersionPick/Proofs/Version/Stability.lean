/-
  VersionPick.Proofs.Version.Stability — what becomes of equal versions that were written
  differently, when a list is sorted and when the distinct values of a part are listed.

  Both directions keep the order in which equal versions stand, so the descending list is
  the ascending one backwards only if no two versions are equal: then each of them is alone
  among its equals, and one element backwards is the same (`sorted_true_eq_reverse`).

  Of equal values the list of distinct ones has the first, as it was written
  (`areDistinct_distinct`). This is said once for any key of versions.
-/

import VersionPick.Proofs.Version.Distinct

namespace VersionPick

open Std

/-! ## Sorting in both directions -/

/-- Where all values differ, a value has one equal at most. -/
theorem filter_beq_of_differ {α : Type} [BEq α] [EquivBEq α] {as : List α} (h : Differ as) (a : α) :
    as.filter (a == ·) = (as.find? (a == ·)).toList := by
  induction as with
  | nil => rfl
  | cons b as ih =>
    cases hab : a == b with
    | false =>
      rw [List.filter_cons, hab, List.find?_cons, hab, ← ih h.of_cons]
      rfl
    | true =>
      -- what else is equal to `a` would be equal to `b`
      have hnone : as.filter (a == ·) = [] := by
        refine List.filter_eq_nil_iff.mpr fun c hc hac => ?_
        have hbc : (b == c) = false := List.rel_of_pairwise_cons h hc
        rw [← BEq.congr_left hab, hac] at hbc
        cases hbc
      rw [List.filter_cons, hab, List.find?_cons, hab, if_pos rfl, hnone]
      rfl

theorem sorted_filter_beq (reverse : Bool) (vs : List Version) (v : Version) :
    (sorted reverse vs).filter (v == ·) = vs.filter (v == ·) := by
  have hties := (sorted_isStableSort reverse vs).ties v
  simpa only [Version.inOrder_ties] using hties

theorem isStableSort_reverse {vs : List Version} (h : Differ vs) :
    IsStableSort (Version.inOrder true) vs (sorted false vs).reverse where
  perm := (List.reverse_perm _).trans (sorted_perm false vs)
  ordered := List.pairwise_reverse.mpr (sorted_ordered false vs)
  ties v := by
    simp only [Version.inOrder_ties]
    rw [List.filter_reverse, sorted_filter_beq, filter_beq_of_differ h]
    cases vs.find? (v == ·) <;> rfl

theorem sorted_true_eq_reverse {vs : List Version} (h : Differ vs) : sorted true vs = (sorted false vs).reverse :=
  (sorted_isStableSort true vs).unique (Version.inOrder_total true) (isStableSort_reverse h)

/-! ## The distinct values of a key -/

structure AreDistinct {κ : Type} [Ord κ] [BEq κ] (key : Version → κ) (vs : List Version) (keys : List κ) : Prop where
  strict : keys.Pairwise fun j k => compare j k = .lt
  first : ∀ k ∈ keys, ∃ v, vs.find? (fun w => key w == k) = some v ∧ key v = k
  every : ∀ v ∈ vs, ∃ k ∈ keys, (k == key v) = true

theorem areDistinct_distinct {κ : Type} [Ord κ] [BEq κ] [TransOrd κ] [LawfulBEqOrd κ] (key : Version → κ)
    (vs : List Version) : AreDistinct key vs (distinct (vs.map key)) where
  strict := distinct_strict _
  first k hk := by
    have hfound := find?_of_mem_distinct hk
    rw [List.find?_map] at hfound
    exact Option.map_eq_some_iff.mp hfound
  every v hv := represents_distinct _ (key v) (List.mem_map_of_mem hv)

/-- Sorting is stable in either direction: versions that are equal stand as they did before. So a sort after another
    is the second one alone, what is left out of a list is left out of the sorted list, and the directions are
    opposite if no two versions are equal. The distinct majors, minors and patches are those that there are, in
    ascending order; of equal patches it is the one of the first version. -/
theorem sorted_and_distinct_keep_order (vs : List Version) :
    (∀ reverse, IsStableSort (Version.inOrder reverse) vs (sorted reverse vs) ∧
      (∀ v, (sorted reverse vs).filter (v == ·) = vs.filter (v == ·)) ∧
      (∀ reverse', sorted reverse (sorted reverse' vs) = sorted reverse vs) ∧
      ∀ ws : List Version, ws.Sublist vs → (sorted reverse ws).Sublist (sorted reverse vs)) ∧
    (Differ vs → sorted true vs = (sorted false vs).reverse) ∧
    AreDistinct (·.major.value) vs (distinctMajors vs) ∧
    AreDistinct (·.minor.value) vs (distinctMinors vs) ∧
    AreDistinct (·.patch) vs (distinctPatches vs) := by
  refine ⟨fun reverse => ⟨sorted_isStableSort reverse vs, sorted_filter_beq reverse vs, fun reverse' => ?_, fun ws h => ?_⟩,
    sorted_true_eq_reverse, ?_⟩
  · exact sorted_sorted reverse reverse' vs
  · exact sorted_sublist reverse h
  · exact ⟨areDistinct_distinct _ vs, areDistinct_distinct _ vs, areDistinct_distinct _ vs⟩

/-- `01.2.3` comes before `1.2.3` in both directions if it does in the list. With one of the two alone, the
    descending list is the ascending one backwards. -/
theorem spellings_stay_in_order :
    let spelled (major : String) : Version := ⟨⟨1, major⟩, .ofNat 2, .ofParts 3 "", ""⟩
    let later : Version := .ofParts 2 0 .empty
    let both : List Version := [spelled "01", later, spelled "1"]
    (∀ reverse, (sorted reverse both).filter (spelled "1" == ·) = [spelled "01", spelled "1"]) ∧
      [later, spelled "1"].Sublist both ∧ (sorted true [later, spelled "1"]).Sublist (sorted true both) ∧
      Differ [later, spelled "1"] ∧ sorted true [later, spelled "1"] = (sorted false [later, spelled "1"]).reverse := by
  intro spelled later both
  have hsub : [later, spelled "1"].Sublist both := List.sublist_cons_self _ _
  have hdiffer : Differ [later, spelled "1"] := by unfold Differ; decide
  refine ⟨fun reverse => ?_, hsub, ?_, hdiffer, ?_⟩
  · exact ((sorted_and_distinct_keep_order both).1 reverse).2.1 (spelled "1")
  · exact ((sorted_and_distinct_keep_order both).1 true).2.2.2 _ hsub
  · exact (sorted_and_distinct_keep_order [later, spelled "1"]).2.1 hdiffer

end VersionPick
