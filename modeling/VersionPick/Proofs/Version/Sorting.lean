/-
  VersionPick.Proofs.Version.Sorting — what sorting does to a list of versions.

  Sorting is stable: elements that tie keep the order they had. A stable sort of a
  list is determined by this (`IsStableSort.unique`), so sorting twice is sorting the
  second way (`sorted_sorted`), and what is left out of a list before it is sorted is
  left out of the sorted list (`sorted_sublist`).

  An ascending list also contains, as a sublist, every strictly ascending list of its
  elements (`sublist_of_strict`): the way back from a set of versions to their order.
  And two strictly ascending lists with the same elements, up to ties, are the same, up
  to ties (`forall₂_of_strict`).
-/

import Mathlib.Data.List.Forall2
import VersionPick.Proofs.Version.Order
import VersionPick.Version.Runs

namespace VersionPick

open Std

/-! ## Stable sorts -/

/-- `bs` is `as` in order, and elements that tie stand as they did in `as`. -/
structure IsStableSort {α : Type} (le : α → α → Bool) (as bs : List α) : Prop where
  perm : bs.Perm as
  ordered : bs.Pairwise fun a b => le a b = true
  ties : ∀ a, bs.filter (fun b => le a b && le b a) = as.filter (fun b => le a b && le b a)

section

variable {α : Type} {le : α → α → Bool}
  (trans : ∀ a b c, le a b = true → le b c = true → le a c = true)
  (total : ∀ a b, (le a b || le b a) = true)

include total in
theorem le_refl_of_total (a : α) : le a a = true := by
  simpa using total a a

include total in
theorem mem_iff_of_ties {bs cs : List α}
    (ht : ∀ a, bs.filter (fun b => le a b && le b a) = cs.filter (fun b => le a b && le b a)) (a : α) :
    a ∈ bs ↔ a ∈ cs := by
  have h : a ∈ bs.filter (fun b => le a b && le b a) ↔ a ∈ cs.filter (fun b => le a b && le b a) := by
    rw [ht a]
  simpa [le_refl_of_total total a] using h

include total in
/-- Two ordered lists with the same ties are the same. -/
theorem eq_of_ordered_of_ties {bs cs : List α} (hb : bs.Pairwise fun a b => le a b = true)
    (hc : cs.Pairwise fun a b => le a b = true)
    (ht : ∀ a, bs.filter (fun b => le a b && le b a) = cs.filter (fun b => le a b && le b a)) :
    bs = cs := by
  have hrefl := le_refl_of_total total
  have hmem := mem_iff_of_ties total ht
  induction bs generalizing cs with
  | nil =>
    cases cs with
    | nil => rfl
    | cons c cs => exact absurd ((hmem c).mpr List.mem_cons_self) List.not_mem_nil
  | cons b bs ih =>
    cases cs with
    | nil => exact absurd ((hmem b).mp List.mem_cons_self) List.not_mem_nil
    | cons c cs =>
      have hbc : le b c = true := by
        rcases List.mem_cons.mp ((hmem c).mpr List.mem_cons_self) with rfl | h
        · exact hrefl _
        · exact List.rel_of_pairwise_cons hb h
      have hcb : le c b = true := by
        rcases List.mem_cons.mp ((hmem b).mp List.mem_cons_self) with rfl | h
        · exact hrefl _
        · exact List.rel_of_pairwise_cons hc h
      -- the heads tie, so both stand first among the elements that tie with `b`
      have heq : b = c := by
        have h := ht b
        simp only [List.filter_cons, hrefl b, hbc, hcb, Bool.and_self, if_true, List.cons.injEq] at h
        exact h.1
      subst heq
      have ht' : ∀ a, bs.filter (fun x => le a x && le x a) = cs.filter (fun x => le a x && le x a) := by
        intro a
        have h := ht a
        simp only [List.filter_cons] at h
        split at h
        · exact (List.cons.inj h).2
        · exact h
      rw [ih hb.of_cons hc.of_cons ht' (mem_iff_of_ties total ht')]

include total in
theorem IsStableSort.unique {as bs cs : List α} (hb : IsStableSort le as bs)
    (hc : IsStableSort le as cs) : bs = cs :=
  eq_of_ordered_of_ties total hb.ordered hc.ordered fun a => (hb.ties a).trans (hc.ties a).symm

/-- What comes first of the elements that tie with one comes first of them when they are sorted. -/
theorem IsStableSort.find?_eq {as bs : List α} (h : IsStableSort le as bs) (a : α) :
    bs.find? (fun b => le a b && le b a) = as.find? fun b => le a b && le b a := by
  rw [← List.head?_filter, ← List.head?_filter, h.ties a]

include trans total in
theorem ties_mergeSort (x : α) (as : List α) :
    (as.mergeSort le).filter (fun b => le x b && le b x) = as.filter (fun b => le x b && le b x) := by
  induction as with
  | nil => simp
  | cons a as ih =>
    obtain ⟨l₁, l₂, h₁, h₂, hlow⟩ := List.mergeSort_cons trans total a as
    rw [h₂, List.filter_append] at ih
    rw [h₁, List.filter_append, List.filter_cons, List.filter_cons]
    cases hx : le x a && le a x with
    | false => simpa using ih
    | true =>
      -- nothing that sorts below `a` ties with `x`, which ties with `a`
      have hnone : l₁.filter (fun b => le x b && le b x) = [] := by
        refine List.filter_eq_nil_iff.mpr fun b hb hxb => ?_
        simp only [Bool.and_eq_true] at hx hxb
        have hab := trans a x b hx.2 hxb.1
        have hnab := hlow b hb
        rw [hab] at hnab
        cases hnab
      rw [hnone, List.nil_append] at ih ⊢
      simp [ih]

include trans total in
theorem isStableSort_mergeSort (as : List α) : IsStableSort le as (as.mergeSort le) where
  perm := List.mergeSort_perm as le
  ordered := List.pairwise_mergeSort trans total as
  ties x := ties_mergeSort trans total x as

include trans total in
/-- A list that was sorted another way sorts as it would have before. -/
theorem mergeSort_of_isStableSort {le' : α → α → Bool} {as bs : List α}
    (hrev : ∀ a b, (le' a b && le' b a) = (le a b && le b a)) (h : IsStableSort le' as bs) :
    bs.mergeSort le = as.mergeSort le := by
  refine (IsStableSort.unique total (isStableSort_mergeSort trans total as) ?_).symm
  refine ⟨(List.mergeSort_perm bs le).trans h.perm, List.pairwise_mergeSort trans total bs, fun a => ?_⟩
  rw [ties_mergeSort trans total]
  simpa only [hrev] using h.ties a

/-- An ordered list without one of its elements: what stands before that element, if all of it lies
    strictly below. -/
theorem filter_below {b : α} {as cs : List α} (has : ∀ a ∈ as, (!le b a) = true)
    (h : (as ++ b :: cs).Pairwise fun a c => le a c = true) : (as ++ cs).filter (fun c => !le b c) = as := by
  have hcs : ∀ c ∈ cs, le b c = true := fun c hc => List.rel_of_pairwise_cons (List.pairwise_append.mp h).2.1 hc
  rw [List.filter_append, List.filter_eq_self.mpr has, List.filter_eq_nil_iff.mpr fun c hc => by simp [hcs c hc],
    List.append_nil]

/-- And what stands after it. -/
theorem filter_above {b : α} {as cs : List α} (has : ∀ a ∈ as, (!le b a) = true)
    (h : (as ++ b :: cs).Pairwise fun a c => le a c = true) : (as ++ cs).filter (le b ·) = cs := by
  have hcs : ∀ c ∈ cs, le b c = true := fun c hc => List.rel_of_pairwise_cons (List.pairwise_append.mp h).2.1 hc
  rw [List.filter_append, List.filter_eq_self.mpr hcs,
    List.filter_eq_nil_iff.mpr fun a ha => by simpa using has a ha, List.nil_append]

include trans total in
theorem mergeSort_sublist {as bs : List α} (h : as.Sublist bs) :
    (as.mergeSort le).Sublist (bs.mergeSort le) := by
  induction h with
  | slnil => exact List.Sublist.refl _
  | @cons as bs b _ ih =>
    obtain ⟨l₁, l₂, h₁, h₂, -⟩ := List.mergeSort_cons trans total b bs
    rw [h₁]
    rw [h₂] at ih
    exact ih.middle b
  | @cons_cons as bs b _ ih =>
    obtain ⟨l₁, l₂, h₁, h₂, hl⟩ := List.mergeSort_cons trans total b as
    obtain ⟨m₁, m₂, k₁, k₂, hm⟩ := List.mergeSort_cons trans total b bs
    have hl' := List.pairwise_mergeSort trans total (b :: as)
    have hm' := List.pairwise_mergeSort trans total (b :: bs)
    rw [h₁] at hl'
    rw [k₁] at hm'
    rw [h₂, k₂] at ih
    rw [h₁, k₁]
    -- both lists are cut at `b` into what does not lie above it and what does
    have hlow := ih.filter fun c => !le b c
    have hhigh := ih.filter (le b ·)
    rw [filter_below hl hl', filter_below hm hm'] at hlow
    rw [filter_above hl hl', filter_above hm hm'] at hhigh
    exact hlow.append (hhigh.cons_cons b)

include total in
/-- A strictly ascending list of elements of an ascending list is a sublist of it. -/
theorem sublist_of_strict {as bs : List α} (ha : as.Pairwise fun a b => le a b = true ∧ le b a = false)
    (hb : bs.Pairwise fun a b => le a b = true) (hsub : ∀ a ∈ as, a ∈ bs) : as.Sublist bs := by
  induction bs generalizing as with
  | nil =>
    cases as with
    | nil => exact List.Sublist.refl _
    | cons a as => exact absurd (hsub a List.mem_cons_self) List.not_mem_nil
  | cons b bs ih =>
    cases as with
    | nil => exact List.nil_sublist _
    | cons a as =>
      have hlt : ∀ c ∈ as, le a c = true ∧ le c a = false := fun c hc => List.rel_of_pairwise_cons ha hc
      by_cases hab : a = b
      · subst hab
        refine (ih ha.of_cons hb.of_cons fun c hc => ?_).cons_cons a
        rcases List.mem_cons.mp (hsub c (List.mem_cons_of_mem _ hc)) with rfl | h
        · have := (hlt c hc).2
          rw [le_refl_of_total total c] at this
          cases this
        · exact h
      · have hmem : a ∈ bs := (List.mem_cons.mp (hsub a List.mem_cons_self)).resolve_left hab
        refine (ih ha hb.of_cons fun c hc => ?_).cons b
        rcases List.mem_cons.mp hc with rfl | hc
        · exact hmem
        · rcases List.mem_cons.mp (hsub c (List.mem_cons_of_mem _ hc)) with rfl | h
          · have := (hlt c hc).2
            rw [List.rel_of_pairwise_cons hb hmem] at this
            cases this
          · exact h

include trans in
/-- Two strictly ascending lists whose elements tie with each other tie element by element. -/
theorem forall₂_of_strict {as bs : List α} (ha : as.Pairwise fun a b => le a b = true ∧ le b a = false)
    (hb : bs.Pairwise fun a b => le a b = true ∧ le b a = false)
    (hab : ∀ a ∈ as, ∃ b ∈ bs, (le a b && le b a) = true) (hba : ∀ b ∈ bs, ∃ a ∈ as, (le a b && le b a) = true) :
    List.Forall₂ (fun a b => (le a b && le b a) = true) as bs := by
  simp only [Bool.and_eq_true] at hab hba ⊢
  induction as generalizing bs with
  | nil =>
    cases bs with
    | nil => exact .nil
    | cons b bs =>
      obtain ⟨a, ha, -⟩ := hba b List.mem_cons_self
      exact absurd ha List.not_mem_nil
  | cons a as ih =>
    cases bs with
    | nil =>
      obtain ⟨b, hb, -⟩ := hab a List.mem_cons_self
      exact absurd hb List.not_mem_nil
    | cons b bs =>
      have halt : ∀ c ∈ as, le a c = true ∧ le c a = false := fun c hc => List.rel_of_pairwise_cons ha hc
      have hblt : ∀ c ∈ bs, le b c = true ∧ le c b = false := fun c hc => List.rel_of_pairwise_cons hb hc
      -- the heads tie: each is at most what ties with the other
      have hle : le a b = true := by
        obtain ⟨c, hc, hcb⟩ := hba b List.mem_cons_self
        rcases List.mem_cons.mp hc with rfl | hc
        · exact hcb.1
        · exact trans a c b (halt c hc).1 hcb.1
      have hge : le b a = true := by
        obtain ⟨c, hc, hac⟩ := hab a List.mem_cons_self
        rcases List.mem_cons.mp hc with rfl | hc
        · exact hac.2
        · exact trans b c a (hblt c hc).1 hac.2
      refine .cons ⟨hle, hge⟩ (ih ha.of_cons hb.of_cons (fun c hc => ?_) fun c hc => ?_)
      · obtain ⟨d, hd, hcd⟩ := hab c (List.mem_cons_of_mem _ hc)
        rcases List.mem_cons.mp hd with rfl | hd
        · have hca := trans c d a hcd.1 hge
          rw [(halt c hc).2] at hca
          cases hca
        · exact ⟨d, hd, hcd⟩
      · obtain ⟨d, hd, hdc⟩ := hba c (List.mem_cons_of_mem _ hc)
        rcases List.mem_cons.mp hd with rfl | hd
        · have hcb := trans c d b hdc.2 hle
          rw [(hblt c hc).2] at hcb
          cases hcb
        · exact ⟨d, hd, hdc⟩

end

/-! ## Versions in order -/

def Version.inOrder (reverse : Bool) (v w : Version) : Bool := if reverse then w.atMost v else v.atMost w

namespace Version

theorem inOrder_trans (reverse : Bool) (u v w : Version) (huv : inOrder reverse u v = true)
    (hvw : inOrder reverse v w = true) : inOrder reverse u w = true := by
  cases reverse with
  | false => exact atMost_trans u v w huv hvw
  | true => exact atMost_trans w v u hvw huv

theorem inOrder_total (reverse : Bool) (v w : Version) : (inOrder reverse v w || inOrder reverse w v) = true := by
  cases reverse with
  | false => exact atMost_total v w
  | true => exact atMost_total w v

/-- Versions tie exactly when they are equal, whichever way they are ordered. -/
theorem inOrder_ties (reverse : Bool) (v w : Version) :
    (inOrder reverse v w && inOrder reverse w v) = (v == w) := by
  have hties : (v.atMost w && w.atMost v) = (v == w) := isLE_ties v w
  cases reverse with
  | false => exact hties
  | true => rw [← hties, Bool.and_comm]; rfl

end Version

theorem sorted_eq_mergeSort (reverse : Bool) (vs : List Version) :
    sorted reverse vs = vs.mergeSort (Version.inOrder reverse) := by
  cases reverse <;> rfl

theorem sorted_isStableSort (reverse : Bool) (vs : List Version) :
    IsStableSort (Version.inOrder reverse) vs (sorted reverse vs) := by
  rw [sorted_eq_mergeSort]
  exact isStableSort_mergeSort (Version.inOrder_trans reverse) (Version.inOrder_total reverse) vs

theorem sorted_perm (reverse : Bool) (vs : List Version) : (sorted reverse vs).Perm vs :=
  (sorted_isStableSort reverse vs).perm

theorem sorted_ordered (reverse : Bool) (vs : List Version) :
    (sorted reverse vs).Pairwise fun v w => Version.inOrder reverse v w = true :=
  (sorted_isStableSort reverse vs).ordered

theorem find?_sorted (reverse : Bool) (vs : List Version) (w : Version) :
    (sorted reverse vs).find? (· == w) = vs.find? (· == w) := by
  have hfind := (sorted_isStableSort reverse vs).find?_eq w
  simp only [Version.inOrder_ties, BEq.comm (a := w)] at hfind
  exact hfind

/-- Of two sorts the second one decides. -/
theorem sorted_sorted (reverse reverse' : Bool) (vs : List Version) :
    sorted reverse (sorted reverse' vs) = sorted reverse vs := by
  rw [sorted_eq_mergeSort, sorted_eq_mergeSort reverse vs]
  refine mergeSort_of_isStableSort (Version.inOrder_trans reverse) (Version.inOrder_total reverse)
    (fun v w => ?_) (sorted_isStableSort reverse' vs)
  rw [Version.inOrder_ties, Version.inOrder_ties]

theorem sorted_sublist (reverse : Bool) {vs ws : List Version} (h : vs.Sublist ws) :
    (sorted reverse vs).Sublist (sorted reverse ws) := by
  rw [sorted_eq_mergeSort, sorted_eq_mergeSort]
  exact mergeSort_sublist (Version.inOrder_trans reverse) (Version.inOrder_total reverse) h

/-! ## Ascending lists -/

theorem isAscending_iff {vs : List Version} :
    isAscending vs = true ↔ vs.Pairwise fun v w => v.atMost w = true := by
  induction vs with
  | nil => simp [isAscending]
  | cons v vs ih =>
    cases vs with
    | nil => simp [isAscending]
    | cons w vs =>
      rw [isAscending, Bool.and_eq_true, ih]
      constructor
      · intro h
        obtain ⟨hvw, h⟩ := h
        refine List.Pairwise.cons (fun u hu => ?_) h
        rcases List.mem_cons.mp hu with rfl | hu
        · exact hvw
        · exact Version.atMost_trans v w u hvw (List.rel_of_pairwise_cons h hu)
      · intro h
        exact ⟨List.rel_of_pairwise_cons h List.mem_cons_self, h.of_cons⟩

theorem isAscending_of_sublist {vs ws : List Version} (h : vs.Sublist ws) (hw : isAscending ws = true) :
    isAscending vs = true :=
  isAscending_iff.mpr ((isAscending_iff.mp hw).sublist h)

theorem isAscending_ascending (vs : List Version) : isAscending (ascending vs) = true :=
  isAscending_iff.mpr (sorted_ordered false vs)

end VersionPick
