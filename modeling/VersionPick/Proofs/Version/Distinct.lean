/-
  VersionPick.Proofs.Version.Distinct — the distinct values of a list, and how many
  there are.

  Values may be equal without being the same, so a list of distinct values is one in
  which no two are `==`. There are two of them: `eraseDups` keeps the first of equal
  values where it stands, and `distinct` also sorts what it keeps, which then ascends
  strictly (`distinct_strict`). Both stand for every value of the list, and so they
  are equally long, as any two such lists are (`length_eq_of_represents`).

  What `eraseDups` leaves is also said step by step, from the front of the list to its
  end (`FirstOfEquals`). Of two lists put together it depends on nothing but what it
  leaves of each (`eraseDups_append_congr`).
-/

import Mathlib.Data.List.Induction
import VersionPick.Proofs.Version.Sorting

namespace VersionPick

open Std

variable {α : Type} [BEq α]

/-! ## Lists that stand for each other -/

def Represents (as bs : List α) : Prop := ∀ b ∈ bs, ∃ a ∈ as, (a == b) = true

def Differ (as : List α) : Prop := as.Pairwise fun a b => (a == b) = false

theorem length_le_of_represents [EquivBEq α] {as bs : List α} (hb : Differ bs) (h : Represents as bs) :
    bs.length ≤ as.length := by
  induction bs generalizing as with
  | nil => simp
  | cons b bs ih =>
    obtain ⟨a, ha, hab⟩ := h b List.mem_cons_self
    obtain ⟨pre, post, rfl⟩ := List.append_of_mem ha
    -- `a` stands for `b` and for nothing else of `bs`
    have hrest : Represents (pre ++ post) bs := by
      intro c hc
      obtain ⟨d, hd, hdc⟩ := h c (List.mem_cons_of_mem _ hc)
      refine ⟨d, ?_, hdc⟩
      rcases List.mem_append.mp hd with hd | hd
      · exact List.mem_append_left _ hd
      · rcases List.mem_cons.mp hd with rfl | hd
        · have hbc : (b == c) = false := List.rel_of_pairwise_cons hb hc
          rw [BEq.trans (BEq.symm hab) hdc] at hbc
          cases hbc
        · exact List.mem_append_right _ hd
    have := ih hb.of_cons hrest
    simp only [List.length_append, List.length_cons] at this ⊢
    omega

theorem length_eq_of_represents [EquivBEq α] {as bs : List α} (ha : Differ as) (hb : Differ bs)
    (hab : Represents as bs) (hba : Represents bs as) : as.length = bs.length :=
  Nat.le_antisymm (length_le_of_represents ha hba) (length_le_of_represents hb hab)

/-! ## The first of equal values -/

theorem eraseDups_sublist : ∀ as : List α, as.eraseDups.Sublist as
  | [] => List.Sublist.refl _
  | a :: as => by
    rw [List.eraseDups_cons]
    exact ((eraseDups_sublist _).trans List.filter_sublist).cons_cons a
termination_by as => as.length
decreasing_by exact Nat.lt_succ_of_le (List.length_filter_le _ _)

theorem differ_eraseDups [EquivBEq α] : ∀ as : List α, Differ as.eraseDups
  | [] => List.Pairwise.nil
  | a :: as => by
    rw [List.eraseDups_cons]
    refine List.Pairwise.cons (fun b hb => ?_) (differ_eraseDups _)
    have hmem := (eraseDups_sublist _).subset hb
    have hba : (b == a) = false := by simpa using (List.mem_filter.mp hmem).2
    rwa [BEq.comm]
termination_by as => as.length
decreasing_by exact Nat.lt_succ_of_le (List.length_filter_le _ _)

theorem represents_eraseDups [EquivBEq α] : ∀ as : List α, Represents as.eraseDups as
  | [] => fun _ hb => absurd hb List.not_mem_nil
  | a :: as => by
    intro b hb
    rw [List.eraseDups_cons]
    by_cases hba : (b == a) = true
    · exact ⟨a, List.mem_cons_self, BEq.symm hba⟩
    · have hb' : b ∈ as.filter fun c => !c == a := by
        rcases List.mem_cons.mp hb with rfl | hb
        · exact absurd BEq.rfl hba
        · exact List.mem_filter.mpr ⟨hb, by simpa using hba⟩
      obtain ⟨c, hc, hcb⟩ := represents_eraseDups _ b hb'
      exact ⟨c, List.mem_cons_of_mem _ hc, hcb⟩
termination_by as => as.length
decreasing_by exact Nat.lt_succ_of_le (List.length_filter_le _ _)

/-- How many values differ is a matter of which there are, and not of their order. -/
theorem length_eraseDups_of_perm [EquivBEq α] {as bs : List α} (h : as.Perm bs) :
    as.eraseDups.length = bs.eraseDups.length := by
  refine length_eq_of_represents (differ_eraseDups as) (differ_eraseDups bs) ?_ ?_
  · intro b hb
    exact represents_eraseDups as b (h.mem_iff.mpr ((eraseDups_sublist bs).subset hb))
  · intro a ha
    exact represents_eraseDups bs a (h.mem_iff.mp ((eraseDups_sublist as).subset ha))

theorem any_eraseDups [EquivBEq α] (as : List α) (b : α) : as.eraseDups.any (· == b) = as.any (· == b) := by
  rw [Bool.eq_iff_iff, List.any_eq_true, List.any_eq_true]
  constructor
  · rintro ⟨a, ha, hab⟩
    exact ⟨a, (eraseDups_sublist as).subset ha, hab⟩
  · rintro ⟨a, ha, hab⟩
    obtain ⟨c, hc, hca⟩ := represents_eraseDups as a ha
    exact ⟨c, hc, BEq.trans hca hab⟩

theorem eraseDups_of_differ [EquivBEq α] {as : List α} (h : Differ as) : as.eraseDups = as := by
  induction as with
  | nil => rfl
  | cons a as ih =>
    have hself : as.filter (fun b => !b == a) = as := by
      refine List.filter_eq_self.mpr fun b hb => ?_
      have hab : (a == b) = false := List.rel_of_pairwise_cons h hb
      rw [BEq.comm, hab]
      rfl
    rw [List.eraseDups_cons, hself, ih h.of_cons]

/-- Values may be left out before or after, if equal ones are left out together. -/
theorem eraseDups_filter [EquivBEq α] {keep : α → Bool} (hkeep : ∀ a b, (a == b) = true → keep a = keep b) :
    ∀ as : List α, (as.filter keep).eraseDups = as.eraseDups.filter keep
  | [] => rfl
  | a :: as => by
    have ih := eraseDups_filter hkeep (as.filter fun b => !b == a)
    rw [List.eraseDups_cons, List.filter_cons, List.filter_cons]
    cases ha : keep a with
    | true =>
      rw [if_pos rfl, if_pos rfl, List.eraseDups_cons, ← ih, List.filter_filter, List.filter_filter]
      simp only [Bool.and_comm]
    | false =>
      -- nothing that is kept is equal to `a`
      have hne : ∀ b ∈ as, (keep b && !b == a) = keep b := by
        intro b _
        cases hba : b == a with
        | false => simp
        | true => simp [hkeep b a hba, ha]
      rw [if_neg Bool.false_ne_true, if_neg Bool.false_ne_true, ← ih, List.filter_filter, List.filter_congr hne]
termination_by as => as.length
decreasing_by exact Nat.lt_succ_of_le (List.length_filter_le _ _)

/-- Of a list that follows another, what is equal to nothing in the other is left. -/
theorem eraseDups_append [EquivBEq α] :
    ∀ as bs : List α, (as ++ bs).eraseDups = as.eraseDups ++ bs.eraseDups.filter fun b => !as.any (· == b)
  | [], bs => (List.filter_eq_self.mpr fun _ _ => rfl).symm
  | a :: as, bs => by
    have hsame : ∀ b c : α, (b == c) = true → (!b == a) = !c == a := fun b c h => by rw [BEq.congr_left h]
    rw [List.cons_append, List.eraseDups_cons, List.eraseDups_cons, List.cons_append, List.filter_append,
      eraseDups_append (as.filter fun b => !b == a), eraseDups_filter hsame bs, List.filter_filter]
    congr 2
    refine List.filter_congr fun b _ => ?_
    rw [List.any_cons, List.any_filter, BEq.comm (a := a)]
    cases hba : b == a with
    | true => simp
    | false =>
      -- what is equal to `b` is then not equal to `a`
      have hany : ∀ c, (!(c == a) && c == b) = (c == b) := fun c => by
        cases hcb : c == b with
        | true => simp [BEq.congr_left hcb, hba]
        | false => simp
      simp [hany]
termination_by as => as.length
decreasing_by exact Nat.lt_succ_of_le (List.length_filter_le _ _)

theorem eraseDups_append_congr [EquivBEq α] {as as' bs bs' : List α} (ha : as.eraseDups = as'.eraseDups)
    (hb : bs.eraseDups = bs'.eraseDups) : (as ++ bs).eraseDups = (as' ++ bs').eraseDups := by
  have hany : ∀ b, as.any (· == b) = as'.any (· == b) := fun b => by
    rw [← any_eraseDups as, ha, any_eraseDups as']
  rw [eraseDups_append, eraseDups_append, ha, hb]
  simp only [hany]

theorem eraseDups_map {β : Type} [BEq β] {f : α → β} (hf : ∀ a b, (f a == f b) = (a == b)) :
    ∀ as : List α, (as.map f).eraseDups = as.eraseDups.map f
  | [] => rfl
  | a :: as => by
    have hfilter : (as.map f).filter (fun b => !b == f a) = (as.filter fun b => !b == a).map f := by
      rw [List.filter_map]
      exact congrArg (List.map f) (List.filter_congr fun b _ => by simp [hf])
    rw [List.map_cons, List.eraseDups_cons, hfilter, eraseDups_map hf, List.eraseDups_cons, List.map_cons]
termination_by as => as.length
decreasing_by exact Nat.lt_succ_of_le (List.length_filter_le _ _)

/-- What is left of a list when every value is dropped that is equal to one before it. -/
inductive FirstOfEquals : List α → List α → Prop
  | nil : FirstOfEquals [] []
  | first {as bs : List α} {a : α} (h : FirstOfEquals as bs) (hnew : ∀ b ∈ as, (b == a) = false) :
      FirstOfEquals (as ++ [a]) (bs ++ [a])
  | again {as bs : List α} {a : α} (h : FirstOfEquals as bs) (hold : ∃ b ∈ as, (b == a) = true) :
      FirstOfEquals (as ++ [a]) bs

theorem firstOfEquals_eraseDups [EquivBEq α] (as : List α) : FirstOfEquals as as.eraseDups := by
  induction as using List.reverseRecOn with
  | nil => exact .nil
  | append_singleton as a ih =>
    have hlast : [a].eraseDups = [a] := rfl
    rw [eraseDups_append, hlast, List.filter_cons, List.filter_nil]
    cases hany : as.any (· == a) with
    | false => exact .first ih fun b hb => by simpa using List.any_eq_false.mp hany b hb
    | true => simpa using FirstOfEquals.again ih (List.any_eq_true.mp hany)

/-- A value that is left is the first of its equals. -/
theorem FirstOfEquals.find?_eq [ReflBEq α] {as bs : List α} (h : FirstOfEquals as bs) {b : α} (hb : b ∈ bs) :
    as.find? (· == b) = some b := by
  induction h with
  | nil => exact absurd hb List.not_mem_nil
  | @first as bs a h hnew ih =>
    rw [List.find?_append]
    rcases List.mem_append.mp hb with hb | hb
    · rw [ih hb, Option.some_or]
    · obtain rfl := List.mem_singleton.mp hb
      rw [List.find?_eq_none.mpr fun c hc => by simp [hnew c hc], Option.none_or]
      simp
  | again _ _ ih => rw [List.find?_append, ih hb, Option.some_or]

/-! ## The distinct values of a list -/

theorem eraseReps_cons_cons (a b : α) (as : List α) :
    (a :: b :: as).eraseReps = if a == b then (a :: as).eraseReps else a :: (b :: as).eraseReps := by
  have hloop : ∀ (as : List α) (a : α) (acc : List α), List.eraseRepsBy.loop (· == ·) a as acc =
      acc.reverse ++ List.eraseRepsBy.loop (· == ·) a as [] := by
    intro as
    induction as with
    | nil => intro a acc; simp [List.eraseRepsBy.loop]
    | cons b as ih =>
      intro a acc
      simp only [List.eraseRepsBy.loop]
      split
      · exact ih a acc
      · rw [ih b (a :: acc), ih b [a]]
        simp
  simp only [List.eraseReps, List.eraseRepsBy, List.eraseRepsBy.loop]
  cases a == b with
  | true => rfl
  | false => exact hloop as b [a]

theorem eraseReps_sublist (as : List α) : as.eraseReps.Sublist as := by
  cases as with
  | nil => exact List.Sublist.refl _
  | cons a as =>
    induction as generalizing a with
    | nil => exact List.Sublist.refl _
    | cons b as ih =>
      rw [eraseReps_cons_cons]
      split
      · exact (ih a).trans ((List.sublist_cons_self b as).cons_cons a)
      · exact (ih b).cons_cons a

theorem represents_eraseReps [EquivBEq α] (as : List α) : Represents as.eraseReps as := by
  cases as with
  | nil => exact fun _ hb => absurd hb List.not_mem_nil
  | cons a as =>
    induction as generalizing a with
    | nil => exact fun b hb => ⟨b, hb, BEq.rfl⟩
    | cons b as ih =>
      rw [eraseReps_cons_cons]
      intro c hc
      split
      · rename_i hab
        obtain ⟨d, hd, hda⟩ := ih a a List.mem_cons_self
        rcases List.mem_cons.mp hc with rfl | hc
        · exact ⟨d, hd, hda⟩
        · rcases List.mem_cons.mp hc with rfl | hc
          · exact ⟨d, hd, BEq.trans hda hab⟩
          · exact ih a c (List.mem_cons_of_mem _ hc)
      · rcases List.mem_cons.mp hc with rfl | hc
        · exact ⟨c, List.mem_cons_self, BEq.rfl⟩
        · obtain ⟨d, hd, hdc⟩ := ih b c hc
          exact ⟨d, List.mem_cons_of_mem _ hd, hdc⟩

variable [Ord α] [TransOrd α] [LawfulBEqOrd α]

/-- Without repetitions an ascending list ascends strictly. -/
theorem eraseReps_strict {as : List α} (h : as.Pairwise fun a b => (compare a b).isLE = true) :
    as.eraseReps.Pairwise fun a b => compare a b = .lt := by
  cases as with
  | nil => exact List.Pairwise.nil
  | cons a as =>
    induction as generalizing a with
    | nil => exact List.pairwise_singleton _ _
    | cons b as ih =>
      rw [eraseReps_cons_cons]
      split
      · exact ih a (h.sublist ((List.sublist_cons_self b as).cons_cons a))
      · rename_i hab
        refine List.Pairwise.cons (fun c hc => ?_) (ih b h.of_cons)
        have hle : (compare a b).isLE = true := List.rel_of_pairwise_cons h List.mem_cons_self
        have hlt : compare a b = .lt := by
          rcases Ordering.isLE_iff_eq_lt_or_eq_eq.mp hle with hlt | heq
          · exact hlt
          · exact absurd (compare_eq_iff_beq.mp heq) hab
        rcases List.mem_cons.mp ((eraseReps_sublist _).subset hc) with rfl | hc
        · exact hlt
        · exact TransCmp.lt_of_lt_of_isLE hlt (List.rel_of_pairwise_cons h.of_cons hc)

omit [TransOrd α] in
theorem differ_of_strict {as : List α} (h : as.Pairwise fun a b => compare a b = .lt) : Differ as := by
  refine h.imp fun hab => ?_
  rw [← compare_beq_eq_beq, hab]
  rfl

/-- In an ascending list equal values are neighbours, so that the first of them is left. -/
theorem find?_of_mem_eraseReps {as : List α} (h : as.Pairwise fun a b => (compare a b).isLE = true) {c : α}
    (hc : c ∈ as.eraseReps) : as.find? (· == c) = some c := by
  cases as with
  | nil => exact absurd hc List.not_mem_nil
  | cons a as =>
    induction as generalizing a with
    | nil =>
      obtain rfl : c = a := List.mem_singleton.mp hc
      simp
    | cons b as ih =>
      have hstrict := eraseReps_strict h
      rw [eraseReps_cons_cons] at hc hstrict
      split at hc
      · rename_i hab
        -- what is equal to `b` was found at `a` already
        have hfound := ih a (h.sublist ((List.sublist_cons_self b as).cons_cons a)) hc
        rw [List.find?_cons] at hfound ⊢
        rw [List.find?_cons, ← BEq.congr_left hab]
        cases hac : a == c with
        | true => simpa [hac] using hfound
        | false => simpa [hac] using hfound
      · rename_i hab
        rw [if_neg hab] at hstrict
        rcases List.mem_cons.mp hc with rfl | hc
        · simp
        · have hac : (a == c) = false := List.rel_of_pairwise_cons (differ_of_strict hstrict) hc
          rw [List.find?_cons, hac]
          exact ih b h.of_cons hc

omit [BEq α] [LawfulBEqOrd α] in
theorem isStableSort_compare (as : List α) : IsStableSort (fun a b => (compare a b).isLE) as
    (as.mergeSort fun a b => (compare a b).isLE) := by
  have htrans : ∀ a b c : α, (compare a b).isLE = true → (compare b c).isLE = true → (compare a c).isLE = true :=
    fun _ _ _ => TransOrd.isLE_trans
  exact isStableSort_mergeSort htrans isLE_total as

theorem distinct_strict (as : List α) : (distinct as).Pairwise fun a b => compare a b = .lt :=
  eraseReps_strict (isStableSort_compare as).ordered

omit [TransOrd α] [LawfulBEqOrd α] in
theorem mem_of_mem_distinct {a : α} {as : List α} (h : a ∈ distinct as) : a ∈ as :=
  List.mem_mergeSort.mp ((eraseReps_sublist _).subset h)

theorem represents_distinct (as : List α) : Represents (distinct as) as :=
  fun _ hb => represents_eraseReps _ _ (List.mem_mergeSort.mpr hb)

theorem mem_distinct_iff [LawfulBEq α] {a : α} {as : List α} : a ∈ distinct as ↔ a ∈ as := by
  refine ⟨mem_of_mem_distinct, fun h => ?_⟩
  obtain ⟨b, hb, hba⟩ := represents_distinct as a h
  rwa [← eq_of_beq hba]

theorem differ_distinct (as : List α) : Differ (distinct as) := differ_of_strict (distinct_strict as)

/-- There are as many distinct values as there are values of which none is equal to one before it. -/
theorem length_distinct (as : List α) : (distinct as).length = as.eraseDups.length := by
  refine length_eq_of_represents (differ_distinct as) (differ_eraseDups as) ?_ ?_
  · intro a ha
    exact represents_distinct as a ((eraseDups_sublist as).subset ha)
  · intro a ha
    exact represents_eraseDups as a (mem_of_mem_distinct ha)

/-- Of equal values the first in the list stands for the others. -/
theorem find?_of_mem_distinct {as : List α} {a : α} (h : a ∈ distinct as) : as.find? (· == a) = some a := by
  have hsort := isStableSort_compare as
  have hfound := find?_of_mem_eraseReps hsort.ordered h
  have hfirst := hsort.find?_eq a
  simp only [isLE_ties, BEq.comm (a := a)] at hfirst
  rw [← hfirst, hfound]

end VersionPick
