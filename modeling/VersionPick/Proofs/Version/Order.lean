/-
  VersionPick.Proofs.Version.Order — patches and versions are ordered totally, and
  two of them compare as equal exactly when they are equal.

  Neither the order nor equality looks at how a version was written, so equal
  versions need not be the same; what holds of every order is used through the
  classes `TransOrd` (a total preorder) and `LawfulBEqOrd` (its ties are what `==`
  says). All that order, equality and hashing look at is the identity of a patch or a
  version (`ConsistentOrder`).

  Which of two patches comes first is a matter of five rules (`Patch.Below`).
-/

import VersionPick.Version.Sorting

namespace VersionPick

open Std

theorem isLE_total {α : Type} [Ord α] [OrientedOrd α] (a b : α) :
    ((compare a b).isLE || (compare b a).isLE) = true := by
  rw [OrientedOrd.eq_swap (a := b)]
  cases compare a b <;> rfl

/-- Values tie exactly when they are equal. -/
theorem isLE_ties {α : Type} [Ord α] [BEq α] [OrientedOrd α] [LawfulBEqOrd α] (a b : α) :
    ((compare a b).isLE && (compare b a).isLE) = (a == b) := by
  rw [← compare_beq_eq_beq, OrientedOrd.eq_swap (a := b)]
  cases compare a b <;> rfl

/-! ## Patches -/

instance : TransOrd Patch :=
  inferInstanceAs (TransCmp (compareLex (compareOn fun p : Patch => !p.isEmpty)
    (compareLex (compareOn Patch.number)
      (compareLex (compareOn Patch.isRelease) (compareOn Patch.suffix)))))

theorem Patch.beq_iff {p q : Patch} : (p == q) = true ↔ p.number = q.number ∧ p.suffix = q.suffix := by
  change (p.number == q.number && p.suffix == q.suffix) = true ↔ _
  simp

theorem Patch.compare_eq_iff {p q : Patch} :
    compare p q = .eq ↔ p.number = q.number ∧ p.suffix = q.suffix := by
  change compareLex (compareOn fun p : Patch => !p.isEmpty) (compareLex (compareOn Patch.number)
    (compareLex (compareOn Patch.isRelease) (compareOn Patch.suffix))) p q = .eq ↔ _
  simp only [compareLex_eq_eq, compareOn, Std.compare_eq_iff_eq]
  constructor
  · intro h
    obtain ⟨-, hn, -, hs⟩ := h
    exact ⟨hn, hs⟩
  · intro h
    obtain ⟨hn, hs⟩ := h
    refine ⟨?_, hn, ?_, hs⟩
    · simp [Patch.isEmpty, hn, hs]
    · simp [Patch.isRelease, hs]

instance : LawfulBEqOrd Patch where
  compare_eq_iff_beq := Patch.compare_eq_iff.trans Patch.beq_iff.symm

/-! ## Which patch comes first -/

namespace Patch

/-- The patch that is missing comes before every other one, and a patch without a number before every
    numbered one. Numbered patches come by their numbers; of one number, those with a suffix come
    before the one without. What is left comes by suffix. -/
inductive Below (p q : Patch) : Prop
  | missing (hp : p.number = none ∧ p.suffix = "") (hq : ¬ (q.number = none ∧ q.suffix = ""))
  | unnumbered {n : Nat} (hp : p.number = none) (hq : q.number = some n)
  | smaller {m n : Nat} (hp : p.number = some m) (hq : q.number = some n) (h : m < n)
  | suffixed {n : Nat} (hp : p.number = some n) (hq : q.number = some n) (hp' : p.suffix ≠ "") (hq' : q.suffix = "")
  | suffix (h : p.number = q.number) (hp : p.suffix ≠ "") (hq : q.suffix ≠ "") (hlt : p.suffix < q.suffix)

theorem compare_def (p q : Patch) :
    compare p q = (compare (!p.isEmpty) (!q.isEmpty)).then ((compare p.number q.number).then
      ((compare p.isRelease q.isRelease).then (compare p.suffix q.suffix))) := rfl

@[simp] theorem isEmpty_iff {p : Patch} : p.isEmpty = true ↔ p.number = none ∧ p.suffix = "" := by
  simp [isEmpty]

@[simp] theorem isRelease_iff {p : Patch} : p.isRelease = true ↔ p.suffix = "" := by
  simp [isRelease]

theorem isEmpty_of_number {p : Patch} {n : Nat} (h : p.number = some n) : p.isEmpty = false := by
  simp [isEmpty, h]

theorem isEmpty_of_suffix {p : Patch} (h : p.suffix ≠ "") : p.isEmpty = false := by
  simp [isEmpty, h]

theorem compare_bool_eq_lt_iff {a b : Bool} : compare a b = .lt ↔ a = false ∧ b = true := by
  cases a <;> cases b <;> decide

theorem compare_number_eq_lt_iff {m n : Option Nat} :
    compare m n = .lt ↔ (m = none ∧ ∃ k, n = some k) ∨ ∃ j k, m = some j ∧ n = some k ∧ j < k := by
  cases m with
  | none => cases n <;> simp [compare]
  | some j =>
    cases n with
    | none => simp [compare]
    | some k =>
      change compare j k = .lt ↔ _
      simp [Nat.compare_eq_lt]

/-- The steps of the comparison, each of which decides if those before it do not. -/
theorem compare_eq_lt_iff {p q : Patch} :
    compare p q = .lt ↔ (p.isEmpty = true ∧ q.isEmpty = false) ∨ p.isEmpty = q.isEmpty ∧
      (((p.number = none ∧ ∃ k, q.number = some k) ∨ ∃ j k, p.number = some j ∧ q.number = some k ∧ j < k) ∨
        p.number = q.number ∧ ((p.suffix ≠ "" ∧ q.suffix = "") ∨
          (p.suffix = "" ↔ q.suffix = "") ∧ p.suffix < q.suffix)) := by
  have hsuffix : compare p.suffix q.suffix = .lt ↔ p.suffix < q.suffix := compareOfLessAndEq_eq_lt
  have hempty : (!p.isEmpty) = (!q.isEmpty) ↔ p.isEmpty = q.isEmpty := by simp
  have hrelease : p.isRelease = q.isRelease ↔ (p.suffix = "" ↔ q.suffix = "") := by
    rw [Bool.eq_iff_iff]
    simp
  rw [compare_def, Ordering.then_eq_lt, Ordering.then_eq_lt, Ordering.then_eq_lt, compare_bool_eq_lt_iff,
    compare_bool_eq_lt_iff, compare_number_eq_lt_iff, hsuffix, Std.compare_eq_iff_eq, Std.compare_eq_iff_eq,
    Std.compare_eq_iff_eq, hempty, hrelease, isRelease_iff, ← Bool.not_eq_true p.isRelease, isRelease_iff]
  simp

theorem compare_eq_lt_iff_below {p q : Patch} : compare p q = .lt ↔ Below p q := by
  rw [compare_eq_lt_iff]
  constructor
  · rintro (⟨hp, hq⟩ | ⟨hempty, (⟨hp, n, hq⟩ | ⟨m, n, hp, hq, hlt⟩) | ⟨hnum, ⟨hp, hq⟩ | ⟨hrelease, hlt⟩⟩⟩)
    · exact .missing (isEmpty_iff.mp hp) (mt isEmpty_iff.mpr (by simp [hq]))
    · exact .unnumbered hp hq
    · exact .smaller hp hq hlt
    · cases hn : q.number with
      | none =>
        -- without numbers the one that has no suffix is missing, and then so is the other
        rw [isEmpty_iff.mpr ⟨hn, hq⟩] at hempty
        exact absurd (isEmpty_iff.mp hempty).2 hp
      | some n => exact .suffixed (hnum.trans hn) hn hp hq
    · have hp : p.suffix ≠ "" := by
        intro hp
        rw [hp, hrelease.mp hp] at hlt
        exact absurd hlt (String.lt_irrefl _)
      exact .suffix hnum hp (mt hrelease.mpr hp) hlt
  · intro h
    cases h with
    | missing hp hq => exact Or.inl ⟨isEmpty_iff.mpr hp, Bool.eq_false_iff.mpr (mt isEmpty_iff.mp hq)⟩
    | @unnumbered n hp hq =>
      have hq' := isEmpty_of_number hq
      by_cases hempty : p.isEmpty = true
      · exact Or.inl ⟨hempty, hq'⟩
      · exact Or.inr ⟨(Bool.eq_false_iff.mpr hempty).trans hq'.symm, Or.inl (Or.inl ⟨hp, n, hq⟩)⟩
    | @smaller m n hp hq h =>
      exact Or.inr ⟨(isEmpty_of_number hp).trans (isEmpty_of_number hq).symm, Or.inl (Or.inr ⟨m, n, hp, hq, h⟩)⟩
    | suffixed hp hq hp' hq' =>
      exact Or.inr ⟨(isEmpty_of_number hp).trans (isEmpty_of_number hq).symm,
        Or.inr ⟨hp.trans hq.symm, Or.inl ⟨hp', hq'⟩⟩⟩
    | suffix h hp hq hlt =>
      exact Or.inr ⟨(isEmpty_of_suffix hp).trans (isEmpty_of_suffix hq).symm,
        Or.inr ⟨h, Or.inr ⟨iff_of_false hp hq, hlt⟩⟩⟩

end Patch

/-! ## Versions -/

namespace Version

instance : TransOrd Version :=
  inferInstanceAs (TransCmp (compareLex (compareOn fun v : Version => v.major.value)
    (compareLex (compareOn fun v : Version => v.minor.value) (compareOn Version.patch))))

theorem compare_def (v w : Version) :
    compare v w = (compare v.major.value w.major.value).then
      ((compare v.minor.value w.minor.value).then (compare v.patch w.patch)) := rfl

theorem beq_iff {v w : Version} :
    (v == w) = true ↔
      v.major.value = w.major.value ∧ v.minor.value = w.minor.value ∧ (v.patch == w.patch) = true := by
  change (v.major.value == w.major.value && v.minor.value == w.minor.value && v.patch == w.patch) = true ↔ _
  simp [and_assoc]

instance : LawfulBEqOrd Version where
  compare_eq_iff_beq {v w} := by
    rw [compare_def, beq_iff, Ordering.then_eq_eq, Ordering.then_eq_eq, Std.compare_eq_iff_eq,
      Std.compare_eq_iff_eq, compare_eq_iff_beq]

theorem atMost_iff {v w : Version} : v.atMost w = true ↔ (compare v w).isLE = true := Iff.rfl

theorem atMost_trans (u v w : Version) (huv : u.atMost v = true) (hvw : v.atMost w = true) :
    u.atMost w = true := TransOrd.isLE_trans huv hvw

theorem atMost_total (v w : Version) : (v.atMost w || w.atMost v) = true := isLE_total v w

/-- An ascending list is ascending in its majors. -/
theorem major_le_of_atMost {v w : Version} (h : v.atMost w = true) : v.major.value ≤ w.major.value := by
  rw [atMost_iff, compare_def, Ordering.isLE_then_iff_and] at h
  exact Nat.isLE_compare.mp h.1

/-- Among versions of one major, an ascending list is ascending in its minors. -/
theorem minor_le_of_atMost {v w : Version} (h : v.atMost w = true)
    (hm : v.major.value = w.major.value) : v.minor.value ≤ w.minor.value := by
  have hc : compare v.major.value w.major.value = .eq := Std.compare_eq_iff_eq.mpr hm
  rw [atMost_iff, compare_def, hc, Ordering.eq_then, Ordering.isLE_then_iff_and] at h
  exact Nat.isLE_compare.mp h.1

end Version

/-! ## What order, equality and hashing look at -/

/-- A comparison that orders totally and whose ties are the equal values. Of a value, neither it nor
    equality nor hashing looks at more than its identity. -/
structure ConsistentOrder {α ι : Type} [Ord α] [BEq α] [Hashable α] [Hashable ι]
    (partialCompare : α → α → Option Ordering) (identity : α → ι) : Prop where
  swap : ∀ a b : α, compare b a = (compare a b).swap
  trans : ∀ a b c : α, (compare a b).isLE = true → (compare b c).isLE = true → (compare a c).isLE = true
  eq_iff_beq : ∀ a b : α, compare a b = .eq ↔ (a == b) = true
  partialCompare_eq : ∀ a b : α, partialCompare a b = some (compare a b)
  beq_iff : ∀ a b : α, (a == b) = true ↔ identity a = identity b
  hash_eq : ∀ a : α, hash a = hash (identity a)
  compare_congr : ∀ a a' b b' : α, identity a = identity a' → identity b = identity b' → compare a b = compare a' b'

theorem ConsistentOrder.of_beq_iff {α ι : Type} [Ord α] [BEq α] [Hashable α] [Hashable ι] [TransOrd α]
    [LawfulBEqOrd α] {partialCompare : α → α → Option Ordering} {identity : α → ι}
    (partialCompare_eq : ∀ a b : α, partialCompare a b = some (compare a b))
    (beq_iff : ∀ a b : α, (a == b) = true ↔ identity a = identity b)
    (hash_eq : ∀ a : α, hash a = hash (identity a)) : ConsistentOrder partialCompare identity where
  swap _ _ := OrientedOrd.eq_swap
  trans _ _ _ := TransOrd.isLE_trans
  eq_iff_beq _ _ := compare_eq_iff_beq
  partialCompare_eq := partialCompare_eq
  beq_iff := beq_iff
  hash_eq := hash_eq
  compare_congr a a' b b' ha hb := by
    have ha' : compare a a' = .eq := compare_eq_iff_beq.mpr ((beq_iff a a').mpr ha)
    have hb' : compare b b' = .eq := compare_eq_iff_beq.mpr ((beq_iff b b').mpr hb)
    rw [TransCmp.congr_left ha', TransCmp.congr_right hb']

theorem Patch.beq_iff_identity (p q : Patch) : (p == q) = true ↔ p.identity = q.identity := by
  rw [beq_iff, identity, identity, Prod.mk.injEq]

theorem Version.identity_eq_iff (v w : Version) :
    v.identity = w.identity ↔ v.major.value = w.major.value ∧ v.minor.value = w.minor.value ∧
      v.patch.number = w.patch.number ∧ v.patch.suffix = w.patch.suffix := by
  simp only [identity, Patch.identity, Prod.mk.injEq]

theorem Version.beq_iff_identity (v w : Version) : (v == w) = true ↔ v.identity = w.identity := by
  rw [beq_iff, identity_eq_iff, Patch.beq_iff]

/-- Patches and versions are ordered totally, with the equal ones as ties and with no regard to how
    they were written or what prefix they have: two versions are the same to order, equality and
    hashing if their numbers and the suffixes of their patches are. Patches come in the order of the
    five rules. -/
theorem ordered_by_identity :
    ConsistentOrder Patch.partialCompare Patch.identity ∧
    ConsistentOrder Version.partialCompare Version.identity ∧
    (∀ p q : Patch, p.identity = q.identity ↔ p.number = q.number ∧ p.suffix = q.suffix) ∧
    (∀ v w : Version, v.identity = w.identity ↔ v.major.value = w.major.value ∧ v.minor.value = w.minor.value ∧
      v.patch.number = w.patch.number ∧ v.patch.suffix = w.patch.suffix) ∧
    ∀ p q : Patch, compare p q = .lt ↔ Patch.Below p q := by
  refine ⟨.of_beq_iff (fun _ _ => rfl) Patch.beq_iff_identity fun _ => rfl,
    .of_beq_iff (fun _ _ => rfl) Version.beq_iff_identity fun _ => rfl, fun p q => ?_, Version.identity_eq_iff,
    fun p q => Patch.compare_eq_lt_iff_below⟩
  rw [← Patch.beq_iff_identity, Patch.beq_iff]

end VersionPick
