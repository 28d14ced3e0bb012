/-
  VersionPick.Proofs.Selector.Safety — no selector is refused an ascending list, and none
  makes versions up.

  Every criterion narrows: of an ascending list it leaves a sublist, which ascends again,
  so the next one in turn finds what it needs (`narrows_inTurn`). Criteria side by side
  all see the list itself; what they leave together is no sublist, as it stands in the
  order in which it was found, but nothing is in it that the list does not hold.

  The only thing a pattern can be refused is the list that its major slot leaves.
-/

import VersionPick.Proofs.Selector.Patterns
import VersionPick.Selection

namespace VersionPick

/-! ## Criteria -/

/-- A choice that always leaves a sublist of an ascending list. -/
def Choice.Narrows (c : Choice) : Prop :=
  ∀ vs, isAscending vs = true → ∃ kept, c vs = .ok kept ∧ kept.Sublist vs

theorem Rank.keepOne_sublist (r : Rank) (vs : List Version) : (r.keepOne vs).Sublist vs := by
  unfold keepOne
  cases hpick : r.pick? (distinct vs) with
  | none => exact List.nil_sublist _
  | some v => exact List.singleton_sublist.mpr (mem_of_mem_distinct (pick?_distinct.mp hpick).1)

theorem Criterion.narrows (c : Criterion) : c.keep.Narrows := by
  intro vs hasc
  cases c with
  | pattern p => exact ⟨vs.filter (p.selects vs), p.keep_of_ascending hasc, List.filter_sublist⟩
  | rank r => exact ⟨r.keepOne vs, rfl, r.keepOne_sublist vs⟩

namespace Choice

theorem inTurn_cons (c : Choice) (cs : List Choice) (vs : List Version) :
    inTurn (c :: cs) vs = (c vs).bind (inTurn cs) := rfl

theorem narrows_inTurn {cs : List Choice} (h : ∀ c ∈ cs, c.Narrows) : (inTurn cs).Narrows := by
  intro vs hasc
  induction cs generalizing vs with
  | nil => exact ⟨vs, rfl, List.Sublist.refl vs⟩
  | cons c cs ih =>
    obtain ⟨kept, hkept, hsub⟩ := h c List.mem_cons_self vs hasc
    obtain ⟨left, hleft, hsub'⟩ := ih (fun d hd => h d (List.mem_cons_of_mem _ hd)) kept
      (isAscending_of_sublist hsub hasc)
    refine ⟨left, ?_, hsub'.trans hsub⟩
    rw [inTurn_cons, hkept]
    exact hleft

/-- What every choice leaves of a list, put together without equal versions. If one of them
    is refused the list, all are. -/
theorem sideBySide_eq_ok_iff {cs : List Choice} {vs kept : List Version} :
    sideBySide cs vs = .ok kept ↔
      ∃ kepts, List.Forall₂ (fun (c : Choice) kept => c vs = .ok kept) cs kepts ∧ kept = kepts.flatten.eraseDups := by
  simp only [← mapM_eq_ok_iff]
  rw [sideBySide]
  cases cs.mapM fun c : Choice => c vs with
  | error e => simp [Except.map]
  | ok kepts => simp [Except.map, eq_comm]

theorem forall₂_of_narrows {cs : List Choice} (h : ∀ c ∈ cs, c.Narrows) {vs : List Version}
    (hasc : isAscending vs = true) :
    ∃ kepts, List.Forall₂ (fun (c : Choice) kept => c vs = .ok kept) cs kepts ∧
      ∀ kept ∈ kepts, kept.Sublist vs := by
  have heach : ∀ c ∈ cs, ∃ kept, c vs = .ok kept := fun c hc => (h c hc vs hasc).imp fun _ hkept => hkept.1
  obtain ⟨kepts, hkepts⟩ := exists_forall₂_iff.mpr heach
  refine ⟨kepts, hkepts, fun kept hmem => ?_⟩
  obtain ⟨c, hc, hkept⟩ := (mem_iff_of_forall₂ hkepts).mp hmem
  obtain ⟨kept', hkept', hsub⟩ := h c hc vs hasc
  rw [hkept, Except.ok.injEq] at hkept'
  rwa [hkept']

end Choice

/-! ## Selectors -/

namespace Selector

def isUnion : Selector → Bool
  | anyOf _ => true
  | _ => false

theorem eq_anyOf_of_isUnion {s : Selector} (h : s.isUnion = true) : ∃ cs, s = anyOf cs := by
  cases s with
  | everything => cases h
  | one c => cases h
  | allOf cs => cases h
  | anyOf cs => exact ⟨cs, rfl⟩

theorem criteria_narrow (cs : List Criterion) : ∀ c ∈ cs.map Criterion.keep, c.Narrows :=
  List.forall_mem_map.mpr fun d _ => d.narrows

/-- What holds of criteria, and of choices put together if it holds of each, holds of selectors. -/
theorem keep_induction {P : Choice → Prop} (heverything : P everything.keep) (hcriterion : ∀ c : Criterion, P c.keep)
    (hturn : ∀ cs : List Choice, (∀ c ∈ cs, P c) → P (Choice.inTurn cs))
    (hside : ∀ cs : List Choice, (∀ c ∈ cs, P c) → P (Choice.sideBySide cs)) (s : Selector) : P s.keep := by
  have hcriteria : ∀ cs : List Criterion, ∀ c ∈ cs.map Criterion.keep, P c :=
    fun cs => List.forall_mem_map.mpr fun d _ => hcriterion d
  cases s with
  | everything => exact heverything
  | one c => exact hcriterion c
  | allOf cs => exact hturn _ (hcriteria cs)
  | anyOf cs => exact hside _ (hcriteria cs)

theorem narrows_of_not_union {s : Selector} (h : s.isUnion = false) : s.keep.Narrows := by
  cases s with
  | everything => exact fun vs _ => ⟨vs, rfl, List.Sublist.refl vs⟩
  | one c => exact c.narrows
  | allOf cs => exact Choice.narrows_inTurn (criteria_narrow cs)
  | anyOf cs => cases h

theorem sublist_of_not_union {s : Selector} (h : s.isUnion = false) {vs kept : List Version}
    (hasc : isAscending vs = true) (hkept : s.keep vs = .ok kept) : kept.Sublist vs := by
  obtain ⟨kept', hkept', hsub⟩ := narrows_of_not_union h vs hasc
  rw [hkept, Except.ok.injEq] at hkept'
  rwa [hkept']

theorem keep_anyOf (cs : List Criterion) {vs : List Version} (hasc : isAscending vs = true) :
    ∃ kepts : List (List Version), (anyOf cs).keep vs = .ok kepts.flatten.eraseDups ∧
      ∀ kept ∈ kepts, kept.Sublist vs := by
  obtain ⟨kepts, hkepts, hsub⟩ := Choice.forall₂_of_narrows (criteria_narrow cs) hasc
  exact ⟨kepts, Choice.sideBySide_eq_ok_iff.mpr ⟨kepts, hkepts, rfl⟩, hsub⟩

/-- Of an ascending list a selector leaves some, and nothing that the list does not hold. -/
theorem keep_of_ascending (s : Selector) {vs : List Version} (hasc : isAscending vs = true) :
    ∃ kept, s.keep vs = .ok kept ∧ ∀ v ∈ kept, v ∈ vs := by
  cases hunion : s.isUnion with
  | false =>
    obtain ⟨kept, hkept, hsub⟩ := narrows_of_not_union hunion vs hasc
    exact ⟨kept, hkept, fun v hv => hsub.subset hv⟩
  | true =>
    obtain ⟨cs, rfl⟩ := eq_anyOf_of_isUnion hunion
    obtain ⟨kepts, hkept, hsub⟩ := keep_anyOf cs hasc
    refine ⟨_, hkept, fun v hv => ?_⟩
    obtain ⟨kept, hkept, hv⟩ := List.mem_flatten.mp ((eraseDups_sublist _).subset hv)
    exact (hsub kept hkept).subset hv

theorem mem_of_mem_keep {s : Selector} {vs kept : List Version} (hasc : isAscending vs = true)
    (hkept : s.keep vs = .ok kept) : ∀ v ∈ kept, v ∈ vs := by
  obtain ⟨kept', hkept', hmem⟩ := s.keep_of_ascending hasc
  rw [hkept, Except.ok.injEq] at hkept'
  rwa [hkept']

end Selector

theorem select_eq_ok (names : List String) (tagPrefix : String) (s : Selector) :
    ∃ kept, select names tagPrefix s = .ok kept := by
  obtain ⟨kept, hkept, -⟩ := s.keep_of_ascending (isAscending_ascending (extract tagPrefix names).versions)
  exact ⟨kept, hkept⟩

/-! ## What can be refused -/

theorem VersionPattern.keep_eq_error_iff (p : VersionPattern) (vs : List Version) (e : NotAscending) :
    p.keep vs = .error e ↔
      (p.minor.isRank = true ∨ p.patch.isRank = true) ∧ isAscending (p.major.keep .major vs) = false := by
  have hneeds : p.needsOrder = true ↔ p.minor.isRank = true ∨ p.patch.isRank = true := by
    rw [needsOrder, Bool.or_eq_true]
  rw [p.keep_eq, ← hneeds]
  constructor
  · intro h
    split at h
    · assumption
    · cases h
  · intro h
    cases e
    rw [if_pos h]

/-- No selector is refused an ascending list: it leaves a sublist of it, which ascends, or, if it is
    made of criteria side by side, versions of it. So nothing is refused on the way from names to
    versions. A pattern is refused a list if and only if it has a rank in minor or patch and its
    major slot leaves a list that does not ascend; within a major it is never refused. -/
theorem refused_only_unordered_majors :
    (∀ (s : Selector) (vs : List Version), isAscending vs = true →
      ∃ kept, s.keep vs = .ok kept ∧ (∀ v ∈ kept, v ∈ vs) ∧
        (s.isUnion = false → kept.Sublist vs ∧ isAscending kept = true)) ∧
    (∀ (source : Source) (package : String) (names : List String) (tagPrefix : String) (s : Selector),
      ∃ kept, selectListed source package (.ok names) tagPrefix s = .ok kept) ∧
    (∀ (p : VersionPattern) (vs : List Version),
      (p.keep vs = .error .notAscending ↔
        (p.minor.isRank = true ∨ p.patch.isRank = true) ∧ isAscending (p.major.keep .major vs) = false) ∧
      (isAscending (p.major.keep .major vs) = true →
        ∀ run ∈ runs (·.major.value) (p.major.keep .major vs), isAscending (p.minor.keep .minor run) = true)) := by
  refine ⟨fun s vs hasc => ?_, fun source package names tagPrefix s => ?_, fun p vs => ⟨?_, ?_⟩⟩
  · obtain ⟨kept, hkept, hmem⟩ := s.keep_of_ascending hasc
    refine ⟨kept, hkept, hmem, fun hunion => ?_⟩
    have hsub := Selector.sublist_of_not_union hunion hasc hkept
    exact ⟨hsub, isAscending_of_sublist hsub hasc⟩
  · obtain ⟨kept, hkept⟩ := select_eq_ok names tagPrefix s
    exact ⟨kept, by rw [selectListed, hkept]; rfl⟩
  · exact p.keep_eq_error_iff vs .notAscending
  · exact fun hasc run hrun => VersionPattern.ascending_in_majors hasc hrun

end VersionPick
