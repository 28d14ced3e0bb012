/-
  VersionPick.Proofs.Version.Grouping — how a list is handed over run by run, in one pass
  over it.

  A pass keeps the group that it is in and the key of the version before. It hands the
  group over when a version with another key comes, and the last one when the list ends.
  What is handed over may be taken with any effect, as `keep` is a function into any monad.
  So that a pass does the same as `keep` does on one run after the other
  (`inOnePass_eq`) says what is handed over, in which order, and that nothing is handed
  over twice; a list that is refused is refused before that.

  The invariant of the pass is that the group ends in the version before, and that its keys
  are the current one (`Pass.InGroup`). A step either adds to the group (`Pass.step_same`)
  or hands it over and begins another (`Pass.step_other`), and the invariant leads from each
  step to the rest of the list (`Pass.foldlM_finish`).

  If the keys ascend, the runs are the classes of the key (`areClasses_runs`).
-/

import Mathlib.Data.List.Sort
import VersionPick.Proofs.Version.Distinct
import VersionPick.Proofs.Version.Runs

namespace VersionPick

/-! ## A pass over a list -/

section

variable {κ : Type} [BEq κ] {m : Type → Type} [Monad m] (key : Version → κ)
  (keep : List Version → m (List Version))

/-- Where a pass stands: what was kept of the groups before, the group that it is in, and the key of the
    version before. -/
structure Pass (κ : Type) where
  kept : List Version := []
  group : List Version := []
  current : Option κ := none

namespace Pass

def handOver (p : Pass κ) : m (Pass κ) := do
  let kept ← keep p.group
  return { p with kept := p.kept ++ kept, group := [] }

def step (p : Pass κ) (v : Version) : m (Pass κ) := do
  let p ← if p.current.any (· != key v) then p.handOver keep else pure p
  return { p with group := p.group ++ [v], current := some (key v) }

def finish (p : Pass κ) : m (List Version) := do
  let p ← if p.group.isEmpty then pure p else p.handOver keep
  return p.kept

end Pass

/-- What is kept of an ascending list in one pass over it; any other list is `refused`. -/
def inOnePass (refused : m (List Version)) (vs : List Version) : m (List Version) :=
  if isAscending vs then do
    let p ← vs.foldlM (Pass.step key keep) {}
    p.finish keep
  else refused

namespace Pass

structure InGroup (p : Pass κ) (v : Version) : Prop where
  last : p.group.getLast? = some v
  current : p.current = some (key v)
  chain : p.group.IsChain fun v w => (key v == key w) = true

variable {key} {p : Pass κ} {v w : Version}

theorem InGroup.start (kept : List Version) : InGroup key { kept, group := [v], current := some (key v) } v :=
  ⟨rfl, rfl, List.isChain_singleton _⟩

theorem InGroup.add (h : InGroup key p v) (hsame : (key v == key w) = true) :
    InGroup key { p with group := p.group ++ [w], current := some (key w) } w := by
  refine ⟨List.getLast?_concat, rfl, List.isChain_append.mpr ⟨h.chain, List.isChain_singleton _, ?_⟩⟩
  intro x hx y hy
  obtain rfl : v = x := Option.some.inj (h.last.symm.trans hx)
  obtain rfl : w = y := Option.some.inj hy
  exact hsame

theorem InGroup.ne_nil (h : InGroup key p v) : p.group ≠ [] := by
  intro hnil
  have hlast := h.last
  rw [hnil] at hlast
  cases hlast

/-- The group is a run by itself. -/
theorem InGroup.runs_group (h : InGroup key p v) : runs key p.group = [p.group] :=
  List.splitBy_of_isChain h.ne_nil h.chain

/-- And it stays one if a version with another key follows. -/
theorem InGroup.runs_append (h : InGroup key p v) (hother : (key v == key w) = false) (vs : List Version) :
    runs key (p.group ++ w :: vs) = p.group :: runs key (w :: vs) := by
  have hcut : runs key (p.group ++ w :: vs) = runs key p.group ++ runs key (w :: vs) := by
    refine List.splitBy_append_cons vs fun x hx => ?_
    obtain rfl : v = x := Option.some.inj (h.last.symm.trans hx)
    exact hother
  rw [hcut, h.runs_group, List.singleton_append]

variable [LawfulMonad m]

theorem step_same (h : InGroup key p v) (hsame : (key v == key w) = true) :
    step key keep p w = pure { p with group := p.group ++ [w], current := some (key w) } := by
  simp [step, h.current, bne, hsame]

theorem step_other (h : InGroup key p v) (hother : (key v == key w) = false) :
    step key keep p w = do
      let kept ← keep p.group
      return { kept := p.kept ++ kept, group := [w], current := some (key w) } := by
  simp [step, h.current, bne, hother, handOver]

/-- From where a pass stands on, the runs of its group and of the rest of the list are handed over. -/
theorem foldlM_finish {vs : List Version} (h : InGroup key p v) :
    (do let q ← vs.foldlM (step key keep) p; q.finish keep) =
      (fun kept => p.kept ++ kept.flatten) <$> (runs key (p.group ++ vs)).mapM keep := by
  induction vs generalizing p v with
  | nil =>
    rw [List.append_nil, h.runs_group]
    simp [finish, handOver, h.ne_nil]
  | cons w vs ih =>
    rw [List.foldlM_cons]
    cases hkey : key v == key w with
    | true =>
      rw [step_same keep h hkey, pure_bind, ih (h.add hkey)]
      simp only [List.append_assoc, List.singleton_append]
    | false =>
      rw [step_other keep h hkey, h.runs_append hkey]
      simp only [bind_assoc, pure_bind, List.mapM_cons, map_bind]
      refine bind_congr fun kept => ?_
      rw [ih (.start (p.kept ++ kept))]
      simp

end Pass

variable [LawfulMonad m]

theorem inOnePass_eq (refused : m (List Version)) (vs : List Version) :
    inOnePass key keep refused vs =
      if isAscending vs then List.flatten <$> (runs key vs).mapM keep else refused := by
  rw [inOnePass]
  refine if_congr Iff.rfl ?_ rfl
  cases vs with
  | nil => simp [Pass.finish, runs]
  | cons v vs =>
    have hstart : Pass.step key keep {} v = pure { group := [v], current := some (key v) } := by simp [Pass.step]
    rw [List.foldlM_cons, hstart, pure_bind, Pass.foldlM_finish keep (.start [])]
    simp

omit [LawfulMonad m] in
theorem inRuns_eq_inOnePass (choose : List Version → Except NotAscending (List Version)) (vs : List Version) :
    inRuns key choose vs = inOnePass key choose (.error .notAscending) vs := by
  rw [inOnePass_eq]
  rfl

end

/-! ## What is handed over -/

structure CutAtKeys {κ : Type} [BEq κ] (key : Version → κ) (vs : List Version) (groups : List (List Version)) :
    Prop where
  flatten : groups.flatten = vs
  ne_nil : ∀ g ∈ groups, g ≠ []
  one_key : ∀ g ∈ groups, g.Pairwise fun v w => (key v == key w) = true
  apart : groups.IsChain fun g h => ∀ v ∈ g, ∀ w ∈ h, (key v == key w) = false

theorem cutAtKeys_runs {κ : Type} [BEq κ] [PartialEquivBEq κ] (key : Version → κ) (vs : List Version) :
    CutAtKeys key vs (runs key vs) where
  flatten := flatten_runs key vs
  ne_nil _ := List.ne_nil_of_mem_splitBy
  one_key _ := one_key_of_mem_runs key vs
  apart := runs_apart key vs

structure AreClasses (key : Version → Nat) (vs : List Version) (groups : List (List Version)) : Prop where
  ascending : groups.Pairwise (Before key)
  eq_map : groups = (distinct (vs.map key)).map fun k => vs.filter fun v => key v == k

section

variable {key : Version → Nat} {vs : List Version}

def firstKey (key : Version → Nat) (run : List Version) : Nat := (run.head?.map key).getD 0

theorem firstKey_eq {run : List Version} (h : run ∈ runs key vs) {v : Version} (hv : v ∈ run) :
    firstKey key run = key v := by
  cases run with
  | nil => cases hv
  | cons w run => exact key_eq_of_mem_run key vs h List.mem_cons_self hv

theorem mem_firstKeys_iff {k : Nat} : k ∈ (runs key vs).map (firstKey key) ↔ k ∈ vs.map key := by
  constructor
  · intro h
    obtain ⟨run, hrun, rfl⟩ := List.mem_map.mp h
    obtain ⟨v, hv⟩ := List.exists_mem_of_ne_nil run (List.ne_nil_of_mem_splitBy hrun)
    rw [firstKey_eq hrun hv]
    exact List.mem_map_of_mem ((sublist_of_mem_runs key vs hrun).subset hv)
  · intro h
    obtain ⟨v, hv, rfl⟩ := List.mem_map.mp h
    rw [← flatten_runs key vs] at hv
    obtain ⟨run, hrun, hv⟩ := List.mem_flatten.mp hv
    rw [← firstKey_eq hrun hv]
    exact List.mem_map_of_mem hrun

theorem firstKeys_eq_distinct (h : vs.Pairwise fun v w => key v ≤ key w) :
    (runs key vs).map (firstKey key) = distinct (vs.map key) := by
  have hkeys : ((runs key vs).map (firstKey key)).Pairwise (· < ·) := by
    refine List.pairwise_map.mpr ((runs_ascending h).imp_of_mem fun {r s} hr hs hrs => ?_)
    obtain ⟨v, hv⟩ := List.exists_mem_of_ne_nil r hrs.1
    obtain ⟨w, hw⟩ := List.exists_mem_of_ne_nil s hrs.2.1
    rw [firstKey_eq hr hv, firstKey_eq hs hw]
    exact hrs.2.2 v hv w hw
  have hdistinct : (distinct (vs.map key)).Pairwise (· < ·) := (distinct_strict _).imp Nat.compare_eq_lt.mp
  refine hkeys.eq_of_mem_iff hdistinct fun k => ?_
  rw [mem_firstKeys_iff, mem_distinct_iff]

theorem areClasses_runs (h : vs.Pairwise fun v w => key v ≤ key w) : AreClasses key vs (runs key vs) := by
  refine ⟨runs_ascending h, ?_⟩
  rw [← firstKeys_eq_distinct h, List.map_map]
  refine (List.map_id' (runs key vs)).symm.trans (List.map_congr_left fun run hrun => ?_)
  obtain ⟨v, hv⟩ := List.exists_mem_of_ne_nil run (List.ne_nil_of_mem_splitBy hrun)
  rw [Function.comp_apply, firstKey_eq hrun hv, filter_key_eq_run h hrun hv]

end

structure HandedOver {κ : Type} [BEq κ] {m : Type → Type} [Monad m] (key : Version → κ) (refused : m (List Version))
    (vs : List Version) : Prop where
  cut : CutAtKeys key vs (runs key vs)
  in_one_pass : ∀ keep, inOnePass key keep refused vs =
    if isAscending vs then List.flatten <$> (runs key vs).mapM keep else refused
  in_runs : ∀ choose, inRuns key choose vs = inOnePass key choose (.error .notAscending) vs
  majors : isAscending vs = true → AreClasses (·.major.value) vs (runs (·.major.value) vs)
  minors : isAscending vs = true → (∀ v ∈ vs, ∀ w ∈ vs, v.major.value = w.major.value) →
    AreClasses (·.minor.value) vs (runs (·.minor.value) vs)

/-- Of an ascending list the runs are handed over, each once and in their order, whatever `keep` does with them:
    they make up the list, none of them is empty, each has one key, and where two meet the key changes. What is
    kept of the list is what is kept of one run after the other. Of any other list nothing is handed over. The
    runs of majors, and the runs of minors of a single major, are the classes of their key, in its order. -/
theorem handed_over_run_by_run {κ : Type} [BEq κ] [PartialEquivBEq κ] {m : Type → Type} [Monad m] [LawfulMonad m]
    (key : Version → κ) (refused : m (List Version)) (vs : List Version) : HandedOver key refused vs where
  cut := cutAtKeys_runs key vs
  in_one_pass keep := inOnePass_eq key keep refused vs
  in_runs choose := inRuns_eq_inOnePass key choose vs
  majors hasc := areClasses_runs (majors_ascending hasc)
  minors hasc hmajor := areClasses_runs (minors_ascending hasc hmajor)

/-- A group that is handed over may be written down: of `1.1.0`, `1.2.0` and `2.1.0` the first two are one group,
    and the third is the next; two versions in the wrong order are never handed over. -/
theorem two_majors_are_handed_over :
    let major : Version → Nat := (·.major.value)
    let u : Version := .ofParts 1 1 (.ofParts 0 "")
    let v : Version := .ofParts 1 2 (.ofParts 0 "")
    let w : Version := .ofParts 2 1 (.ofParts 0 "")
    let keepLast (group : List Version) : StateM (List (List Version)) (List Version) := do
      modify (· ++ [group])
      return group.getLast?.toList
    (inOnePass major keepLast (pure []) [u, v, w]).run [] = ([v, w], [[u, v], [w]]) ∧
      (inOnePass major keepLast (pure []) [v, u]).run [] = ([], []) ∧
      AreClasses major [u, v, w] [[u, v], [w]] ∧ AreClasses (·.minor.value) [u, v] [[u], [v]] := by
  intro major u v w keepLast
  have hasc := handed_over_run_by_run major (pure [] : StateM (List (List Version)) _) [u, v, w]
  have hdesc := handed_over_run_by_run major (pure [] : StateM (List (List Version)) _) [v, u]
  have hminors := handed_over_run_by_run major (pure [] : StateM (List (List Version)) _) [u, v]
  refine ⟨?_, ?_, hasc.majors (by decide), hminors.minors (by decide) ?_⟩
  · rw [hasc.in_one_pass keepLast, if_pos (by decide)]
    rfl
  · rw [hdesc.in_one_pass keepLast, if_neg (by decide)]
    rfl
  · simp [u, v, Version.ofParts]

end VersionPick
