/-
  VersionPick.Proofs.Version.Runs — the runs of a list are the classes of its keys, as
  soon as the keys ascend.

  Put together again, the runs give the list, and each has one key. If the keys ascend
  no key comes back after a run has ended (`runs_ascending`), so a run is all that the
  list holds of its key (`filter_key_eq_run`); and what a choice keeps of every run,
  where the choice may look at the whole run, is what it keeps of the list when it
  looks at the versions with the same key (`inRuns_eq_filter`).
-/

import Mathlib.Data.List.SplitBy
import VersionPick.Proofs.Traversal
import VersionPick.Proofs.Version.Sorting

namespace VersionPick

/-! ## Runs of any key -/

section

variable {κ : Type} [BEq κ] (key : Version → κ) (vs : List Version)

theorem flatten_runs : (runs key vs).flatten = vs := List.flatten_splitBy _ _

theorem sublist_of_mem_runs {run : List Version} (h : run ∈ runs key vs) : run.Sublist vs := by
  have := List.sublist_flatten_of_mem h
  rwa [flatten_runs] at this

section

variable [PartialEquivBEq κ]

theorem one_key_of_mem_runs {run : List Version} (h : run ∈ runs key vs) :
    run.Pairwise fun v w => (key v == key w) = true := by
  have htrans : Trans (fun v w => (key v == key w) = true) (fun v w => (key v == key w) = true)
      (fun v w => (key v == key w) = true) := ⟨PartialEquivBEq.trans⟩
  exact (List.isChain_of_mem_splitBy h).pairwise

/-- What is equal to the key of one version of a run is equal to the key of every other. -/
theorem beq_of_mem_run {run : List Version} (h : run ∈ runs key vs) {v w : Version} (hv : v ∈ run) (hw : w ∈ run)
    {k : κ} (hk : (key w == k) = true) : (key v == k) = true := by
  by_cases hvw : v = w
  · rwa [hvw]
  · have hsymm : Std.Symm fun v w => (key v == key w) = true := ⟨fun _ _ => PartialEquivBEq.symm⟩
    exact PartialEquivBEq.trans ((one_key_of_mem_runs key vs h).forall hv hw hvw) hk

theorem runs_apart : (runs key vs).IsChain fun r s => ∀ v ∈ r, ∀ w ∈ s, (key v == key w) = false := by
  refine (List.isChain_getLast_head_splitBy (fun v w => key v == key w) vs).imp_of_mem_imp ?_
  intro r s hr hs hdiff v hv w hw
  obtain ⟨hrne, hsne, hdiff⟩ := hdiff
  refine Bool.eq_false_iff.mpr fun hvw => ?_
  -- were two keys equal, so were those where the runs meet
  have hlast := beq_of_mem_run key vs hr (List.getLast_mem hrne) hv hvw
  have hmeet := beq_of_mem_run key vs hs (List.head_mem hsne) hw (PartialEquivBEq.symm hlast)
  rw [PartialEquivBEq.symm hmeet] at hdiff
  cases hdiff

end

theorem key_eq_of_mem_run [LawfulBEq κ] {run : List Version} (h : run ∈ runs key vs) {v w : Version} (hv : v ∈ run)
    (hw : w ∈ run) : key v = key w :=
  eq_of_beq (beq_of_mem_run key vs h hv hw BEq.rfl)

end

/-! ## Runs of ascending keys -/

section

variable {key : Version → Nat} {vs : List Version}

def Before (key : Version → Nat) (r s : List Version) : Prop :=
  r ≠ [] ∧ s ≠ [] ∧ ∀ v ∈ r, ∀ w ∈ s, key v < key w

theorem before_trans {r s t : List Version} (hrs : Before key r s) (hst : Before key s t) : Before key r t := by
  obtain ⟨hr, hs, hrs⟩ := hrs
  obtain ⟨-, ht, hst⟩ := hst
  obtain ⟨u, hu⟩ := List.exists_mem_of_ne_nil s hs
  exact ⟨hr, ht, fun v hv w hw => Nat.lt_trans (hrs v hv u hu) (hst u hu w hw)⟩

theorem runs_ascending (h : vs.Pairwise fun v w => key v ≤ key w) : (runs key vs).Pairwise (Before key) := by
  have hle : (runs key vs).Pairwise fun r s => ∀ v ∈ r, ∀ w ∈ s, key v ≤ key w := by
    rw [← flatten_runs key vs] at h
    exact (List.pairwise_flatten.mp h).2
  have hchain : (runs key vs).IsChain (Before key) := by
    refine List.isChain_iff_forall_rel_of_append_cons_cons.mpr fun r s pre post heq => ?_
    have hapart := runs_apart key vs
    have hne : ∀ t ∈ runs key vs, t ≠ [] := fun t ht => List.ne_nil_of_mem_splitBy ht
    rw [heq] at hle hapart hne
    refine ⟨hne r (by simp), hne s (by simp), fun v hv w hw => ?_⟩
    have hle' := List.rel_of_pairwise_cons (List.pairwise_append.mp hle).2.1 List.mem_cons_self v hv w hw
    have hne' : key v ≠ key w := by simpa using (List.isChain_append_cons_cons.mp hapart).2.1 v hv w hw
    omega
  have htrans : Trans (Before key) (Before key) (Before key) := ⟨before_trans⟩
  exact hchain.pairwise

/-- A run is all that the list holds of its key. -/
theorem filter_key_eq_run (h : vs.Pairwise fun v w => key v ≤ key w) {run : List Version}
    (hrun : run ∈ runs key vs) {v : Version} (hv : v ∈ run) : vs.filter (fun w => key w == key v) = run := by
  obtain ⟨pre, post, heq⟩ := List.append_of_mem hrun
  have hasc := runs_ascending h
  rw [heq] at hasc
  obtain ⟨-, hrest, hpre⟩ := List.pairwise_append.mp hasc
  have hself : run.filter (fun w => key w == key v) = run :=
    List.filter_eq_self.mpr fun w hw => by simpa using key_eq_of_mem_run key vs hrun hw hv
  have hbefore : pre.flatten.filter (fun w => key w == key v) = [] := by
    refine List.filter_eq_nil_iff.mpr fun w hw => ?_
    obtain ⟨r, hr, hwr⟩ := List.mem_flatten.mp hw
    have := (hpre r hr run List.mem_cons_self).2.2 w hwr v hv
    simp only [beq_iff_eq]
    omega
  have hafter : post.flatten.filter (fun w => key w == key v) = [] := by
    refine List.filter_eq_nil_iff.mpr fun w hw => ?_
    obtain ⟨r, hr, hwr⟩ := List.mem_flatten.mp hw
    have := (List.rel_of_pairwise_cons hrest hr).2.2 v hv w hwr
    simp only [beq_iff_eq]
    omega
  calc vs.filter (fun w => key w == key v)
      = (runs key vs).flatten.filter (fun w => key w == key v) := by rw [flatten_runs]
    _ = run := by
      rw [heq, List.flatten_append, List.flatten_cons, List.filter_append, List.filter_append, hbefore, hself,
        hafter, List.nil_append, List.append_nil]

/-- What is kept of every run, where `keep` may look at all of the run. -/
theorem flatten_map_filter_runs (h : vs.Pairwise fun v w => key v ≤ key w)
    (keep : List Version → Version → Bool) :
    ((runs key vs).map fun run => run.filter (keep run)).flatten =
      vs.filter fun v => keep (vs.filter fun w => key w == key v) v := by
  have hrun : ∀ run ∈ runs key vs,
      run.filter (keep run) = run.filter fun v => keep (vs.filter fun w => key w == key v) v := by
    intro run hrun
    refine List.filter_congr fun v hv => ?_
    rw [filter_key_eq_run h hrun hv]
  rw [List.map_congr_left hrun, ← List.filter_flatten, flatten_runs]

end

/-! ## Choices within runs -/

theorem inRuns_of_not_ascending {κ : Type} [BEq κ] (key : Version → κ)
    (keep : List Version → Except NotAscending (List Version)) {vs : List Version} (h : isAscending vs = false) :
    inRuns key keep vs = .error .notAscending := by
  simp [inRuns, h]

/-- A choice that filters every run filters the list, and sees what of it has the same key. -/
theorem inRuns_eq_filter {key : Version → Nat} {vs : List Version} (hasc : isAscending vs = true)
    (hkey : vs.Pairwise fun v w => key v ≤ key w) {choose : List Version → Except NotAscending (List Version)}
    {keep : List Version → Version → Bool}
    (hchoose : ∀ run ∈ runs key vs, choose run = .ok (run.filter (keep run))) :
    inRuns key choose vs = .ok (vs.filter fun v => keep (vs.filter fun w => key w == key v) v) := by
  rw [inRuns, if_pos hasc, mapM_eq_ok hchoose, ← flatten_map_filter_runs hkey]
  rfl

theorem majors_ascending {vs : List Version} (h : isAscending vs = true) :
    vs.Pairwise fun v w => v.major.value ≤ w.major.value :=
  (isAscending_iff.mp h).imp Version.major_le_of_atMost

theorem minors_ascending {vs : List Version} (h : isAscending vs = true)
    (hmajor : ∀ v ∈ vs, ∀ w ∈ vs, v.major.value = w.major.value) :
    vs.Pairwise fun v w => v.minor.value ≤ w.minor.value :=
  (isAscending_iff.mp h).imp_of_mem fun hv hw hle => Version.minor_le_of_atMost hle (hmajor _ hv _ hw)

end VersionPick
