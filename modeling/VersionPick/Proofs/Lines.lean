/-
  VersionPick.Proofs.Lines — the lines that are put out are names of the list, in the
  order of their versions.

  Whatever a selector leaves of an ascending list, in order it is a sublist of the list
  in the same order (`sorted_keep_sublist`): criteria in turn leave a sublist, and what
  is put together from criteria side by side has no two equal versions, so that in order
  it ascends strictly. As a version shows as its name, lines are names; and as sorting is
  stable, both when the list is made and when it is put out, names of equal versions
  stand as they did in the registry's list, in either direction.
-/

import Mathlib.Data.List.Perm.Subperm
import VersionPick.Proofs.Selector.Safety
import VersionPick.Proofs.Version.Reading
import VersionPick.Rendering
import VersionPick.Selector.Parser

namespace VersionPick

/-! ## What is left, in order -/

theorem sorted_strict (reverse : Bool) {vs : List Version} (h : Differ vs) : (sorted reverse vs).Pairwise
    fun v w => Version.inOrder reverse v w = true ∧ Version.inOrder reverse w v = false := by
  have hsymm : ∀ v w : Version, (v == w) = false → (w == v) = false := fun v w hvw => by rwa [BEq.comm]
  have hdiff : Differ (sorted reverse vs) := (sorted_perm reverse vs).symm.pairwise h (fun {v w} => hsymm v w)
  refine ((sorted_ordered reverse vs).and hdiff).imp fun {v w} hvw => ⟨hvw.1, ?_⟩
  have hties := Version.inOrder_ties reverse v w
  rw [hvw.1, hvw.2, Bool.true_and] at hties
  exact hties

theorem sorted_keep_sublist (reverse : Bool) {s : Selector} {vs kept : List Version}
    (hasc : isAscending vs = true) (hkept : s.keep vs = .ok kept) :
    (sorted reverse kept).Sublist (sorted reverse vs) := by
  have hascending : (sorted false kept).Sublist vs := by
    cases hunion : s.isUnion with
    | false =>
      have hsub := Selector.sublist_of_not_union hunion hasc hkept
      have hsort : sorted false kept = kept := by
        rw [sorted_eq_mergeSort]
        exact List.mergeSort_of_pairwise (isAscending_iff.mp (isAscending_of_sublist hsub hasc))
      rwa [hsort]
    | true =>
      obtain ⟨cs, rfl⟩ := Selector.eq_anyOf_of_isUnion hunion
      obtain ⟨kepts, hkept', -⟩ := Selector.keep_anyOf cs hasc
      rw [hkept, Except.ok.injEq] at hkept'
      have hdiff : Differ kept := hkept' ▸ differ_eraseDups kepts.flatten
      refine sublist_of_strict (Version.inOrder_total false) (sorted_strict false hdiff) (isAscending_iff.mp hasc)
        fun v hv => ?_
      have hmem : v ∈ kept := (sorted_perm false kept).mem_iff.mp hv
      exact Selector.mem_of_mem_keep hasc hkept v hmem
  rw [← sorted_sorted reverse false kept]
  exact sorted_sublist reverse hascending

/-! ## Lines -/

theorem render_singleton (v : Version) : render {} [v] = [v.text] := by
  simp [render, sorted, ascending]

def listing (reverse : Bool) (tagPrefix : String) (names : List String) : List (String × Version) :=
  (accepted tagPrefix names).mergeSort fun a b => Version.inOrder reverse a.2 b.2

theorem listing_isStableSort (reverse : Bool) (tagPrefix : String) (names : List String) :
    IsStableSort (fun a b => Version.inOrder reverse a.2 b.2) (accepted tagPrefix names)
      (listing reverse tagPrefix names) :=
  isStableSort_mergeSort (fun a b c => Version.inOrder_trans reverse a.2 b.2 c.2)
    (fun a b => Version.inOrder_total reverse a.2 b.2) _

theorem listing_versions (reverse : Bool) (tagPrefix : String) (names : List String) :
    (listing reverse tagPrefix names).map Prod.snd = sorted reverse (extract tagPrefix names).versions := by
  rw [listing, List.map_mergeSort (s := Version.inOrder reverse) fun _ _ _ _ => rfl, extract_versions,
    sorted_eq_mergeSort]

/-- A name is what its version shows. -/
theorem listing_names (reverse : Bool) (tagPrefix : String) (names : List String) :
    (listing reverse tagPrefix names).map Prod.fst =
      (sorted reverse (extract tagPrefix names).versions).map Version.text := by
  rw [← listing_versions, List.map_map]
  refine List.map_congr_left fun p hp => ?_
  have hmem : p ∈ accepted tagPrefix names := (listing_isStableSort reverse tagPrefix names).perm.mem_iff.mp hp
  exact (text_of_readName (mem_accepted_iff.mp hmem).2).2.symm

theorem tagPrefix_of_mem_extract {tagPrefix : String} {names : List String} {v : Version}
    (h : v ∈ (extract tagPrefix names).versions) : v.tagPrefix = tagPrefix := by
  obtain ⟨name, -, hread⟩ := exists_name_of_mem_extract h
  exact (text_of_readName hread).1

/-- Lines without their prefixes are the same lines, each without the prefix. -/
theorem render_withPrefix {flags : OutputFlags} {tagPrefix : String} {kept : List Version}
    (h : ∀ v ∈ kept, v.tagPrefix = tagPrefix) :
    render { flags with noPrefix := false } kept =
      (render { flags with noPrefix := true } kept).map (tagPrefix ++ ·) := by
  simp only [render, List.map_map, Bool.false_eq_true, if_false, if_true]
  refine List.map_congr_left fun v hv => ?_
  have hmem : v ∈ kept := (sorted_perm flags.reverse kept).mem_iff.mp hv
  simp [Version.text, h v hmem]

structure LinesInOrder (names : List String) (tagPrefix : String) (s : Selector) (flags : OutputFlags)
    (kept : List Version) (sortedNames : List (String × Version)) : Prop where
  selected : select names tagPrefix s = .ok kept
  sorted : IsStableSort (fun a b => Version.inOrder flags.reverse a.2 b.2) (accepted tagPrefix names) sortedNames
  sublist : (render { flags with noPrefix := false } kept).Sublist (sortedNames.map Prod.fst)
  subperm : (render { flags with noPrefix := false } kept).Subperm names
  of_empty : Selector.parse "" = .ok s → render { flags with noPrefix := false } kept = sortedNames.map Prod.fst
  without_prefix : render { flags with noPrefix := false } kept =
    (render { flags with noPrefix := true } kept).map (tagPrefix ++ ·)

/-- From any names, with any prefix, by any selector, and in either direction: versions are found,
    and their lines are a sublist of the names that count, sorted stably by their versions; none
    stands there more often than in the list of names. The empty selector leaves all of them. Without
    the prefix the lines are the same, each without the prefix. -/
theorem lines_are_names_in_order (names : List String) (tagPrefix : String) (s : Selector) (flags : OutputFlags) :
    ∃ kept sortedNames, LinesInOrder names tagPrefix s flags kept sortedNames := by
  have hasc := isAscending_ascending (extract tagPrefix names).versions
  obtain ⟨kept, hkept, hmem⟩ := s.keep_of_ascending hasc
  have hversions := sorted_keep_sublist flags.reverse hasc hkept
  change (sorted flags.reverse kept).Sublist (sorted flags.reverse (sorted false _)) at hversions
  rw [sorted_sorted] at hversions
  have hlines : (render { flags with noPrefix := false } kept).Sublist
      ((listing flags.reverse tagPrefix names).map Prod.fst) := by
    rw [listing_names]
    exact hversions.map Version.text
  refine ⟨kept, listing flags.reverse tagPrefix names, hkept, listing_isStableSort _ _ _, hlines, ?_, ?_, ?_⟩
  · have hperm := (listing_isStableSort flags.reverse tagPrefix names).perm.map Prod.fst
    exact hlines.subperm.trans (hperm.subperm.trans (accepted_names_sublist tagPrefix names).subperm)
  · intro hempty
    have hs : Selector.everything = s := Except.ok.inj hempty
    subst hs
    have hall : ascending (extract tagPrefix names).versions = kept := Except.ok.inj hkept
    rw [listing_names, ← hall]
    change (sorted flags.reverse (sorted false _)).map Version.text = _
    rw [sorted_sorted]
  · refine render_withPrefix fun v hv => ?_
    have hv' : v ∈ (extract tagPrefix names).versions := (sorted_perm false _).mem_iff.mp (hmem v hv)
    exact tagPrefix_of_mem_extract hv'

end VersionPick
