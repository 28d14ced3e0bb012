/-
  VersionPick.Proofs.Selector.Ends — the first and the last versions of a list, as patterns
  find them and as ranks among all versions do.

  Versions are compared by major, then by minor, then by patch. So no version comes nearer
  to an end than another by a slot of its own, if the slots before it agree, without coming
  nearer as a whole (`Slot.isNearer_version`). What is at the end of a list is therefore left by
  every slot that asks for the end among its peers, and by one that asks for nothing
  (`VersionPattern.mem_left_of_isEnd`). A pattern that asks for the end in every slot leaves
  nothing else (`VersionPattern.leftBySlots_atEnd`).

  Equal versions are at an end together. Patterns keep all of them in the order of the list,
  so that a rank finds the same one behind a pattern as in the whole list
  (`VersionPattern.keepOne_leftBySlots`).
-/

import VersionPick.Proofs.Selector.Composition
import VersionPick.Proofs.Selector.Repeated

namespace VersionPick

open Std

namespace ListEnd

/-! ## What is at the end -/

structure IsEnd (e : ListEnd) (vs : List Version) (m : Version) : Prop where
  mem : m ∈ vs
  extreme : ∀ v ∈ vs, match e with
    | first => m.atMost v = true
    | last => v.atMost m = true

def side : ListEnd → Ordering
  | first => .lt
  | last => .gt

theorem isNearer_iff {α : Type} [Ord α] {e : ListEnd} {a b : α} : e.isNearer a b = true ↔ compare a b = e.side := by
  cases e <;> simp [isNearer, side]

theorem isNearer_eq_false_iff {e : ListEnd} {v m : Version} :
    e.isNearer v m = false ↔ match e with
      | first => m.atMost v = true
      | last => v.atMost m = true := by
  have hswap : compare m v = (compare v m).swap := OrientedOrd.eq_swap
  cases e with
  | first =>
    simp only [isNearer, Version.atMost, hswap]
    cases compare v m <;> decide
  | last =>
    simp only [isNearer, Version.atMost]
    cases compare v m <;> decide

section

variable {e : ListEnd} {vs ws : List Version} {m v : Version}

theorem IsEnd.isNearer_eq_false (h : e.IsEnd vs m) (hv : v ∈ vs) : e.isNearer v m = false :=
  isNearer_eq_false_iff.mpr (h.extreme v hv)

theorem isEnd_of_not_nearer (hm : m ∈ vs) (h : ∀ v ∈ vs, e.isNearer v m = false) : e.IsEnd vs m :=
  ⟨hm, fun v hv => isNearer_eq_false_iff.mp (h v hv)⟩

theorem IsEnd.of_subset (h : e.IsEnd vs m) (hsub : ∀ v ∈ ws, v ∈ vs) (hm : m ∈ ws) : e.IsEnd ws m :=
  ⟨hm, fun v hv => h.extreme v (hsub v hv)⟩

theorem IsEnd.of_beq (h : e.IsEnd vs m) (hv : v ∈ vs) (hvm : (v == m) = true) : e.IsEnd vs v := by
  refine isEnd_of_not_nearer hv fun w hw => ?_
  rw [isNearer_congr_right (compare_eq_iff_beq.mpr hvm)]
  exact h.isNearer_eq_false hw

end

end ListEnd

/-! ## Ranks at the end -/

namespace Rank

variable {e : ListEnd} {vs : List Version} {m : Version}

/-- A list that holds anything has versions at its ends, and of these there is a first. -/
theorem exists_isEnd (e : ListEnd) (hne : vs ≠ []) : ∃ m, e.IsEnd vs m ∧ vs.find? (· == m) = some m := by
  obtain ⟨v, hv⟩ := List.exists_mem_of_ne_nil vs hne
  obtain ⟨w, hw, -⟩ := represents_distinct vs v hv
  have hlen := List.length_pos_of_mem hw
  cases hpick : pick? { fromEnd := e } (distinct vs) with
  | none =>
    have hle : (distinct vs).length ≤ 0 := pick?_eq_none_iff.mp hpick
    omega
  | some m =>
    obtain ⟨hm, hdistance⟩ := pick?_distinct.mp hpick
    exact ⟨m, ListEnd.isEnd_of_not_nearer (mem_of_mem_distinct hm) (ListEnd.distance_eq_zero_iff.mp hdistance),
      find?_of_mem_distinct hm⟩

/-- Of all versions at the end, the rank keeps the first. -/
theorem keepOne_of_isEnd (h : e.IsEnd vs m) : keepOne { fromEnd := e } vs = (vs.find? (· == m)).toList := by
  obtain ⟨w, hw, hwm⟩ := represents_distinct vs m h.mem
  have hend : e.IsEnd vs w := h.of_beq (mem_of_mem_distinct hw) hwm
  have hdistance : e.distance vs w = 0 := ListEnd.distance_eq_zero_iff.mpr fun v hv => hend.isNearer_eq_false hv
  have hpick : pick? { fromEnd := e } (distinct vs) = some w := pick?_distinct.mpr ⟨hw, hdistance⟩
  have hfind : vs.find? (· == m) = some w := by
    rw [← find?_of_mem_distinct hw]
    congr 1
    funext v
    rw [BEq.congr_right hwm]
  rw [keepOne, hpick, hfind]

end Rank

/-! ## Slots that ask for the end -/

namespace Slot

def isNearer (slot : Slot) (e : ListEnd) (v w : Version) : Bool :=
  match slot with
  | major => e.isNearer v.major.value w.major.value
  | minor => e.isNearer v.minor.value w.minor.value
  | patch => e.isNearer v.patch w.patch

theorem isNearer_eq (slot : Slot) (e : ListEnd) (v w : Version) :
    slot.isNearer e v w = e.isNearer (slot.key v) (slot.key w) := by
  cases slot <;> rfl

theorem distance_eq_zero_iff {slot : Slot} {e : ListEnd} {within : List Version} {v : Version} :
    slot.distance e within v = 0 ↔ ∀ w ∈ within, slot.isNearer e w v = false := by
  simp only [isNearer_eq, distance_eq]
  exact ListEnd.distance_eq_zero_iff.trans List.forall_mem_map

/-- The first slot in which two versions do not agree decides which of them is nearer. -/
theorem isNearer_version {slot : Slot} {e : ListEnd} {v w : Version} (hagree : slot.agreeBefore v w)
    (h : slot.isNearer e v w = true) : e.isNearer v w = true := by
  rw [ListEnd.isNearer_iff, Version.compare_def]
  cases slot with
  | major =>
    rw [ListEnd.isNearer_iff.mp h]
    cases e <;> rfl
  | minor =>
    have hmajor : v.major.value = w.major.value := hagree
    rw [hmajor, compare_self, Ordering.eq_then, ListEnd.isNearer_iff.mp h]
    cases e <;> rfl
  | patch =>
    obtain ⟨hmajor, hminor⟩ := hagree
    rw [hmajor, hminor, compare_self, compare_self, Ordering.eq_then, Ordering.eq_then]
    exact ListEnd.isNearer_iff.mp h

end Slot

namespace VersionPattern

/-- Every slot asks for the end, or for nothing. -/
def OnlyEnd (e : ListEnd) (p : VersionPattern) : Prop := ∀ m ∈ p.matchers, m = .any ∨ m = .rank { fromEnd := e }

def atEnd (e : ListEnd) : VersionPattern := ⟨.rank { fromEnd := e }, .rank { fromEnd := e }, .rank { fromEnd := e }⟩

theorem onlyEnd_atEnd (e : ListEnd) : (atEnd e).OnlyEnd e := by
  simp [OnlyEnd, matchers, atEnd]

section

variable {e : ListEnd} {vs : List Version} {p : VersionPattern} {v m : Version}

theorem mem_left_of_isEnd {slot : Slot} {m : SlotMatcher} (hm : m = .any ∨ m = .rank { fromEnd := e })
    (h : e.IsEnd vs v) : v ∈ left slot m vs := by
  refine mem_left_iff.mpr ⟨h.mem, ?_⟩
  rcases hm with rfl | rfl
  · rfl
  · show (slot.distance e (slot.peers vs v) v == 0) = true
    rw [beq_iff_eq, Slot.distance_eq_zero_iff]
    intro w hw
    obtain ⟨hw, hagree⟩ := Slot.mem_peers_iff.mp hw
    by_contra hnear
    have hnear' : e.isNearer w v = true := Slot.isNearer_version hagree (by simpa using hnear)
    rw [h.isNearer_eq_false hw] at hnear'
    cases hnear'

theorem isEnd_left {slot : Slot} {m : SlotMatcher} (hm : m = .any ∨ m = .rank { fromEnd := e })
    (h : e.IsEnd vs v) : e.IsEnd (left slot m vs) v :=
  h.of_subset (fun _ hw => (mem_left_iff.mp hw).1) (mem_left_of_isEnd hm h)

theorem isEnd_leftBySlots (hp : p.OnlyEnd e) (h : e.IsEnd vs v) : e.IsEnd (p.leftBySlots vs) v := by
  simp only [OnlyEnd, matchers, List.forall_mem_cons] at hp
  obtain ⟨hmajor, hminor, hpatch, -⟩ := hp
  exact isEnd_left hpatch (isEnd_left hminor (isEnd_left hmajor h))

/-- Such a pattern leaves everything that is at the end, where it stands. -/
theorem filter_leftBySlots (hp : p.OnlyEnd e) (h : e.IsEnd vs m) :
    (p.leftBySlots vs).filter (· == m) = vs.filter (· == m) := by
  rw [leftBySlots, ← filter_selects_eq_left, List.filter_filter]
  refine List.filter_congr fun v hv => ?_
  cases hvm : v == m with
  | false => rfl
  | true =>
    have hmem : v ∈ p.leftBySlots vs := (isEnd_leftBySlots hp (h.of_beq hv hvm)).mem
    rw [leftBySlots, ← filter_selects_eq_left] at hmem
    simpa using (List.mem_filter.mp hmem).2

theorem keepOne_leftBySlots (hp : p.OnlyEnd e) (vs : List Version) :
    Rank.keepOne { fromEnd := e } (p.leftBySlots vs) = Rank.keepOne { fromEnd := e } vs := by
  by_cases hne : vs = []
  · subst hne
    rfl
  · obtain ⟨m, hm, -⟩ := Rank.exists_isEnd e hne
    rw [Rank.keepOne_of_isEnd hm, Rank.keepOne_of_isEnd (isEnd_leftBySlots hp hm), ← List.head?_filter,
      filter_leftBySlots hp hm, List.head?_filter]

/-- What is left by ranks in all three slots agrees in all three, as each rank has left one value of its slot. -/
theorem beq_of_mem_leftBySlots (hv : v ∈ (atEnd e).leftBySlots vs) (hm : m ∈ (atEnd e).leftBySlots vs) :
    (v == m) = true := by
  have hv' := (mem_left_iff.mp hv).1
  have hm' := (mem_left_iff.mp hm).1
  have hmajor : v.major.value = m.major.value :=
    beq_iff_eq.mp (agree_of_mem_left (mem_left_iff.mp hm').1 (mem_left_iff.mp hv').1 trivial)
  have hminor : v.minor.value = m.minor.value := beq_iff_eq.mp (agree_of_mem_left hm' hv' hmajor)
  have hpatch : (v.patch == m.patch) = true := agree_of_mem_left hm hv ⟨hmajor, hminor⟩
  exact Version.beq_iff.mpr ⟨hmajor, hminor, hpatch⟩

theorem leftBySlots_atEnd (h : e.IsEnd vs m) : (atEnd e).leftBySlots vs = vs.filter (· == m) := by
  have hm := (isEnd_leftBySlots (onlyEnd_atEnd e) h).mem
  rw [← filter_leftBySlots (onlyEnd_atEnd e) h]
  exact (List.filter_eq_self.mpr fun v hv => beq_of_mem_leftBySlots hv hm).symm

end

/-! ## Expressions for the end -/

theorem reads_text_of_end {e : ListEnd} {m : SlotMatcher} (hm : m = .any ∨ m = .rank { fromEnd := e }) :
    SlotMatcher.Reads m.text m ∧ '.' ∉ m.text.toList ∧ ' ' ∉ m.text.toList := by
  rcases hm with rfl | rfl
  · exact ⟨.any, by decide, by decide⟩
  · have hreads : Rank.Reads e.keyword { fromEnd := e } := .alone e
    exact ⟨.rank hreads.not_hasBracket hreads, hreads.dot_not_mem, by cases e <;> decide⟩

theorem reads_text_of_onlyEnd {e : ListEnd} {p : VersionPattern} (hp : p.OnlyEnd e) :
    Criterion.Reads p.text (.pattern p) ∧ ' ' ∉ p.text.toList := by
  simp only [OnlyEnd, matchers, List.forall_mem_cons] at hp
  obtain ⟨hmajor, hminor, hpatch, -⟩ := hp
  obtain ⟨hmajor, hdot, hspace⟩ := reads_text_of_end hmajor
  obtain ⟨hminor, hdot', hspace'⟩ := reads_text_of_end hminor
  obtain ⟨hpatch, -, hspace''⟩ := reads_text_of_end hpatch
  refine ⟨.pattern (.slots ⟨p.text_toList, hdot, hdot'⟩ hmajor hminor hpatch), ?_⟩
  rw [p.text_toList]
  simp [hspace, hspace', hspace'']

end VersionPattern

theorem Rank.reads_keyword (e : ListEnd) : Criterion.Reads e.keyword (.rank { fromEnd := e }) ∧ ' ' ∉ e.keyword.toList :=
  ⟨.rank (Rank.Reads.alone e).dot_not_mem (.alone e), by cases e <;> decide⟩

/-- Of a list that is not empty, `LAST.LAST.LAST` keeps the versions that are equal to its greatest, and
    `LAST` the first of these; so do `FIRST.FIRST.FIRST` and `FIRST` with its least. Behind a pattern that
    asks for the same end in some slots and for nothing in the others, `LAST` or `FIRST` keeps what it
    keeps of the whole list. -/
theorem ends_by_slots_and_among_all {vs : List Version} (hasc : isAscending vs = true) (e : ListEnd) :
    (vs ≠ [] → ∃ m, e.IsEnd vs m ∧ vs.find? (· == m) = some m ∧
      (∃ s, Selector.parse (e.keyword ++ "." ++ e.keyword ++ "." ++ e.keyword) = .ok s ∧
        s.keep vs = .ok (vs.filter (· == m))) ∧
      ∃ s, Selector.parse e.keyword = .ok s ∧ s.keep vs = .ok [m]) ∧
    ∀ p : VersionPattern, p.OnlyEnd e →
      ∃ s t kept, Selector.parse (p.text ++ " and " ++ e.keyword) = .ok s ∧ Selector.parse e.keyword = .ok t ∧
        s.keep vs = .ok kept ∧ t.keep vs = .ok kept := by
  obtain ⟨hrank, hspace⟩ := Rank.reads_keyword e
  have hparse := Selector.parse_of_spaceless hspace hrank
  constructor
  · intro hne
    obtain ⟨m, hm, hfirst⟩ := Rank.exists_isEnd e hne
    obtain ⟨hreads, hspace'⟩ := VersionPattern.reads_text_of_onlyEnd (VersionPattern.onlyEnd_atEnd e)
    refine ⟨m, hm, hfirst, ⟨_, Selector.parse_of_spaceless hspace' hreads, ?_⟩, _, hparse, ?_⟩
    · show (VersionPattern.atEnd e).keep vs = _
      rw [VersionPattern.keep_eq_left _ hasc, VersionPattern.leftBySlots_atEnd hm]
    · show Except.ok (Rank.keepOne { fromEnd := e } vs) = _
      rw [Rank.keepOne_of_isEnd hm, hfirst]
      rfl
  · intro p hp
    obtain ⟨hreads, hspace'⟩ := VersionPattern.reads_text_of_onlyEnd hp
    have hboth : Selector.parse (p.text ++ " and " ++ e.keyword) = .ok (.allOf [.pattern p, .rank { fromEnd := e }]) :=
      Selector.parse_join_of_spaceless (j := .inTurn) hspace' hspace hreads hrank
    refine ⟨_, _, Rank.keepOne { fromEnd := e } vs, hboth, hparse, ?_, rfl⟩
    show Choice.inTurn [p.keep, fun vs => .ok (Rank.keepOne { fromEnd := e } vs)] vs = _
    rw [Choice.inTurn_cons, p.keep_eq_left hasc]
    show Except.ok (Rank.keepOne { fromEnd := e } (p.leftBySlots vs)) = _
    rw [VersionPattern.keepOne_leftBySlots hp]

/-- The greatest version stands in the list as `02.1.3` and as `2.1.3`: `LAST.LAST.LAST` keeps both, `LAST` the one
    that comes first, and so does `*.LAST.* and LAST`, though the pattern leaves the last minor of major 1 too. -/
theorem both_spellings_of_the_last :
    let spelled (major : String) : Version := ⟨⟨2, major⟩, .ofNat 1, .ofParts 3 "", ""⟩
    let vs : List Version := [.ofParts 1 9 (.ofParts 0 "-rc"), .ofParts 2 0 .empty, spelled "02", spelled "2"]
    let p : VersionPattern := ⟨.any, .rank { fromEnd := .last }, .any⟩
    isAscending vs = true ∧ vs ≠ [] ∧ p.OnlyEnd .last ∧
      (∃ s, Selector.parse "LAST.LAST.LAST" = .ok s ∧ s.keep vs = .ok [spelled "02", spelled "2"]) ∧
      (∃ s, Selector.parse "LAST" = .ok s ∧ s.keep vs = .ok [spelled "02"]) ∧
      ∃ s, Selector.parse "*.LAST.* and LAST" = .ok s ∧ s.keep vs = .ok [spelled "02"] := by
  intro spelled vs p
  have hasc : isAscending vs = true := by decide
  have hne : vs ≠ [] := List.cons_ne_nil _ _
  have hp : p.OnlyEnd .last := by simp [VersionPattern.OnlyEnd, VersionPattern.matchers, p]
  obtain ⟨hends, hbehind⟩ := ends_by_slots_and_among_all hasc .last
  obtain ⟨m, hm, hfirst, ⟨s, hs, hslots⟩, t, ht, hall⟩ := hends hne
  have hlast : m = spelled "02" := by
    have hmem : m ∈ [Version.ofParts 1 9 (.ofParts 0 "-rc"), .ofParts 2 0 .empty, spelled "02", spelled "2"] := hm.mem
    simp only [List.mem_cons, List.not_mem_nil, or_false] at hmem
    have hle : (spelled "2").atMost m = true := hm.extreme _ (by simp [vs])
    rcases hmem with rfl | rfl | rfl | rfl
    · exact absurd hle (by decide)
    · exact absurd hle (by decide)
    · rfl
    · exact (Option.some.inj hfirst).symm
  subst hlast
  obtain ⟨u, t', kept, hu, ht', hkept, hkept'⟩ := hbehind p hp
  obtain rfl : t = t' := Except.ok.inj (ht.symm.trans ht')
  obtain rfl : [spelled "02"] = kept := Except.ok.inj (hall.symm.trans hkept')
  exact ⟨hasc, hne, hp, ⟨s, hs, hslots⟩, ⟨t, ht, hall⟩, u, hu, hkept⟩

end VersionPick
