/-
  VersionPick.Proofs.NameOrder — the order in which a source lists names.

  Versions are sorted before a selector sees them, so the order of the names is left only
  among equal versions. A pattern does not look at it: a version is selected for its own
  text and for what values the list holds (`VersionPattern.selects_perm`), so of the same
  versions in another order patterns keep the same versions, each as often
  (`VersionPattern.ignoresOrder`, `Choice.ignoresOrder_inTurn`).

  A rank that stands alone, or criteria side by side, keep the first of equal versions, and
  show how that one is written. If no two names that count stand for equal versions, sorting
  leaves nothing of the order (`ascending_eq_of_perm`); otherwise there is a rank that puts out
  whichever of the two names is listed first (`select_of_first`). So that is exactly when
  the order makes no difference to any selector (`spelledOnce_iff`).
-/

import VersionPick.Proofs.Lines

namespace VersionPick

/-! ## What patterns look at -/

theorem ListEnd.distance_perm {α : Type} [Ord α] [Std.TransOrd α] [BEq α] [Std.LawfulBEqOrd α] (e : ListEnd)
    {as bs : List α} (h : as.Perm bs) (a : α) : e.distance as a = e.distance bs a :=
  length_eraseDups_of_perm (h.filter _)

section

variable {vs ws : List Version} (h : vs.Perm ws)

include h

theorem Slot.distance_perm (slot : Slot) (e : ListEnd) (v : Version) : slot.distance e vs v = slot.distance e ws v := by
  rw [distance_eq, distance_eq, e.distance_perm (h.map _)]

theorem SlotMatcher.accepts_perm (m : SlotMatcher) (slot : Slot) (v : Version) :
    m.accepts slot vs v = m.accepts slot ws v := by
  cases m with
  | any => rfl
  | rank r => rw [accepts, accepts, slot.distance_perm h]
  | regex r => rfl
  | literal t => rfl

namespace VersionPattern

variable (p : VersionPattern) (v : Version)

theorem majorPeers_perm : (p.majorPeers vs v).Perm (p.majorPeers ws v) := by
  rw [majorPeers, majorPeers]
  simp only [p.major.accepts_perm h]
  exact h.filter _

theorem minorPeers_perm : (p.minorPeers vs v).Perm (p.minorPeers ws v) := by
  have hmajor := p.majorPeers_perm h v
  rw [minorPeers, minorPeers]
  simp only [p.minor.accepts_perm hmajor]
  exact hmajor.filter _

theorem selects_perm : p.selects vs v = p.selects ws v := by
  have hmajor := p.majorPeers_perm h v
  have hminor := p.minorPeers_perm h v
  rw [selects, selects, p.major.accepts_perm h, p.minor.accepts_perm hmajor, p.patch.accepts_perm hminor]

end VersionPattern

end

/-! ## What patterns keep -/

def Choice.IgnoresOrder (c : Choice) : Prop :=
  ∀ vs ws, vs.Perm ws → isAscending vs = true → isAscending ws = true →
    ∃ kept kept', c vs = .ok kept ∧ c ws = .ok kept' ∧ kept.Perm kept'

theorem VersionPattern.ignoresOrder (p : VersionPattern) : Choice.IgnoresOrder p.keep := by
  intro vs ws h hvs hws
  have hselects : ws.filter (p.selects ws) = ws.filter (p.selects vs) :=
    List.filter_congr fun v _ => (p.selects_perm h v).symm
  refine ⟨_, _, p.keep_of_ascending hvs, p.keep_of_ascending hws, ?_⟩
  rw [hselects]
  exact h.filter _

theorem Choice.ignoresOrder_inTurn {cs : List Choice} (hnarrow : ∀ c ∈ cs, c.Narrows)
    (hignore : ∀ c ∈ cs, c.IgnoresOrder) : (inTurn cs).IgnoresOrder := by
  intro vs ws h hvs hws
  induction cs generalizing vs ws with
  | nil => exact ⟨vs, ws, rfl, rfl, h⟩
  | cons c cs ih =>
    obtain ⟨kept, kept', hkept, hkept', hperm⟩ := hignore c List.mem_cons_self vs ws h hvs hws
    -- what is left ascends again, so the rest is asked of lists as it wants them
    have hasc : ∀ {us left : List Version}, isAscending us = true → c us = .ok left → isAscending left = true := by
      intro us left hus hleft
      obtain ⟨left', hleft', hsub⟩ := hnarrow c List.mem_cons_self us hus
      obtain rfl : left = left' := Except.ok.inj (hleft.symm.trans hleft')
      exact isAscending_of_sublist hsub hus
    rw [inTurn_cons, inTurn_cons, hkept, hkept']
    exact ih (fun d hd => hnarrow d (List.mem_cons_of_mem _ hd)) (fun d hd => hignore d (List.mem_cons_of_mem _ hd))
      kept kept' hperm (hasc hvs hkept) (hasc hws hkept')

inductive Selector.OnlyPatterns : Selector → Prop
  | everything : OnlyPatterns .everything
  | one (p : VersionPattern) : OnlyPatterns (.one (.pattern p))
  | allOf (ps : List VersionPattern) : OnlyPatterns (.allOf (ps.map .pattern))

theorem Selector.ignoresOrder {s : Selector} (h : s.OnlyPatterns) : s.keep.IgnoresOrder := by
  cases h with
  | everything => exact fun vs ws h _ _ => ⟨vs, ws, rfl, rfl, h⟩
  | one p => exact p.ignoresOrder
  | allOf ps =>
    refine Choice.ignoresOrder_inTurn (criteria_narrow _) ?_
    refine List.forall_mem_map.mpr (List.forall_mem_map.mpr fun p _ => ?_)
    exact p.ignoresOrder

/-! ## From names to lines -/

theorem extract_perm (tagPrefix : String) {names names' : List String} (h : names.Perm names') :
    (extract tagPrefix names).versions.Perm (extract tagPrefix names').versions := by
  rw [extract_versions, extract_versions]
  exact (h.filterMap _).map _

theorem render_perm (flags : OutputFlags) {vs ws : List Version} (h : vs.Perm ws) :
    (render flags vs).Perm (render flags ws) := by
  have hsorted : (sorted flags.reverse vs).Perm (sorted flags.reverse ws) :=
    (sorted_perm flags.reverse vs).trans (h.trans (sorted_perm flags.reverse ws).symm)
  exact hsorted.map _

/-- Sorting leaves nothing of the order of a list in which equal versions are the same. -/
theorem ascending_eq_of_perm {vs ws : List Version} (h : vs.Perm ws)
    (hsame : ∀ v ∈ vs, ∀ w ∈ vs, (v == w) = true → v = w) : ascending vs = ascending ws := by
  have hvs : (ascending vs).Perm vs := sorted_perm false vs
  have hws : (ascending ws).Perm ws := sorted_perm false ws
  refine List.Perm.eq_of_pairwise ?_ (sorted_ordered false vs) (sorted_ordered false ws) (hvs.trans (h.trans hws.symm))
  intro v w hv hw hvw hwv
  have hmem : v ∈ vs := hvs.mem_iff.mp hv
  have hmem' : w ∈ vs := h.mem_iff.mpr (hws.mem_iff.mp hw)
  have htie : (v == w) = true := by
    rw [← Version.inOrder_ties false, hvw, hwv]
    rfl
  exact hsame v hmem w hmem' htie

/-- Names that count and stand for equal versions are the same name. -/
def SpelledOnce (tagPrefix : String) (names : List String) : Prop :=
  ∀ a ∈ accepted tagPrefix names, ∀ b ∈ accepted tagPrefix names, (a.2 == b.2) = true → a.1 = b.1

theorem SpelledOnce.eq_of_beq {tagPrefix : String} {names : List String} (h : SpelledOnce tagPrefix names)
    {v w : Version} (hv : v ∈ (extract tagPrefix names).versions) (hw : w ∈ (extract tagPrefix names).versions)
    (hvw : (v == w) = true) : v = w := by
  rw [extract_versions] at hv hw
  obtain ⟨⟨name, v⟩, hname, rfl⟩ := List.mem_map.mp hv
  obtain ⟨⟨name', w⟩, hname', rfl⟩ := List.mem_map.mp hw
  obtain rfl : name = name' := h _ hname _ hname' hvw
  have hread := (mem_accepted_iff.mp hname).2
  rw [(mem_accepted_iff.mp hname').2] at hread
  exact (Except.ok.inj hread).symm

theorem select_eq_of_spelledOnce {tagPrefix : String} {names names' : List String} (h : names.Perm names')
    (honce : SpelledOnce tagPrefix names) (s : Selector) : select names tagPrefix s = select names' tagPrefix s := by
  have hsorted : ascending (extract tagPrefix names).versions = ascending (extract tagPrefix names').versions :=
    ascending_eq_of_perm (extract_perm tagPrefix h) fun v hv w hw => honce.eq_of_beq hv hw
  rw [select, hsorted, select]

theorem select_perm_of_onlyPatterns {names names' : List String} (h : names.Perm names') (tagPrefix : String)
    {s : Selector} (hs : s.OnlyPatterns) :
    ∃ kept kept', select names tagPrefix s = .ok kept ∧ select names' tagPrefix s = .ok kept' ∧ kept.Perm kept' := by
  have hvs := sorted_perm false (extract tagPrefix names).versions
  have hws := sorted_perm false (extract tagPrefix names').versions
  exact Selector.ignoresOrder hs _ _ (hvs.trans ((extract_perm tagPrefix h).trans hws.symm))
    (isAscending_ascending _) (isAscending_ascending _)

/-! ## Where the order shows -/

/-- Of equal versions a rank finds the one that is listed first. -/
theorem Rank.keepOne_of_first (e : ListEnd) (v : Version) (vs : List Version) :
    Rank.keepOne { fromEnd := e, offset := e.distance (v :: vs) v } (ascending (v :: vs)) = [v] := by
  have hperm : (ascending (v :: vs)).Perm (v :: vs) := sorted_perm false _
  have hmem : v ∈ ascending (v :: vs) := hperm.mem_iff.mpr List.mem_cons_self
  obtain ⟨w, hw, hwv⟩ := represents_distinct _ v hmem
  -- what stands for `v` among the distinct versions is at the distance of `v` from the end
  have hdistance : e.distance (ascending (v :: vs)) w = e.distance (v :: vs) v :=
    (ListEnd.distance_congr hwv).trans (e.distance_perm hperm v)
  have hpick : Rank.pick? { fromEnd := e, offset := e.distance (v :: vs) v } (distinct (ascending (v :: vs))) = some w :=
    Rank.pick?_distinct.mpr ⟨hw, hdistance⟩
  have hfirst : (v :: vs).find? (· == w) = some v := by
    rw [List.find?_cons, BEq.symm hwv]
  have hfound : (ascending (v :: vs)).find? (· == w) = some w := find?_of_mem_distinct hw
  obtain rfl : v = w := by
    have hsorted : (ascending (v :: vs)).find? (· == w) = (v :: vs).find? (· == w) := find?_sorted false _ w
    rw [hsorted, hfirst] at hfound
    exact Option.some.inj hfound
  rw [Rank.keepOne, hpick]
  rfl

/-- A name that counts is put out alone, by a rank, if it is listed first. -/
theorem select_of_first {tagPrefix name : String} {names : List String} {v : Version}
    (h : (name, v) ∈ accepted tagPrefix names) (e : ListEnd) :
    (select (name :: names.erase name) tagPrefix
      (.one (.rank { fromEnd := e, offset := e.distance (extract tagPrefix names).versions v }))).map (render {}) =
        .ok [name] := by
  obtain ⟨hmem, hread⟩ := mem_accepted_iff.mp h
  have hperm := extract_perm tagPrefix (List.perm_cons_erase hmem)
  have hversions : (extract tagPrefix (name :: names.erase name)).versions =
      v :: (extract tagPrefix (names.erase name)).versions := by
    rw [extract_versions, extract_versions, accepted_cons_of_ok hread]
    rfl
  rw [hversions] at hperm
  have hkeep := Rank.keepOne_of_first e v (extract tagPrefix (names.erase name)).versions
  rw [← e.distance_perm hperm v, ← hversions] at hkeep
  have hselect : select (name :: names.erase name) tagPrefix
      (.one (.rank { fromEnd := e, offset := e.distance (extract tagPrefix names).versions v })) = .ok [v] :=
    congrArg Except.ok hkeep
  rw [hselect, Except.map, render_singleton, (text_of_readName hread).2]

/-- The order of the names makes a difference to some selector exactly if two names that count stand for equal
    versions and are written differently. -/
theorem spelledOnce_iff {tagPrefix : String} {names : List String} : SpelledOnce tagPrefix names ↔
    ∀ names', names.Perm names' → ∀ (s : Selector) (flags : OutputFlags),
      (select names tagPrefix s).map (render flags) = (select names' tagPrefix s).map (render flags) := by
  constructor
  · intro honce names' h s flags
    rw [select_eq_of_spelledOnce h honce]
  · intro hsame a ha b hb hab
    have hfirst := select_of_first ha .first
    have hfirst' := select_of_first hb .first
    -- both ranks are the same one, as equal versions are at the same distance from the end
    rw [← ListEnd.distance_congr hab] at hfirst'
    rw [← hsame _ (List.perm_cons_erase (mem_accepted_iff.mp ha).1)] at hfirst
    rw [← hsame _ (List.perm_cons_erase (mem_accepted_iff.mp hb).1), hfirst] at hfirst'
    exact (List.singleton_inj.mp (Except.ok.inj hfirst'))

/-- The same names in another order give lines as well. By patterns alone, in turn, they give the same
    lines, each as often; and by any selector the very same list of lines, if no two names that count
    stand for equal versions and are written differently. -/
theorem lines_in_any_name_order {names names' : List String} (h : names.Perm names') (source : Source)
    (package tagPrefix : String) (s : Selector) (flags : OutputFlags) :
    ∃ kept kept', selectListed source package (.ok names) tagPrefix s = .ok kept ∧
      selectListed source package (.ok names') tagPrefix s = .ok kept' ∧
      (s.OnlyPatterns → (render flags kept).Perm (render flags kept')) ∧
      (SpelledOnce tagPrefix names → render flags kept = render flags kept') := by
  obtain ⟨kept, hkept⟩ := select_eq_ok names tagPrefix s
  obtain ⟨kept', hkept'⟩ := select_eq_ok names' tagPrefix s
  refine ⟨kept, kept', by rw [selectListed, hkept]; rfl, by rw [selectListed, hkept']; rfl, fun hs => ?_,
    fun honce => ?_⟩
  · obtain ⟨left, left', hleft, hleft', hperm⟩ := select_perm_of_onlyPatterns h tagPrefix hs
    obtain rfl : kept = left := Except.ok.inj (hkept.symm.trans hleft)
    obtain rfl : kept' = left' := Except.ok.inj (hkept'.symm.trans hleft')
    exact render_perm flags hperm
  · rw [select_eq_of_spelledOnce h honce, hkept'] at hkept
    obtain rfl : kept' = kept := Except.ok.inj hkept
    rfl

/-- `*.*.*` puts out the same lines of `1.2.3` and `01.2.3` in either order, and `FIRST` the same line of `v1.2`
    and `v1.10`, which are not equal. -/
theorem lines_of_reversed_names :
    let twice := ["1.2.3", "01.2.3"]
    let once := ["v1.2", "v1.10"]
    let all : Selector := .one (.pattern ⟨.any, .any, .any⟩)
    let first : Selector := .one (.rank ⟨.first, 0⟩)
    (twice.Perm twice.reverse ∧ all.OnlyPatterns ∧ ∃ kept kept',
      selectListed .githubTags "o/r" (.ok twice) "" all = .ok kept ∧
      selectListed .githubTags "o/r" (.ok twice.reverse) "" all = .ok kept' ∧
      (render {} kept).Perm (render {} kept')) ∧
    once.Perm once.reverse ∧ SpelledOnce "v" once ∧ ∃ kept kept',
      selectListed .githubTags "o/r" (.ok once) "v" first = .ok kept ∧
      selectListed .githubTags "o/r" (.ok once.reverse) "v" first = .ok kept' ∧
      render {} kept = render {} kept' := by
  intro twice once all first
  have htwice : twice.Perm twice.reverse := (List.reverse_perm twice).symm
  have honce : once.Perm once.reverse := (List.reverse_perm once).symm
  have hall : all.OnlyPatterns := .one _
  have haccepted : accepted "v" once =
      [("v1.2", ⟨⟨1, "1"⟩, ⟨2, "2"⟩, .empty, "v"⟩), ("v1.10", ⟨⟨1, "1"⟩, ⟨10, "10"⟩, .empty, "v"⟩)] := rfl
  have hspelled : SpelledOnce "v" once := by
    intro a ha b hb hab
    rw [haccepted] at ha hb
    rcases List.mem_pair.mp ha with rfl | rfl
    · rcases List.mem_pair.mp hb with rfl | rfl
      · rfl
      · exact absurd hab (by decide)
    · rcases List.mem_pair.mp hb with rfl | rfl
      · exact absurd hab (by decide)
      · rfl
  obtain ⟨kept, kept', hkept, hkept', hperm, -⟩ := lines_in_any_name_order htwice .githubTags "o/r" "" all {}
  obtain ⟨left, left', hleft, hleft', -, hsame⟩ := lines_in_any_name_order honce .githubTags "o/r" "v" first {}
  exact ⟨⟨htwice, hall, kept, kept', hkept, hkept', hperm hall⟩, honce, hspelled, left, left', hleft, hleft',
    hsame hspelled⟩

end VersionPick
