/-
  VersionPick.Proofs.Prefixes — no selector looks at the prefix of a version, and names that
  do not count do not matter.

  With another prefix (`tagged`) versions compare, match and group as before, so every step
  on the way from names to lines commutes with giving all versions a prefix: reading names
  (`extract_tagged`), sorting (`sorted_tagged`), and whatever a selector asks
  (`Selector.ignoresPrefix`). A prefix is seen for the first time when lines are written.

  Names that do not count leave nothing behind when the versions are read
  (`extract_of_withRejected`), so nothing after that can depend on them.
-/

import VersionPick.Proofs.Lines

namespace VersionPick

def tagged (q : String) (vs : List Version) : List Version := vs.map (·.withPrefix q)

/-! ## Lists -/

section

variable (q : String) (vs : List Version)

theorem filter_tagged {keep keep' : Version → Bool} (h : ∀ v, keep' (v.withPrefix q) = keep v) :
    (tagged q vs).filter keep' = tagged q (vs.filter keep) := by
  rw [tagged, List.filter_map, tagged]
  exact congrArg _ (List.filter_congr fun v _ => h v)

theorem map_tagged {α : Type} {key : Version → α} (hkey : ∀ v, key (v.withPrefix q) = key v) :
    (tagged q vs).map key = vs.map key := by
  rw [tagged, List.map_map]
  exact List.map_congr_left fun v _ => hkey v

theorem flatten_tagged (vss : List (List Version)) : (vss.map (tagged q)).flatten = tagged q vss.flatten :=
  List.map_flatten.symm

theorem sorted_tagged (reverse : Bool) : sorted reverse (tagged q vs) = tagged q (sorted reverse vs) := by
  rw [sorted_eq_mergeSort, sorted_eq_mergeSort, tagged, tagged]
  exact (List.map_mergeSort fun _ _ _ _ => by cases reverse <;> rfl).symm

theorem isAscending_tagged : isAscending (tagged q vs) = isAscending vs := by
  rw [Bool.eq_iff_iff, isAscending_iff, isAscending_iff, tagged, List.pairwise_map]
  exact Iff.rfl

theorem eraseReps_map {α β : Type} [BEq α] [BEq β] {f : α → β} (hf : ∀ a b, (f a == f b) = (a == b)) (as : List α) :
    (as.map f).eraseReps = as.eraseReps.map f := by
  cases as with
  | nil => rfl
  | cons a as =>
    induction as generalizing a with
    | nil => rfl
    | cons b as ih =>
      rw [List.map_cons, List.map_cons, eraseReps_cons_cons, eraseReps_cons_cons, hf]
      split
      · exact ih a
      · rw [List.map_cons, ← ih b, List.map_cons]

theorem distinct_tagged : distinct (tagged q vs) = tagged q (distinct vs) := by
  have hsort : (tagged q vs).mergeSort (fun v w => (compare v w).isLE) =
      tagged q (vs.mergeSort fun v w => (compare v w).isLE) := sorted_tagged q vs false
  rw [distinct, hsort]
  exact eraseReps_map (fun v w => v.withPrefix_beq q w) _

end

/-! ## What selectors look at -/

@[simp] theorem Slot.textOf_withPrefix (slot : Slot) (q : String) (v : Version) :
    slot.textOf (v.withPrefix q) = slot.textOf v := by
  cases slot <;> rfl

@[simp] theorem Slot.key_withPrefix (slot : Slot) (q : String) (v : Version) : slot.key (v.withPrefix q) = slot.key v := by
  cases slot <;> rfl

@[simp] theorem Slot.distance_tagged (slot : Slot) (e : ListEnd) (q : String) (vs : List Version) (v : Version) :
    slot.distance e (tagged q vs) (v.withPrefix q) = slot.distance e vs v := by
  rw [distance_eq, distance_eq, map_tagged q vs (slot.key_withPrefix q), key_withPrefix]

@[simp] theorem SlotMatcher.accepts_tagged (m : SlotMatcher) (slot : Slot) (q : String) (vs : List Version) (v : Version) :
    m.accepts slot (tagged q vs) (v.withPrefix q) = m.accepts slot vs v := by
  cases m with
  | any => rfl
  | rank r => simp [accepts]
  | regex r => simp [accepts]
  | literal t => simp [accepts]

namespace VersionPattern

variable (p : VersionPattern) (q : String) (vs : List Version)

@[simp] theorem majorPeers_tagged (v : Version) : p.majorPeers (tagged q vs) (v.withPrefix q) = tagged q (p.majorPeers vs v) :=
  filter_tagged q vs fun w => by simp

@[simp] theorem minorPeers_tagged (v : Version) : p.minorPeers (tagged q vs) (v.withPrefix q) = tagged q (p.minorPeers vs v) := by
  rw [minorPeers, majorPeers_tagged]
  exact filter_tagged q _ fun w => by simp

theorem selects_tagged (v : Version) : p.selects (tagged q vs) (v.withPrefix q) = p.selects vs v := by
  simp [selects]

end VersionPattern

/-! ## What selectors keep -/

def Choice.IgnoresPrefix (c : Choice) : Prop := ∀ q vs, c (tagged q vs) = (c vs).map (tagged q)

theorem VersionPattern.keep_tagged (p : VersionPattern) (q : String) (vs : List Version) :
    p.keep (tagged q vs) = (p.keep vs).map (tagged q) := by
  have hmajor : p.major.keep .major (tagged q vs) = tagged q (p.major.keep .major vs) := by
    rw [SlotMatcher.keep_eq_filter, SlotMatcher.keep_eq_filter]
    exact filter_tagged q vs fun v => SlotMatcher.accepts_tagged _ _ q vs v
  rw [keep_eq, keep_eq, hmajor, isAscending_tagged, filter_tagged q vs (p.selects_tagged q vs)]
  split <;> rfl

theorem Rank.keepOne_tagged (r : Rank) (q : String) (vs : List Version) :
    r.keepOne (tagged q vs) = tagged q (r.keepOne vs) := by
  rw [keepOne, distinct_tagged, pick?, tagged, List.length_map, keepOne, pick?]
  cases r.index? (distinct vs).length with
  | none => rfl
  | some i =>
    rw [Option.bind_some, Option.bind_some, List.getElem?_map]
    cases (distinct vs)[i]? <;> rfl

theorem Criterion.ignoresPrefix (c : Criterion) : c.keep.IgnoresPrefix := by
  intro q vs
  cases c with
  | pattern p => exact p.keep_tagged q vs
  | rank r => exact congrArg Except.ok (r.keepOne_tagged q vs)

namespace Choice

theorem ignoresPrefix_inTurn {cs : List Choice} (h : ∀ c ∈ cs, c.IgnoresPrefix) : (inTurn cs).IgnoresPrefix := by
  intro q vs
  induction cs generalizing vs with
  | nil => rfl
  | cons c cs ih =>
    rw [inTurn_cons, inTurn_cons, h c List.mem_cons_self]
    cases c vs with
    | error e => rfl
    | ok kept => exact ih (fun d hd => h d (List.mem_cons_of_mem _ hd)) kept

theorem ignoresPrefix_sideBySide {cs : List Choice} (h : ∀ c ∈ cs, c.IgnoresPrefix) :
    (sideBySide cs).IgnoresPrefix := by
  intro q vs
  have hmapM : cs.mapM (fun c : Choice => c (tagged q vs)) =
      (cs.mapM fun c : Choice => c vs).map (List.map (tagged q)) := mapM_map fun c hc => h c hc q vs
  rw [sideBySide, hmapM, sideBySide]
  cases cs.mapM fun c : Choice => c vs with
  | error e => rfl
  | ok kepts =>
    refine congrArg Except.ok ?_
    change (kepts.map (tagged q)).flatten.eraseDups = tagged q kepts.flatten.eraseDups
    rw [flatten_tagged]
    exact eraseDups_map (fun v w => v.withPrefix_beq q w) _

end Choice

theorem Selector.ignoresPrefix (s : Selector) : s.keep.IgnoresPrefix :=
  keep_induction (fun _ _ => rfl) Criterion.ignoresPrefix (fun _ => Choice.ignoresPrefix_inTurn)
    (fun _ => Choice.ignoresPrefix_sideBySide) s

/-! ## Names -/

/-- The name does not have the prefix, or what follows the prefix is no version. -/
def Rejected (tagPrefix name : String) : Prop := ∀ rest, name = tagPrefix ++ rest → ∃ e, Version.parse rest = .error e

inductive WithRejected (tagPrefix : String) : List String → List String → Prop
  | nil : WithRejected tagPrefix [] []
  | same (name : String) {names more : List String} (h : WithRejected tagPrefix names more) :
      WithRejected tagPrefix (name :: names) (name :: more)
  | rejected {name : String} {names more : List String} (hname : Rejected tagPrefix name)
      (h : WithRejected tagPrefix names more) : WithRejected tagPrefix names (name :: more)

theorem readName_of_rejected {tagPrefix name : String} (h : Rejected tagPrefix name) :
    ∃ reason, readName tagPrefix name = .error reason := by
  cases hread : readName tagPrefix name with
  | error reason => exact ⟨reason, rfl⟩
  | ok v =>
    obtain ⟨rest, w, hname, hw, -⟩ := readName_eq_ok_iff.mp hread
    obtain ⟨e, he⟩ := h rest hname
    rw [hw] at he
    cases he

theorem extract_of_withRejected {tagPrefix : String} {names more : List String}
    (h : WithRejected tagPrefix names more) : (extract tagPrefix more).versions = (extract tagPrefix names).versions := by
  induction h with
  | nil => rfl
  | same name _ ih =>
    rw [extract, extract]
    cases readName tagPrefix name with
    | error reason => exact ih
    | ok v => exact congrArg (v :: ·) ih
  | rejected hname _ ih =>
    obtain ⟨reason, hread⟩ := readName_of_rejected hname
    rw [extract, hread]
    exact ih

theorem extract_tagged (q : String) (names : List String) :
    (extract q (names.map (q ++ ·))).versions = tagged q (extract "" names).versions := by
  induction names with
  | nil => rfl
  | cons name names ih =>
    have hbare : readName "" name = ((Version.parse name).map (·.withPrefix "")).mapError .noVersion := by
      rw [← readName_append, String.empty_append]
    rw [List.map_cons, extract, readName_append, extract, hbare]
    cases Version.parse name with
    | error e => exact ih
    | ok v => exact congrArg (v.withPrefix q :: ·) ih

theorem select_tagged (q : String) (names : List String) (s : Selector) :
    select (names.map (q ++ ·)) q s = (select names "" s).map (tagged q) := by
  have hsorted : ascending (tagged q (extract "" names).versions) = tagged q (ascending (extract "" names).versions) :=
    sorted_tagged q _ false
  rw [select, extract_tagged, hsorted, s.ignoresPrefix, select]

theorem select_of_withRejected {tagPrefix : String} {names more : List String} (h : WithRejected tagPrefix names more)
    (s : Selector) : select more tagPrefix s = select names tagPrefix s := by
  rw [select, extract_of_withRejected h, select]

/-! ## Lines -/

/-- Without their prefixes versions show as they do when they have none. -/
theorem render_tagged (q : String) (flags : OutputFlags) {kept : List Version} (h : ∀ v ∈ kept, v.tagPrefix = "") :
    render { flags with noPrefix := true } (tagged q kept) = render flags kept := by
  rw [render, render, sorted_tagged]
  refine (map_tagged q _ fun _ => rfl).trans (List.map_congr_left fun v hv => ?_)
  have hmem : v ∈ kept := (sorted_perm flags.reverse kept).mem_iff.mp hv
  cases flags.noPrefix with
  | true => rfl
  | false =>
    simp [Version.text, h v hmem]

theorem tagPrefix_of_mem_select {tagPrefix : String} {names : List String} {s : Selector} {kept : List Version}
    (h : select names tagPrefix s = .ok kept) {v : Version} (hv : v ∈ kept) : v.tagPrefix = tagPrefix := by
  have hmem := Selector.mem_of_mem_keep (isAscending_ascending _) h v hv
  exact tagPrefix_of_mem_extract ((sorted_perm false _).mem_iff.mp hmem)

/-- Names with a prefix, selected with the prefix, give the same lines as the names without it: without
    prefixes the very same, and with prefixes each with the prefix in front. And whatever names are put
    in that do not have the prefix or are no versions after it, anywhere in the list and as many as may
    be, the same versions are selected. -/
theorem same_lines_when_prefixed (source : Source) (package : String) (names : List String) (q : String)
    (s : Selector) (flags : OutputFlags) :
    (∃ kept kept', selectListed source package (.ok names) "" s = .ok kept ∧
      selectListed source package (.ok (names.map (q ++ ·))) q s = .ok kept' ∧
      render { flags with noPrefix := true } kept' = render flags kept ∧
      render { flags with noPrefix := false } kept' = (render flags kept).map (q ++ ·)) ∧
    ∃ kept, selectListed source package (.ok names) q s = .ok kept ∧
      ∀ more, WithRejected q names more → selectListed source package (.ok more) q s = .ok kept := by
  constructor
  · obtain ⟨kept, hkept⟩ := select_eq_ok names "" s
    have htagged := select_tagged q names s
    rw [hkept] at htagged
    have hlines := render_tagged q flags fun v hv => tagPrefix_of_mem_select hkept hv
    refine ⟨kept, tagged q kept, by rw [selectListed, hkept]; rfl, by rw [selectListed, htagged]; rfl, hlines, ?_⟩
    rw [← hlines]
    refine render_withPrefix fun v hv => ?_
    obtain ⟨w, -, rfl⟩ := List.mem_map.mp hv
    rfl
  · obtain ⟨kept, hkept⟩ := select_eq_ok names q s
    refine ⟨kept, by rw [selectListed, hkept]; rfl, fun more hmore => ?_⟩
    rw [selectListed, select_of_withRejected hmore, hkept]
    rfl

/-- A name without the prefix and one that is no version after it make no difference. -/
theorem unprefixed_and_next_are_passed_over :
    WithRejected "v" ["v1.2", "v1.10"] ["1.3", "v1.2", "vnext", "v1.10"] ∧
      ∃ kept, selectListed .githubTags "o/r" (.ok ["v1.2", "v1.10"]) "v" .everything = .ok kept ∧
        selectListed .githubTags "o/r" (.ok ["1.3", "v1.2", "vnext", "v1.10"]) "v" .everything = .ok kept := by
  have hbare : Rejected "v" "1.3" := fun rest h => by simp [String.ext_iff] at h
  have hnext : Rejected "v" "vnext" := fun rest h => by
    have hrest : rest = "next" := by simpa [String.ext_iff, eq_comm] using h
    subst hrest
    exact ⟨.tooFewParts "next", rfl⟩
  have hmore : WithRejected "v" ["v1.2", "v1.10"] ["1.3", "v1.2", "vnext", "v1.10"] :=
    .rejected hbare (.same _ (.rejected hnext (.same _ .nil)))
  obtain ⟨kept, hkept, hsame⟩ := (same_lines_when_prefixed .githubTags "o/r" ["v1.2", "v1.10"] "v" .everything {}).2
  exact ⟨hmore, kept, hkept, hsame _ hmore⟩

end VersionPick
