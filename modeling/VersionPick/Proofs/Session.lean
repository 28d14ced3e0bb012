/-
  VersionPick.Proofs.Session — a run puts all of its versions out, or fails and leaves
  everything as it was.

  What can stand in the way of a run is said apart from how a run goes: `Obstacle` has a
  rule for each failure, and no rule looks at another, so several can hold at once. A run
  meets them in the order of `RunError.stage` and fails with the first. At one stage there is
  never more than one (`Obstacle.eq_of_stage_eq`), so the first is the only error that a run can
  fail with.

  What a run does at each stage is a lemma of its own (`run_of_badFilter` and those after it), and
  so is all that can come of putting versions out (`Surroundings.putOut_cases`). The selector itself
  is no obstacle: no selector is refused the versions that a run has for it.
-/

import VersionPick.Proofs.Selector.Safety
import VersionPick.Session

namespace VersionPick

/-! ## What is missing -/

def Lacking (text : Option String) : Prop := text = none ∨ text = some ""

@[simp] theorem filled?_eq_none_iff {text : Option String} : filled? text = none ↔ Lacking text := by
  cases text with
  | none => simp [filled?, Lacking]
  | some t => simp [filled?, Lacking]

@[simp] theorem filled?_eq_some_iff {text : Option String} {t : String} :
    filled? text = some t ↔ text = some t ∧ t ≠ "" := by
  simp [filled?]

theorem not_lacking {text : Option String} {t : String} (htext : text = some t) (hne : t ≠ "") : ¬Lacking text := by
  simp [Lacking, htext, hne]

namespace Settings

inductive Names (s : Settings) : String → Prop
  | repo {repo : String} : s.source ≠ .mavenArtifact → s.repo = some repo → repo ≠ "" → s.Names repo
  | artifact {group artifact : String} : s.source = .mavenArtifact → s.mavenGroup = some group → group ≠ "" →
      s.mavenArtifact = some artifact → artifact ≠ "" → s.Names (group ++ ":" ++ artifact)

/-- What the settings lack. Group and artifact can both be missing. -/
inductive Lacks (s : Settings) : SettingsError → Prop
  | repo : s.source ≠ .mavenArtifact → Lacking s.repo → s.Lacks (.noRepo s.source)
  | group : s.source = .mavenArtifact → Lacking s.mavenGroup → s.Lacks .noMavenGroup
  | artifact : s.source = .mavenArtifact → Lacking s.mavenArtifact → s.Lacks .noMavenArtifact

end Settings

/-! ## What stands in the way -/

section

variable (registries : Registries) (around : Surroundings) (s : Settings)

inductive Obstacle : RunError → Prop
  | filter {e : SelectorError} : Selector.parse s.filters = .error e → Obstacle (.badFilter e)
  | settings {e : SettingsError} : s.Lacks e → Obstacle (.badSettings e)
  | registry {package : String} {cause : RegistryError} : s.Names package →
      registries s.source package = .error cause → Obstacle (.noVersions (.unlisted package s.source cause))
  | outputPath : s.output.asAction = true → Lacking around.outputPath → Obstacle (.badSettings .noOutputPath)
  | outputFile {path : String} {cause : OpenError} : s.output.asAction = true → around.outputPath = some path →
      around.outputFault = some cause → Obstacle (.noOutputFile path cause)

/-- When a run meets an obstacle. A repository is never missing together with a group or an artifact. -/
def RunError.stage : RunError → Nat
  | .badFilter _ => 0
  | .badSettings (.noRepo _) => 1
  | .badSettings .noMavenGroup => 2
  | .badSettings .noMavenArtifact => 3
  | .noVersions _ => 4
  | .badSettings .noOutputPath => 5
  | .noOutputFile _ _ => 6

def FirstObstacle (e : RunError) : Prop :=
  Obstacle registries around s e ∧ ∀ e', Obstacle registries around s e' → e.stage ≤ e'.stage

end

variable {registries : Registries} {around : Surroundings} {s : Settings}

theorem Settings.Names.eq {package package' : String} (h : s.Names package) (h' : s.Names package') :
    package = package' := by
  cases h with
  | repo hsource hrepo _ =>
    cases h' with
    | repo _ hrepo' _ => exact Option.some.inj (hrepo.symm.trans hrepo')
    | artifact hsource' => exact absurd hsource' hsource
  | artifact hsource hgroup _ hartifact _ =>
    cases h' with
    | repo hsource' => exact absurd hsource hsource'
    | artifact _ hgroup' _ hartifact' _ =>
      obtain rfl := Option.some.inj (hgroup.symm.trans hgroup')
      obtain rfl := Option.some.inj (hartifact.symm.trans hartifact')
      rfl

theorem Settings.Names.not_lacks {package : String} (h : s.Names package) (e : SettingsError) : ¬s.Lacks e := by
  intro hlacks
  cases h with
  | repo hsource hrepo hne =>
    cases hlacks with
    | repo _ hlacking => exact not_lacking hrepo hne hlacking
    | group hsource' => exact hsource hsource'
    | artifact hsource' => exact hsource hsource'
  | artifact hsource hgroup hgroupNe hartifact hartifactNe =>
    cases hlacks with
    | repo hsource' => exact hsource' hsource
    | group _ hlacking => exact not_lacking hgroup hgroupNe hlacking
    | artifact _ hlacking => exact not_lacking hartifact hartifactNe hlacking

theorem Settings.Lacks.eq_of_stage_eq {e e' : SettingsError} (h : s.Lacks e) (h' : s.Lacks e')
    (hstage : (RunError.badSettings e).stage = (RunError.badSettings e').stage) : e = e' := by
  cases h with
  | repo =>
    cases h' with
    | repo => rfl
    | _ => cases hstage
  | group =>
    cases h' with
    | group => rfl
    | _ => cases hstage
  | artifact =>
    cases h' with
    | artifact => rfl
    | _ => cases hstage

theorem Settings.Lacks.stage_le {e : SettingsError} (h : s.Lacks e) : (RunError.badSettings e).stage ≤ 3 := by
  cases h with
  | repo => exact Nat.le_add_left 1 2
  | group => exact Nat.le_add_left 2 1
  | artifact => exact Nat.le_refl 3

/-- No two obstacles are met at the same stage. -/
theorem Obstacle.eq_of_stage_eq {e e' : RunError} (h : Obstacle registries around s e)
    (h' : Obstacle registries around s e') (hstage : e.stage = e'.stage) : e = e' := by
  cases h with
  | filter hparse =>
    cases h' with
    | filter hparse' =>
      obtain rfl := Except.error.inj (hparse.symm.trans hparse')
      rfl
    | settings hlacks => cases hlacks <;> cases hstage
    | _ => cases hstage
  | settings hlacks =>
    cases h' with
    | settings hlacks' => rw [hlacks.eq_of_stage_eq hlacks' hstage]
    | _ => cases hlacks <;> cases hstage
  | registry hnames hlisted =>
    cases h' with
    | registry hnames' hlisted' =>
      obtain rfl := hnames.eq hnames'
      obtain rfl := Except.error.inj (hlisted.symm.trans hlisted')
      rfl
    | settings hlacks => cases hlacks <;> cases hstage
    | _ => cases hstage
  | outputPath _ _ =>
    cases h' with
    | outputPath => rfl
    | settings hlacks => cases hlacks <;> cases hstage
    | _ => cases hstage
  | outputFile _ hpath hfault =>
    cases h' with
    | outputFile _ hpath' hfault' =>
      obtain rfl := Option.some.inj (hpath.symm.trans hpath')
      obtain rfl := Option.some.inj (hfault.symm.trans hfault')
      rfl
    | settings hlacks => cases hlacks <;> cases hstage
    | _ => cases hstage

/-! ## How a run goes -/

namespace Settings

def LacksFirst (s : Settings) (e : SettingsError) : Prop :=
  s.Lacks e ∧ ∀ e', s.Lacks e' → (RunError.badSettings e).stage ≤ (RunError.badSettings e').stage

theorem package_of_repo_source (hsource : s.source ≠ .mavenArtifact) :
    (∃ package, s.package = .ok package ∧ s.Names package) ∨ ∃ e, s.package = .error e ∧ s.LacksFirst e := by
  have hpackage : s.package = (filled? s.repo).elim (.error (.noRepo s.source)) .ok := by
    rw [package]
    cases hs : s.source with
    | mavenArtifact => exact absurd hs hsource
    | _ => cases filled? s.repo <;> rfl
  rw [hpackage]
  cases hfilled : filled? s.repo with
  | none =>
    refine .inr ⟨.noRepo s.source, rfl, .repo hsource (filled?_eq_none_iff.mp hfilled), fun e' hlacks => ?_⟩
    cases hlacks with
    | repo => exact Nat.le_refl _
    | group hsource' => exact absurd hsource' hsource
    | artifact hsource' => exact absurd hsource' hsource
  | some repo =>
    obtain ⟨hrepo, hne⟩ := filled?_eq_some_iff.mp hfilled
    exact .inl ⟨repo, rfl, .repo hsource hrepo hne⟩

theorem package_of_artifact_source (hsource : s.source = .mavenArtifact) :
    (∃ package, s.package = .ok package ∧ s.Names package) ∨ ∃ e, s.package = .error e ∧ s.LacksFirst e := by
  rw [package, hsource]
  cases hgroup : filled? s.mavenGroup with
  | none =>
    refine .inr ⟨.noMavenGroup, rfl, .group hsource (filled?_eq_none_iff.mp hgroup), fun e' hlacks => ?_⟩
    cases hlacks with
    | repo hsource' => exact absurd hsource hsource'
    | _ => decide
  | some group =>
    obtain ⟨hgroup', hne⟩ := filled?_eq_some_iff.mp hgroup
    cases hartifact : filled? s.mavenArtifact with
    | none =>
      refine .inr ⟨.noMavenArtifact, rfl, .artifact hsource (filled?_eq_none_iff.mp hartifact), fun e' hlacks => ?_⟩
      cases hlacks with
      | repo hsource' => exact absurd hsource hsource'
      | group _ hlacking =>
        -- the group is there, or the package would have been refused for it
        rw [filled?_eq_none_iff.mpr hlacking] at hgroup
        cases hgroup
      | artifact => exact Nat.le_refl _
    | some artifact =>
      obtain ⟨hartifact', hne'⟩ := filled?_eq_some_iff.mp hartifact
      exact .inl ⟨_, rfl, .artifact hsource hgroup' hne hartifact' hne'⟩

/-- The settings name a package, or the package is refused for the first thing that they lack. -/
theorem package_cases (s : Settings) :
    (∃ package, s.package = .ok package ∧ s.Names package) ∨ ∃ e, s.package = .error e ∧ s.LacksFirst e := by
  by_cases hsource : s.source = .mavenArtifact
  · exact package_of_artifact_source hsource
  · exact package_of_repo_source hsource

end Settings

theorem run_of_badFilter {e : SelectorError} (hparse : Selector.parse s.filters = .error e) :
    run registries around s = Outcome.failure (.badFilter e) := by
  rw [run, plan, hparse]

section

variable {selector : Selector} (hparse : Selector.parse s.filters = .ok selector)

include hparse

theorem run_of_badSettings {e : SettingsError} (hpackage : s.package = .error e) :
    run registries around s = Outcome.failure (.badSettings e) := by
  rw [run, plan, hparse, hpackage]

variable {package : String} (hpackage : s.package = .ok package)

include hpackage

theorem run_of_unlisted {cause : RegistryError} (hlisted : registries s.source package = .error cause) :
    run registries around s =
      { Outcome.failure (.noVersions (.unlisted package s.source cause)) with asked := some (s.source, package) } := by
  rw [run, plan, hparse, hpackage]
  simp only [hlisted, selectListed]

theorem run_of_listed {names : List String} (hlisted : registries s.source package = .ok names) {kept : List Version}
    (hkept : select names s.tagPrefix selector = .ok kept) :
    run registries around s = { around.putOut s.output kept with asked := some (s.source, package) } := by
  rw [run, plan, hparse, hpackage]
  simp only [hlisted, selectListed, hkept, Except.mapError]

end

/-- All of the versions are put out where the settings say, or nothing is: without a path, or with a file
    at the path that does not open, when they are for the output file. -/
theorem Surroundings.putOut_cases (around : Surroundings) (flags : OutputFlags) (vs : List Version) :
    (flags.asAction = true ∧ Lacking around.outputPath ∧
      around.putOut flags vs = Outcome.failure (.badSettings .noOutputPath)) ∨
    (∃ path cause, flags.asAction = true ∧ around.outputPath = some path ∧ path ≠ "" ∧
      around.outputFault = some cause ∧ around.putOut flags vs = Outcome.failure (.noOutputFile path cause)) ∨
    (∃ path, flags.asAction = true ∧ around.outputPath = some path ∧ path ≠ "" ∧ around.outputFault = none ∧
      around.putOut flags vs = { added := actionText (render flags vs) }) ∨
    (flags.asAction = false ∧ around.putOut flags vs = { stdout := plainText (render flags vs) }) := by
  unfold putOut
  cases haction : flags.asAction with
  | false => exact .inr (.inr (.inr ⟨rfl, rfl⟩))
  | true =>
    cases hpath : filled? around.outputPath with
    | none => exact .inl ⟨rfl, filled?_eq_none_iff.mp hpath, rfl⟩
    | some path =>
      obtain ⟨hpath', hne⟩ := filled?_eq_some_iff.mp hpath
      cases hfault : around.outputFault with
      | some cause => exact .inr (.inl ⟨path, cause, rfl, hpath', hne, rfl, rfl⟩)
      | none => exact .inr (.inr (.inl ⟨path, rfl, hpath', hne, rfl, rfl⟩))

/-! ## All or nothing -/

theorem Outcome.fileAfter_of_added_eq {outcome : Outcome} (h : outcome.added = "") (file : Option ByteArray) :
    outcome.fileAfter file = file := by
  simp [fileAfter, h]

/-- That all versions were put out where the settings say, and nothing else was. -/
def AllPutOut (around : Surroundings) (flags : OutputFlags) (kept : List Version) (outcome : Outcome) : Prop :=
  match flags.asAction with
  | true => outcome.stdout = "" ∧ around.outputFault = none ∧
      ∀ old, outcome.fileAfter (some old) = some (old ++ (actionText (render flags kept)).toUTF8)
  | false => outcome.stdout = plainText (render flags kept) ∧ ∀ file, outcome.fileAfter file = file

structure AllOrNothing (registries : Registries) (around : Surroundings) (s : Settings) (outcome : Outcome) : Prop where
  error_iff : ∀ e, outcome.error = some e ↔ FirstObstacle registries around s e
  no_error_iff : outcome.error = none ↔ ∀ e, ¬Obstacle registries around s e
  /-- No source is asked if the filter is wrong or the settings lack something. -/
  unasked_iff : outcome.asked = none ↔ (∃ e, Selector.parse s.filters = .error e) ∨ ∃ e, s.Lacks e
  /-- If no source is asked, it makes no difference what sources list. -/
  of_unasked : outcome.asked = none → ∀ registries', run registries' around s = outcome
  of_asked : ∀ source package, outcome.asked = some (source, package) → source = s.source ∧ s.Names package
  of_error : outcome.error ≠ none → outcome.stdout = "" ∧ ∀ file, outcome.fileAfter file = file
  of_no_error : outcome.error = none → ∃ selector package names kept,
    Selector.parse s.filters = .ok selector ∧ s.Names package ∧ registries s.source package = .ok names ∧
    select names s.tagPrefix selector = .ok kept ∧ AllPutOut around s.output kept outcome

def FailsFirst (registries : Registries) (around : Surroundings) (s : Settings) (error : Option RunError) : Prop :=
  (∀ e, error = some e ↔ FirstObstacle registries around s e) ∧
    (error = none ↔ ∀ e, ¬Obstacle registries around s e)

theorem FirstObstacle.failsFirst {e : RunError} (h : FirstObstacle registries around s e) :
    FailsFirst registries around s (some e) := by
  refine ⟨fun e' => ⟨?_, fun h' => ?_⟩, ⟨nofun, fun hno => absurd h.1 (hno e)⟩⟩
  · rintro ⟨⟩
    exact h
  · have hstage : e.stage = e'.stage := Nat.le_antisymm (h.2 e' h'.1) (h'.2 e h.1)
    rw [h.1.eq_of_stage_eq h'.1 hstage]

theorem failsFirst_none (hno : ∀ e, ¬Obstacle registries around s e) : FailsFirst registries around s none := by
  refine ⟨fun e => ⟨nofun, fun hfirst => absurd hfirst.1 (hno e)⟩, ?_⟩
  exact ⟨fun _ => hno, fun _ => rfl⟩

theorem allOrNothing_of_unasked {e : RunError} (hfirst : FirstObstacle registries around s e)
    (hunasked : (∃ e, Selector.parse s.filters = .error e) ∨ ∃ e, s.Lacks e)
    (hrun : ∀ registries', run registries' around s = Outcome.failure e) :
    AllOrNothing registries around s (Outcome.failure e) where
  error_iff := hfirst.failsFirst.1
  no_error_iff := hfirst.failsFirst.2
  unasked_iff := ⟨fun _ => hunasked, fun _ => rfl⟩
  of_unasked := fun _ => hrun
  of_asked := nofun
  of_error := fun _ => ⟨rfl, Outcome.fileAfter_of_added_eq rfl⟩
  of_no_error := nofun

theorem firstObstacle_settings {selector : Selector} (hparse : Selector.parse s.filters = .ok selector)
    {e : SettingsError} (hfirst : s.LacksFirst e) : FirstObstacle registries around s (.badSettings e) := by
  obtain ⟨hlacks, hleast⟩ := hfirst
  have hstage := hlacks.stage_le
  refine ⟨.settings hlacks, fun e' h => ?_⟩
  cases h with
  | filter hparse' =>
    rw [hparse] at hparse'
    cases hparse'
  | settings hlacks' => exact hleast _ hlacks'
  | registry hnames => exact absurd hlacks (hnames.not_lacks e)
  | outputPath => exact Nat.le_trans hstage (Nat.le_add_left 3 2)
  | outputFile => exact Nat.le_trans hstage (Nat.le_add_left 3 3)

section

variable {selector : Selector} (hparse : Selector.parse s.filters = .ok selector) {package : String}
  (hnames : s.Names package)

include hparse hnames

theorem not_unasked : ¬((∃ e, Selector.parse s.filters = .error e) ∨ ∃ e, s.Lacks e) := by
  rintro (⟨e, hparse'⟩ | ⟨e, hlacks⟩)
  · rw [hparse] at hparse'
    cases hparse'
  · exact hnames.not_lacks e hlacks

theorem allOrNothing_of_asked {outcome : Outcome} (hasked : outcome.asked = some (s.source, package))
    (hfails : FailsFirst registries around s outcome.error)
    (herror : outcome.error ≠ none → outcome.stdout = "" ∧ ∀ file, outcome.fileAfter file = file)
    (hnoError : outcome.error = none → ∃ names kept, registries s.source package = .ok names ∧
      select names s.tagPrefix selector = .ok kept ∧ AllPutOut around s.output kept outcome) :
    AllOrNothing registries around s outcome where
  error_iff := hfails.1
  no_error_iff := hfails.2
  unasked_iff := by
    rw [hasked]
    exact ⟨nofun, fun h => absurd h (not_unasked hparse hnames)⟩
  of_unasked := fun hnone => by
    rw [hasked] at hnone
    cases hnone
  of_asked := fun source package' hasked' => by
    rw [hasked, Option.some.injEq, Prod.mk.injEq] at hasked'
    obtain ⟨rfl, rfl⟩ := hasked'
    exact ⟨rfl, hnames⟩
  of_error := herror
  of_no_error := fun hnone =>
    have ⟨names, kept, hlisted, hkept, hout⟩ := hnoError hnone
    ⟨selector, package, names, kept, hparse, hnames, hlisted, hkept, hout⟩

theorem allOrNothing_failure {e : RunError} (hfirst : FirstObstacle registries around s e) :
    AllOrNothing registries around s { Outcome.failure e with asked := some (s.source, package) } :=
  allOrNothing_of_asked hparse hnames rfl hfirst.failsFirst (fun _ => ⟨rfl, Outcome.fileAfter_of_added_eq rfl⟩)
    nofun

theorem firstObstacle_registry {cause : RegistryError} (hlisted : registries s.source package = .error cause) :
    FirstObstacle registries around s (.noVersions (.unlisted package s.source cause)) := by
  refine ⟨.registry hnames hlisted, fun e h => ?_⟩
  cases h with
  | filter hparse' => exact absurd (.inl ⟨_, hparse'⟩) (not_unasked hparse hnames)
  | settings hlacks => exact absurd hlacks (hnames.not_lacks _)
  | registry => exact Nat.le_refl 4
  | outputPath => exact Nat.le_add_left 4 1
  | outputFile => exact Nat.le_add_left 4 2

section

variable {names : List String} (hlisted : registries s.source package = .ok names)

include hlisted

/-- With names from the source, only the output can still be in the way. -/
theorem Obstacle.of_listed {e : RunError} (h : Obstacle registries around s e) :
    s.output.asAction = true ∧
      ((e = .badSettings .noOutputPath ∧ Lacking around.outputPath) ∨
        ∃ path cause, e = .noOutputFile path cause ∧ around.outputFault = some cause) := by
  cases h with
  | filter hparse' => exact absurd (.inl ⟨_, hparse'⟩) (not_unasked hparse hnames)
  | settings hlacks => exact absurd hlacks (hnames.not_lacks _)
  | registry hnames' hlisted' =>
    obtain rfl := hnames.eq hnames'
    rw [hlisted] at hlisted'
    cases hlisted'
  | outputPath haction hlacking => exact ⟨haction, .inl ⟨rfl, hlacking⟩⟩
  | outputFile haction _ hfault => exact ⟨haction, .inr ⟨_, _, rfl, hfault⟩⟩

theorem allOrNothing_success {kept : List Version} (hkept : select names s.tagPrefix selector = .ok kept)
    (hno : ∀ e, ¬Obstacle registries around s e) {outcome : Outcome} (hasked : outcome.asked = some (s.source, package))
    (herror : outcome.error = none) (hout : AllPutOut around s.output kept outcome) :
    AllOrNothing registries around s outcome := by
  refine allOrNothing_of_asked hparse hnames hasked ?_ (fun h => absurd herror h) fun _ => ?_
  · rw [herror]
    exact failsFirst_none hno
  · exact ⟨names, kept, hlisted, hkept, hout⟩

theorem allOrNothing_putOut {kept : List Version} (hkept : select names s.tagPrefix selector = .ok kept) :
    AllOrNothing registries around s { around.putOut s.output kept with asked := some (s.source, package) } := by
  rcases around.putOut_cases s.output kept with ⟨haction, hlacking, hout⟩ |
    ⟨path, cause, haction, hpath, hne, hfault, hout⟩ | ⟨path, haction, hpath, hne, hfault, hout⟩ | ⟨haction, hout⟩
  · rw [hout]
    refine allOrNothing_failure hparse hnames ⟨.outputPath haction hlacking, fun e h => ?_⟩
    rcases (h.of_listed hparse hnames hlisted).2 with ⟨rfl, -⟩ | ⟨path, cause, rfl, -⟩
    · exact Nat.le_refl 5
    · exact Nat.le_succ 5
  · rw [hout]
    refine allOrNothing_failure hparse hnames ⟨.outputFile haction hpath hfault, fun e h => ?_⟩
    rcases (h.of_listed hparse hnames hlisted).2 with ⟨-, hlacking⟩ | ⟨path', cause', rfl, -⟩
    · exact absurd hlacking (not_lacking hpath hne)
    · exact Nat.le_refl 6
  · have hno : ∀ e, ¬Obstacle registries around s e := by
      intro e h
      rcases (h.of_listed hparse hnames hlisted).2 with ⟨-, hlacking⟩ | ⟨path', cause, -, hfault'⟩
      · exact not_lacking hpath hne hlacking
      · rw [hfault] at hfault'
        cases hfault'
    rw [hout]
    refine allOrNothing_success hparse hnames hlisted hkept hno rfl rfl ?_
    rw [AllPutOut, haction]
    exact ⟨rfl, hfault, fun _ => rfl⟩
  · have hno : ∀ e, ¬Obstacle registries around s e := by
      intro e h
      rw [(h.of_listed hparse hnames hlisted).1] at haction
      cases haction
    rw [hout]
    refine allOrNothing_success hparse hnames hlisted hkept hno rfl rfl ?_
    rw [AllPutOut, haction]
    exact ⟨rfl, Outcome.fileAfter_of_added_eq rfl⟩

end

end

end VersionPick
