/-
  VersionPick.Proofs.Registry.Coordinates — a group and an artifact on their way from the
  settings to the query of a request.

  They are put together with a colon, and taken apart at the first one, so that only the
  group must do without (`coordinates?_eq_some_iff`). In the query a colon stands before
  the artifact again, and the next one before it is that of `g:`; so the query, too, tells
  the group from the artifact, whatever words are in them (`mavenQuery_inj`).

  An address without a query of its own gets the fields behind a question mark, which is the
  first one of the target, as none is left in a path (`query?_target`).
-/

import VersionPick.Proofs.Http.Form
import VersionPick.Proofs.Registry.Responses
import VersionPick.Proofs.Session

namespace VersionPick

/-! ## The query of a target -/

namespace Http

/-- The fields that stand behind the first question mark of the target. -/
def Request.query? (r : Request) : Option Form.Fields :=
  (Text.cut? '?' r.target.toList).bind fun p => Form.read? p.2

def notPlain (c : Char) : Prop := c = '\t' ∨ c = '\n' ∨ c = '\r' ∨ c = '#' ∨ c = '?'

instance : DecidablePred notPlain := fun c =>
  inferInstanceAs (Decidable (c = '\t' ∨ c = '\n' ∨ c = '\r' ∨ c = '#' ∨ c = '?'))

theorem target_eq {address : String} (h : Text.Free notPlain address.toList) (fields : Form.Fields) :
    target address fields = String.ofList (writePath address.toList ++ '?' :: Form.write fields) := by
  have hkept : address.toList.filter (fun c => c != '\t' && c != '\n' && c != '\r') = address.toList := by
    refine List.filter_eq_self.mpr fun c hc => ?_
    have hplain := h c hc
    simp only [notPlain, not_or] at hplain
    simp [hplain]
  have hsign : Text.cut? '#' address.toList = none :=
    Text.cut?_eq_none_iff.mpr fun hc => h _ hc (by simp [notPlain])
  have hmark : Text.cut? '?' address.toList = none :=
    Text.cut?_eq_none_iff.mpr fun hc => h _ hc (by simp [notPlain])
  simp [target, hkept, hsign, hmark]

theorem mark_not_mem_writePath (path : List Char) : '?' ∉ writePath path := by
  unfold writePath
  intro h
  obtain ⟨segment, -, h⟩ := List.mem_flatMap.mp h
  rcases List.mem_cons.mp h with h | h
  · exact absurd h (by decide)
  · obtain ⟨c, -, h⟩ := List.mem_flatMap.mp h
    exact absurd (mem_escape h) (by decide)

/-- A target gives back the fields that it was made with. -/
theorem query?_target {r : Request} {address : String} (h : Text.Free notPlain address.toList) {fields : Form.Fields}
    (hr : r.target = target address fields) : r.query? = some fields := by
  have hcut : Text.cut? '?' r.target.toList = some (writePath address.toList, Form.write fields) := by
    rw [hr, target_eq h, String.toList_ofList]
    exact Text.cut?_eq_some_iff.mpr ⟨rfl, mark_not_mem_writePath _⟩
  rw [Request.query?, hcut, Option.bind_some, Form.read?_write]

end Http

namespace Registry

/-! ## A group and an artifact -/

inductive LacksCoordinates (package : String) : Prop
  | noColon (h : ':' ∉ package.toList)
  | noGroup {artifact : List Char} (h : package.toList = ':' :: artifact)
  | noArtifact {group : List Char} (h : package.toList = group ++ [':']) (hgroup : ':' ∉ group)

@[simp] theorem coordinates?_eq_some_iff {package group artifact : String} :
    coordinates? package = some (group, artifact) ↔
      package = group ++ ":" ++ artifact ∧ ':' ∉ group.toList ∧ group ≠ "" ∧ artifact ≠ "" := by
  constructor
  · intro h
    unfold coordinates? at h
    split at h
    · rename_i g a hcut
      obtain ⟨htext, hg⟩ := Text.cut?_eq_some_iff.mp hcut
      split at h
      · cases h
      · rename_i hfilled
        simp only [Option.some.injEq, Prod.mk.injEq] at h
        obtain ⟨rfl, rfl⟩ := h
        simp only [Bool.or_eq_true, List.isEmpty_iff, not_or] at hfilled
        refine ⟨String.toList_inj.mp (by simp [htext]), by simpa using hg, ?_, ?_⟩
        · simpa using hfilled.1
        · simpa using hfilled.2
    · cases h
  · rintro ⟨rfl, hg, hgroup, hartifact⟩
    have hcut : Text.cut? ':' (group ++ ":" ++ artifact).toList = some (group.toList, artifact.toList) := by
      simp [hg]
    rw [coordinates?, hcut]
    simp [hgroup, hartifact]

@[simp] theorem coordinates?_eq_none_iff {package : String} : coordinates? package = none ↔ LacksCoordinates package := by
  constructor
  · intro h
    unfold coordinates? at h
    split at h
    · rename_i g a hcut
      obtain ⟨htext, hg⟩ := Text.cut?_eq_some_iff.mp hcut
      split at h
      · rename_i hempty
        simp only [Bool.or_eq_true, List.isEmpty_iff] at hempty
        rcases hempty with rfl | rfl
        · exact .noGroup htext
        · exact .noArtifact htext hg
      · cases h
    · rename_i hcut
      exact .noColon (Text.cut?_eq_none_iff.mp hcut)
  · intro h
    unfold coordinates?
    cases h with
    | noColon h => rw [Text.cut?_eq_none_iff.mpr h]
    | @noGroup artifact h =>
      have hcut : Text.cut? ':' package.toList = some ([], artifact) := by simp [h]
      rw [hcut]
      rfl
    | noArtifact h hgroup =>
      rw [Text.cut?_eq_some_iff.mpr ⟨h, hgroup⟩]
      simp

/-! ## The query for a group and an artifact -/

theorem mavenQuery_inj {group artifact group' artifact' : String} (hg : ':' ∉ group.toList) (hg' : ':' ∉ group'.toList)
    (h : mavenQuery group artifact = mavenQuery group' artifact') : group = group' ∧ artifact = artifact' := by
  -- behind `g:` the first colon is the one before the artifact
  have hcut : ∀ {group : String} (artifact : String), ':' ∉ group.toList →
      Text.cut? ':' (group ++ " AND a:" ++ artifact).toList = some (group.toList ++ " AND a".toList, artifact.toList) := by
    intro group artifact hg
    simp [hg]
  have htext : group ++ " AND a:" ++ artifact = group' ++ " AND a:" ++ artifact' := by
    have hfields := congrArg (fun fields => fields.map Prod.snd) h
    simp only [mavenQuery, List.map_cons, List.cons.injEq, and_true] at hfields
    simp only [String.append_assoc] at hfields ⊢
    exact (String.append_right_inj "g:").mp hfields
  have hpair := hcut artifact hg
  rw [htext, hcut artifact' hg', Option.some.injEq, Prod.mk.injEq] at hpair
  obtain ⟨hgroup, hartifact⟩ := hpair
  exact ⟨String.toList_inj.mp (List.append_cancel_right hgroup).symm, String.toList_inj.mp hartifact.symm⟩

theorem query?_mavenRequest (group artifact : String) :
    (mavenRequest group artifact).query? = some (mavenQuery group artifact) := by
  have hplain : Text.Free Http.notPlain "/solrsearch/select".toList := by decide
  exact Http.query?_target hplain rfl

theorem request_maven_eq_ok_iff {package : String} {r : Http.Request} :
    request .mavenArtifact package = .ok r ↔
      ∃ group artifact, coordinates? package = some (group, artifact) ∧ r = mavenRequest group artifact := by
  unfold request
  cases coordinates? package with
  | none => simp
  | some c =>
    obtain ⟨group, artifact⟩ := c
    simp only [Except.ok.injEq, Option.some.injEq, Prod.mk.injEq]
    constructor
    · rintro rfl
      exact ⟨group, artifact, ⟨rfl, rfl⟩, rfl⟩
    · rintro ⟨_, _, ⟨rfl, rfl⟩, rfl⟩
      rfl

theorem request_maven_of_lacks {package : String} (h : LacksCoordinates package) :
    request .mavenArtifact package = .error (.badPackage package) := by
  unfold request
  rw [coordinates?_eq_none_iff.mpr h]

theorem requested_maven_iff {package : String} :
    (∃ r, request .mavenArtifact package = .ok r) ↔ ¬ LacksCoordinates package := by
  rw [← coordinates?_eq_none_iff]
  constructor
  · rintro ⟨r, hr⟩
    obtain ⟨group, artifact, hcoordinates, -⟩ := request_maven_eq_ok_iff.mp hr
    rw [hcoordinates]
    exact Option.some_ne_none _
  · intro h
    obtain ⟨⟨group, artifact⟩, hcoordinates⟩ := Option.ne_none_iff_exists'.mp h
    exact ⟨_, request_maven_eq_ok_iff.mpr ⟨group, artifact, hcoordinates, rfl⟩⟩

/-- No response says that the package was at fault. -/
theorem namesOf_ne_badPackage {source : Source} {package package' : String} {r : Http.Response} :
    namesOf source package r ≠ .error (.badPackage package') := by
  intro h
  cases ((namesOf_follows source package r).error_iff _).mp h

theorem fetch_maven_eq_badPackage_iff {exchange : Exchange} {package : String} :
    fetch exchange .mavenArtifact package = .error (.badPackage package) ↔ LacksCoordinates package := by
  constructor
  · intro h
    by_contra hlacks
    obtain ⟨r, hr⟩ := requested_maven_iff.mpr hlacks
    rw [fetch_of_request hr] at h
    cases hresponse : exchange r with
    | none =>
      rw [hresponse] at h
      cases h
    | some response =>
      rw [hresponse] at h
      exact namesOf_ne_badPackage h
  · intro h
    unfold fetch
    rw [request_maven_of_lacks h]

theorem target_ne_of_ne {package package' : String} {r r' : Http.Request} (hr : request .mavenArtifact package = .ok r)
    (hr' : request .mavenArtifact package' = .ok r') (hne : package ≠ package') : r.target ≠ r'.target := by
  intro htarget
  obtain ⟨group, artifact, hcoordinates, rfl⟩ := request_maven_eq_ok_iff.mp hr
  obtain ⟨group', artifact', hcoordinates', rfl⟩ := request_maven_eq_ok_iff.mp hr'
  obtain ⟨hpackage, hg, -, -⟩ := coordinates?_eq_some_iff.mp hcoordinates
  obtain ⟨hpackage', hg', -, -⟩ := coordinates?_eq_some_iff.mp hcoordinates'
  have hquery : (mavenRequest group artifact).query? = (mavenRequest group' artifact').query? := by
    unfold Http.Request.query?
    rw [htarget]
  rw [query?_mavenRequest, query?_mavenRequest, Option.some.injEq] at hquery
  obtain ⟨rfl, rfl⟩ := mavenQuery_inj hg hg' hquery
  exact hne (hpackage.trans hpackage'.symm)

structure AskedFor (s : Settings) (group artifact package : String) (r : Http.Request) : Prop where
  package_eq : s.package = .ok package
  coordinates_eq : coordinates? package = some (group, artifact)
  request_eq : request s.source package = .ok r
  fetch_eq : ∀ exchange, fetch exchange s.source package =
    (exchange r).elim (.error .noConnection) (namesOf s.source package)
  query_eq : r.query? = some [("q", "g:" ++ group ++ " AND a:" ++ artifact), ("core", "gav"), ("rows", "1000"),
    ("wt", "json")]

theorem askedFor {s : Settings} {group artifact : String} (hsource : s.source = .mavenArtifact)
    (hgroup : s.mavenGroup = some group) (hartifact : s.mavenArtifact = some artifact) (hgroupNe : group ≠ "")
    (hcolon : ':' ∉ group.toList) (hartifactNe : artifact ≠ "") :
    AskedFor s group artifact (group ++ ":" ++ artifact) (mavenRequest group artifact) := by
  have hcoordinates : coordinates? (group ++ ":" ++ artifact) = some (group, artifact) :=
    coordinates?_eq_some_iff.mpr ⟨rfl, hcolon, hgroupNe, hartifactNe⟩
  have hrequest : request s.source (group ++ ":" ++ artifact) = .ok (mavenRequest group artifact) := by
    rw [hsource]
    exact request_maven_eq_ok_iff.mpr ⟨group, artifact, hcoordinates, rfl⟩
  have hfilled : filled? s.mavenGroup = some group := by simp [hgroup, hgroupNe]
  have hfilled' : filled? s.mavenArtifact = some artifact := by simp [hartifact, hartifactNe]
  refine ⟨?_, hcoordinates, hrequest, fetch_of_request hrequest, query?_mavenRequest group artifact⟩
  rw [Settings.package, hsource, hfilled, hfilled']

structure AskedApart (package : String) : Prop where
  requested_iff : (∃ r, request .mavenArtifact package = .ok r) ↔ ¬ LacksCoordinates package
  at_fault_iff : ∀ exchange,
    fetch exchange .mavenArtifact package = .error (.badPackage package) ↔ LacksCoordinates package
  target_ne : ∀ package' r r', request .mavenArtifact package = .ok r → request .mavenArtifact package' = .ok r' →
    package ≠ package' → r.target ≠ r'.target

/-- A group without a colon and any artifact, neither of them empty, are asked for as they were given: the package
    is taken apart into them again, and they stand in the query of the request, whatever characters are in them.
    For a package that is no group and artifact there is no request, and only such a package is at fault;
    packages that differ are asked for at different targets. -/
theorem coordinates_reach_the_query :
    (∀ (s : Settings) (group artifact : String), s.source = .mavenArtifact → s.mavenGroup = some group →
      s.mavenArtifact = some artifact → group ≠ "" → ':' ∉ group.toList → artifact ≠ "" →
      ∃ package r, AskedFor s group artifact package r) ∧
    ∀ package, AskedApart package := by
  refine ⟨fun s group artifact hsource hgroup hartifact hgroupNe hcolon hartifactNe => ?_, fun package => ?_⟩
  · exact ⟨_, _, askedFor hsource hgroup hartifact hgroupNe hcolon hartifactNe⟩
  · exact ⟨requested_maven_iff, fun _ => fetch_maven_eq_badPackage_iff, fun _ _ _ => target_ne_of_ne⟩

/-- An artifact with colons and with words of the query in it is asked for as it is, and so are a blank and a plus sign;
    without a group nobody is asked. -/
theorem colons_and_words_reach_the_query :
    let s : Settings :=
      { source := .mavenArtifact, mavenGroup := some "com.example", mavenArtifact := some "a:b AND a:é+%&=c" }
    (∃ package r, s.package = .ok package ∧ request s.source package = .ok r ∧
      r.query? = some [("q", "g:com.example AND a:a:b AND a:é+%&=c"), ("core", "gav"), ("rows", "1000"),
        ("wt", "json")]) ∧
    (∃ r r', request .mavenArtifact "g:a b" = .ok r ∧ request .mavenArtifact "g:a+b" = .ok r' ∧
      r.target ≠ r'.target) ∧
    ∀ exchange, fetch exchange .mavenArtifact ":a" = .error (.badPackage ":a") := by
  intro s
  obtain ⟨hasked, hapart⟩ := coordinates_reach_the_query
  obtain ⟨package, r, hr⟩ :=
    hasked s "com.example" "a:b AND a:é+%&=c" rfl rfl rfl (by decide) (by decide) (by decide)
  obtain ⟨hblank, hplus⟩ : (¬ LacksCoordinates "g:a b") ∧ ¬ LacksCoordinates "g:a+b" := by
    rw [← coordinates?_eq_none_iff, ← coordinates?_eq_none_iff]
    decide
  obtain ⟨r₁, hr₁⟩ := (hapart "g:a b").requested_iff.mpr hblank
  obtain ⟨r₂, hr₂⟩ := (hapart "g:a+b").requested_iff.mpr hplus
  refine ⟨⟨package, r, hr.package_eq, hr.request_eq, hr.query_eq⟩,
    ⟨r₁, r₂, hr₁, hr₂, (hapart _).target_ne _ _ _ hr₁ hr₂ (by decide)⟩, fun exchange => ?_⟩
  exact ((hapart ":a").at_fault_iff exchange).mpr (.noGroup rfl)

end Registry

end VersionPick
