/-
  VersionPick.Proofs.Registry.Responses — how the response to a request is understood.

  Why a response gives no names is a matter of its status first (`Fails`), and what names it
  gives is a matter of the records that its body lists (`Lists`). What a source calls a list
  and what it calls a record is its own affair (`items?`, `Record.ofJson?`); all else is one
  rule for all of them (`namesOf_follows`). So a response that says the request failed says
  the same of every source, whatever its body (`namesOf_eq_of_failed`), and of one that says
  it succeeded nothing but the body counts (`namesOf_eq_of_succeeded`).

  A record is a release or no more than a name. Drafts of releases are passed over, and every
  other record gives one name, in the order of the body.
-/

import VersionPick.Proofs.Follows
import VersionPick.Proofs.Text.Decimal
import VersionPick.Proofs.Traversal
import VersionPick.Registry.Fetch

namespace VersionPick

/-! ## Status codes -/

namespace Http.Status

def Succeeded (code : Nat) : Prop := 200 ≤ code ∧ code < 300

@[simp] theorem isSuccess_iff {code : Nat} : isSuccess code = true ↔ Succeeded code := by
  simp [isSuccess, Succeeded]

/-- A code is told by its text, as there is a blank behind its digits. -/
theorem text_inj {code code' : Nat} (h : text code = text code') : code = code' := by
  have hcut : ∀ n, Text.cut? ' ' (text n).toList =
      some (Nat.toDigits 10 n, ((reasons.lookup n).getD "<unknown status code>").toList) := by
    intro n
    refine Text.cut?_eq_some_iff.mpr ⟨by simp [text], fun hmem => ?_⟩
    exact absurd (Text.Decimal.isDigit_of_mem_write hmem) (by decide)
  have hdigits := hcut code
  rw [h, hcut code', Option.some.injEq, Prod.mk.injEq] at hdigits
  rw [← Text.Decimal.value_write code, ← Text.Decimal.value_write code']
  exact congrArg Text.Decimal.value hdigits.1.symm

end Http.Status

/-- The message about a status names it. -/
theorem RegistryError.badStatus_message_inj {code code' : Nat}
    (h : (badStatus code).message = (badStatus code').message) : code = code' := by
  have h' : "Invalid response: Unexpected status: " ++ Http.Status.text code =
      "Invalid response: Unexpected status: " ++ Http.Status.text code' := h
  exact Http.Status.text_inj (String.append_right_inj _ |>.mp h')

namespace Registry

open Http.Status (Succeeded)
open Json (Value)

/-! ## How long to wait -/

/-- Digits with a value that 64 bits hold, perhaps behind a plus sign. -/
def IsSeconds (header : String) (n : Nat) : Prop :=
  ∃ digits, (header.toList = digits ∨ header.toList = '+' :: digits) ∧
    Text.Decimal.IsNumeral digits ∧ Text.Decimal.value digits = n

@[simp] theorem seconds?_eq_some_iff {header : String} {n : Nat} : seconds? header = some n ↔ IsSeconds header n := by
  unfold seconds? IsSeconds
  split
  · rename_i digits heq
    rw [Text.Decimal.read?_eq_some_iff, heq]
    constructor
    · intro h
      exact ⟨digits, Or.inr rfl, h⟩
    · rintro ⟨ds, rfl | hds, h⟩
      · -- a plus sign is no digit
        exact absurd (h.1.2.1 '+' List.mem_cons_self) (by decide)
      · obtain rfl := (List.cons.inj hds).2
        exact h
  · rename_i hplus
    rw [Text.Decimal.read?_eq_some_iff]
    constructor
    · intro h
      exact ⟨_, Or.inl rfl, h⟩
    · rintro ⟨ds, rfl | hds, h⟩
      · exact h
      · exact absurd hds (hplus ds)

/-! ## What a body lists -/

theorem Release.shownName_of_named {r : Release} {name : String} (h : r.name = some name) (hne : name ≠ "") :
    r.shownName = name := by
  simp [shownName, h, hne]

theorem Release.shownName_of_unnamed {r : Release} (h : r.name = none ∨ r.name = some "") : r.shownName = r.tag := by
  rcases h with h | h <;> simp [shownName, h]

inductive Record where
  | release (r : Release)
  | named (name : String)

namespace Record

def ofJson? (source : Source) (v : Value) : Option Record :=
  match source with
  | .githubReleases => (Release.ofJson? v).map release
  | .githubTags => ((v.field? "name").bind Value.string?).map named
  | .dockerhubTags => ((v.field? "name").bind Value.string?).map named
  | .mavenArtifact => ((v.field? "v").bind Value.string?).map named

def isDraft : Record → Bool
  | release r => r.draft
  | named _ => false

/-- A release goes by its name, or by its tag if it has no name or an empty one. -/
inductive GoesBy : Record → String → Prop
  | name {r : Release} {name : String} (h : r.name = some name) (hne : name ≠ "") : GoesBy (release r) name
  | tag {r : Release} (h : r.name = none ∨ r.name = some "") : GoesBy (release r) r.tag
  | named (name : String) : GoesBy (named name) name

def shownName : Record → String
  | release r => r.shownName
  | named name => name

theorem goesBy_iff {r : Record} {name : String} : r.GoesBy name ↔ r.shownName = name := by
  constructor
  · intro h
    cases h with
    | name h hne => exact Release.shownName_of_named h hne
    | tag h => exact Release.shownName_of_unnamed h
    | named => rfl
  · rintro rfl
    cases r with
    | named name => exact .named name
    | release r =>
      by_cases h : r.name = none ∨ r.name = some ""
      · show GoesBy (release r) r.shownName
        rw [Release.shownName_of_unnamed h]
        exact .tag h
      · obtain ⟨hnone, hempty⟩ := not_or.mp h
        obtain ⟨name, hname⟩ := Option.ne_none_iff_exists'.mp hnone
        have hne : name ≠ "" := fun he => hempty (he ▸ hname)
        show GoesBy (release r) r.shownName
        rw [Release.shownName_of_named hname hne]
        exact .name hname hne

end Record

def items? (source : Source) (v : Value) : Option (List Value) :=
  match source with
  | .githubReleases => v.array?
  | .githubTags => v.array?
  | .dockerhubTags => (v.field? "results").bind Value.array?
  | .mavenArtifact => (v.field? "response").bind fun r => (r.field? "docs").bind Value.array?

def records? (source : Source) (body : ByteArray) : Option (List Record) :=
  ((Json.ofBytes? body).bind (items? source)).bind fun items => items.mapM (Record.ofJson? source)

def listedNames (records : List Record) : List String := (records.filter fun r => !r.isDraft).map Record.shownName

theorem listedNames_releases (rs : List Release) : listedNames (rs.map .release) = releaseNames rs := by
  unfold listedNames releaseNames
  rw [List.filter_map, List.map_map]
  rfl

theorem listedNames_named (names : List String) : listedNames (names.map .named) = names := by
  induction names with
  | nil => rfl
  | cons name names ih => exact congrArg (name :: ·) ih

theorem fieldTexts?_eq (name : String) (v : Value) :
    fieldTexts? name v = (v.array?.bind fun items =>
      items.mapM fun item => ((item.field? name).bind Value.string?).map Record.named).map listedNames := by
  unfold fieldTexts?
  cases v.array? with
  | none => rfl
  | some items =>
    rw [Option.bind_some, Option.bind_some, mapM_option_map, Option.map_map]
    cases items.mapM fun item => (item.field? name).bind Value.string? with
    | none => rfl
    | some names => exact congrArg some (listedNames_named names).symm

/-- The names of an answer are those of its records. -/
theorem names?_eq (source : Source) (v : Value) :
    names? source v =
      ((items? source v).bind fun items => items.mapM (Record.ofJson? source)).map listedNames := by
  cases source with
  | githubReleases =>
    unfold names? items? Record.ofJson?
    cases v.array? with
    | none => rfl
    | some items =>
      simp only [Option.bind_some, mapM_option_map, Option.map_map]
      exact Option.map_congr fun rs _ => (listedNames_releases rs).symm
  | githubTags => exact fieldTexts?_eq "name" v
  | dockerhubTags =>
    unfold names? items?
    cases v.field? "results" with
    | none => rfl
    | some results => exact fieldTexts?_eq "name" results
  | mavenArtifact =>
    unfold names? items?
    cases v.field? "response" with
    | none => rfl
    | some response =>
      simp only [Option.bind_some]
      cases response.field? "docs" with
      | none => rfl
      | some docs => exact fieldTexts?_eq "v" docs

theorem names?_ofBytes? (source : Source) (body : ByteArray) :
    (Json.ofBytes? body).bind (names? source) = (records? source body).map listedNames := by
  unfold records?
  cases Json.ofBytes? body with
  | none => rfl
  | some v => exact names?_eq source v

/-- Only one source lists more than names. -/
theorem Record.named_of_ofJson? {source : Source} (h : source ≠ .githubReleases) {item : Value} {record : Record}
    (hrecord : ofJson? source item = some record) : ∃ name, record = named name := by
  cases source with
  | githubReleases => exact absurd rfl h
  | githubTags | dockerhubTags | mavenArtifact =>
    obtain ⟨name, -, hname⟩ := Option.map_eq_some_iff.mp hrecord
    exact ⟨name, hname.symm⟩

theorem eq_map_named {source : Source} (h : source ≠ .githubReleases) {items : List Value} {records : List Record}
    (hrecords : List.Forall₂ (fun item record => Record.ofJson? source item = some record) items records) :
    records = (listedNames records).map .named := by
  induction hrecords with
  | nil => rfl
  | cons hrecord _ ih =>
    obtain ⟨name, rfl⟩ := Record.named_of_ofJson? h hrecord
    exact congrArg (Record.named name :: ·) ih

theorem exists_releases {items : List Value} {records : List Record}
    (hrecords : List.Forall₂ (fun item record => Record.ofJson? .githubReleases item = some record) items records) :
    ∃ releases, List.Forall₂ (fun item release => Release.ofJson? item = some release) items releases ∧
      records = releases.map .release := by
  induction hrecords with
  | nil => exact ⟨[], .nil, rfl⟩
  | cons hrecord _ ih =>
    obtain ⟨releases, hreleases, rfl⟩ := ih
    obtain ⟨release, hrelease, rfl⟩ := Option.map_eq_some_iff.mp hrecord
    exact ⟨release :: releases, .cons hrelease hreleases, rfl⟩

theorem records?_eq_some_iff {source : Source} {body : ByteArray} {records : List Record} :
    records? source body = some records ↔ ∃ v items, Json.ofBytes? body = some v ∧ items? source v = some items ∧
      List.Forall₂ (fun item record => Record.ofJson? source item = some record) items records := by
  unfold records?
  simp only [Option.bind_eq_some_iff, mapM_eq_some_iff]
  constructor
  · rintro ⟨items, ⟨v, hv, hitems⟩, hrecords⟩
    exact ⟨v, items, hv, hitems, hrecords⟩
  · rintro ⟨v, items, hv, hitems, hrecords⟩
    exact ⟨items, ⟨v, hv, hitems⟩, hrecords⟩

/-! ## One rule for all sources -/

/-- The names that a response gives: one for each record that is no draft, in the order of the body. -/
structure Lists (source : Source) (r : Http.Response) (names : List String) : Prop where
  succeeded : Succeeded r.status
  listed : ∃ records, records? source r.body = some records ∧
    List.Forall₂ Record.GoesBy (records.filter fun record => !record.isDraft) names

inductive Fails (source : Source) (package : String) (r : Http.Response) : RegistryError → Prop
  | notFound (h : r.status = 404) : Fails source package r (.notFound package)
  | rateLimited {wait : Option Nat} (h : r.status = 429)
      (hwait : ∀ n, wait = some n ↔ ∃ header, r.retryAfter = some header ∧ IsSeconds header n) :
      Fails source package r (.rateLimited wait)
  | badStatus (h : ¬ Succeeded r.status) (h404 : r.status ≠ 404) (h429 : r.status ≠ 429) :
      Fails source package r (.badStatus r.status)
  | badBody (h : Succeeded r.status) (hbody : records? source r.body = none) : Fails source package r .badBody

theorem forall₂_goesBy_iff {records : List Record} {names : List String} :
    List.Forall₂ Record.GoesBy (records.filter fun record => !record.isDraft) names ↔ listedNames records = names := by
  have hgoesBy : Record.GoesBy = fun record name => record.shownName = name := by
    funext record name
    exact propext Record.goesBy_iff
  unfold listedNames
  rw [hgoesBy, ← List.forall₂_eq_eq_eq, List.forall₂_map_left_iff]

theorem wait_eq_some_iff {retryAfter : Option String} {n : Nat} :
    retryAfter.bind seconds? = some n ↔ ∃ header, retryAfter = some header ∧ IsSeconds header n := by
  simp [Option.bind_eq_some_iff]

section

variable {source : Source} {package : String} {r : Http.Response}

theorem namesOf_of_notFound (h : r.status = 404) : namesOf source package r = .error (.notFound package) := by
  simp [namesOf, h]

theorem namesOf_of_rateLimited (h : r.status = 429) :
    namesOf source package r = .error (.rateLimited (r.retryAfter.bind seconds?)) := by
  simp [namesOf, h]

theorem namesOf_of_badStatus (h : ¬ Succeeded r.status) (h404 : r.status ≠ 404) (h429 : r.status ≠ 429) :
    namesOf source package r = .error (.badStatus r.status) := by
  simp [namesOf, h404, h429, h]

theorem namesOf_of_succeeded (h : Succeeded r.status) :
    namesOf source package r = (records? source r.body).elim (.error .badBody) fun records =>
      .ok (listedNames records) := by
  have h404 : r.status ≠ 404 := fun h' => absurd (h' ▸ h.2) (by decide)
  have h429 : r.status ≠ 429 := fun h' => absurd (h' ▸ h.2) (by decide)
  simp only [namesOf, if_neg h404, if_neg h429, Http.Status.isSuccess_iff.mpr h, names?_ofBytes?]
  cases records? source r.body <;> rfl

theorem namesOf_follows (source : Source) (package : String) (r : Http.Response) :
    Follows (namesOf source package r) (Lists source r) (Fails source package r) := by
  refine .of_total ?_ (fun names h => ?_) fun e h => ?_
  · by_cases h : Succeeded r.status
    · cases hbody : records? source r.body with
      | none => exact Or.inr ⟨_, .badBody h hbody⟩
      | some records => exact Or.inl ⟨_, h, records, hbody, forall₂_goesBy_iff.mpr rfl⟩
    · by_cases h404 : r.status = 404
      · exact Or.inr ⟨_, .notFound h404⟩
      · by_cases h429 : r.status = 429
        · exact Or.inr ⟨_, .rateLimited h429 fun _ => wait_eq_some_iff⟩
        · exact Or.inr ⟨_, .badStatus h h404 h429⟩
  · obtain ⟨hsucc, records, hbody, hnames⟩ := h
    rw [namesOf_of_succeeded hsucc, hbody, Option.elim_some, forall₂_goesBy_iff.mp hnames]
  · cases h with
    | notFound h => exact namesOf_of_notFound h
    | @rateLimited wait h hwait =>
      have hsame : wait = r.retryAfter.bind seconds? := Option.ext fun n => (hwait n).trans wait_eq_some_iff.symm
      rw [namesOf_of_rateLimited h, hsame]
    | badStatus h h404 h429 => exact namesOf_of_badStatus h h404 h429
    | badBody h hbody => rw [namesOf_of_succeeded h, hbody, Option.elim_none]

end

/-- A request that failed has failed alike, whatever the source was and whatever the body says. -/
theorem namesOf_eq_of_failed {source source' : Source} {package : String} {r r' : Http.Response}
    (hstatus : r'.status = r.status) (h : ¬ Succeeded r.status) (hwait : r.status = 429 → r'.retryAfter = r.retryAfter) :
    namesOf source' package r' = namesOf source package r := by
  by_cases h404 : r.status = 404
  · rw [namesOf_of_notFound h404, namesOf_of_notFound (hstatus.trans h404)]
  · by_cases h429 : r.status = 429
    · rw [namesOf_of_rateLimited h429, namesOf_of_rateLimited (hstatus.trans h429), hwait h429]
    · rw [namesOf_of_badStatus h h404 h429, namesOf_of_badStatus (by rwa [hstatus]) (by rwa [hstatus]) (by rwa [hstatus]),
        hstatus]

/-- Of a request that succeeded the body alone counts. -/
theorem namesOf_eq_of_succeeded {source : Source} {package package' : String} {r r' : Http.Response}
    (h : Succeeded r.status) (h' : Succeeded r'.status) (hbody : r'.body = r.body) :
    namesOf source package' r' = namesOf source package r := by
  rw [namesOf_of_succeeded h, namesOf_of_succeeded h', hbody]

theorem fetch_of_request {source : Source} {package : String} {asked : Http.Request}
    (h : request source package = .ok asked) (exchange : Exchange) :
    fetch exchange source package = (exchange asked).elim (.error .noConnection) (namesOf source package) := by
  simp only [fetch, h]
  cases exchange asked <;> rfl

theorem fetch_of_response {exchange : Exchange} {source : Source} {package : String} {asked : Http.Request}
    {r : Http.Response} (hasked : request source package = .ok asked) (hr : exchange asked = some r) :
    fetch exchange source package = namesOf source package r := by
  rw [fetch_of_request hasked, hr, Option.elim_some]

structure TakenFrom (source : Source) (body : ByteArray) (names : List String) (v : Value) (items : List Value)
    (records : List Record) : Prop where
  decoded : Json.ofBytes? body = some v
  listed : items? source v = some items
  read : List.Forall₂ (fun item record => Record.ofJson? source item = some record) items records
  named : List.Forall₂ Record.GoesBy (records.filter fun record => !record.isDraft) names
  releases : source = .githubReleases → ∃ releases, records = releases.map .release ∧
    List.Forall₂ (fun item release => Release.ofJson? item = some release) items releases
  bare : source ≠ .githubReleases → records = names.map .named

theorem exists_takenFrom {source : Source} {r : Http.Response} {names : List String} (h : Lists source r names) :
    ∃ v items records, TakenFrom source r.body names v items records := by
  obtain ⟨-, records, hrecords, hnames⟩ := h
  obtain ⟨v, items, hv, hitems, hread⟩ := records?_eq_some_iff.mp hrecords
  refine ⟨v, items, records, hv, hitems, hread, hnames, fun hsource => ?_, fun hsource => ?_⟩
  · subst hsource
    obtain ⟨releases, hreleases, heq⟩ := exists_releases hread
    exact ⟨releases, heq, hreleases⟩
  · rw [← forall₂_goesBy_iff.mp hnames]
    exact eq_map_named hsource hread

structure Understood (exchange : Exchange) (source : Source) (package : String) (r : Http.Response) : Prop where
  follows : Follows (fetch exchange source package) (Lists source r) (Fails source package r)
  /-- The message about a status tells which one it is. -/
  told_by_message : ∀ code code',
    (RegistryError.badStatus code).message = (RegistryError.badStatus code').message → code = code'
  /-- Of a request that failed the status counts, and after too many requests the header. -/
  of_failed : ∀ exchange' source' asked' r', request source' package = .ok asked' → exchange' asked' = some r' →
    r'.status = r.status → ¬ Succeeded r.status → (r.status = 429 → r'.retryAfter = r.retryAfter) →
    fetch exchange' source' package = fetch exchange source package
  of_succeeded : ∀ exchange' package' asked' r', request source package' = .ok asked' → exchange' asked' = some r' →
    Succeeded r.status → Succeeded r'.status → r'.body = r.body →
    fetch exchange' source package' = fetch exchange source package
  taken : ∀ names, fetch exchange source package = .ok names →
    ∃ v items records, TakenFrom source r.body names v items records

/-- Where a response comes to a request, all sources understand it by one rule: it gives the names that its body
    lists, or fails for its status or its body, and the message about a status names it. If it failed for its
    status, neither the source nor the body makes a difference, and if it did not, nothing but the body does.
    Each item of the list is a record: a release, or else one name. -/
theorem understood_by_one_rule (exchange : Exchange) (source : Source) (package : String) (asked : Http.Request)
    (r : Http.Response) (hasked : request source package = .ok asked) (hr : exchange asked = some r) :
    Understood exchange source package r := by
  have hfetch : fetch exchange source package = namesOf source package r := fetch_of_response hasked hr
  have hfollows := namesOf_follows source package r
  rw [← hfetch] at hfollows
  refine ⟨hfollows, fun _ _ => RegistryError.badStatus_message_inj, ?_, ?_, fun names hnames => ?_⟩
  · intro exchange' source' asked' r' hasked' hr' hstatus hfailed hwait
    rw [hfetch, fetch_of_response hasked' hr']
    exact namesOf_eq_of_failed hstatus hfailed hwait
  · intro exchange' package' asked' r' hasked' hr' hsucc hsucc' hbody
    rw [hfetch, fetch_of_response hasked' hr']
    exact namesOf_eq_of_succeeded hsucc hsucc' hbody
  · exact exists_takenFrom ((hfollows.ok_iff names).mp hnames)

/-- Of three releases one is a draft and one has an empty name, so there are two names. After too many requests
    two sources with different bodies say the same. -/
theorem releases_are_listed_and_refusals_alike :
    let releases : Http.Response :=
      { status := 200
        body := "[\x7b\"name\":\"1.1\",\"tag_name\":\"v1.1\"\x7d,\x7b\"tag_name\":\"v2\",\"draft\":true\x7d,\x7b\"name\":\"\",\"tag_name\":\"1.0\"\x7d]".toUTF8 }
    let refusal : Http.Response := { status := 429, retryAfter := some "+60" }
    let page : Http.Response := { status := 429, retryAfter := some "+60", body := "[]".toUTF8 }
    Lists .githubReleases releases ["1.1", "1.0"] ∧
      Fails .githubTags "o/r" refusal (.rateLimited (some 60)) ∧
      fetch (fun _ => some page) .dockerhubTags "o/r" = fetch (fun _ => some refusal) .githubTags "o/r" := by
  intro releases refusal page
  have hreleases := understood_by_one_rule (fun _ => some releases) .githubReleases "o/r" _ releases rfl rfl
  have hrefusal := understood_by_one_rule (fun _ => some refusal) .githubTags "o/r" _ refusal rfl rfl
  refine ⟨(hreleases.follows.ok_iff _).mp (by decide +kernel), (hrefusal.follows.error_iff _).mp (by decide +kernel), ?_⟩
  exact hrefusal.of_failed (fun _ => some page) .dockerhubTags _ page rfl rfl rfl (by unfold Succeeded; decide) fun _ => rfl

end Registry

end VersionPick
