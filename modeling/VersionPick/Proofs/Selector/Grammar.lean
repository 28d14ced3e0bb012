/-
  VersionPick.Proofs.Selector.Grammar — the texts that are selectors, and what is wrong
  with the others.

  The grammar comes in two halves at every level: what a text reads as (`Reads`) and why
  it fails (`Fails`). Neither half mentions the other or the parser. The parser follows
  both (`Follows`): it gives a result exactly if the text reads as it, and an error
  exactly if the text fails for it, so that a text does one of the two, and in one way.

  Of the slots of a pattern all that fail are listed; of criteria the first one that
  fails decides.
-/

import VersionPick.Proofs.Follows
import VersionPick.Proofs.Text.Pieces
import VersionPick.Proofs.Traversal
import VersionPick.Proofs.Version.Reading
import VersionPick.Selector.Parser

namespace VersionPick

/-! ## Ranks -/

def HasKeyword (text : String) : Prop := ∃ e : ListEnd, e.keyword.toList <+: text.toList

namespace Rank

inductive Reads : String → Rank → Prop
  | alone (e : ListEnd) : Reads e.keyword { fromEnd := e }
  | counted {text : String} (e : ListEnd) {digits : List Char} (h : text.toList = e.keyword.toList ++ e.sign :: digits)
      (hn : Text.Decimal.IsNumeral digits) : Reads text { fromEnd := e, offset := Text.Decimal.value digits }

inductive Fails : String → RankError → Prop
  | noKeyword {text : String} (h : ¬ HasKeyword text) : Fails text .noKeyword
  | wrongSign {text : String} (e : ListEnd) {c : Char} {rest : List Char}
      (h : text.toList = e.keyword.toList ++ c :: rest) (hc : c ≠ e.sign) : Fails text (.wrongSign e)
  | badOffset {text : String} (e : ListEnd) {rest : List Char} (h : text.toList = e.keyword.toList ++ e.sign :: rest)
      (hn : ¬ Text.Decimal.IsNumeral rest) : Fails text (.badOffset e)

@[simp] theorem keyword?_eq_some_iff {s rest : List Char} {e : ListEnd} :
    keyword? s = some (e, rest) ↔ s = e.keyword.toList ++ rest := by
  unfold keyword?
  cases hfirst : ListEnd.first.keyword.toList.isPrefixOf? s with
  | some r =>
    have hs : ListEnd.first.keyword.toList ++ r = s := List.isPrefixOf?_eq_some_iff_append_eq.mp hfirst
    subst hs
    cases e with
    | first => simp [eq_comm]
    | last => simp [ListEnd.keyword]
  | none =>
    simp only [Option.map_eq_some_iff, List.isPrefixOf?_eq_some_iff_append_eq, Prod.mk.injEq]
    constructor
    · intro h
      obtain ⟨r, hs, rfl, rfl⟩ := h
      exact hs.symm
    · intro hs
      cases e with
      | first =>
        rw [List.isPrefixOf?_eq_some_iff_append_eq.mpr hs.symm] at hfirst
        cases hfirst
      | last => exact ⟨rest, hs.symm, rfl, rfl⟩

@[simp] theorem keyword?_eq_none_iff {text : String} : keyword? text.toList = none ↔ ¬ HasKeyword text := by
  constructor
  · intro hnone hkey
    obtain ⟨e, rest, hrest⟩ := hkey
    rw [keyword?_eq_some_iff.mpr hrest.symm] at hnone
    cases hnone
  · intro hno
    cases hkey : keyword? text.toList with
    | none => rfl
    | some p => exact absurd ⟨p.1, p.2, (keyword?_eq_some_iff.mp hkey).symm⟩ hno

@[simp] theorem hasKeyword_iff {text : String} : hasKeyword text = true ↔ HasKeyword text := by
  rw [hasKeyword, Option.isSome_iff_ne_none, Ne, keyword?_eq_none_iff, Classical.not_not]

@[simp] theorem isMeant_iff {text : String} : isMeant text = true ↔ '.' ∉ text.toList ∧ HasKeyword text := by
  simp [isMeant]

theorem Reads.hasKeyword {text : String} {r : Rank} (h : Reads text r) : HasKeyword text := by
  cases h with
  | alone e => exact ⟨e, List.prefix_rfl⟩
  | counted e h => exact ⟨e, _, h.symm⟩

theorem parse_keyword (e : ListEnd) : parse e.keyword = .ok { fromEnd := e } := by
  have hkey : keyword? e.keyword.toList = some (e, []) := by simp
  rw [parse, hkey]

/-- What follows a keyword decides. -/
theorem parse_of_keyword {text : String} {e : ListEnd} {c : Char} {digits : List Char}
    (h : text.toList = e.keyword.toList ++ c :: digits) :
    parse text = if c = e.sign then
        ((Text.Decimal.read? digits).map fun n => { fromEnd := e, offset := n }).elim (.error (.badOffset e)) .ok
      else .error (.wrongSign e) := by
  rw [parse, keyword?_eq_some_iff.mpr h]
  dsimp only
  cases Text.Decimal.read? digits <;> rfl

theorem parse_of_reads {text : String} {r : Rank} (h : Reads text r) : parse text = .ok r := by
  cases h with
  | alone e => exact parse_keyword e
  | @counted _ e digits h hn =>
    have hread : Text.Decimal.read? digits = some (Text.Decimal.value digits) := by simp [hn]
    rw [parse_of_keyword h, if_pos rfl, hread]
    rfl

theorem parse_of_fails {text : String} {e : RankError} (h : Fails text e) : parse text = .error e := by
  cases h with
  | noKeyword h => rw [parse, keyword?_eq_none_iff.mpr h]
  | wrongSign e h hc => rw [parse_of_keyword h, if_neg hc]
  | @badOffset e rest h hn =>
    have hread : Text.Decimal.read? rest = none := by simp [hn]
    rw [parse_of_keyword h, if_pos rfl, hread]
    rfl

theorem reads_or_fails (text : String) : (∃ r, Reads text r) ∨ ∃ e, Fails text e := by
  cases hkey : keyword? text.toList with
  | none => exact Or.inr ⟨_, .noKeyword (keyword?_eq_none_iff.mp hkey)⟩
  | some p =>
    obtain ⟨e, rest⟩ := p
    have htext := keyword?_eq_some_iff.mp hkey
    cases rest with
    | nil =>
      have hkeyword : text = e.keyword := by rw [String.ext_iff, htext, List.append_nil]
      subst hkeyword
      exact Or.inl ⟨_, .alone e⟩
    | cons c digits =>
      by_cases hc : c = e.sign
      · subst hc
        by_cases hn : Text.Decimal.IsNumeral digits
        · exact Or.inl ⟨_, .counted e htext hn⟩
        · exact Or.inr ⟨_, .badOffset e htext hn⟩
      · exact Or.inr ⟨_, .wrongSign e htext hc⟩

theorem parse_follows (text : String) : Follows (parse text) (Reads text) (Fails text) :=
  .of_total (reads_or_fails text) (fun _ => parse_of_reads) fun _ => parse_of_fails

def HasWrongSign (e : ListEnd) (text : String) : Prop :=
  ∃ c rest, text.toList = e.keyword.toList ++ c :: rest ∧ c ≠ e.sign

theorem exists_reads_iff {text : String} :
    (∃ r, Reads text r) ↔ ∃ e : ListEnd, text = e.keyword ∨
      ∃ digits, text.toList = e.keyword.toList ++ e.sign :: digits ∧ Text.Decimal.IsNumeral digits := by
  constructor
  · intro h
    obtain ⟨r, hr⟩ := h
    cases hr with
    | alone e => exact ⟨e, Or.inl rfl⟩
    | counted e h hn => exact ⟨e, Or.inr ⟨_, h, hn⟩⟩
  · intro h
    obtain ⟨e, rfl | ⟨digits, h, hn⟩⟩ := h
    · exact ⟨_, .alone e⟩
    · exact ⟨_, .counted e h hn⟩

theorem fails_noKeyword_iff {text : String} : Fails text .noKeyword ↔ ¬ HasKeyword text := by
  refine ⟨fun h => ?_, .noKeyword⟩
  cases h with
  | noKeyword h => exact h

theorem fails_wrongSign_iff {text : String} {e : ListEnd} : Fails text (.wrongSign e) ↔ HasWrongSign e text := by
  constructor
  · intro h
    cases h with
    | wrongSign _ h hc => exact ⟨_, _, h, hc⟩
  · intro h
    obtain ⟨c, rest, h, hc⟩ := h
    exact .wrongSign e h hc

/-- The offset is at fault in a text with a keyword that is no rank for no other reason. -/
theorem fails_badOffset_iff {text : String} {e : ListEnd} :
    Fails text (.badOffset e) ↔ e.keyword.toList <+: text.toList ∧ (∀ r, ¬ Reads text r) ∧ ¬ HasWrongSign e text := by
  constructor
  · intro h
    have herror := parse_of_fails h
    refine ⟨?_, fun r hr => ?_, fun hsign => ?_⟩
    · cases h with
      | badOffset _ h => exact ⟨_, h.symm⟩
    · rw [parse_of_reads hr] at herror
      cases herror
    · rw [parse_of_fails (fails_wrongSign_iff.mpr hsign)] at herror
      cases herror
  · intro h
    obtain ⟨⟨rest, hrest⟩, hno, hsign⟩ := h
    cases rest with
    | nil =>
      rw [List.append_nil] at hrest
      obtain rfl := String.ext_iff.mpr hrest
      exact absurd (.alone e) (hno _)
    | cons c digits =>
      by_cases hc : c = e.sign
      · subst hc
        exact .badOffset e hrest.symm fun hn => hno _ (.counted e hrest.symm hn)
      · exact absurd ⟨c, digits, hrest.symm, hc⟩ hsign

end Rank

/-! ## Slots -/

def HasBracket (text : String) : Prop := '(' ∈ text.toList ∨ '[' ∈ text.toList

@[simp] theorem SlotMatcher.looksLikeRegex_iff {text : String} :
    looksLikeRegex text = true ↔ HasBracket text := by
  simp [looksLikeRegex, HasBracket]

theorem hasBracket_or_keyword_ne {text : String} (h : HasBracket text ∨ HasKeyword text) :
    text ≠ "" ∧ text ≠ "*" := by
  constructor
  · intro h
    subst h
    rcases h with h | ⟨e, h⟩
    · simp [HasBracket] at h
    · cases e <;> simp [ListEnd.keyword] at h
  · intro h
    subst h
    rcases h with h | ⟨e, h⟩
    · simp [HasBracket] at h
    · cases e <;> simp [ListEnd.keyword] at h

namespace SlotMatcher

/-- A slot is a star; or, with a bracket, a regular expression; or, with a keyword and no bracket, a
    rank; or any other text that is not empty, literally. -/
inductive Reads : String → SlotMatcher → Prop
  | any : Reads "*" .any
  | regex {text : String} {r : Regex} (hb : HasBracket text) (h : Regex.compile text = .ok r) : Reads text (.regex r)
  | rank {text : String} {r : Rank} (hb : ¬ HasBracket text) (h : Rank.Reads text r) : Reads text (.rank r)
  | literal {text : String} (hempty : text ≠ "") (hany : text ≠ "*") (hb : ¬ HasBracket text)
      (hk : ¬ HasKeyword text) : Reads text (.literal text)

inductive Fails : String → SlotError → Prop
  | empty : Fails "" .empty
  | badRegex {text : String} {e : Regex.Error} (hb : HasBracket text) (h : Regex.compile text = .error e) :
      Fails text (.badRegex (e.message text))
  | badRank {text : String} {e : RankError} (hb : ¬ HasBracket text) (hk : HasKeyword text) (h : Rank.Fails text e) :
      Fails text (.badRank e)

theorem parse_of_bracket {text : String} (hb : HasBracket text) :
    parse text = ((Regex.compile text).map .regex).mapError fun e => .badRegex (e.message text) := by
  obtain ⟨hempty, hany⟩ := hasBracket_or_keyword_ne (Or.inl hb)
  simp only [parse, String.isEmpty_iff, hempty, hany, looksLikeRegex_iff, hb, if_false, if_true]
  cases Regex.compile text <;> rfl

theorem parse_of_keyword {text : String} (hb : ¬ HasBracket text) (hk : HasKeyword text) :
    parse text = ((Rank.parse text).map .rank).mapError .badRank := by
  obtain ⟨hempty, hany⟩ := hasBracket_or_keyword_ne (Or.inr hk)
  simp only [parse, String.isEmpty_iff, hempty, hany, looksLikeRegex_iff, hb, Rank.hasKeyword_iff, hk, if_false,
    if_true]
  cases Rank.parse text <;> rfl

theorem parse_of_reads {text : String} {m : SlotMatcher} (h : Reads text m) : parse text = .ok m := by
  cases h with
  | any => rfl
  | regex hb h =>
    rw [parse_of_bracket hb, h]
    rfl
  | rank hb h =>
    rw [parse_of_keyword hb h.hasKeyword, Rank.parse_of_reads h]
    rfl
  | literal hempty hany hb hk => simp [parse, hempty, hany, hb, hk]

theorem parse_of_fails {text : String} {e : SlotError} (h : Fails text e) : parse text = .error e := by
  cases h with
  | empty => rfl
  | badRegex hb h =>
    rw [parse_of_bracket hb, h]
    rfl
  | badRank hb hk h =>
    rw [parse_of_keyword hb hk, Rank.parse_of_fails h]
    rfl

theorem reads_or_fails (text : String) : (∃ m, Reads text m) ∨ ∃ e, Fails text e := by
  by_cases hb : HasBracket text
  · cases hcompile : Regex.compile text with
    | ok r => exact Or.inl ⟨_, .regex hb hcompile⟩
    | error e => exact Or.inr ⟨_, .badRegex hb hcompile⟩
  by_cases hk : HasKeyword text
  · rcases Rank.reads_or_fails text with ⟨r, hr⟩ | ⟨e, he⟩
    · exact Or.inl ⟨_, .rank hb hr⟩
    · exact Or.inr ⟨_, .badRank hb hk he⟩
  by_cases hempty : text = ""
  · subst hempty
    exact Or.inr ⟨_, .empty⟩
  by_cases hany : text = "*"
  · subst hany
    exact Or.inl ⟨_, .any⟩
  exact Or.inl ⟨_, .literal hempty hany hb hk⟩

theorem parse_follows (text : String) : Follows (parse text) (Reads text) (Fails text) :=
  .of_total (reads_or_fails text) (fun _ => parse_of_reads) fun _ => parse_of_fails

end SlotMatcher

/-! ## Patterns -/

/-- The faults of some slots, in their order: one of every slot that fails, and none of a slot that reads. -/
inductive Faults : List (Slot × String) → List (Slot × SlotError) → Prop
  | nil : Faults [] []
  | reads {slot : Slot} {text : String} {m : SlotMatcher} {slots : List (Slot × String)}
      {faults : List (Slot × SlotError)} (h : SlotMatcher.Reads text m) (rest : Faults slots faults) :
      Faults ((slot, text) :: slots) faults
  | fails {slot : Slot} {text : String} {e : SlotError} {slots : List (Slot × String)}
      {faults : List (Slot × SlotError)} (h : SlotMatcher.Fails text e) (rest : Faults slots faults) :
      Faults ((slot, text) :: slots) ((slot, e) :: faults)

theorem faults_iff {slots : List (Slot × String)} {faults : List (Slot × SlotError)} :
    Faults slots faults ↔ slots.flatMap (fun s => faultOf s.1 (SlotMatcher.parse s.2)) = faults := by
  constructor
  · intro h
    induction h with
    | nil => rfl
    | reads h _ ih => rw [List.flatMap_cons, SlotMatcher.parse_of_reads h, ih]; rfl
    | fails h _ ih => rw [List.flatMap_cons, SlotMatcher.parse_of_fails h, ih]; rfl
  · intro h
    subst h
    induction slots with
    | nil => exact .nil
    | cons s slots ih =>
      obtain ⟨slot, text⟩ := s
      rw [List.flatMap_cons]
      rcases SlotMatcher.reads_or_fails text with ⟨m, hm⟩ | ⟨e, he⟩
      · rw [SlotMatcher.parse_of_reads hm]
        exact .reads hm ih
      · rw [SlotMatcher.parse_of_fails he]
        exact .fails he ih

theorem faults_exist (slots : List (Slot × String)) : ∃ faults, Faults slots faults := ⟨_, faults_iff.mpr rfl⟩

namespace VersionPattern

structure Splits (text major minor patch : String) : Prop where
  text_eq : text.toList = major.toList ++ '.' :: (minor.toList ++ '.' :: patch.toList)
  major : '.' ∉ major.toList
  minor : '.' ∉ minor.toList

theorem splits_iff {text : String} {a b c : List Char} :
    Splits text (String.ofList a) (String.ofList b) (String.ofList c) ↔
      Version.parts? text.toList = some (a, b, some c) := by
  rw [Version.parts?_eq_three_iff]
  constructor
  · intro h
    simpa using And.intro h.text_eq (And.intro h.major h.minor)
  · intro h
    obtain ⟨h, ha, hb⟩ := h
    exact ⟨by simpa using h, by simpa using ha, by simpa using hb⟩

theorem Splits.parts {text a b c : String} (h : Splits text a b c) :
    Version.parts? text.toList = some (a.toList, b.toList, some c.toList) :=
  splits_iff.mp (by simpa using h)

theorem Splits.dot_mem {text a b c : String} (h : Splits text a b c) : '.' ∈ text.toList := by
  rw [h.text_eq]
  simp

inductive Reads (text : String) : VersionPattern → Prop
  | slots {a b c : String} {p : VersionPattern} (h : Splits text a b c) (major : SlotMatcher.Reads a p.major)
      (minor : SlotMatcher.Reads b p.minor) (patch : SlotMatcher.Reads c p.patch) : Reads text p

inductive Fails (text : String) : SelectorError → Prop
  | tooFewDots (h : text.toList.count '.' < 2) : Fails text (.noPattern text)
  | slots {a b c : String} {faults : List (Slot × SlotError)} (h : Splits text a b c)
      (hfaults : Faults [(.major, a), (.minor, b), (.patch, c)] faults) (hne : faults ≠ []) :
      Fails text (.badSlots text faults)

/-- With two dots there are three slots. -/
theorem tooFewDots_or_splits (text : String) : text.toList.count '.' < 2 ∨ ∃ a b c, Splits text a b c := by
  cases hparts : Version.parts? text.toList with
  | none =>
    refine Or.inl ?_
    rw [List.count_eq_zero_of_not_mem (Version.parts?_eq_none_iff.mp hparts)]
    decide
  | some q =>
    obtain ⟨a, b, _ | c⟩ := q
    · obtain ⟨htext, ha, hb⟩ := Version.parts?_eq_two_iff.mp hparts
      refine Or.inl ?_
      rw [htext, List.count_append, List.count_cons_self, List.count_eq_zero_of_not_mem ha,
        List.count_eq_zero_of_not_mem hb]
      decide
    · exact Or.inr ⟨_, _, _, splits_iff.mpr hparts⟩

theorem Splits.two_le_count {text a b c : String} (h : Splits text a b c) : 2 ≤ text.toList.count '.' := by
  rw [h.text_eq, List.count_append, List.count_cons_self, List.count_append, List.count_cons_self]
  omega

theorem parse_of_tooFewDots {text : String} (h : text.toList.count '.' < 2) :
    parse text = .error (.noPattern text) := by
  unfold parse
  split
  · next hparts => exact absurd (splits_iff.mpr hparts).two_le_count (Nat.not_le.mpr h)
  · rfl

theorem parse_of_reads {text : String} {p : VersionPattern} (h : Reads text p) : parse text = .ok p := by
  obtain ⟨hsplits, hmajor, hminor, hpatch⟩ := h
  rw [parse, hsplits.parts]
  simp only [String.ofList_toList, SlotMatcher.parse_of_reads hmajor, SlotMatcher.parse_of_reads hminor,
    SlotMatcher.parse_of_reads hpatch]

theorem parse_of_fails {text : String} {e : SelectorError} (h : Fails text e) : parse text = .error e := by
  cases h with
  | tooFewDots h => exact parse_of_tooFewDots h
  | @slots a b c faults hsplits hfaults hne =>
    obtain rfl := faults_iff.mp hfaults
    simp only [List.flatMap_cons, List.flatMap_nil, List.append_nil] at hne ⊢
    rw [parse, hsplits.parts]
    simp only [String.ofList_toList]
    -- only if all three slots read there is a pattern, and then there are no faults
    split
    · next ha hb hc =>
      rw [ha, hb, hc] at hne
      exact absurd rfl hne
    · rw [List.append_assoc]

theorem reads_or_fails (text : String) : (∃ p, Reads text p) ∨ ∃ e, Fails text e := by
  rcases tooFewDots_or_splits text with h | ⟨a, b, c, h⟩
  · exact Or.inr ⟨_, .tooFewDots h⟩
  obtain ⟨faults, hfaults⟩ := faults_exist [(.major, a), (.minor, b), (.patch, c)]
  by_cases hne : faults = []
  · subst hne
    obtain _ | ⟨hmajor, _ | ⟨hminor, _ | ⟨hpatch, -⟩⟩⟩ := hfaults
    exact Or.inl ⟨{ major := _, minor := _, patch := _ }, .slots h hmajor hminor hpatch⟩
  · exact Or.inr ⟨_, .slots h hfaults hne⟩

theorem parse_follows (text : String) : Follows (parse text) (Reads text) (Fails text) :=
  .of_total (reads_or_fails text) (fun _ => parse_of_reads) fun _ => parse_of_fails

end VersionPattern

/-! ## Criteria -/

namespace Criterion

inductive Reads (text : String) : Criterion → Prop
  | rank {r : Rank} (hdot : '.' ∉ text.toList) (h : Rank.Reads text r) : Reads text (.rank r)
  | pattern {p : VersionPattern} (h : VersionPattern.Reads text p) : Reads text (.pattern p)

inductive Fails (text : String) : SelectorError → Prop
  | rank {e : RankError} (hdot : '.' ∉ text.toList) (hk : HasKeyword text) (h : Rank.Fails text e) :
      Fails text (.badRank text e)
  | pattern {e : SelectorError} (hno : '.' ∈ text.toList ∨ ¬ HasKeyword text) (h : VersionPattern.Fails text e) :
      Fails text e

theorem parse_of_isMeant {text : String} (hdot : '.' ∉ text.toList) (hk : HasKeyword text) :
    parse text = (Rank.parseAlone text).map .rank := by
  simp [parse, hdot, hk]

theorem parse_of_not_isMeant {text : String} (hno : '.' ∈ text.toList ∨ ¬ HasKeyword text) :
    parse text = (VersionPattern.parse text).map .pattern := by
  have hnot : ¬ ('.' ∉ text.toList ∧ HasKeyword text) := by tauto
  rw [parse, if_neg (mt Rank.isMeant_iff.mp hnot)]

theorem parse_of_reads {text : String} {c : Criterion} (h : Reads text c) : parse text = .ok c := by
  cases h with
  | rank hdot h =>
    rw [parse_of_isMeant hdot h.hasKeyword, Rank.parseAlone, Rank.parse_of_reads h]
    rfl
  | pattern h =>
    obtain ⟨hsplits, -⟩ := id h
    rw [parse_of_not_isMeant (Or.inl hsplits.dot_mem), VersionPattern.parse_of_reads h]
    rfl

theorem parse_of_fails {text : String} {e : SelectorError} (h : Fails text e) : parse text = .error e := by
  cases h with
  | rank hdot hk h =>
    rw [parse_of_isMeant hdot hk, Rank.parseAlone, Rank.parse_of_fails h]
    rfl
  | pattern hno h =>
    rw [parse_of_not_isMeant hno, VersionPattern.parse_of_fails h]
    rfl

theorem reads_or_fails (text : String) : (∃ c, Reads text c) ∨ ∃ e, Fails text e := by
  by_cases hmeant : '.' ∉ text.toList ∧ HasKeyword text
  · rcases Rank.reads_or_fails text with ⟨r, hr⟩ | ⟨e, he⟩
    · exact Or.inl ⟨_, .rank hmeant.1 hr⟩
    · exact Or.inr ⟨_, .rank hmeant.1 hmeant.2 he⟩
  · rcases VersionPattern.reads_or_fails text with ⟨p, hp⟩ | ⟨e, he⟩
    · exact Or.inl ⟨_, .pattern hp⟩
    · exact Or.inr ⟨_, .pattern (by tauto) he⟩

theorem parse_follows (text : String) : Follows (parse text) (Reads text) (Fails text) :=
  .of_total (reads_or_fails text) (fun _ => parse_of_reads) fun _ => parse_of_fails

end Criterion

/-! ## Selectors -/

namespace Selector

def PiecesRead (word text : String) (cs : List Criterion) : Prop :=
  ∃ ps, Text.Cut word.toList text.toList ps ∧ List.Forall₂ (fun p c => Criterion.Reads (String.ofList p) c) ps cs

/-- One of the pieces fails, and all before it read. -/
def PiecesFail (word text : String) (e : SelectorError) : Prop :=
  ∃ pre p post, Text.Cut word.toList text.toList (pre ++ p :: post) ∧
    (∀ q ∈ pre, ∃ c, Criterion.Reads (String.ofList q) c) ∧ Criterion.Fails (String.ofList p) e

def Has (word text : String) : Prop := word.toList <:+: text.toList

instance (word text : String) : Decidable (Has word text) := decidable_of_iff _ Text.occurs_iff

inductive Reads : String → Selector → Prop
  | everything : Reads "" everything
  | one {text : String} {c : Criterion} (hne : text ≠ "") (hand : ¬ Has andWord text) (hor : ¬ Has orWord text)
      (h : Criterion.Reads text c) : Reads text (one c)
  | allOf {text : String} {cs : List Criterion} (hand : Has andWord text) (hor : ¬ Has orWord text)
      (h : PiecesRead andWord text cs) : Reads text (allOf cs)
  | anyOf {text : String} {cs : List Criterion} (hand : ¬ Has andWord text) (hor : Has orWord text)
      (h : PiecesRead orWord text cs) : Reads text (anyOf cs)

inductive Fails : String → SelectorError → Prop
  | mixed {text : String} (hand : Has andWord text) (hor : Has orWord text) : Fails text (.mixed text)
  | one {text : String} {e : SelectorError} (hne : text ≠ "") (hand : ¬ Has andWord text) (hor : ¬ Has orWord text)
      (h : Criterion.Fails text e) : Fails text e
  | allOf {text : String} {e : SelectorError} (hand : Has andWord text) (hor : ¬ Has orWord text)
      (h : PiecesFail andWord text e) : Fails text e
  | anyOf {text : String} {e : SelectorError} (hand : ¬ Has andWord text) (hor : Has orWord text)
      (h : PiecesFail orWord text e) : Fails text e

theorem criteria_follows {word text : String} (hword : word.toList ≠ []) :
    Follows (criteria word text) (PiecesRead word text) (PiecesFail word text) where
  ok_iff cs := by
    simp only [criteria, mapM_eq_ok_iff, (Criterion.parse_follows _).ok_iff, PiecesRead,
      ← Text.pieces_eq_iff hword, exists_eq_left']
  error_iff e := by
    simp only [criteria, mapM_eq_error_iff, (Criterion.parse_follows _).ok_iff, (Criterion.parse_follows _).error_iff,
      PiecesFail, ← Text.pieces_eq_iff hword]

theorem andWord_ne_nil : andWord.toList ≠ [] := by simp [andWord]

theorem orWord_ne_nil : orWord.toList ≠ [] := by simp [orWord]

theorem Has.ne_empty {word text : String} (hword : word.toList ≠ []) (h : Has word text) : text ≠ "" := by
  intro h
  subst h
  exact hword (List.infix_nil.mp h)

theorem parse_of_ne_empty {text : String} (hne : text ≠ "") :
    parse text =
      if Has andWord text then
        if Has orWord text then .error (.mixed text) else (criteria andWord text).map allOf
      else if Has orWord text then (criteria orWord text).map anyOf
      else (Criterion.parse text).map one := by
  simp only [Has, ← Text.occurs_iff]
  rw [parse, if_neg (by simpa using hne)]
  cases Text.occurs andWord.toList text.toList <;> cases Text.occurs orWord.toList text.toList <;> rfl

theorem parse_of_both {text : String} (hand : Has andWord text) (hor : Has orWord text) :
    parse text = .error (.mixed text) := by
  simp [parse_of_ne_empty (hand.ne_empty andWord_ne_nil), hand, hor]

theorem parse_of_and {text : String} (hand : Has andWord text) (hor : ¬ Has orWord text) :
    parse text = (criteria andWord text).map allOf := by
  simp [parse_of_ne_empty (hand.ne_empty andWord_ne_nil), hand, hor]

theorem parse_of_or {text : String} (hand : ¬ Has andWord text) (hor : Has orWord text) :
    parse text = (criteria orWord text).map anyOf := by
  simp [parse_of_ne_empty (hor.ne_empty orWord_ne_nil), hand, hor]

theorem parse_of_neither {text : String} (hne : text ≠ "") (hand : ¬ Has andWord text) (hor : ¬ Has orWord text) :
    parse text = (Criterion.parse text).map one := by
  simp [parse_of_ne_empty hne, hand, hor]

theorem parse_of_reads {text : String} {s : Selector} (h : Reads text s) : parse text = .ok s := by
  cases h with
  | everything => rfl
  | one hne hand hor h =>
    rw [parse_of_neither hne hand hor, Criterion.parse_of_reads h]
    rfl
  | allOf hand hor h =>
    rw [parse_of_and hand hor, ((criteria_follows andWord_ne_nil).ok_iff _).mpr h]
    rfl
  | anyOf hand hor h =>
    rw [parse_of_or hand hor, ((criteria_follows orWord_ne_nil).ok_iff _).mpr h]
    rfl

theorem parse_of_fails {text : String} {e : SelectorError} (h : Fails text e) : parse text = .error e := by
  cases h with
  | mixed hand hor => exact parse_of_both hand hor
  | one hne hand hor h =>
    rw [parse_of_neither hne hand hor, Criterion.parse_of_fails h]
    rfl
  | allOf hand hor h =>
    rw [parse_of_and hand hor, ((criteria_follows andWord_ne_nil).error_iff _).mpr h]
    rfl
  | anyOf hand hor h =>
    rw [parse_of_or hand hor, ((criteria_follows orWord_ne_nil).error_iff _).mpr h]
    rfl

theorem reads_or_fails (text : String) : (∃ s, Reads text s) ∨ ∃ e, Fails text e := by
  by_cases hne : text = ""
  · subst hne
    exact Or.inl ⟨_, .everything⟩
  by_cases hand : Has andWord text <;> by_cases hor : Has orWord text
  · exact Or.inr ⟨_, .mixed hand hor⟩
  · have htotal := (criteria_follows andWord_ne_nil : Follows (criteria andWord text) _ _).total
    rcases htotal with ⟨cs, hcs⟩ | ⟨e, he⟩
    · exact Or.inl ⟨_, .allOf hand hor hcs⟩
    · exact Or.inr ⟨_, .allOf hand hor he⟩
  · have htotal := (criteria_follows orWord_ne_nil : Follows (criteria orWord text) _ _).total
    rcases htotal with ⟨cs, hcs⟩ | ⟨e, he⟩
    · exact Or.inl ⟨_, .anyOf hand hor hcs⟩
    · exact Or.inr ⟨_, .anyOf hand hor he⟩
  · rcases Criterion.reads_or_fails text with ⟨c, hc⟩ | ⟨e, he⟩
    · exact Or.inl ⟨_, .one hne hand hor hc⟩
    · exact Or.inr ⟨_, .one hne hand hor he⟩

/-- The selector a text gives is what it reads as, and the error what it fails for: with both words for
    that alone, else for the first criterion that fails, and there for every slot that fails. -/
theorem parse_follows_grammar (text : String) :
    (∀ s, parse text = .ok s ↔ Reads text s) ∧ ∀ e, parse text = .error e ↔ Fails text e := by
  have h : Follows (parse text) (Reads text) (Fails text) :=
    .of_total (reads_or_fails text) (fun _ => parse_of_reads) fun _ => parse_of_fails
  exact ⟨h.ok_iff, h.error_iff⟩

end Selector

end VersionPick
