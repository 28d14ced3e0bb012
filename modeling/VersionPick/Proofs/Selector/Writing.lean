/-
  VersionPick.Proofs.Selector.Writing — a selector is written as it was read, but for
  the offsets of its ranks, and reads again as the same selector.

  Only ranks are not written as they were read: without the zeros their offsets start
  with, and without an offset that is zero (`Shortens`, for every level of the grammar).
  The characters of ranks (`IsRankChar`) are in neither of the two words between criteria
  and are no dots or brackets. So a rank that is written otherwise makes no difference to
  where a text is cut, and the text around it is read as before.

  A rank need not have been read: with any offset of 64 bits it is read back from what it
  is written as (`Rank.reads_text`).
-/

import VersionPick.Proofs.Selector.Grammar
import VersionPick.Proofs.Text.Decimal
import VersionPick.Proofs.Text.Joining

namespace VersionPick

open Text (Interchangeable)
open Text.Decimal (significant)

/-! ## Ranks -/

namespace Rank

def IsRankChar (c : Char) : Prop := c.isUpper = true ∨ c.isDigit = true ∨ c = '+' ∨ c = '-'

instance : DecidablePred IsRankChar := fun _ => inferInstanceAs (Decidable (_ ∨ _ ∨ _ ∨ _))

inductive Shortens : String → String → Prop
  | alone (e : ListEnd) : Shortens e.keyword e.keyword
  | zero {text : String} (e : ListEnd) {digits : List Char} (h : text.toList = e.keyword.toList ++ e.sign :: digits)
      (hn : Text.Decimal.IsNumeral digits) (hzero : significant digits = []) : Shortens text e.keyword
  | counted {text short : String} (e : ListEnd) {digits : List Char}
      (h : text.toList = e.keyword.toList ++ e.sign :: digits) (hn : Text.Decimal.IsNumeral digits)
      (hne : significant digits ≠ []) (hshort : short.toList = e.keyword.toList ++ e.sign :: significant digits) :
      Shortens text short

theorem text_of_offset_eq_zero {r : Rank} (h : r.offset = 0) : r.text = r.fromEnd.keyword := by
  rw [text, if_pos h]

theorem text_of_offset_ne_zero {r : Rank} (h : r.offset ≠ 0) :
    r.text.toList = r.fromEnd.keyword.toList ++ r.fromEnd.sign :: Text.Decimal.write r.offset := by
  rw [text, if_neg h]
  simp [Text.Decimal.toText]

theorem Reads.offset_lt {text : String} {r : Rank} (h : Reads text r) : r.offset < Text.Decimal.bound := by
  cases h with
  | alone => exact Nat.zero_lt_succ _
  | counted _ _ hn => exact hn.2.2

theorem reads_text {r : Rank} (hlt : r.offset < Text.Decimal.bound) : Reads r.text r := by
  obtain ⟨e, n⟩ := r
  by_cases hzero : n = 0
  · subst hzero
    exact .alone e
  · have hwritten := Reads.counted e (text_of_offset_ne_zero (r := ⟨e, n⟩) hzero) (Text.Decimal.isNumeral_write hlt)
    rwa [Text.Decimal.value_write] at hwritten

theorem Reads.reads_text {text : String} {r : Rank} (h : Reads text r) : Reads r.text r := Rank.reads_text h.offset_lt

theorem Reads.shortens {text : String} {r : Rank} (h : Reads text r) : Shortens text r.text := by
  cases h with
  | alone e => exact .alone e
  | @counted _ e digits h hn =>
    have hiff := Text.Decimal.value_eq_zero_iff hn.2.1
    by_cases hzero : Text.Decimal.value digits = 0
    · rw [text_of_offset_eq_zero hzero]
      exact .zero e h hn (hiff.mp hzero)
    · refine .counted e h hn (mt hiff.mpr hzero) ?_
      rw [text_of_offset_ne_zero hzero, Text.Decimal.write_value hn.2.1 hzero]

/-- What a rank is shortened to is what it is written as. -/
theorem Shortens.exists_reads {text short : String} (h : Shortens text short) : ∃ r, Reads text r ∧ short = r.text := by
  cases h with
  | alone e => exact ⟨_, .alone e, rfl⟩
  | zero e h hn hzero =>
    refine ⟨_, .counted e h hn, ?_⟩
    rw [text_of_offset_eq_zero ((Text.Decimal.value_eq_zero_iff hn.2.1).mpr hzero)]
  | counted e h hn hne hshort =>
    have hvalue := mt (Text.Decimal.value_eq_zero_iff hn.2.1).mp hne
    refine ⟨_, .counted e h hn, ?_⟩
    rw [String.ext_iff, hshort, text_of_offset_ne_zero hvalue, Text.Decimal.write_value hn.2.1 hvalue]

theorem Reads.unique {text : String} {r r' : Rank} (h : Reads text r) (h' : Reads text r') : r = r' :=
  Except.ok.inj ((parse_of_reads h).symm.trans (parse_of_reads h'))

theorem Reads.shortens_iff {text short : String} {r : Rank} (h : Reads text r) :
    Shortens text short ↔ short = r.text := by
  constructor
  · intro hshort
    obtain ⟨r', hr', rfl⟩ := hshort.exists_reads
    rw [h.unique hr']
  · intro hshort
    subst hshort
    exact h.shortens

/-- Ranks with offsets of 64 bits are read back from what they are written as. A text is a rank exactly if it is a
    keyword, or a keyword, its sign and a number; and it is written again without the zeros that the number
    starts with, or as the keyword alone if the number is zero. Of the texts that are no ranks some have no
    keyword, in some the keyword is not followed by its sign, and in all others the offset is at fault. -/
theorem read_back_and_written_short :
    (∀ (e : ListEnd) (n : UInt64), parse (text ⟨e, n.toNat⟩) = .ok ⟨e, n.toNat⟩) ∧
    ∀ text : String,
      ((∃ r, parse text = .ok r) ↔ ∃ e : ListEnd, text = e.keyword ∨
        ∃ digits, text.toList = e.keyword.toList ++ e.sign :: digits ∧ Text.Decimal.IsNumeral digits) ∧
      (∀ r, parse text = .ok r → ∀ short, Shortens text short ↔ short = r.text) ∧
      (parse text = .error .noKeyword ↔ ¬ HasKeyword text) ∧
      (∀ e, parse text = .error (.wrongSign e) ↔ HasWrongSign e text) ∧
      ∀ e, parse text = .error (.badOffset e) ↔
        e.keyword.toList <+: text.toList ∧ (∀ r, parse text ≠ .ok r) ∧ ¬ HasWrongSign e text := by
  refine ⟨fun e n => parse_of_reads (reads_text n.toNat_lt), fun text => ?_⟩
  have hfollows := parse_follows text
  simp only [hfollows.ok_iff, hfollows.error_iff, Ne]
  exact ⟨exists_reads_iff, fun r hr short => hr.shortens_iff, fails_noKeyword_iff, fun e => fails_wrongSign_iff,
    fun e => fails_badOffset_iff⟩

/-- The largest offset is read, and the next number is none. -/
example : parse "LAST-18446744073709551615" = .ok ⟨.last, 18446744073709551615⟩ ∧
    parse "LAST-18446744073709551616" = .error (.badOffset .last) := by
  decide

theorem isRankChar_of_mem_keyword {e : ListEnd} {c : Char} (h : c ∈ e.keyword.toList) : IsRankChar c := by
  have hall : e.keyword.toList.all (fun c => decide (IsRankChar c)) = true := by cases e <;> rfl
  exact of_decide_eq_true (List.all_eq_true.mp hall c h)

theorem Reads.ne_nil {text : String} {r : Rank} (h : Reads text r) : text.toList ≠ [] := by
  obtain ⟨e, rest, hrest⟩ := h.hasKeyword
  rw [← hrest]
  cases e <;> exact List.cons_ne_nil _ _

theorem Reads.isRankChar {text : String} {r : Rank} (h : Reads text r) {c : Char} (hc : c ∈ text.toList) :
    IsRankChar c := by
  cases h with
  | alone e => exact isRankChar_of_mem_keyword hc
  | counted e h hn =>
    rw [h] at hc
    rcases List.mem_append.mp hc with hc | hc
    · exact isRankChar_of_mem_keyword hc
    rcases List.mem_cons.mp hc with rfl | hc
    · cases e <;> decide
    · exact Or.inr (Or.inl (hn.2.1 c hc))

theorem Reads.interchangeable {text : String} {r : Rank} (h : Reads text r) {sep : List Char}
    (hsep : Text.Free IsRankChar sep) : Interchangeable sep text.toList r.text.toList :=
  Text.interchangeable_of_apart h.ne_nil h.reads_text.ne_nil (fun c hc hmem => hsep c hmem (h.isRankChar hc))
    fun c hc hmem => hsep c hmem (h.reads_text.isRankChar hc)

theorem Reads.not_hasBracket {text : String} {r : Rank} (h : Reads text r) : ¬ HasBracket text := by
  rintro (hb | hb)
  · exact absurd (h.isRankChar hb) (by decide)
  · exact absurd (h.isRankChar hb) (by decide)

theorem Reads.dot_not_mem {text : String} {r : Rank} (h : Reads text r) : '.' ∉ text.toList :=
  fun hdot => absurd (h.isRankChar hdot) (by decide)

end Rank

/-! ## Slots -/

namespace SlotMatcher

inductive Shortens : String → String → Prop
  | rank {text short : String} (h : Rank.Shortens text short) : Shortens text short
  | other {text : String} (h : ∀ r, ¬ Rank.Reads text r) : Shortens text text

theorem Reads.text_eq {text : String} {m : SlotMatcher} (h : Reads text m) (hno : ∀ r, ¬ Rank.Reads text r) :
    m.text = text := by
  cases h with
  | any => rfl
  | regex hb h => exact Regex.source_of_compile h
  | rank hb h => exact absurd h (hno _)
  | literal => rfl

/-- A slot that reads is a rank, or no rank and written as it was read. -/
theorem Reads.rank_or_text_eq {text : String} {m : SlotMatcher} (h : Reads text m) :
    (∃ r, Rank.Reads text r ∧ m.text = r.text) ∨ (∀ r, ¬ Rank.Reads text r) ∧ m.text = text := by
  by_cases hrank : ∃ r, Rank.Reads text r
  · obtain ⟨r, hr⟩ := hrank
    refine Or.inl ⟨r, hr, ?_⟩
    have hm : m = .rank r :=
      Except.ok.inj ((parse_of_reads h).symm.trans (parse_of_reads (.rank hr.not_hasBracket hr)))
    rw [hm]
    rfl
  · have hno : ∀ r, ¬ Rank.Reads text r := fun r hr => hrank ⟨r, hr⟩
    exact Or.inr ⟨hno, h.text_eq hno⟩

theorem Reads.reads_text {text : String} {m : SlotMatcher} (h : Reads text m) : Reads m.text m := by
  cases h with
  | any => exact .any
  | regex hb h =>
    change Reads (Regex.source _) _
    rw [Regex.source_of_compile h]
    exact .regex hb h
  | rank hb h => exact .rank h.reads_text.not_hasBracket h.reads_text
  | literal hempty hany hb hk => exact .literal hempty hany hb hk

theorem Reads.shortens_iff {text short : String} {m : SlotMatcher} (h : Reads text m) :
    Shortens text short ↔ short = m.text := by
  rcases h.rank_or_text_eq with ⟨r, hr, htext⟩ | ⟨hno, htext⟩
  · rw [htext, ← hr.shortens_iff]
    constructor
    · intro hshort
      cases hshort with
      | rank hshort => exact hshort
      | other hno => exact absurd hr (hno r)
    · exact .rank
  · rw [htext]
    constructor
    · intro hshort
      cases hshort with
      | rank hshort =>
        obtain ⟨r, hr, -⟩ := hshort.exists_reads
        exact absurd hr (hno r)
      | other => rfl
    · intro hshort
      subst hshort
      exact .other hno

theorem Reads.interchangeable {text : String} {m : SlotMatcher} (h : Reads text m) {sep : List Char}
    (hsep : Text.Free Rank.IsRankChar sep) : Interchangeable sep text.toList m.text.toList := by
  rcases h.rank_or_text_eq with ⟨r, hr, htext⟩ | ⟨-, htext⟩
  · rw [htext]
    exact hr.interchangeable hsep
  · rw [htext]
    exact .refl _

theorem Reads.dot_not_mem {text : String} {m : SlotMatcher} (h : Reads text m) (hdot : '.' ∉ text.toList) :
    '.' ∉ m.text.toList := by
  rcases h.rank_or_text_eq with ⟨r, hr, htext⟩ | ⟨-, htext⟩
  · rw [htext]
    exact hr.reads_text.dot_not_mem
  · rwa [htext]

end SlotMatcher

/-! ## Patterns and criteria -/

namespace VersionPattern

theorem text_toList (p : VersionPattern) :
    p.text.toList = p.major.text.toList ++ '.' :: (p.minor.text.toList ++ '.' :: p.patch.text.toList) := by
  simp [text]

theorem Reads.reads_text {text : String} {p : VersionPattern} (h : Reads text p) : Reads p.text p := by
  obtain ⟨hsplits, hmajor, hminor, hpatch⟩ := h
  have hsplits' : Splits p.text p.major.text p.minor.text p.patch.text :=
    ⟨p.text_toList, hmajor.dot_not_mem hsplits.major, hminor.dot_not_mem hsplits.minor⟩
  exact .slots hsplits' hmajor.reads_text hminor.reads_text hpatch.reads_text

theorem Reads.interchangeable {text : String} {p : VersionPattern} (h : Reads text p) {sep : List Char}
    (hsep : Text.Free Rank.IsRankChar sep) : Interchangeable sep text.toList p.text.toList := by
  obtain ⟨hsplits, hmajor, hminor, hpatch⟩ := h
  have hdot : Interchangeable sep ['.'] ['.'] := .refl _
  have hrest := (hminor.interchangeable hsep).append (hdot.append (hpatch.interchangeable hsep))
  rw [hsplits.text_eq, p.text_toList]
  exact (hmajor.interchangeable hsep).append (hdot.append hrest)

theorem Splits.unique {text a b c a' b' c' : String} (h : Splits text a b c) (h' : Splits text a' b' c') :
    a = a' ∧ b = b' ∧ c = c' := by
  have hparts := h.parts.symm.trans h'.parts
  simpa [String.toList_inj] using hparts

end VersionPattern

namespace Criterion

inductive Shortens : String → String → Prop
  | rank {text short : String} (hdot : '.' ∉ text.toList) (h : Rank.Shortens text short) : Shortens text short
  | pattern {text a b c a' b' c' : String} (h : VersionPattern.Splits text a b c) (major : SlotMatcher.Shortens a a')
      (minor : SlotMatcher.Shortens b b') (patch : SlotMatcher.Shortens c c') :
      Shortens text (a' ++ "." ++ b' ++ "." ++ c')

theorem Reads.reads_text {text : String} {c : Criterion} (h : Reads text c) : Reads c.text c := by
  cases h with
  | rank hdot h => exact .rank h.reads_text.dot_not_mem h.reads_text
  | pattern h => exact .pattern h.reads_text

theorem Reads.shortens_iff {text short : String} {c : Criterion} (h : Reads text c) :
    Shortens text short ↔ short = c.text := by
  cases h with
  | rank hdot h =>
    rw [Criterion.text, ← h.shortens_iff]
    constructor
    · intro hshort
      cases hshort with
      | rank _ hshort => exact hshort
      | pattern hsplits => exact absurd hsplits.dot_mem hdot
    · exact .rank hdot
  | pattern h =>
    obtain ⟨hsplits, hmajor, hminor, hpatch⟩ := h
    constructor
    · intro hshort
      cases hshort with
      | rank hdot => exact absurd hsplits.dot_mem hdot
      | pattern hsplits' major minor patch =>
        obtain ⟨rfl, rfl, rfl⟩ := hsplits.unique hsplits'
        rw [hmajor.shortens_iff.mp major, hminor.shortens_iff.mp minor, hpatch.shortens_iff.mp patch]
        rfl
    · intro hshort
      subst hshort
      exact .pattern hsplits (hmajor.shortens_iff.mpr rfl) (hminor.shortens_iff.mpr rfl) (hpatch.shortens_iff.mpr rfl)

theorem Reads.interchangeable {text : String} {c : Criterion} (h : Reads text c) {sep : List Char}
    (hsep : Text.Free Rank.IsRankChar sep) : Interchangeable sep text.toList c.text.toList := by
  cases h with
  | rank hdot h => exact h.interchangeable hsep
  | pattern h => exact h.interchangeable hsep

theorem Reads.ne_empty {text : String} {c : Criterion} (h : Reads text c) : text ≠ "" := by
  rintro rfl
  cases h with
  | rank _ h => exact h.ne_nil rfl
  | pattern h =>
    obtain ⟨hsplits, -⟩ := h
    exact absurd hsplits.dot_mem (by decide)

end Criterion

/-! ## Selectors -/

namespace Selector

inductive Shortens : String → String → Prop
  | everything : Shortens "" ""
  | one {text short : String} (hne : text ≠ "") (hand : ¬ Has andWord text) (hor : ¬ Has orWord text)
      (h : Criterion.Shortens text short) : Shortens text short
  | joined {word text : String} {ps : List (List Char)} {shorts : List String} (hword : word = andWord ∨ word = orWord)
      (hhas : Has word text) (hcut : Text.Cut word.toList text.toList ps)
      (h : List.Forall₂ (fun p short => Criterion.Shortens (String.ofList p) short) ps shorts) :
      Shortens text (word.intercalate shorts)

theorem andWord_apart : Text.Free Rank.IsRankChar andWord.toList := by decide

theorem orWord_apart : Text.Free Rank.IsRankChar orWord.toList := by decide

section

variable {word : String} {ps : List (List Char)} {cs : List Criterion}
  (h : List.Forall₂ (fun p c => Criterion.Reads (String.ofList p) c) ps cs)

include h in
theorem forall₂_interchangeable {sep : List Char} (hsep : Text.Free Rank.IsRankChar sep) :
    List.Forall₂ (Interchangeable sep) ps ((cs.map Criterion.text).map String.toList) := by
  rw [List.map_map, List.forall₂_map_right_iff]
  refine h.imp fun p c hc => ?_
  simpa using hc.interchangeable hsep

include h in
theorem forall₂_reads_text :
    List.Forall₂ (fun p c => Criterion.Reads (String.ofList p) c) ((cs.map Criterion.text).map String.toList) cs := by
  induction h with
  | nil => exact .nil
  | cons hc _ ih => exact .cons (by simpa using hc.reads_text) ih

include h in
theorem forall₂_shortens_iff {shorts : List String} :
    List.Forall₂ (fun p short => Criterion.Shortens (String.ofList p) short) ps shorts ↔
      shorts = cs.map Criterion.text := by
  induction h generalizing shorts with
  | nil => rw [List.forall₂_nil_left_iff, List.map_nil]
  | cons hc _ ih =>
    rw [List.forall₂_cons_left_iff, List.map_cons]
    constructor
    · rintro ⟨short, shorts, hshort, hrest, rfl⟩
      rw [hc.shortens_iff.mp hshort, ih.mp hrest]
    · rintro rfl
      exact ⟨_, _, hc.shortens_iff.mpr rfl, ih.mpr rfl, rfl⟩

end

/-- The criteria of a text, written with the word between them. -/
theorem PiecesRead.interchangeable {word text : String} {cs : List Criterion} (h : PiecesRead word text cs)
    {sep : List Char} (hsep : Text.Free Rank.IsRankChar sep) :
    Interchangeable sep text.toList (word.intercalate (cs.map Criterion.text)).toList := by
  obtain ⟨ps, hcut, hps⟩ := h
  rw [hcut.eq_intercalate, String.toList_intercalate]
  exact .intercalate _ (forall₂_interchangeable hps hsep)

theorem PiecesRead.reads_text {word text : String} {cs : List Criterion} (h : PiecesRead word text cs)
    (hne : word.toList ≠ []) (hword : Text.Free Rank.IsRankChar word.toList) :
    PiecesRead word (word.intercalate (cs.map Criterion.text)) cs := by
  obtain ⟨ps, hcut, hps⟩ := h
  refine ⟨_, ?_, forall₂_reads_text hps⟩
  rw [hcut.eq_intercalate] at hcut
  rw [String.toList_intercalate]
  exact Text.cut_intercalate_of_interchangeable hne (forall₂_interchangeable hps hword) hcut

theorem PiecesRead.shortens_iff {word text short : String} {cs : List Criterion} (h : PiecesRead word text cs)
    (hword : word = andWord ∧ ¬ Has orWord text ∨ word = orWord ∧ ¬ Has andWord text) (hhas : Has word text) :
    Shortens text short ↔ short = word.intercalate (cs.map Criterion.text) := by
  obtain ⟨ps, hcut, hps⟩ := h
  have hne : text ≠ "" := by
    rintro rfl
    rcases hword with ⟨rfl, -⟩ | ⟨rfl, -⟩
    · exact hhas.ne_empty andWord_ne_nil rfl
    · exact hhas.ne_empty orWord_ne_nil rfl
  constructor
  · intro hshort
    cases hshort with
    | everything => exact absurd rfl hne
    | one _ hand hor => rcases hword with ⟨rfl, -⟩ | ⟨rfl, -⟩ <;> contradiction
    | @joined word' _ _ _ hword' hhas' hcut' hshorts =>
      -- only one of the two words occurs
      have hsame : word = word' := by
        rcases hword with ⟨rfl, hno⟩ | ⟨rfl, hno⟩
        · exact (hword'.resolve_right fun hor => hno (hor ▸ hhas')).symm
        · exact (hword'.resolve_left fun hand => hno (hand ▸ hhas')).symm
      subst hsame
      obtain rfl := hcut.unique hcut'
      rw [(forall₂_shortens_iff hps).mp hshorts]
  · rintro rfl
    exact .joined (hword.imp And.left And.left) hhas hcut ((forall₂_shortens_iff hps).mpr rfl)

theorem Has.iff_of_interchangeable {word text text' : String}
    (h : Interchangeable word.toList text.toList text'.toList) : Has word text ↔ Has word text' := h.infix_iff

theorem Reads.reads_text {text : String} {s : Selector} (h : Reads text s) : Reads s.text s := by
  cases h with
  | everything => exact .everything
  | one hne hand hor h =>
    refine .one h.reads_text.ne_empty ?_ ?_ h.reads_text
    · exact mt (Has.iff_of_interchangeable (h.interchangeable andWord_apart)).mpr hand
    · exact mt (Has.iff_of_interchangeable (h.interchangeable orWord_apart)).mpr hor
  | allOf hand hor h =>
    refine .allOf ?_ ?_ (h.reads_text andWord_ne_nil andWord_apart)
    · exact (Has.iff_of_interchangeable (h.interchangeable andWord_apart)).mp hand
    · exact mt (Has.iff_of_interchangeable (h.interchangeable orWord_apart)).mpr hor
  | anyOf hand hor h =>
    refine .anyOf ?_ ?_ (h.reads_text orWord_ne_nil orWord_apart)
    · exact mt (Has.iff_of_interchangeable (h.interchangeable andWord_apart)).mpr hand
    · exact (Has.iff_of_interchangeable (h.interchangeable orWord_apart)).mp hor

theorem Reads.shortens_iff {text short : String} {s : Selector} (h : Reads text s) :
    Shortens text short ↔ short = s.text := by
  cases h with
  | everything =>
    constructor
    · intro hshort
      cases hshort with
      | everything => rfl
      | one hne => exact absurd rfl hne
      | joined hword hhas =>
        rcases hword with rfl | rfl
        · exact absurd rfl (hhas.ne_empty andWord_ne_nil)
        · exact absurd rfl (hhas.ne_empty orWord_ne_nil)
    · rintro rfl
      exact .everything
  | one hne hand hor h =>
    rw [Selector.text, ← h.shortens_iff]
    constructor
    · intro hshort
      cases hshort with
      | everything => exact absurd rfl hne
      | one _ _ _ hshort => exact hshort
      | joined hword hhas => rcases hword with rfl | rfl <;> contradiction
    · exact .one hne hand hor
  | allOf hand hor h => exact h.shortens_iff (Or.inl ⟨rfl, hor⟩) hand
  | anyOf hand hor h => exact h.shortens_iff (Or.inr ⟨rfl, hand⟩) hor

theorem reads_of_parse {text : String} {s : Selector} (h : parse text = .ok s) : Reads text s := by
  have hfollows : Follows (parse text) (Reads text) (Fails text) :=
    .of_total (reads_or_fails text) (fun _ => parse_of_reads) fun _ => parse_of_fails
  exact (hfollows.ok_iff s).mp h

/-- A selector is written as the text it was read from with every rank in it shortened, and what is
    written reads as the same selector. -/
theorem reads_as_written {text : String} {s : Selector} (h : parse text = .ok s) :
    parse s.text = .ok s ∧ ∀ short, Shortens text short ↔ short = s.text := by
  have hreads := reads_of_parse h
  exact ⟨parse_of_reads hreads.reads_text, fun _ => hreads.shortens_iff⟩

/-- A rank by itself and one in a slot are shortened; the other slots are not, not even the last one,
    which ends in what could be the start of a word between criteria. -/
theorem ranks_are_shortened :
    ∃ s, parse "LAST-007 and 01.FIRST+00.3-rc and" = .ok s ∧ s.text = "LAST-7 and 01.FIRST.3-rc and" ∧
      parse s.text = .ok s ∧ ∀ short, Shortens "LAST-007 and 01.FIRST+00.3-rc and" short ↔ short = s.text := by
  have hparse : parse "LAST-007 and 01.FIRST+00.3-rc and" =
      .ok (.allOf [.rank ⟨.last, 7⟩, .pattern ⟨.literal "01", .rank ⟨.first, 0⟩, .literal "3-rc and"⟩]) := rfl
  exact ⟨_, hparse, rfl, reads_as_written hparse⟩

end Selector

end VersionPick
