/-
  VersionPick.Proofs.Selector.Composition — expressions put together by a word.

  An expression that two others and a word between them make is cut into the criteria of
  the one and those of the other (`criteria_join`). It is so only if nothing new arises
  where they meet: the word must not overlap with the end of the first expression, and
  no end and start of the two may make the other word (`Seam`). What is made of two is
  then fit to be put together with a third on either side (`Seam.join_left`,
  `Seam.join_right`), as the texts that break this rule are no selectors.

  What an expression keeps is said by its criteria, however many there are
  (`keep_of_inTurn`, `keep_of_sideBySide`). A criterion alone may keep equal versions,
  where criteria side by side do not; but they are dropped when what the two expressions
  keep is put together, so it makes no difference whether they were before.
-/

import VersionPick.Proofs.Selector.Grammar
import VersionPick.Proofs.Selector.Safety
import VersionPick.Proofs.Selector.Writing

namespace VersionPick

/-! ## The words -/

inductive Junction where
  | inTurn
  | sideBySide
deriving DecidableEq, Repr

namespace Junction

def other : Junction → Junction
  | inTurn => sideBySide
  | sideBySide => inTurn

def word : Junction → String
  | inTurn => Selector.andWord
  | sideBySide => Selector.orWord

def bare : Junction → List Char
  | inTurn => ['a', 'n', 'd']
  | sideBySide => ['o', 'r']

def selector : Junction → List Criterion → Selector
  | inTurn => .allOf
  | sideBySide => .anyOf

def join (j : Junction) (left right : String) : String := left ++ j.word ++ right

variable {j : Junction} {left middle right : String}

theorem toList_word (j : Junction) : j.word.toList = Text.framed ' ' j.bare := by cases j <;> rfl

theorem word_ne_nil (j : Junction) : j.word.toList ≠ [] := by
  rw [toList_word]
  exact Text.framed_ne_nil

theorem bare_ne_nil (j : Junction) : j.bare ≠ [] := by cases j <;> exact List.cons_ne_nil _ _

theorem space_not_mem_bare (j : Junction) : ' ' ∉ j.bare := by cases j <;> simp [bare]

/-- The two words have nothing in common but their spaces. -/
theorem bare_apart (j : Junction) : ∀ c ∈ j.bare, c ∉ Text.framed ' ' j.other.bare := by
  cases j <;> simp [bare, other, Text.framed]

theorem toList_join (j : Junction) (left right : String) :
    (j.join left right).toList = left.toList ++ Text.framed ' ' j.bare ++ right.toList := by
  rw [join, String.toList_append, String.toList_append, toList_word]

theorem join_assoc (j : Junction) (left middle right : String) :
    j.join (j.join left middle) right = j.join left (j.join middle right) := by
  simp only [join, String.append_assoc]

theorem has_word_join (j : Junction) (left right : String) : Selector.Has j.word (j.join left right) := by
  rw [Selector.Has, toList_join, toList_word]
  exact ⟨left.toList, right.toList, rfl⟩

theorem join_ne_empty (j : Junction) (left right : String) : j.join left right ≠ "" :=
  (has_word_join j left right).ne_empty j.word_ne_nil

/-- Two texts that may be put together with the word: neither is empty or holds the other word, the first
    does not end in a space and one of the words, and the second does not start with the other word and a
    space. -/
structure Seam (j : Junction) (left right : String) : Prop where
  left_ne : left ≠ ""
  right_ne : right ≠ ""
  left_free : ¬ Selector.Has j.other.word left
  right_free : ¬ Selector.Has j.other.word right
  left_end : ∀ k : Junction, ¬ ' ' :: k.bare <:+ left.toList
  right_start : ¬ j.other.bare ++ [' '] <+: right.toList

namespace Seam

theorem join_free (h : j.Seam left right) : ¬ Selector.Has j.other.word (j.join left right) := by
  have hleft := h.left_free
  have hright := h.right_free
  rw [Selector.Has, toList_word] at hleft hright
  rw [Selector.Has, toList_word, toList_join, Text.framed_infix_seam_iff j.bare_ne_nil j.bare_apart]
  exact not_or.mpr ⟨not_or.mpr ⟨hleft, h.left_end _⟩, not_or.mpr ⟨hright, h.right_start⟩⟩

theorem join_left (h : j.Seam left middle) (h' : j.Seam middle right)
    (hbare : ∀ k : Junction, middle.toList ≠ k.bare) : j.Seam (j.join left middle) right where
  left_ne := join_ne_empty j left middle
  right_ne := h'.right_ne
  left_free := h.join_free
  right_free := h'.right_free
  left_end k hend := by
    have hsplit : (j.join left middle).toList = (left.toList ++ ' ' :: j.bare) ++ ' ' :: middle.toList := by
      simp [toList_join, Text.framed]
    rw [hsplit] at hend
    -- a space and a word that end there either end in `middle`, or are a space and `middle`
    rcases List.suffix_or_suffix_of_suffix hend (List.suffix_append _ _) with hk | hk
    · rcases List.suffix_cons_iff.mp hk with heq | hk
      · exact hbare k (List.cons.inj heq).2.symm
      · exact h'.left_end k hk
    · rcases List.suffix_cons_iff.mp hk with heq | hk
      · exact hbare k (List.cons.inj heq).2
      · exact k.space_not_mem_bare (hk.subset List.mem_cons_self)
  right_start := h'.right_start

theorem join_right (h : j.Seam left middle) (h' : j.Seam middle right)
    (hbare : ∀ k : Junction, middle.toList ≠ k.bare) : j.Seam left (j.join middle right) where
  left_ne := h.left_ne
  right_ne := join_ne_empty j middle right
  left_free := h.left_free
  right_free := h'.join_free
  left_end := h.left_end
  right_start hstart := by
    have hsplit : (j.join middle right).toList = (middle.toList ++ [' ']) ++ (j.bare ++ ' ' :: right.toList) := by
      simp [toList_join, Text.framed]
    rw [hsplit] at hstart
    rcases List.prefix_or_prefix_of_prefix hstart (List.prefix_append _ _) with hk | hk
    · rcases List.prefix_concat_iff.mp hk with heq | hk
      · exact hbare j.other (List.append_cancel_right heq).symm
      · exact h.right_start hk
    · rcases List.prefix_concat_iff.mp hk with heq | hk
      · exact hbare j.other (List.append_cancel_right heq)
      · exact j.other.space_not_mem_bare (hk.subset (List.mem_append_right _ List.mem_cons_self))

end Seam

end Junction

namespace Selector

variable {j : Junction} {left middle right : String}

/-! ## Criteria -/

theorem criteria_join (hend : ¬ ' ' :: j.bare <:+ left.toList) (right : String) :
    criteria j.word (j.join left right) =
      (criteria j.word left).bind fun cs => (criteria j.word right).map (cs ++ ·) := by
  simp only [criteria, Junction.toList_join, j.toList_word]
  rw [Text.pieces_append_framed j.space_not_mem_bare hend, List.mapM_append]
  rfl

theorem parse_of_word {text : String} (hword : Has j.word text) (hother : ¬ Has j.other.word text) :
    parse text = (criteria j.word text).map j.selector := by
  cases j with
  | inTurn => exact parse_of_and hword hother
  | sideBySide => exact parse_of_or hother hword

inductive OfCriteria (j : Junction) : List Criterion → Selector → Prop
  | one (c : Criterion) : OfCriteria j [c] (.one c)
  | joined (cs : List Criterion) : OfCriteria j cs (j.selector cs)

/-- Without the other word, a text is read as its criteria are, be there one of them or more. -/
theorem parse_of_criteria {text : String} (hne : text ≠ "") (hother : ¬ Has j.other.word text) :
    (∃ e, criteria j.word text = .error e ∧ parse text = .error e) ∨
      ∃ cs s, criteria j.word text = .ok cs ∧ parse text = .ok s ∧ OfCriteria j cs s := by
  by_cases hword : Has j.word text
  · rw [parse_of_word hword hother]
    cases criteria j.word text with
    | error e => exact Or.inl ⟨e, rfl, rfl⟩
    | ok cs => exact Or.inr ⟨cs, _, rfl, rfl, .joined cs⟩
  · have hpieces : Text.pieces j.word.toList text.toList = [text.toList] :=
      (Text.pieces_eq_iff j.word_ne_nil).mpr (.whole hword)
    have hparse : parse text = (Criterion.parse text).map one := by
      cases j with
      | inTurn => exact parse_of_neither hne hword hother
      | sideBySide => exact parse_of_neither hne hother hword
    rw [criteria, hpieces, mapM_cons_eq, String.ofList_toList, hparse]
    cases Criterion.parse text with
    | error e => exact Or.inl ⟨e, rfl, rfl⟩
    | ok c => exact Or.inr ⟨[c], _, rfl, rfl, .one c⟩

/-! ## Criteria without spaces -/

theorem not_has_of_spaceless {text : String} (h : ' ' ∉ text.toList) (j : Junction) : ¬ Has j.word text := by
  intro hword
  rw [Has, j.toList_word] at hword
  exact h (hword.subset List.mem_cons_self)

theorem parse_of_spaceless {text : String} {c : Criterion} (h : ' ' ∉ text.toList) (hc : Criterion.Reads text c) :
    parse text = .ok (.one c) :=
  parse_of_reads (.one hc.ne_empty (not_has_of_spaceless h .inTurn) (not_has_of_spaceless h .sideBySide) hc)

theorem criteria_of_spaceless {text : String} {c : Criterion} (h : ' ' ∉ text.toList) (hc : Criterion.Reads text c) :
    criteria j.word text = .ok [c] := by
  have hpieces : Text.Cut j.word.toList text.toList [text.toList] := .whole (not_has_of_spaceless h j)
  have hreads : PiecesRead j.word text [c] := ⟨_, hpieces, .cons (by rwa [String.ofList_toList]) .nil⟩
  exact ((criteria_follows j.word_ne_nil).ok_iff _).mpr hreads

theorem seam_of_spaceless (hleft : ' ' ∉ left.toList) (hright : ' ' ∉ right.toList) (hne : left ≠ "")
    (hne' : right ≠ "") (j : Junction) : j.Seam left right where
  left_ne := hne
  right_ne := hne'
  left_free := not_has_of_spaceless hleft _
  right_free := not_has_of_spaceless hright _
  left_end _ hend := hleft (hend.subset List.mem_cons_self)
  right_start hstart := hright (hstart.subset (List.mem_append_right _ List.mem_cons_self))

/-- Two criteria with a word between them are read as these two. -/
theorem parse_join_of_spaceless {c d : Criterion} (hleft : ' ' ∉ left.toList) (hright : ' ' ∉ right.toList)
    (hc : Criterion.Reads left c) (hd : Criterion.Reads right d) :
    parse (j.join left right) = .ok (j.selector [c, d]) := by
  have hseam := seam_of_spaceless hleft hright hc.ne_empty hd.ne_empty j
  rw [parse_of_word (j.has_word_join left right) hseam.join_free, criteria_join (hseam.left_end j),
    criteria_of_spaceless hleft hc, criteria_of_spaceless hright hd]
  rfl

/-! ## What the criteria keep -/

theorem keep_of_inTurn {cs : List Criterion} {s : Selector} (h : OfCriteria .inTurn cs s) (vs : List Version) :
    s.keep vs = Choice.inTurn (cs.map Criterion.keep) vs := by
  cases h with
  | one c =>
    rw [List.map_singleton, Choice.inTurn_cons]
    change c.keep vs = _
    cases c.keep vs <;> rfl
  | joined cs => rfl

/-- What criteria side by side keep, but for equal versions. -/
theorem keep_of_sideBySide {cs : List Criterion} {s : Selector} (h : OfCriteria .sideBySide cs s)
    {vs kept : List Version} (hkept : s.keep vs = .ok kept) :
    ∃ kepts, List.Forall₂ (fun (c : Choice) kept => c vs = .ok kept) (cs.map Criterion.keep) kepts ∧
      kept.eraseDups = kepts.flatten.eraseDups := by
  cases h with
  | one c => exact ⟨[kept], .cons hkept .nil, by rw [List.flatten_singleton]⟩
  | joined cs =>
    obtain ⟨kepts, hkepts, rfl⟩ := Choice.sideBySide_eq_ok_iff.mp hkept
    exact ⟨kepts, hkepts, eraseDups_of_differ (differ_eraseDups _)⟩

end Selector

/-- What `both` keeps of every ascending list, by what `s` and `t` keep: what `t` keeps of what `s` keeps, or
    what the two keep of the list, of equal versions the first. -/
def Junction.Applies : Junction → (s t both : Selector) → Prop
  | inTurn, s, t, both => ∀ vs, isAscending vs = true →
    ∃ left kept, s.keep vs = .ok left ∧ t.keep left = .ok kept ∧ both.keep vs = .ok kept
  | sideBySide, s, t, both => ∀ vs, isAscending vs = true →
    ∃ left right kept, s.keep vs = .ok left ∧ t.keep vs = .ok right ∧ both.keep vs = .ok kept ∧
      FirstOfEquals (left ++ right) kept

namespace Selector

variable {j : Junction} {left middle right : String}

theorem applies_inTurn {cs ds : List Criterion} {s t : Selector} (hs : OfCriteria .inTurn cs s)
    (ht : OfCriteria .inTurn ds t) : Junction.inTurn.Applies s t (.allOf (cs ++ ds)) := by
  intro vs hasc
  have hboth : (allOf (cs ++ ds)).keep vs = (s.keep vs).bind t.keep := by
    rw [keep_of_inTurn hs, funext (keep_of_inTurn ht), keep, List.map_append]
    exact List.foldlM_append
  obtain ⟨left, hleft, -⟩ := s.keep_of_ascending hasc
  obtain ⟨kept, hkept, -⟩ := (allOf (cs ++ ds)).keep_of_ascending hasc
  refine ⟨left, kept, hleft, ?_, hkept⟩
  rw [← hkept, hboth, hleft]
  rfl

theorem applies_sideBySide {cs ds : List Criterion} {s t : Selector} (hs : OfCriteria .sideBySide cs s)
    (ht : OfCriteria .sideBySide ds t) : Junction.sideBySide.Applies s t (.anyOf (cs ++ ds)) := by
  intro vs hasc
  obtain ⟨left, hleft, -⟩ := s.keep_of_ascending hasc
  obtain ⟨right, hright, -⟩ := t.keep_of_ascending hasc
  obtain ⟨lefts, hlefts, hleft'⟩ := keep_of_sideBySide hs hleft
  obtain ⟨rights, hrights, hright'⟩ := keep_of_sideBySide ht hright
  have hboth : (anyOf (cs ++ ds)).keep vs = .ok (left ++ right).eraseDups := by
    refine Choice.sideBySide_eq_ok_iff.mpr ⟨lefts ++ rights, ?_, ?_⟩
    · rw [List.map_append]
      exact List.rel_append hlefts hrights
    · rw [List.flatten_append]
      exact eraseDups_append_congr hleft' hright'
  exact ⟨left, right, _, hleft, hright, hboth, firstOfEquals_eraseDups _⟩

theorem applies_of_criteria {cs ds : List Criterion} {s t : Selector} (hs : OfCriteria j cs s)
    (ht : OfCriteria j ds t) : j.Applies s t (j.selector (cs ++ ds)) := by
  cases j with
  | inTurn => exact applies_inTurn hs ht
  | sideBySide => exact applies_sideBySide hs ht

/-! ## Expressions put together -/

/-- What a text made of two gives, by what each of the two gives: the error of the first that gives one, or
    a selector that is to theirs as `P` says. -/
def Combines (P : (s t both : Selector) → Prop) : (left right both : Except SelectorError Selector) → Prop
  | .error e, _, both => both = .error e
  | .ok _, .error e, both => both = .error e
  | .ok s, .ok t, both => ∃ u, both = .ok u ∧ P s t u

theorem combines_join (h : j.Seam left right) :
    Combines j.Applies (parse left) (parse right) (parse (j.join left right)) := by
  rw [parse_of_word (j.has_word_join left right) h.join_free, criteria_join (h.left_end j)]
  rcases parse_of_criteria h.left_ne h.left_free with ⟨e, hcriteria, hparse⟩ | ⟨cs, s, hcs, hs, hof⟩
  · rw [hcriteria, hparse]
    rfl
  · rw [hcs, hs]
    rcases parse_of_criteria h.right_ne h.right_free with ⟨e, hcriteria, hparse⟩ | ⟨ds, t, hds, ht, hof'⟩
    · rw [hcriteria, hparse]
      rfl
    · rw [hds, ht]
      exact ⟨_, rfl, applies_of_criteria hof hof'⟩

theorem exists_of_combines (h : j.Seam left right) {s t : Selector} (hs : parse left = .ok s) (ht : parse right = .ok t) :
    ∃ both, parse (j.join left right) = .ok both ∧ j.Applies s t both := by
  have hcombines := combines_join h
  rwa [hs, ht] at hcombines

theorem ne_bare_of_parse {text : String} {s : Selector} (h : parse text = .ok s) (k : Junction) :
    text.toList ≠ k.bare := by
  intro heq
  obtain rfl := String.toList_inj.mp (heq.trans String.toList_ofList.symm)
  cases k <;> cases h

/-- Put together with a word, two texts give the error of the first that gives one, or a selector that
    keeps, of every ascending list, what the second keeps of what the first keeps, or, side by side, what
    each of them keeps without the versions that are equal to one before. Each of the two may be a chain
    itself. Of three it makes no difference which two are put together first. -/
theorem texts_compose (h : j.Seam left right) :
    Combines j.Applies (parse left) (parse right) (parse (j.join left right)) ∧
    ∀ (further : String) (s t u : Selector), j.Seam right further →
      parse left = .ok s → parse right = .ok t → parse further = .ok u →
      ∃ st tu both, parse (j.join left right) = .ok st ∧ parse (j.join right further) = .ok tu ∧
        parse (j.join (j.join left right) further) = .ok both ∧ j.Applies st u both ∧
        parse (j.join left (j.join right further)) = .ok both ∧ j.Applies s tu both := by
  refine ⟨combines_join h, fun further s t u h' hs ht hu => ?_⟩
  have hbare := ne_bare_of_parse ht
  obtain ⟨st, hst, -⟩ := exists_of_combines h hs ht
  obtain ⟨tu, htu, -⟩ := exists_of_combines h' ht hu
  obtain ⟨both, hboth, hleft⟩ := exists_of_combines (h.join_left h' hbare) hst hu
  obtain ⟨both', hboth', hright⟩ := exists_of_combines (h.join_right h' hbare) hs htu
  rw [j.join_assoc] at hboth
  obtain rfl : both = both' := Except.ok.inj (hboth.symm.trans hboth')
  exact ⟨st, tu, both, hst, htu, by rw [j.join_assoc, hboth], hleft, hboth', hright⟩

/-- A rank behind a chain, and three expressions side by side of which the last is a chain. -/
theorem chains_compose :
    (Junction.inTurn.Seam "1.*.* and *.*.LAST" "LAST-1" ∧
      Combines Junction.inTurn.Applies (parse "1.*.* and *.*.LAST") (parse "LAST-1")
        (parse "1.*.* and *.*.LAST and LAST-1")) ∧
    Junction.sideBySide.Seam "LAST" "*.*.LAST" ∧ Junction.sideBySide.Seam "*.*.LAST" "1.*.* or FIRST" ∧
      ∃ s t both, parse "LAST" = .ok s ∧ parse "*.*.LAST or 1.*.* or FIRST" = .ok t ∧
        parse "LAST or *.*.LAST or 1.*.* or FIRST" = .ok both ∧ Junction.sideBySide.Applies s t both := by
  have hturn : Junction.inTurn.Seam "1.*.* and *.*.LAST" "LAST-1" :=
    ⟨by decide, by decide, by decide, by decide, fun k => by cases k <;> decide, by decide⟩
  have hside : Junction.sideBySide.Seam "LAST" "*.*.LAST" :=
    ⟨by decide, by decide, by decide, by decide, fun k => by cases k <;> decide, by decide⟩
  have hside' : Junction.sideBySide.Seam "*.*.LAST" "1.*.* or FIRST" :=
    ⟨by decide, by decide, by decide, by decide, fun k => by cases k <;> decide, by decide⟩
  obtain ⟨-, t, both, -, ht, -, -, hboth, happlies⟩ := (texts_compose hside).2 _ _ _ _ hside' rfl rfl rfl
  exact ⟨⟨hturn, (texts_compose hturn).1⟩, hside, hside', _, t, both, rfl, ht, hboth, happlies⟩

end Selector

end VersionPick
