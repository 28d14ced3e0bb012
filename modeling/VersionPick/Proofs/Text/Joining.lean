/-
  VersionPick.Proofs.Text.Joining — pieces put together with a separator, and whether
  cutting gives them back.

  A piece in front is given back if the separator does not start in it, where it may
  end in the separator that follows (`cut_append_iff`). With a separator of one
  character this is to say that no piece holds it (`cut_singleton_sep_iff`).

  What stands in a piece matters only where it may be part of a separator. Texts that
  make no difference to this are interchangeable, as any two are that are not empty and
  share no character with the separator (`interchangeable_of_apart`), and pieces that are
  interchangeable with pieces that are given back are given back
  (`cut_intercalate_of_interchangeable`).

  A separator that starts and ends in the same character, as a word between spaces does,
  can overlap with itself there only. So two texts that are cut anyhow are cut as before
  when it is put between them, if the first does not end in the start of it
  (`pieces_append_framed`).
-/

import Mathlib.Data.List.Forall2
import Mathlib.Data.List.Induction
import VersionPick.Proofs.Text.Pieces

namespace VersionPick.Text

variable {sep : List Char}

/-! ## Texts without certain characters -/

def Free (bad : Char → Prop) (s : List Char) : Prop := ∀ c ∈ s, ¬ bad c

instance {bad : Char → Prop} [DecidablePred bad] (s : List Char) : Decidable (Free bad s) := List.decidableBAll _ s

theorem free_eq_iff {c : Char} {s : List Char} : Free (· = c) s ↔ c ∉ s :=
  ⟨fun h hc => h c hc rfl, fun h _ hd hdc => h (hdc ▸ hd)⟩

theorem free_append_iff {bad : Char → Prop} {s t : List Char} : Free bad (s ++ t) ↔ Free bad s ∧ Free bad t :=
  List.forall_mem_append

theorem free_intercalate_iff {bad : Char → Prop} (hsep : Free bad sep) {ps : List (List Char)} :
    Free bad (sep.intercalate ps) ↔ ∀ p ∈ ps, Free bad p := by
  induction ps with
  | nil => simp [Free]
  | cons p ps ih =>
    by_cases hps : ps = []
    · subst hps
      simp
    · rw [List.intercalate_cons_of_ne_nil hps, free_append_iff, free_append_iff, ih, List.forall_mem_cons]
      simp only [hsep, and_true]

/-! ## The first piece -/

/-- The separator between `a` and `b` is the first one if none starts in `a`. -/
theorem firstAt_append_iff (hsep : sep ≠ []) {a b : List Char} :
    FirstAt sep (a ++ sep ++ b) a b ↔ ¬ sep <:+: a ++ sep.dropLast := by
  constructor
  · intro h hinfix
    obtain ⟨x, y, hxy⟩ := hinfix
    have hocc : a ++ sep ++ b = x ++ sep ++ (y ++ [sep.getLast hsep] ++ b) := by
      calc a ++ sep ++ b
          = a ++ (sep.dropLast ++ [sep.getLast hsep]) ++ b := by rw [List.dropLast_concat_getLast]
        _ = (a ++ sep.dropLast) ++ ([sep.getLast hsep] ++ b) := by simp only [List.append_assoc]
        _ = x ++ sep ++ (y ++ [sep.getLast hsep] ++ b) := by rw [← hxy]; simp only [List.append_assoc]
    have hle := h.first x _ hocc
    have hlen := congrArg List.length hxy
    have hpos := List.length_pos_of_ne_nil hsep
    simp only [List.length_append, List.length_dropLast] at hlen
    omega
  · intro h
    refine ⟨rfl, fun a' b' heq => ?_⟩
    by_contra hlt
    -- an occurrence that starts before `a` ends lies in `a` and all of `sep` but its last character
    have hpre : a' ++ sep <+: a ++ sep.dropLast := by
      refine List.prefix_of_prefix_length_le ⟨b', heq.symm⟩ ⟨[sep.getLast hsep] ++ b, ?_⟩ ?_
      · rw [← List.append_assoc, List.append_assoc a, List.dropLast_concat_getLast hsep]
      · simp only [List.length_append, List.length_dropLast]
        omega
    exact h ((List.suffix_append a' sep).isInfix.trans hpre.isInfix)

/-! ## Pieces that are given back -/

theorem Cut.ne_nil {s : List Char} {ps : List (List Char)} (h : Cut sep s ps) : ps ≠ [] := by
  cases h <;> exact List.cons_ne_nil _ _

theorem Cut.eq_intercalate {s : List Char} {ps : List (List Char)} (h : Cut sep s ps) : s = sep.intercalate ps := by
  induction h with
  | whole h => exact List.intercalate_singleton.symm
  | first h rest ih => rw [List.intercalate_cons_of_ne_nil rest.ne_nil, ← ih, h.eq]

theorem cut_whole_iff {s p : List Char} : Cut sep s [p] ↔ s = p ∧ ¬ sep <:+: s := by
  constructor
  · intro h
    cases h with
    | whole h => exact ⟨rfl, h⟩
    | first _ rest => exact absurd rfl rest.ne_nil
  · intro h
    obtain ⟨rfl, h⟩ := h
    exact .whole h

theorem cut_append_iff (hsep : sep ≠ []) {a b : List Char} {ps : List (List Char)} (hps : ps ≠ []) :
    Cut sep (a ++ sep ++ b) (a :: ps) ↔ ¬ sep <:+: a ++ sep.dropLast ∧ Cut sep b ps := by
  rw [← firstAt_append_iff hsep (b := b)]
  constructor
  · intro h
    generalize hs : a ++ sep ++ b = s at h
    cases h with
    | whole => exact absurd rfl hps
    | first hfirst rest =>
      subst hs
      obtain rfl := List.append_cancel_left hfirst.eq
      exact ⟨hfirst, rest⟩
  · intro h
    exact .first h.1 h.2

theorem cut_singleton_sep_iff {x : Char} {ps : List (List Char)} (hps : ps ≠ []) :
    Cut [x] ([x].intercalate ps) ps ↔ ∀ p ∈ ps, x ∉ p := by
  induction ps with
  | nil => exact absurd rfl hps
  | cons p ps ih =>
    by_cases hrest : ps = []
    · subst hrest
      rw [List.intercalate_singleton, cut_whole_iff, List.singleton_infix_iff]
      simp
    · rw [List.intercalate_cons_of_ne_nil hrest, cut_append_iff (List.cons_ne_nil _ _) hrest, ih hrest,
        List.dropLast_singleton, List.append_nil, List.singleton_infix_iff, List.forall_mem_cons]

/-! ## Texts that may stand for each other -/

/-- Wherever one of the two texts stands, the other may stand: `sep` occurs with the one if and only if
    it occurs with the other. -/
def Interchangeable (sep s t : List Char) : Prop := ∀ x y, sep <:+: x ++ s ++ y ↔ sep <:+: x ++ t ++ y

namespace Interchangeable

theorem refl (s : List Char) : Interchangeable sep s s := fun _ _ => Iff.rfl

theorem append {s s' t t' : List Char} (hs : Interchangeable sep s s') (ht : Interchangeable sep t t') :
    Interchangeable sep (s ++ t) (s' ++ t') := by
  intro x y
  have hfst := hs x (t ++ y)
  have hsnd := ht (x ++ s') y
  simp only [List.append_assoc] at hfst hsnd ⊢
  exact hfst.trans hsnd

theorem infix_iff {s t : List Char} (h : Interchangeable sep s t) : sep <:+: s ↔ sep <:+: t := by
  simpa using h [] []

theorem infix_append_iff {s t : List Char} (h : Interchangeable sep s t) (y : List Char) :
    sep <:+: s ++ y ↔ sep <:+: t ++ y := h [] y

theorem intercalate (glue : List Char) {ps qs : List (List Char)} (h : List.Forall₂ (Interchangeable sep) ps qs) :
    Interchangeable sep (glue.intercalate ps) (glue.intercalate qs) := by
  induction h with
  | nil => exact refl _
  | @cons p q ps qs hpq h ih =>
    cases h with
    | nil => simpa using hpq
    | cons _ _ =>
      rw [List.intercalate_cons_of_ne_nil (List.cons_ne_nil _ _), List.intercalate_cons_of_ne_nil (List.cons_ne_nil _ _)]
      exact (hpq.append (refl glue)).append ih

end Interchangeable

/-- A character that is not in `sep` is in no occurrence of it. -/
theorem infix_append_cons_iff {c : Char} (hc : c ∉ sep) {x y : List Char} :
    sep <:+: x ++ c :: y ↔ sep <:+: x ∨ sep <:+: y := by
  constructor
  · intro h
    rcases List.infix_append_iff.mp h with h | h | ⟨l, r, rfl, hl, hr⟩
    · exact Or.inl h
    · rcases List.infix_cons_iff.mp h with h | h
      · rcases List.prefix_cons_iff.mp h with rfl | ⟨r, rfl, -⟩
        · exact Or.inl List.nil_infix
        · exact absurd List.mem_cons_self hc
      · exact Or.inr h
    · rcases List.prefix_cons_iff.mp hr with rfl | ⟨r, rfl, -⟩
      · exact Or.inl (by simpa using hl.isInfix)
      · exact absurd (List.mem_append_right _ List.mem_cons_self) hc
  · intro h
    rcases h with h | h
    · exact h.trans (List.prefix_append x _).isInfix
    · exact h.trans ((List.suffix_cons c y).trans (List.suffix_append x _)).isInfix

theorem infix_around_iff {w : List Char} (hne : w ≠ []) (hw : ∀ c ∈ w, c ∉ sep) {x y : List Char} :
    sep <:+: x ++ w ++ y ↔ sep <:+: x ∨ sep <:+: y := by
  induction w generalizing x with
  | nil => exact absurd rfl hne
  | cons c w ih =>
    rw [List.append_assoc, List.cons_append, infix_append_cons_iff (hw c List.mem_cons_self)]
    by_cases hnil : w = []
    · subst hnil
      rfl
    · have hrest := ih hnil (fun d hd => hw d (List.mem_cons_of_mem _ hd)) (x := [])
      rw [List.nil_append] at hrest
      rw [hrest]
      constructor
      · rintro (h | h | h)
        · exact Or.inl h
        · exact Or.inl (h.trans (List.nil_infix))
        · exact Or.inr h
      · rintro (h | h)
        · exact Or.inl h
        · exact Or.inr (Or.inr h)

theorem interchangeable_of_apart {s t : List Char} (hs : s ≠ []) (ht : t ≠ []) (hs' : ∀ c ∈ s, c ∉ sep)
    (ht' : ∀ c ∈ t, c ∉ sep) : Interchangeable sep s t := by
  intro x y
  rw [infix_around_iff hs hs', infix_around_iff ht ht']

theorem cut_intercalate_of_interchangeable (hsep : sep ≠ []) {ps qs : List (List Char)}
    (h : List.Forall₂ (Interchangeable sep) ps qs) (hcut : Cut sep (sep.intercalate ps) ps) :
    Cut sep (sep.intercalate qs) qs := by
  induction h with
  | nil => exact absurd rfl hcut.ne_nil
  | @cons p q ps qs hpq h ih =>
    cases h with
    | nil =>
      rw [List.intercalate_singleton, cut_whole_iff] at hcut ⊢
      exact ⟨rfl, mt hpq.infix_iff.mpr hcut.2⟩
    | cons _ _ =>
      rw [List.intercalate_cons_of_ne_nil (List.cons_ne_nil _ _),
        cut_append_iff hsep (List.cons_ne_nil _ _)] at hcut ⊢
      exact ⟨mt (hpq.infix_append_iff _).mpr hcut.1, ih hcut.2⟩

/-! ## Texts put together by a word -/

def framed (c : Char) (w : List Char) : List Char := c :: (w ++ [c])

section

variable {c : Char} {w : List Char}

theorem framed_ne_nil : framed c w ≠ [] := List.cons_ne_nil _ _

theorem dropLast_framed : (framed c w).dropLast = c :: w := by
  rw [framed, ← List.cons_append, List.dropLast_concat]

/-- In front of `c` the word stands if it stood there, or if all of it but the last character ends the text. -/
theorem framed_infix_concat_iff {a : List Char} :
    framed c w <:+: a ++ [c] ↔ framed c w <:+: a ∨ c :: w <:+ a := by
  rw [List.infix_concat_iff, or_comm, framed, ← List.cons_append]
  refine or_congr_right ⟨fun h => ?_, fun h => List.suffix_concat_iff.mpr (Or.inr ⟨_, rfl, h⟩)⟩
  rcases List.suffix_concat_iff.mp h with hnil | ⟨t, ht, hsuffix⟩
  · exact absurd hnil (List.append_ne_nil_of_right_ne_nil _ (List.cons_ne_nil _ _))
  · rwa [List.append_cancel_right ht]

/-- And behind `c`, if all of it but the first character starts the text. -/
theorem framed_infix_cons_iff {b : List Char} : framed c w <:+: c :: b ↔ framed c w <:+: b ∨ w ++ [c] <+: b := by
  rw [List.infix_cons_iff, or_comm, framed, List.cons_prefix_cons]
  simp

/-- What ends in `c` does not end in a text without it. -/
theorem framed_infix_append_iff {a t : List Char} (hc : c ∉ t) : framed c w <:+: a ++ t ↔ framed c w <:+: a := by
  induction t using List.reverseRecOn with
  | nil => rw [List.append_nil]
  | append_singleton t d ih =>
    have hct : c ∉ t := fun h => hc (List.mem_append_left _ h)
    have hcd : c ≠ d := fun h => hc (h ▸ List.mem_append_right _ (List.mem_singleton.mpr rfl))
    rw [← List.append_assoc, List.infix_concat_iff, ih hct, or_iff_right]
    intro hsuffix
    rcases List.suffix_concat_iff.mp hsuffix with hnil | ⟨u, hu, -⟩
    · exact framed_ne_nil hnil
    · rw [framed, ← List.cons_append] at hu
      have hlast := List.append_inj_right' hu rfl
      exact hcd (List.cons.inj hlast).1

/-- Another word between two texts makes no occurrence but one that ends with its first character or starts
    with its last one. -/
theorem framed_infix_seam_iff {w' : List Char} (hne : w' ≠ []) (hapart : ∀ d ∈ w', d ∉ framed c w) {a b : List Char} :
    framed c w <:+: a ++ framed c w' ++ b ↔
      (framed c w <:+: a ∨ c :: w <:+ a) ∨ framed c w <:+: b ∨ w ++ [c] <+: b := by
  have hsplit : a ++ framed c w' ++ b = (a ++ [c]) ++ w' ++ (c :: b) := by simp [framed]
  rw [hsplit, infix_around_iff hne hapart, framed_infix_concat_iff, framed_infix_cons_iff]

/-- The pieces of two texts with the word between them are the pieces of both, if the first text does not
    end in the start of the word. -/
theorem Cut.append (hc : c ∉ w) {s t : List Char} {ps qs : List (List Char)} (hs : Cut (framed c w) s ps)
    (hend : ¬ c :: w <:+ s) (ht : Cut (framed c w) t qs) : Cut (framed c w) (s ++ framed c w ++ t) (ps ++ qs) := by
  induction hs with
  | @whole s h =>
    refine (cut_append_iff framed_ne_nil ht.ne_nil).mpr ⟨?_, ht⟩
    have hsplit : s ++ (framed c w).dropLast = (s ++ [c]) ++ w := by simp [dropLast_framed]
    rw [hsplit, framed_infix_append_iff hc, framed_infix_concat_iff]
    exact not_or.mpr ⟨h, hend⟩
  | @first s a b ps h rest ih =>
    have hs := h.eq
    subst hs
    have hend' : ¬ c :: w <:+ b := fun hb => hend (hb.trans (List.suffix_append _ b))
    have hsplit : a ++ framed c w ++ b ++ framed c w ++ t = a ++ framed c w ++ (b ++ framed c w ++ t) := by
      simp only [List.append_assoc]
    rw [hsplit, List.cons_append]
    refine (cut_append_iff framed_ne_nil (List.append_ne_nil_of_right_ne_nil _ ht.ne_nil)).mpr ⟨?_, ih hend'⟩
    exact (firstAt_append_iff framed_ne_nil).mp h

theorem pieces_append_framed (hc : c ∉ w) {s : List Char} (hend : ¬ c :: w <:+ s) (t : List Char) :
    pieces (framed c w) (s ++ framed c w ++ t) = pieces (framed c w) s ++ pieces (framed c w) t :=
  (pieces_eq_iff framed_ne_nil).mpr (.append hc (cut_pieces framed_ne_nil s) hend (cut_pieces framed_ne_nil t))

end

end VersionPick.Text
