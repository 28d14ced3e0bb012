/-
  VersionPick.Proofs.Text.Pieces — a text is cut into pieces at the occurrences of a
  separator that are found from the left and do not overlap.

  The first occurrence is one with nothing shorter before it (`FirstAt`); the pieces are
  what stands before it, and then the pieces of what stands after it (`Cut`). There is
  one way to cut a text (`Cut.unique`), and `pieces` finds it (`pieces_eq_iff`).
-/

import Mathlib.Data.List.Infix
import VersionPick.Text.Cut

namespace VersionPick.Text

variable {sep : List Char}

@[simp] theorem occurs_iff {t s : List Char} : occurs t s = true ↔ t <:+: s := by
  induction s with
  | nil => simp [occurs]
  | cons x xs ih => rw [occurs, Bool.or_eq_true, ih, List.isPrefixOf_iff_prefix, List.infix_cons_iff]

@[simp] theorem occurs_eq_false_iff {t s : List Char} : occurs t s = false ↔ ¬ t <:+: s := by
  rw [← occurs_iff, Bool.not_eq_true]

structure FirstAt (sep s a b : List Char) : Prop where
  eq : s = a ++ sep ++ b
  first : ∀ a' b', s = a' ++ sep ++ b' → a.length ≤ a'.length

/-- The pieces of a text: all of it, if `sep` does not occur, else what stands before the first
    occurrence and the pieces of what stands after it. -/
inductive Cut (sep : List Char) : List Char → List (List Char) → Prop
  | whole {s : List Char} (h : ¬ sep <:+: s) : Cut sep s [s]
  | first {s a b : List Char} {ps : List (List Char)} (h : FirstAt sep s a b) (rest : Cut sep b ps) :
      Cut sep s (a :: ps)

theorem FirstAt.isInfix {s a b : List Char} (h : FirstAt sep s a b) : sep <:+: s := ⟨a, b, h.eq.symm⟩

theorem FirstAt.unique {s a b a' b' : List Char} (h : FirstAt sep s a b) (h' : FirstAt sep s a' b') :
    a = a' ∧ b = b' := by
  have hlen : a.length = a'.length := Nat.le_antisymm (h.first a' b' h'.eq) (h'.first a b h.eq)
  have heq : a ++ (sep ++ b) = a' ++ (sep ++ b') := by
    rw [← List.append_assoc, ← List.append_assoc, ← h.eq, h'.eq]
  obtain ⟨rfl, hrest⟩ := List.append_inj heq hlen
  exact ⟨rfl, List.append_cancel_left hrest⟩

theorem Cut.unique {s : List Char} {ps qs : List (List Char)} (hp : Cut sep s ps) (hq : Cut sep s qs) : ps = qs := by
  induction hp generalizing qs with
  | whole h =>
    cases hq with
    | whole => rfl
    | first h' => exact absurd h'.isInfix h
  | first h _ ih =>
    cases hq with
    | whole h' => exact absurd h.isInfix h'
    | first h' rest' =>
      obtain ⟨rfl, rfl⟩ := h.unique h'
      rw [ih rest']

/-! ## How pieces are found -/

theorem piecesAfter_eq_drop (skip : Nat) (s : List Char) :
    piecesAfter sep skip s = piecesAfter sep 0 (s.drop skip) := by
  induction s generalizing skip with
  | nil => cases skip <;> simp [piecesAfter]
  | cons x xs ih =>
    cases skip with
    | zero => rfl
    | succ skip =>
      rw [piecesAfter, List.drop_succ_cons]
      exact ih skip

/-- With the separator in front the first piece is empty. -/
theorem pieces_append (hsep : sep ≠ []) (b : List Char) : pieces sep (sep ++ b) = [] :: pieces sep b := by
  obtain ⟨c, cs, rfl⟩ := List.exists_cons_of_ne_nil hsep
  have hpre : (c :: cs).isPrefixOf (c :: (cs ++ b)) = true :=
    List.isPrefixOf_iff_prefix.mpr (List.prefix_append (c :: cs) b)
  rw [pieces, List.cons_append, piecesAfter, if_pos hpre, piecesAfter_eq_drop, pieces]
  simp

theorem pieces_cons {x : Char} {xs : List Char} (h : ¬ sep <+: x :: xs) :
    pieces sep (x :: xs) = consFirst x (pieces sep xs) := by
  rw [pieces, piecesAfter, if_neg (by simpa using h), pieces]

/-- A character in front, without which no separator starts there, goes to the first piece. -/
theorem Cut.cons {x : Char} {xs : List Char} {ps : List (List Char)} (h : ¬ sep <+: x :: xs)
    (hcut : Cut sep xs ps) : Cut sep (x :: xs) (consFirst x ps) := by
  cases hcut with
  | whole hno =>
    refine .whole fun hinfix => ?_
    rcases List.infix_cons_iff.mp hinfix with hpre | htail
    · exact h hpre
    · exact hno htail
  | @first _ a b ps hfirst rest =>
    refine .first ⟨by rw [hfirst.eq]; rfl, fun a' b' heq => ?_⟩ rest
    cases a' with
    | nil => exact absurd ⟨b', heq.symm⟩ h
    | cons y a' =>
      simp only [List.cons_append, List.cons.injEq] at heq
      have := hfirst.first a' b' heq.2
      simpa using this

theorem cut_pieces (hsep : sep ≠ []) (s : List Char) : Cut sep s (pieces sep s) := by
  induction hn : s.length using Nat.strong_induction_on generalizing s with
  | _ n ih =>
    subst hn
    by_cases hpre : sep <+: s
    · obtain ⟨b, rfl⟩ := hpre
      rw [pieces_append hsep]
      refine .first ⟨by simp, fun _ _ _ => Nat.zero_le _⟩ (ih b.length ?_ b rfl)
      have := List.length_pos_of_ne_nil hsep
      rw [List.length_append]
      omega
    · cases s with
      | nil => exact .whole fun h => hsep (List.infix_nil.mp h)
      | cons x xs =>
        rw [pieces_cons hpre]
        exact .cons hpre (ih xs.length (Nat.lt_succ_self _) xs rfl)

theorem pieces_eq_iff (hsep : sep ≠ []) {s : List Char} {ps : List (List Char)} :
    pieces sep s = ps ↔ Cut sep s ps := by
  constructor
  · intro h
    subst h
    exact cut_pieces hsep s
  · exact (cut_pieces hsep s).unique

end VersionPick.Text
