/-
  VersionPick.Text.Cut — cutting text apart: at the first occurrence of a
  character, at every occurrence of a separator, and looking for a text inside
  another.

  Text is a list of characters here; the rest of the library keeps `String` and
  comes here for the cutting. Pieces are what stands between separators that are
  found from the left and do not overlap, so there is always one piece more than
  there are separators.
-/

namespace VersionPick.Text

/-- The text before the first `c` and the text after it. -/
def cut? (c : Char) : List Char → Option (List Char × List Char)
  | [] => none
  | x :: xs => if x = c then some ([], xs) else (cut? c xs).map fun p => (x :: p.1, p.2)

def cutAt? (t : List Char) : List Char → Option (List Char × List Char)
  | [] => if t.isEmpty then some ([], []) else none
  | x :: xs =>
    match t.isPrefixOf? (x :: xs) with
    | some rest => some ([], rest)
    | none => (cutAt? t xs).map fun p => (x :: p.1, p.2)

def occurs (t : List Char) : List Char → Bool
  | [] => t.isEmpty
  | x :: xs => t.isPrefixOf (x :: xs) || occurs t xs

/-- Puts a character in front of the first piece. -/
def consFirst (c : Char) : List (List Char) → List (List Char)
  | [] => [[c]]
  | p :: ps => (c :: p) :: ps

/-- The pieces between the occurrences of `sep`, where the first `skip` characters belong to a
    separator already found. -/
def piecesAfter (sep : List Char) : Nat → List Char → List (List Char)
  | _, [] => [[]]
  | skip + 1, _ :: xs => piecesAfter sep skip xs
  | 0, x :: xs =>
    if sep.isPrefixOf (x :: xs) then [] :: piecesAfter sep (sep.length - 1) xs
    else consFirst x (piecesAfter sep 0 xs)

/-- The pieces between the occurrences of `sep`, which is not empty. -/
def pieces (sep s : List Char) : List (List Char) := piecesAfter sep 0 s

/-! ## What the cuts leave -/

@[simp] theorem cut?_eq_none_iff {c : Char} {s : List Char} : cut? c s = none ↔ c ∉ s := by
  induction s with
  | nil => simp [cut?]
  | cons x xs ih =>
    by_cases h : x = c
    · simp [cut?, h]
    · simp [cut?, h, ih, Ne.symm h]

/-- A cut gives back the text, and the part before the cut has no `c`. -/
@[simp] theorem cut?_eq_some_iff {c : Char} {s a b : List Char} :
    cut? c s = some (a, b) ↔ s = a ++ c :: b ∧ c ∉ a := by
  induction s generalizing a with
  | nil => simp [cut?]
  | cons x xs ih =>
    by_cases h : x = c
    · subst h
      simp only [cut?, if_true, Option.some.injEq, Prod.mk.injEq]
      cases a with
      | nil => simp [eq_comm]
      | cons y ys => simp +contextual
    · simp only [cut?, h, if_false, Option.map_eq_some_iff, Prod.mk.injEq, Prod.exists]
      constructor
      · rintro ⟨a', b', hc, rfl, rfl⟩
        obtain ⟨hs, hn⟩ := ih.1 hc
        exact ⟨by simp [hs], by simp [hn, Ne.symm h]⟩
      · rintro ⟨hs, hn⟩
        cases a with
        | nil => simp at hs; exact absurd hs.1 h
        | cons y ys =>
          simp only [List.cons_append, List.cons.injEq] at hs
          simp only [List.mem_cons, not_or] at hn
          exact ⟨ys, b, ih.2 ⟨hs.2, hn.2⟩, by rw [hs.1], rfl⟩

end VersionPick.Text
