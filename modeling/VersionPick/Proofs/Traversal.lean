/-
  VersionPick.Proofs.Traversal — going through a list by steps that may fail: all of
  them succeed, or the first one that fails decides. Where failing says no more than that
  there is nothing, all have something or there is nothing at all (`mapM_eq_some_iff`).
-/

import Mathlib.Data.List.Forall2

namespace VersionPick

variable {ε α β : Type} {f : α → Except ε β}

theorem mapM_cons_eq (a : α) (as : List α) :
    (a :: as).mapM f = match f a with
      | .error e => .error e
      | .ok b => (as.mapM f).map (b :: ·) := by
  rw [List.mapM_cons]
  cases f a with
  | error e => rfl
  | ok b => cases as.mapM f <;> rfl

theorem mapM_eq_ok_iff {as : List α} {bs : List β} :
    as.mapM f = .ok bs ↔ List.Forall₂ (fun a b => f a = .ok b) as bs := by
  induction as generalizing bs with
  | nil =>
    rw [List.forall₂_nil_left_iff]
    change Except.ok [] = .ok bs ↔ _
    simp [eq_comm]
  | cons a as ih =>
    rw [mapM_cons_eq, List.forall₂_cons_left_iff]
    cases hfa : f a with
    | error e => simp
    | ok b =>
      simp only [Except.ok.injEq, exists_and_left, exists_eq_left']
      rw [← exists_congr fun _ => and_congr_left fun _ => ih]
      cases as.mapM f with
      | error e => simp [Except.map]
      | ok bs' => simp [Except.map, eq_comm]

theorem mapM_eq_ok {g : α → β} {as : List α} (h : ∀ a ∈ as, f a = .ok (g a)) : as.mapM f = .ok (as.map g) :=
  mapM_eq_ok_iff.mpr (List.forall₂_map_right_iff.mpr (List.forall₂_same.mpr h))

/-- Steps that give the same, each with the same done to it. -/
theorem mapM_map {γ : Type} {f' : α → Except ε γ} {g : β → γ} {as : List α} (h : ∀ a ∈ as, f' a = (f a).map g) :
    as.mapM f' = (as.mapM f).map (List.map g) := by
  induction as with
  | nil => rfl
  | cons a as ih =>
    rw [mapM_cons_eq, mapM_cons_eq, h a List.mem_cons_self, ih fun b hb => h b (List.mem_cons_of_mem _ hb)]
    cases f a with
    | error e => rfl
    | ok b => cases as.mapM f <;> rfl

theorem mem_iff_of_forall₂ {as : List α} {bs : List β} (h : List.Forall₂ (fun a b => f a = .ok b) as bs) {b : β} :
    b ∈ bs ↔ ∃ a ∈ as, f a = .ok b := by
  induction h with
  | nil => simp
  | @cons a c as bs hac _ ih =>
    rw [List.mem_cons, ih, List.exists_mem_cons_iff, hac, Except.ok.injEq]
    exact or_congr_left eq_comm

theorem exists_forall₂_iff {as : List α} :
    (∃ bs, List.Forall₂ (fun a b => f a = .ok b) as bs) ↔ ∀ a ∈ as, ∃ b, f a = .ok b := by
  induction as with
  | nil => exact iff_of_true ⟨[], .nil⟩ fun a ha => absurd ha List.not_mem_nil
  | cons a as ih =>
    rw [List.forall_mem_cons, ← ih]
    simp only [List.forall₂_cons_left_iff]
    constructor
    · rintro ⟨-, b, bs, hb, hbs, rfl⟩
      exact ⟨⟨b, hb⟩, bs, hbs⟩
    · rintro ⟨⟨b, hb⟩, bs, hbs⟩
      exact ⟨_, b, bs, hb, hbs, rfl⟩

/-- The first step that fails decides. -/
theorem mapM_eq_error_iff {as : List α} {e : ε} :
    as.mapM f = .error e ↔
      ∃ pre a post, as = pre ++ a :: post ∧ (∀ b ∈ pre, ∃ y, f b = .ok y) ∧ f a = .error e := by
  induction as with
  | nil =>
    constructor
    · intro h; cases h
    · intro h
      obtain ⟨pre, a, post, h, -⟩ := h
      simp at h
  | cons a as ih =>
    rw [mapM_cons_eq]
    cases hfa : f a with
    | error e' =>
      simp only [Except.error.injEq]
      constructor
      · intro h
        subst h
        exact ⟨[], a, as, rfl, by simp, hfa⟩
      · intro h
        obtain ⟨pre, b, post, heq, hpre, hb⟩ := h
        cases pre with
        | nil =>
          obtain ⟨rfl, -⟩ := List.cons.inj heq
          rw [hfa] at hb
          exact Except.error.inj hb
        | cons c pre =>
          obtain ⟨rfl, -⟩ := List.cons.inj heq
          obtain ⟨y, hy⟩ := hpre a List.mem_cons_self
          rw [hfa] at hy
          cases hy
    | ok y =>
      have hmap : (as.mapM f).map (y :: ·) = .error e ↔ as.mapM f = .error e := by
        cases as.mapM f <;> simp [Except.map]
      rw [hmap, ih]
      constructor
      · intro h
        obtain ⟨pre, b, post, rfl, hpre, hb⟩ := h
        refine ⟨a :: pre, b, post, rfl, fun c hc => ?_, hb⟩
        rcases List.mem_cons.mp hc with rfl | hc
        · exact ⟨y, hfa⟩
        · exact hpre c hc
      · intro h
        obtain ⟨pre, b, post, heq, hpre, hb⟩ := h
        cases pre with
        | nil =>
          obtain ⟨rfl, -⟩ := List.cons.inj heq
          rw [hfa] at hb
          cases hb
        | cons c pre =>
          obtain ⟨rfl, rfl⟩ := List.cons.inj heq
          exact ⟨pre, b, post, rfl, fun d hd => hpre d (List.mem_cons_of_mem _ hd), hb⟩

/-! ## Steps that may have nothing -/

section

variable {f : α → Option β}

theorem mapM_eq_some_iff {as : List α} {bs : List β} :
    as.mapM f = some bs ↔ List.Forall₂ (fun a b => f a = some b) as bs := by
  induction as generalizing bs with
  | nil =>
    rw [List.forall₂_nil_left_iff]
    change some [] = some bs ↔ _
    simp [eq_comm]
  | cons a as ih =>
    rw [List.mapM_cons, List.forall₂_cons_left_iff]
    cases hfa : f a with
    | none => simp
    | some b =>
      simp only [Option.some.injEq, exists_and_left, exists_eq_left', ← ih]
      cases as.mapM f <;> simp [eq_comm]

theorem mapM_option_map {γ : Type} {g : β → γ} (as : List α) :
    (as.mapM fun a => (f a).map g) = (as.mapM f).map (List.map g) := by
  induction as with
  | nil => rfl
  | cons a as ih =>
    rw [List.mapM_cons, List.mapM_cons, ih]
    cases f a with
    | none => rfl
    | some b => cases as.mapM f <;> rfl

end

end VersionPick
