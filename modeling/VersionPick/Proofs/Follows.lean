/-
  VersionPick.Proofs.Follows — readers that follow a grammar.

  A grammar comes in two halves, what a text reads as and why it fails, and neither half
  mentions the reader. A reader that follows both gives a result exactly if the text reads
  as it, and an error exactly if the text fails for it.
-/

namespace VersionPick

structure Follows {ε α : Type} (result : Except ε α) (reads : α → Prop) (fails : ε → Prop) : Prop where
  ok_iff : ∀ a, result = .ok a ↔ reads a
  error_iff : ∀ e, result = .error e ↔ fails e

/-- It is enough that the grammar always says something, and the reader what the grammar says. -/
theorem Follows.of_total {ε α : Type} {result : Except ε α} {reads : α → Prop} {fails : ε → Prop}
    (total : (∃ a, reads a) ∨ ∃ e, fails e) (hreads : ∀ a, reads a → result = .ok a)
    (hfails : ∀ e, fails e → result = .error e) : Follows result reads fails := by
  refine ⟨fun a => ⟨fun h => ?_, hreads a⟩, fun e => ⟨fun h => ?_, hfails e⟩⟩
  · rcases total with ⟨b, hb⟩ | ⟨e, he⟩
    · rw [hreads b hb, Except.ok.injEq] at h
      exact h ▸ hb
    · rw [hfails e he] at h
      cases h
  · rcases total with ⟨b, hb⟩ | ⟨e', he⟩
    · rw [hreads b hb] at h
      cases h
    · rw [hfails e' he, Except.error.injEq] at h
      exact h ▸ he

theorem Follows.total {ε α : Type} {result : Except ε α} {reads : α → Prop} {fails : ε → Prop}
    (h : Follows result reads fails) : (∃ a, reads a) ∨ ∃ e, fails e := by
  cases hresult : result with
  | ok a => exact Or.inl ⟨a, (h.ok_iff a).mp hresult⟩
  | error e => exact Or.inr ⟨e, (h.error_iff e).mp hresult⟩

end VersionPick
