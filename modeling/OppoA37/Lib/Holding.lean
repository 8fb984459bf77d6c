import Mathlib

/-!
# Who holds what

Clients hold at most one resource each. `Exclusive` says that no resource has two holders;
`Taken` that it has one. The lemmas say what remains of both when one client takes a
resource or lets go of it.
-/

namespace Holding

universe u v

variable {C : Type u} {R : Type v}

/-- No two clients hold the same resource. -/
def Exclusive (owner : C → Option R) : Prop :=
  ∀ c c' r, owner c = some r → owner c' = some r → c = c'

/-- Some client holds the resource. -/
def Taken (owner : C → Option R) (r : R) : Prop := ∃ c, owner c = some r

theorem exclusive_none : Exclusive fun _ : C => (none : Option R) := by
  intro c c' r h
  cases h

theorem not_taken_none (r : R) : ¬ Taken (fun _ : C => (none : Option R)) r := by
  rintro ⟨c, h⟩
  cases h

variable [DecidableEq C] {owner : C → Option R} {c : C} {r r' : R}

/-- Letting go keeps exclusion. -/
theorem Exclusive.update_none (h : Exclusive owner) (c : C) :
    Exclusive (Function.update owner c none) := by
  intro c₁ c₂ r h₁ h₂
  have hne : ∀ {c'}, Function.update owner c none c' = some r → owner c' = some r := by
    intro c' hc'
    by_cases heq : c' = c
    · subst heq
      simp at hc'
    · rwa [Function.update_of_ne heq] at hc'
  exact h c₁ c₂ r (hne h₁) (hne h₂)

/-- What nobody holds can be taken. -/
theorem Exclusive.update_some (h : Exclusive owner) (hfree : ¬ Taken owner r) (c : C) :
    Exclusive (Function.update owner c (some r)) := by
  intro c₁ c₂ r' h₁ h₂
  by_cases hc₁ : c₁ = c <;> by_cases hc₂ : c₂ = c
  · exact hc₁.trans hc₂.symm
  · rw [hc₁, Function.update_self] at h₁
    rw [Function.update_of_ne hc₂, ← h₁] at h₂
    exact absurd ⟨c₂, h₂⟩ hfree
  · rw [hc₂, Function.update_self] at h₂
    rw [Function.update_of_ne hc₁, ← h₂] at h₁
    exact absurd ⟨c₁, h₁⟩ hfree
  · rw [Function.update_of_ne hc₁] at h₁
    rw [Function.update_of_ne hc₂] at h₂
    exact h c₁ c₂ r' h₁ h₂

/-- When a client lets go, what it held is free, and nothing else. -/
theorem Exclusive.taken_update_none (h : Exclusive owner) (c : C) (r : R) :
    Taken (Function.update owner c none) r ↔ Taken owner r ∧ owner c ≠ some r := by
  constructor
  · rintro ⟨c', hc'⟩
    by_cases heq : c' = c
    · subst heq
      simp at hc'
    · rw [Function.update_of_ne heq] at hc'
      exact ⟨⟨c', hc'⟩, fun hc => heq (h c' c r hc' hc)⟩
  · rintro ⟨⟨c', hc'⟩, hc⟩
    have hne : c' ≠ c := by
      rintro rfl
      exact hc hc'
    exact ⟨c', by rwa [Function.update_of_ne hne]⟩

/-- When a client that held nothing takes a resource, that one is taken, too. -/
theorem taken_update_some (hc : owner c = none) (r r' : R) :
    Taken (Function.update owner c (some r)) r' ↔ Taken owner r' ∨ r' = r := by
  constructor
  · rintro ⟨c', hc'⟩
    by_cases heq : c' = c
    · subst heq
      rw [Function.update_self] at hc'
      exact Or.inr (Option.some.inj hc').symm
    · rw [Function.update_of_ne heq] at hc'
      exact Or.inl ⟨c', hc'⟩
  · rintro (⟨c', hc'⟩ | rfl)
    · have hne : c' ≠ c := by
        rintro rfl
        rw [hc] at hc'
        cases hc'
      exact ⟨c', by rwa [Function.update_of_ne hne]⟩
    · exact ⟨c, Function.update_self ..⟩

end Holding
