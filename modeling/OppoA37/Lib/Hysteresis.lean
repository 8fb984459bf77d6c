import Mathlib

/-!
# Hysteresis

A level is raised as soon as a reading calls for it, and lowered late: `raw` is what the reading
calls for, `held` what it would let stay. With a lower `raw` than the level before, `settle`
takes `held`.

* `settle_bounds_iff` says when the result lies where it should, between what the reading calls
  for and what there was before;
* `settle_settle_iff` says when the same reading leaves it alone;
* `settle_thrice`: the second time, it does.
-/

namespace Hysteresis

universe u

variable {α : Type u} [LinearOrder α] {raw held prev : α}

/-- The level after a reading. -/
def settle (raw held prev : α) : α := if raw < prev then held else raw

theorem settle_of_le (h : prev ≤ raw) : settle raw held prev = raw := if_neg (not_lt.mpr h)

theorem settle_of_lt (h : raw < prev) : settle raw held prev = held := if_pos h

/-- **The result is justified** exactly when the level does not fall, or what is held lies between
what the reading calls for and the level before. -/
theorem settle_bounds_iff :
    (raw ≤ settle raw held prev ∧ settle raw held prev ≤ max prev raw) ↔
      prev ≤ raw ∨ raw ≤ held ∧ held ≤ prev := by
  rcases le_or_gt prev raw with hle | hlt
  · rw [settle_of_le hle]
    exact iff_of_true ⟨le_rfl, le_max_right _ _⟩ (Or.inl hle)
  · rw [settle_of_lt hlt, max_eq_left hlt.le]
    constructor
    · exact Or.inr
    · exact fun h => h.resolve_left (not_le.mpr hlt)

/-- **The result stays** under the same reading exactly when the level does not fall, or what is
held is no less than what the reading calls for. -/
theorem settle_settle_iff :
    settle raw held (settle raw held prev) = settle raw held prev ↔ prev ≤ raw ∨ raw ≤ held := by
  rcases le_or_gt prev raw with hle | hlt
  · rw [settle_of_le hle, settle_of_le le_rfl]
    exact iff_of_true rfl (Or.inl hle)
  · rw [settle_of_lt hlt]
    rcases lt_trichotomy raw held with hheld | rfl | hheld
    · rw [settle_of_lt hheld]
      exact iff_of_true rfl (Or.inr hheld.le)
    · rw [settle_of_le le_rfl]
      exact iff_of_true rfl (Or.inr le_rfl)
    · -- what was held is less than what the same reading calls for
      rw [settle_of_le hheld.le]
      apply iff_of_false hheld.ne'
      rintro (hle | hle)
      · exact absurd hlt (not_lt.mpr hle)
      · exact absurd hheld (not_lt.mpr hle)

/-- A reading that comes again and again changes the level twice at most. -/
theorem settle_thrice (raw held prev : α) :
    settle raw held (settle raw held (settle raw held prev)) =
      settle raw held (settle raw held prev) := by
  rw [settle_settle_iff]
  rcases le_or_gt raw held with hle | hlt
  · exact Or.inr hle
  · left
    rcases le_or_gt prev raw with hprev | hprev
    · rw [settle_of_le hprev]
    · rw [settle_of_lt hprev]
      exact hlt.le

end Hysteresis
