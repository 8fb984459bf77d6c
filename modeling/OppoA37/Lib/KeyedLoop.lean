import Mathlib

/-!
# Loops over distinct keys

A loop over the keys of a map that only works on the cell of the key it is at: each turn reads
and writes that cell, and adds to a result. When no key comes twice, no turn sees what another
one wrote, so the loop works on the map as it was before.
-/

namespace KeyedLoop

universe u v w

variable {K : Type u} {A : Type v} {C : Type w} [DecidableEq K]

/-- A turn at the key `k`: `f` is what it writes into the cell, `g` what it adds to the result. -/
def turn (f : K → A → A) (g : K → A → C → C) (p : (K → A) × C) (k : K) : (K → A) × C :=
  (Function.update p.1 k (f k (p.1 k)), g k (p.1 k) p.2)

variable (f : K → A → A) (g : K → A → C → C) {ks : List K}

/-- **The loop.** Every cell of a key is written from what it was, and so is the result. -/
theorem foldl_turn (hks : ks.Nodup) (m : K → A) (c : C) :
    ks.foldl (turn f g) (m, c) =
      (fun k => if k ∈ ks then f k (m k) else m k, ks.foldl (fun c k => g k (m k) c) c) := by
  induction ks generalizing m c with
  | nil => simp
  | cons k ks ih =>
    obtain ⟨hk, hks⟩ := List.nodup_cons.mp hks
    have hcell : ∀ k' ∈ ks, Function.update m k (f k (m k)) k' = m k' := by
      intro k' hk'
      refine Function.update_of_ne ?_ _ _
      rintro rfl
      exact hk hk'
    rw [List.foldl_cons, List.foldl_cons, turn, ih hks]
    refine Prod.ext ?_ ?_
    · funext k'
      by_cases hk' : k' = k
      · subst hk'
        simp [hk]
      · simp [hk']
    · -- no later turn sees the cell that was written here
      exact List.foldl_ext _ _ _ fun c k' hk' => by rw [hcell k' hk']

end KeyedLoop
