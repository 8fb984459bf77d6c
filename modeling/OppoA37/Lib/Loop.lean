import Mathlib

/-!
# Loops

A turn of a loop leads to the next one, or to the end. Nothing says that the end comes: `run` goes
on for some turns at most.

* More turns change nothing: `run_mono`. So there is but one end: `run_unique`.
* A loop ends if its turns keep an invariant and make something smaller: `exists_run`.
* It does not if they keep one under which there is always another turn: `run_eq_none`.
* `fallible` is for turns that may go wrong, which ends the loop, too.
-/

universe u v

namespace Loop

variable {S : Type u} {R : Type v} {turn : S → S ⊕ R}

/-- The loop, for some turns at most; `none` if the end has not come by then. -/
def run (turn : S → S ⊕ R) : ℕ → S → Option R
  | 0, _ => none
  | n + 1, s =>
    match turn s with
    | .inl s => run turn n s
    | .inr r => some r

/-- One more turn. -/
theorem run_inl {s s' : S} (h : turn s = .inl s') (n : ℕ) : run turn (n + 1) s = run turn n s' := by
  rw [run, h]

/-- The last one. -/
theorem run_inr {s : S} {r : R} (h : turn s = .inr r) (n : ℕ) : run turn (n + 1) s = some r := by
  rw [run, h]

/-- A loop that has ended has ended. -/
theorem run_mono {n k : ℕ} {s : S} {r : R} (h : run turn n s = some r) (hle : n ≤ k) :
    run turn k s = some r := by
  induction n generalizing k s with
  | zero => cases h
  | succ n ih =>
    obtain ⟨k, rfl⟩ := Nat.exists_eq_add_of_le' (Nat.one_le_of_lt hle)
    rcases hturn : turn s with s' | r'
    · rw [run_inl hturn] at h ⊢
      exact ih h (Nat.le_of_succ_le_succ hle)
    · rw [run_inr hturn] at h ⊢
      exact h

/-- There is but one end. -/
theorem run_unique {n k : ℕ} {s : S} {r r' : R} (h : run turn n s = some r)
    (h' : run turn k s = some r') : r = r' := by
  have hn := run_mono h (Nat.le_max_left n k)
  have hk := run_mono h' (Nat.le_max_right n k)
  exact Option.some.inj (hn.symm.trans hk)

/-- **The end comes** if every turn keeps an invariant and makes a number smaller, or is the last
one. -/
theorem exists_run {I : S → Prop} {Q : R → Prop} (m : S → ℕ)
    (h : ∀ s, I s → (∃ s', turn s = .inl s' ∧ I s' ∧ m s' < m s) ∨ ∃ r, turn s = .inr r ∧ Q r)
    {s : S} (hs : I s) : ∃ n r, run turn n s = some r ∧ Q r := by
  induction hm : m s using Nat.strong_induction_on generalizing s with
  | _ k ih =>
    rcases h s hs with ⟨s', hturn, hs', hlt⟩ | ⟨r, hturn, hr⟩
    · obtain ⟨n, r, hrun, hr⟩ := ih (m s') (hm ▸ hlt) hs' rfl
      exact ⟨n + 1, r, (run_inl hturn n).trans hrun, hr⟩
    · exact ⟨1, r, run_inr hturn 0, hr⟩

/-- **It does not come** if every turn keeps an invariant and none is the last one. -/
theorem run_eq_none {I : S → Prop} (h : ∀ s, I s → ∃ s', turn s = .inl s' ∧ I s') {s : S}
    (hs : I s) (n : ℕ) : run turn n s = none := by
  induction n generalizing s with
  | zero => rfl
  | succ n ih =>
    obtain ⟨s', hturn, hs'⟩ := h s hs
    rw [run_inl hturn]
    exact ih hs'

/-! ## Turns that may go wrong -/

variable {body : S → Option (S ⊕ R)}

/-- A turn that goes wrong is the last one. -/
def fallible (body : S → Option (S ⊕ R)) (s : S) : S ⊕ Option R :=
  match body s with
  | none => .inr none
  | some (.inl s) => .inl s
  | some (.inr r) => .inr (some r)

theorem fallible_none {s : S} (h : body s = none) : fallible body s = .inr none := by
  rw [fallible, h]

theorem fallible_inl {s s' : S} (h : body s = some (.inl s')) : fallible body s = .inl s' := by
  rw [fallible, h]

theorem fallible_inr {s : S} {r : R} (h : body s = some (.inr r)) :
    fallible body s = .inr (some r) := by
  rw [fallible, h]

/-- The end comes without anything going wrong. -/
theorem exists_run_fallible {I : S → Prop} {Q : R → Prop} (m : S → ℕ)
    (h : ∀ s, I s → (∃ s', body s = some (.inl s') ∧ I s' ∧ m s' < m s) ∨
      ∃ r, body s = some (.inr r) ∧ Q r)
    {s : S} (hs : I s) : ∃ n r, run (fallible body) n s = some (some r) ∧ Q r := by
  have hturn : ∀ s, I s → (∃ s', fallible body s = .inl s' ∧ I s' ∧ m s' < m s) ∨
      ∃ o, fallible body s = .inr o ∧ ∃ r, o = some r ∧ Q r := by
    intro s hs
    rcases h s hs with ⟨s', hbody, hs', hlt⟩ | ⟨r, hbody, hr⟩
    · exact Or.inl ⟨s', fallible_inl hbody, hs', hlt⟩
    · exact Or.inr ⟨some r, fallible_inr hbody, r, rfl, hr⟩
  obtain ⟨n, o, hrun, r, rfl, hr⟩ := exists_run m hturn hs
  exact ⟨n, r, hrun, hr⟩

end Loop
