import Mathlib

/-!
# Arrays that are filled from the front

A fixed array of cells, each with an element or empty, is *filled* by a list when its
cells are the elements of the list in order and every cell after them is empty. Code
that stops at the first empty cell reaches every element of such an array, and only of
such an array. Two ways to change it keep it filled:

- **append** — the first empty cell gets an element;
- **swap-remove** — the last element moves into the cell of the one that leaves.

The second reorders the list, so what it keeps is stated up to a permutation.
-/

namespace FrontArray

variable {A : Type*} {n : ℕ} {cells : Fin n → Option A} {l xs zs : List A} {a : A}

/-- The cells are the elements of the list, and empty after them. -/
structure Filled (cells : Fin n → Option A) (l : List A) : Prop where
  /-- the list fits -/
  length_le : l.length ≤ n
  /-- the cells in order -/
  cell : ∀ i, cells i = l[i.val]?

/-- An empty array is filled by no element. -/
theorem filled_nil : Filled (fun _ : Fin n => (none : Option A)) [] :=
  ⟨Nat.zero_le n, fun _ => rfl⟩

namespace Filled

/-- The cell behind the list is the first empty one. -/
theorem cell_eq_none (h : Filled cells l) (i : Fin n) : cells i = none ↔ l.length ≤ i := by
  rw [h.cell, List.getElem?_eq_none_iff]

/-- What lies in a cell is in the list. -/
theorem mem_iff (h : Filled cells l) : a ∈ l ↔ ∃ i, cells i = some a := by
  constructor
  · intro ha
    obtain ⟨i, hi, rfl⟩ := List.mem_iff_getElem.mp ha
    refine ⟨⟨i, hi.trans_le h.length_le⟩, ?_⟩
    rw [h.cell]
    exact List.getElem?_eq_getElem hi
  · rintro ⟨i, hi⟩
    rw [h.cell] at hi
    exact List.mem_of_getElem? hi

/-- No element at all is no element in any cell. -/
theorem eq_nil_iff (h : Filled cells l) : l = [] ↔ ∀ i, cells i = none := by
  constructor
  · rintro rfl i
    exact h.cell i
  · intro hnone
    rw [List.eq_nil_iff_forall_not_mem]
    intro a ha
    obtain ⟨i, hi⟩ := h.mem_iff.mp ha
    rw [hnone] at hi
    cases hi

/-- **Append.** The first empty cell gets an element. -/
theorem append (h : Filled cells l) (hlt : l.length < n) (a : A) :
    Filled (Function.update cells ⟨l.length, hlt⟩ (some a)) (l ++ [a]) := by
  refine ⟨by simpa using hlt, fun i => ?_⟩
  by_cases hi : i = ⟨l.length, hlt⟩
  · subst hi
    simp
  · have hne : i.val ≠ l.length := fun heq => hi (Fin.ext heq)
    rw [Function.update_of_ne hi, h.cell, List.getElem?_append]
    split
    · rfl
    · rw [List.getElem?_eq_none (by omega), List.getElem?_eq_none (by simp; omega)]

end Filled

/-- The last element first. -/
def lastFirst (zs : List A) : List A := zs.getLast?.toList ++ zs.dropLast

@[simp] theorem lastFirst_nil : lastFirst ([] : List A) = [] := rfl

@[simp] theorem lastFirst_concat (zs : List A) (a : A) : lastFirst (zs ++ [a]) = a :: zs := by
  simp [lastFirst]

theorem lastFirst_perm (zs : List A) : (lastFirst zs).Perm zs := by
  cases zs using List.reverseRecOn with
  | nil => rfl
  | append_singleton zs a =>
    rw [lastFirst_concat]
    exact (List.perm_append_singleton a zs).symm

@[simp] theorem length_lastFirst (zs : List A) : (lastFirst zs).length = zs.length :=
  (lastFirst_perm zs).length_eq

/-- **Swap-remove.** The cell of an element gets the last one, whose own cell is emptied. -/
theorem Filled.swapRemove (h : Filled cells (xs ++ a :: zs)) {j last : Fin n}
    (hj : j.val = xs.length) (hlast : last.val = xs.length + zs.length) :
    Filled (Function.update (Function.update cells j (cells last)) last none)
      (xs ++ lastFirst zs) := by
  have hle := h.length_le
  rw [List.length_append, List.length_cons] at hle
  refine ⟨by rw [List.length_append, length_lastFirst]; omega, fun i => ?_⟩
  by_cases hi : i = last
  · subst hi
    rw [Function.update_self, List.getElem?_eq_none]
    rw [List.length_append, length_lastFirst, hlast]
  have hil : i.val ≠ xs.length + zs.length := fun heq => hi (Fin.ext (heq.trans hlast.symm))
  rw [Function.update_of_ne hi]
  cases zs using List.reverseRecOn with
  | nil =>
    -- the element was the last one itself
    have hij : i ≠ j := fun heq => hil (by rw [heq, hj]; rfl)
    rw [Function.update_of_ne hij, h.cell]
    simp only [List.length_nil, Nat.add_zero] at hil
    rw [lastFirst_nil, List.append_nil, List.getElem?_append]
    split
    · rfl
    · rw [List.getElem?_eq_none (by simp; omega), List.getElem?_eq_none (by omega)]
  | append_singleton ws w =>
    rw [lastFirst_concat]
    simp only [List.length_append, List.length_singleton] at hil hlast
    by_cases hij : i = j
    · subst hij
      rw [Function.update_self, h.cell, hlast, hj]
      simp
    · have hij' : i.val ≠ xs.length := fun heq => hij (Fin.ext (heq.trans hj.symm))
      rw [Function.update_of_ne hij, h.cell]
      rcases Nat.lt_or_ge i.val xs.length with hlt | hge
      · rw [List.getElem?_append_left hlt, List.getElem?_append_left hlt]
      · -- behind the hole only the last cell has changed
        obtain ⟨k, hk⟩ : ∃ k, i.val = xs.length + (k + 1) := ⟨i.val - xs.length - 1, by omega⟩
        rw [hk, List.getElem?_append_right (Nat.le_add_right ..),
          List.getElem?_append_right (Nat.le_add_right ..), Nat.add_sub_cancel_left,
          List.getElem?_cons_succ, List.getElem?_cons_succ, List.getElem?_append]
        split
        · rfl
        · rw [List.getElem?_eq_none (by simp; omega), List.getElem?_eq_none (by omega)]

end FrontArray
