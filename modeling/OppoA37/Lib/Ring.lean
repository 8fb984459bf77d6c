import Mathlib

/-!
# Rings

A ring is a buffer of `size` cells whose last one is followed by the first. What it holds starts at
a cell and goes on from there: `contents`. `contents_pop` takes the first item, `contents_push`
writes one behind the last, and `contents_congr` is for what is written elsewhere.
-/

namespace Ring

universe u

variable {α : Type u}

/-- The cell that is `j` behind `start`. -/
def cell (size start j : ℕ) : ℕ := if start + j < size then start + j else start + j - size

/-- The next cell. -/
def advance (size i : ℕ) : ℕ := if i + 1 ≥ size then 0 else i + 1

/-- `n` items, from `start` on. -/
def contents (size : ℕ) (buffer : ℕ → α) (start n : ℕ) : List α :=
  (List.range n).map fun j => buffer (cell size start j)

variable {size start j n : ℕ} {buffer buffer' : ℕ → α}

@[simp] theorem length_contents : (contents size buffer start n).length = n := by simp [contents]

theorem advance_lt (hstart : start < size) : advance size start < size := by
  rw [advance]
  split_ifs <;> omega

/-- Moving the start is counting from one. -/
theorem cell_advance (hstart : start < size) (hj : j < size) :
    cell size (advance size start) j = cell size start (j + 1) := by
  rw [advance]
  split_ifs with hend
  · rw [cell, cell, if_pos (by omega), if_neg (by omega)]
    omega
  · rw [cell, cell, Nat.add_right_comm, Nat.add_assoc]

/-- So is moving the end. -/
theorem advance_cell (hstart : start < size) (hj : j < size) :
    advance size (cell size start j) = cell size start (j + 1) := by
  rw [advance, cell, cell]
  split_ifs <;> omega

/-- Different cells before the ring is once around. -/
theorem cell_ne {i : ℕ} (hij : i < j) (hj : j < size) : cell size start i ≠ cell size start j := by
  rw [cell, cell]
  split_ifs <;> omega

/-- Only the cells that are in use count. -/
theorem contents_congr (h : ∀ j < n, buffer (cell size start j) = buffer' (cell size start j)) :
    contents size buffer start n = contents size buffer' start n :=
  List.map_congr_left fun j hj => h j (List.mem_range.mp hj)

/-- Take the first item. -/
theorem contents_pop (hstart : start < size) (hn : n + 1 ≤ size) :
    contents size buffer start (n + 1) =
      buffer start :: contents size buffer (advance size start) n := by
  have hzero : cell size start 0 = start := if_pos hstart
  have hrest : (List.range n).map (fun j => buffer (cell size start (j + 1))) =
      contents size buffer (advance size start) n := by
    apply List.map_congr_left
    intro j hj
    have hlt := List.mem_range.mp hj
    rw [cell_advance hstart (by omega)]
  rw [← hrest, contents, List.range_succ_eq_map, List.map_cons, List.map_map, hzero]
  rfl

/-- Write an item behind the last one. -/
theorem contents_push (hn : n < size) (a : α) :
    contents size (Function.update buffer (cell size start n) a) start (n + 1) =
      contents size buffer start n ++ [a] := by
  have hold : contents size (Function.update buffer (cell size start n) a) start n =
      contents size buffer start n :=
    contents_congr fun j hj => Function.update_of_ne (cell_ne hj hn) _ _
  rw [contents, List.range_succ, List.map_append, List.map_singleton, Function.update_self]
  exact congrArg (· ++ [a]) hold

end Ring
