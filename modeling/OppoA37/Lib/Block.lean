import Mathlib

/-!
# Blocks of memory

A `Block` is memory of a fixed size, as an allocator hands it out. `copy` moves cells from one
block to another and fails if that leaves one of them; `copyRows` does it for every row of a
picture, with a stride on either side. `copyRows_spec` says when this goes well, and what is where
afterwards.

`fill` writes one value, and `copyRowsPadded` fills what a row of the destination has behind the
row that is copied. Both come to a `framed` picture: `copyRowsPadded_eq`, and `fill_framed` for the
lines below it. Rows without a gap on either side may as well be copied at once: `copy_eq_framed`.
-/

universe u

/-- A block of memory. -/
structure Block (α : Type u) where
  /-- how many cells there are -/
  size : ℕ
  /-- the cells; only those below `size` exist -/
  get : ℕ → α

namespace Block

variable {α : Type u} (dst : Block α) (dstOff : ℕ) (src : Block α) (srcOff : ℕ)

/-- The cells after `n` of them were copied. -/
def pasted (n k : ℕ) : α :=
  if dstOff ≤ k ∧ k < dstOff + n then src.get (srcOff + (k - dstOff)) else dst.get k

/-- Copy `n` cells; `none` if they are not all there. -/
def copy (n : ℕ) : Option (Block α) :=
  if dstOff + n ≤ dst.size ∧ srcOff + n ≤ src.size then
    some { dst with get := dst.pasted dstOff src srcOff n }
  else none

/-- Copy rows of `width` cells, the first one first. -/
def copyRows (dstStride srcStride width : ℕ) : ℕ → Option (Block α)
  | 0 => some dst
  | n + 1 => (copyRows dstStride srcStride width n).bind fun dst =>
      dst.copy (dstOff + n * dstStride) src (srcOff + n * srcStride) width

variable {dst dstOff src srcOff} {dstStride srcStride width n : ℕ}

theorem size_of_copy {b : Block α} (h : dst.copy dstOff src srcOff n = some b) :
    b.size = dst.size := by
  rw [copy] at h
  split_ifs at h
  rw [← Option.some.inj h]

/-- Copying keeps the size. -/
theorem size_of_copyRows {b : Block α}
    (h : copyRows dst dstOff src srcOff dstStride srcStride width n = some b) :
    b.size = dst.size := by
  induction n generalizing b with
  | zero => rw [← Option.some.inj h]
  | succ n ih =>
    obtain ⟨b', hb', hlast⟩ := Option.bind_eq_some_iff.mp h
    rw [size_of_copy hlast, ih hb']

/-- Rows that are there are copied, and nothing else changes. -/
theorem copyRows_spec (hstride : width ≤ dstStride)
    (hrows : ∀ i < n, dstOff + i * dstStride + width ≤ dst.size ∧
      srcOff + i * srcStride + width ≤ src.size) :
    ∃ b, copyRows dst dstOff src srcOff dstStride srcStride width n = some b ∧
      b.size = dst.size ∧
      (∀ i < n, ∀ j < width,
        b.get (dstOff + i * dstStride + j) = src.get (srcOff + i * srcStride + j)) ∧
      ∀ k, k < dstOff ∨ dstOff + n * dstStride ≤ k → b.get k = dst.get k := by
  induction n with
  | zero => exact ⟨dst, rfl, rfl, fun i hi => absurd hi (Nat.not_lt_zero i), fun _ _ => rfl⟩
  | succ n ih =>
    obtain ⟨b, hb, hsize, hin, hout⟩ := ih fun i hi => hrows i (Nat.lt_succ_of_lt hi)
    have hrow := hrows n (Nat.lt_succ_self n)
    rw [← hsize] at hrow
    have hlast : copyRows dst dstOff src srcOff dstStride srcStride width (n + 1) =
        some { b with
          get := b.pasted (dstOff + n * dstStride) src (srcOff + n * srcStride) width } := by
      rw [copyRows, hb, Option.bind_some, copy, if_pos hrow]
    refine ⟨_, hlast, hsize, ?_, ?_⟩
    · intro i hi j hj
      rcases Nat.lt_succ_iff_lt_or_eq.mp hi with hlt | rfl
      · -- the rows before lie before the new one
        have hbefore : i * dstStride + dstStride ≤ n * dstStride := by
          rw [← Nat.succ_mul]
          exact Nat.mul_le_mul_right _ hlt
        show b.pasted _ _ _ _ _ = _
        rw [pasted, if_neg (by omega)]
        exact hin i hlt j hj
      · show b.pasted _ _ _ _ _ = _
        rw [pasted, if_pos (by omega)]
        congr 1
        omega
    · intro k hk
      rw [Nat.succ_mul] at hk
      show b.pasted _ _ _ _ _ = _
      rw [pasted, if_neg (by omega)]
      exact hout k (by omega)

/-! ## Single cells -/

/-- Write one cell; `none` if it is not there. -/
def write (dst : Block α) (i : ℕ) (v : α) : Option (Block α) :=
  if i < dst.size then some { dst with get := Function.update dst.get i v } else none

theorem write_eq_some {dst b : Block α} {i : ℕ} {v : α} : dst.write i v = some b ↔
    i < dst.size ∧ b = { dst with get := Function.update dst.get i v } := by
  rw [write, Option.ite_none_right_eq_some, Option.some.injEq, eq_comm (a := b)]

/-- The cells up to a counter, when the next one is written. -/
theorem map_range_update (get : ℕ → α) (n : ℕ) (v : α) :
    (List.range (n + 1)).map (Function.update get n v) = (List.range n).map get ++ [v] := by
  have hold : (List.range n).map (Function.update get n v) = (List.range n).map get := by
    apply List.map_congr_left
    intro i hi
    exact Function.update_of_ne (List.mem_range.mp hi).ne _ _
  rw [List.range_succ, List.map_append, hold, List.map_singleton, Function.update_self]

/-- Write a list to the cells from `i` on. -/
def writeList (dst : Block α) (i : ℕ) : List α → Option (Block α)
  | [] => some dst
  | v :: vs => (dst.write i v).bind fun dst => dst.writeList (i + 1) vs

/-- A list that fits is put behind the cells up to a counter. -/
theorem writeList_of_le {dst : Block α} {i : ℕ} {vs : List α} (h : i + vs.length ≤ dst.size) :
    ∃ b, dst.writeList i vs = some b ∧ b.size = dst.size ∧
      (List.range (i + vs.length)).map b.get = (List.range i).map dst.get ++ vs := by
  induction vs generalizing dst i with
  | nil => exact ⟨dst, rfl, rfl, (List.append_nil _).symm⟩
  | cons v vs ih =>
    rw [List.length_cons] at h
    have hhere : i < dst.size := by omega
    have hrest : i + 1 + vs.length ≤ dst.size := by omega
    obtain ⟨b, hb, hsize, hget⟩ := @ih { dst with get := Function.update dst.get i v } (i + 1) hrest
    refine ⟨b, ?_, hsize, ?_⟩
    · rw [writeList, write, if_pos hhere, Option.bind_some, hb]
    · rw [map_range_update, List.append_assoc, List.singleton_append] at hget
      rw [List.length_cons, ← hget, Nat.add_assoc, Nat.add_comm 1]

/-- A list that does not fit is not written. -/
theorem writeList_of_lt {dst : Block α} {i : ℕ} {vs : List α} (hi : i ≤ dst.size)
    (h : dst.size < i + vs.length) : dst.writeList i vs = none := by
  induction vs generalizing dst i with
  | nil => exact absurd h (not_lt.mpr hi)
  | cons v vs ih =>
    rw [List.length_cons] at h
    rw [writeList]
    rcases hi.lt_or_eq with hlt | rfl
    · rw [write, if_pos hlt, Option.bind_some]
      exact ih hlt (by dsimp only; omega)
    · rw [write, if_neg (lt_irrefl _), Option.bind_none]

/-! ## Filling -/

/-- Write a value to `n` cells; `none` if they are not all there. -/
def fill (dst : Block α) (off n : ℕ) (v : α) : Option (Block α) :=
  if off + n ≤ dst.size then
    some { dst with get := fun k => if off ≤ k ∧ k < off + n then v else dst.get k }
  else none

/-- Copy rows of `width` cells, and fill the rest of the destination's rows. -/
def copyRowsPadded (dst : Block α) (dstOff : ℕ) (src : Block α) (srcOff dstStride srcStride
    width : ℕ) (v : α) : ℕ → Option (Block α)
  | 0 => some dst
  | n + 1 => (copyRowsPadded dst dstOff src srcOff dstStride srcStride width v n).bind fun dst =>
      (dst.copy (dstOff + n * dstStride) src (srcOff + n * srcStride) width).bind fun dst =>
        if width < dstStride then
          dst.fill (dstOff + n * dstStride + width) (dstStride - width) v
        else some dst

/-- A picture of `n` rows of `width` cells in a frame of `lines` rows, which has the value `v`
wherever the picture is not. -/
def framed (dst : Block α) (dstOff : ℕ) (src : Block α) (srcOff dstStride srcStride width : ℕ)
    (v : α) (n lines : ℕ) : Block α where
  size := dst.size
  get k :=
    if dstOff ≤ k ∧ k < dstOff + lines * dstStride then
      if (k - dstOff) / dstStride < n ∧ (k - dstOff) % dstStride < width then
        src.get (srcOff + (k - dstOff) / dstStride * srcStride + (k - dstOff) % dstStride)
      else v
    else dst.get k

section Framed

variable {dst src : Block α} {dstOff srcOff dstStride srcStride width n lines k : ℕ} {v : α}

omit dst in
/-- A block is its size and its cells. -/
theorem eq_of_get {b b' : Block α} (hsize : b.size = b'.size) (hget : ∀ k, b.get k = b'.get k) :
    b = b' := by
  obtain ⟨size, get⟩ := b
  obtain rfl : size = b'.size := hsize
  exact congrArg (Block.mk b'.size) (funext hget)

/-- What is in the frame, by row and column. -/
theorem get_framed {i j : ℕ} (hi : i < lines) (hj : j < dstStride) :
    (dst.framed dstOff src srcOff dstStride srcStride width v n lines).get
      (dstOff + i * dstStride + j) =
      if i < n ∧ j < width then src.get (srcOff + i * srcStride + j) else v := by
  have hrow : i * dstStride + dstStride ≤ lines * dstStride := by
    rw [← Nat.succ_mul]
    exact Nat.mul_le_mul_right _ hi
  have hsub : dstOff + i * dstStride + j - dstOff = j + dstStride * i := by
    rw [mul_comm dstStride]
    omega
  have hdiv : (j + dstStride * i) / dstStride = i := by
    rw [Nat.add_mul_div_left j i (by omega), Nat.div_eq_of_lt hj, zero_add]
  have hmod : (j + dstStride * i) % dstStride = j := by
    rw [Nat.add_mul_mod_self_left, Nat.mod_eq_of_lt hj]
  simp only [framed]
  rw [if_pos (by omega), hsub, hdiv, hmod]

/-- Outside of the frame nothing changes. -/
theorem get_framed_of_lt (h : k < dstOff) :
    (dst.framed dstOff src srcOff dstStride srcStride width v n lines).get k = dst.get k :=
  if_neg (by omega)

theorem get_framed_of_le (h : dstOff + lines * dstStride ≤ k) :
    (dst.framed dstOff src srcOff dstStride srcStride width v n lines).get k = dst.get k :=
  if_neg (by omega)

/-- Every cell of the frame is in a row. -/
theorem exists_row (h : k < lines * dstStride) :
    ∃ i j, i < lines ∧ j < dstStride ∧ k = i * dstStride + j := by
  have hpos : 0 < dstStride := Nat.pos_of_ne_zero fun hzero => by simp [hzero] at h
  refine ⟨k / dstStride, k % dstStride, Nat.div_lt_of_lt_mul ?_, Nat.mod_lt _ hpos, ?_⟩
  · rwa [mul_comm]
  · rw [mul_comm]
    exact (Nat.div_add_mod k dstStride).symm

/-- One more row of a picture that fills its frame. -/
theorem get_framed_succ (k : ℕ) :
    (dst.framed dstOff src srcOff dstStride srcStride width v (n + 1) (n + 1)).get k =
      if dstOff + n * dstStride ≤ k ∧ k < dstOff + n * dstStride + dstStride then
        if k - (dstOff + n * dstStride) < width then
          src.get (srcOff + n * srcStride + (k - (dstOff + n * dstStride)))
        else v
      else (dst.framed dstOff src srcOff dstStride srcStride width v n n).get k := by
  have hlast : (n + 1) * dstStride = n * dstStride + dstStride := Nat.succ_mul n dstStride
  rcases lt_or_ge k dstOff with hbefore | hin
  · rw [if_neg (by omega), get_framed_of_lt hbefore, get_framed_of_lt hbefore]
  · obtain ⟨k, rfl⟩ := Nat.exists_eq_add_of_le hin
    by_cases hrow : n * dstStride ≤ k ∧ k < n * dstStride + dstStride
    · obtain ⟨j, rfl⟩ := Nat.exists_eq_add_of_le hrow.1
      have hnew : (dst.framed dstOff src srcOff dstStride srcStride width v (n + 1) (n + 1)).get
          (dstOff + n * dstStride + j) =
          if n < n + 1 ∧ j < width then src.get (srcOff + n * srcStride + j) else v :=
        get_framed (Nat.lt_succ_self n) (by omega)
      rw [if_pos (by omega), ← Nat.add_assoc, hnew, Nat.add_sub_cancel_left]
      simp
    · rw [if_neg (by omega)]
      rcases lt_or_ge k (n * dstStride) with hrows | hbehind
      · obtain ⟨i, j, hi, hj, rfl⟩ := exists_row hrows
        rw [← Nat.add_assoc, get_framed (Nat.lt_succ_of_lt hi) hj, get_framed hi hj]
        simp [hi, Nat.lt_succ_of_lt hi]
      · rw [get_framed_of_le (by omega), get_framed_of_le (by omega)]

/-- Rows that are there are copied and padded. -/
theorem copyRowsPadded_eq (hwidth : width ≤ dstStride)
    (hdst : dstOff + n * dstStride ≤ dst.size)
    (hsrc : ∀ i < n, srcOff + i * srcStride + width ≤ src.size) :
    dst.copyRowsPadded dstOff src srcOff dstStride srcStride width v n =
      some (dst.framed dstOff src srcOff dstStride srcStride width v n n) := by
  induction n with
  | zero =>
    have hsame : dst.framed dstOff src srcOff dstStride srcStride width v 0 0 = dst := by
      rw [framed]
      congr 1
      funext k
      exact if_neg (by omega)
    rw [copyRowsPadded, hsame]
  | succ n ih =>
    rw [Nat.succ_mul] at hdst
    rw [copyRowsPadded, ih (by omega) fun i hi => hsrc i (Nat.lt_succ_of_lt hi), Option.bind_some,
      copy, if_pos ⟨by simp only [framed]; omega, hsrc n (Nat.lt_succ_self n)⟩, Option.bind_some]
    split_ifs with hgap
    · -- the rest of the row is filled
      rw [fill, if_pos (by simp only [framed]; omega)]
      refine congrArg some (eq_of_get rfl fun k => ?_)
      rw [get_framed_succ]
      simp only [pasted]
      split_ifs <;> first | rfl | omega
    · refine congrArg some (eq_of_get rfl fun k => ?_)
      rw [get_framed_succ]
      simp only [pasted]
      split_ifs <;> first | rfl | omega

/-- Rows without a gap on either side are copied at once. -/
theorem copy_eq_framed (hdst : dstOff + n * dstStride ≤ dst.size)
    (hsrc : srcOff + n * dstStride ≤ src.size) :
    dst.copy dstOff src srcOff (n * dstStride) =
      some (dst.framed dstOff src srcOff dstStride dstStride dstStride v n n) := by
  rw [copy, if_pos ⟨hdst, hsrc⟩]
  refine congrArg some (eq_of_get rfl fun k => ?_)
  simp only [pasted]
  rcases lt_or_ge k dstOff with hbefore | hin
  · rw [if_neg (by omega), get_framed_of_lt hbefore]
  · obtain ⟨k, rfl⟩ := Nat.exists_eq_add_of_le hin
    rcases lt_or_ge k (n * dstStride) with hrows | hbehind
    · obtain ⟨i, j, hi, hj, rfl⟩ := exists_row hrows
      rw [if_pos (by omega), ← Nat.add_assoc, get_framed hi hj, if_pos ⟨hi, hj⟩]
      congr 1
      omega
    · rw [if_neg (by omega), get_framed_of_le (by omega)]

/-- The lines below a picture are filled. -/
theorem fill_framed (hn : n ≤ lines) (hdst : dstOff + lines * dstStride ≤ dst.size) :
    (dst.framed dstOff src srcOff dstStride srcStride width v n n).fill
      (dstOff + n * dstStride) ((lines - n) * dstStride) v =
      some (dst.framed dstOff src srcOff dstStride srcStride width v n lines) := by
  have hlines : n * dstStride + (lines - n) * dstStride = lines * dstStride := by
    rw [← Nat.add_mul, Nat.add_sub_cancel' hn]
  rw [fill, if_pos (by simp only [framed]; omega)]
  refine congrArg some (eq_of_get rfl fun k => ?_)
  dsimp only
  rcases lt_or_ge k dstOff with hbefore | hin
  · rw [if_neg (by omega), get_framed_of_lt hbefore, get_framed_of_lt hbefore]
  · obtain ⟨k, rfl⟩ := Nat.exists_eq_add_of_le hin
    rcases lt_or_ge k (n * dstStride) with hrows | hbelow
    · obtain ⟨i, j, hi, hj, rfl⟩ := exists_row hrows
      rw [if_neg (by omega), ← Nat.add_assoc, get_framed hi hj, get_framed (by omega) hj]
    · rcases lt_or_ge k (lines * dstStride) with hframe | hbehind
      · obtain ⟨i, j, hi, hj, rfl⟩ := exists_row hframe
        have hni : ¬ i < n := by
          intro hlt
          have hrow : i * dstStride + dstStride ≤ n * dstStride := by
            rw [← Nat.succ_mul]
            exact Nat.mul_le_mul_right _ hlt
          omega
        rw [if_pos (by omega), ← Nat.add_assoc, get_framed hi hj, if_neg fun h => hni h.1]
      · rw [if_neg (by omega), get_framed_of_le (by omega), get_framed_of_le (by omega)]

end Framed

end Block
