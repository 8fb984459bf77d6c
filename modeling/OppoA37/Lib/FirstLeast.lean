import Mathlib

/-!
# The first of the least

A loop that remembers the best item so far, and replaces it only by one that is strictly better.
`firstLeast_spec` says what is left of such a loop: either the start, when nothing is better, or
the first of the items with the least value.

`firstLeast_dist_mono` is about a loop that looks for the number that is nearest to a target, in a
list that does not decrease: with a greater target it does not stop earlier.
-/

universe u v

variable {α : Type u} {β : Type v} [LinearOrder β]

/-- The best item and its value, after some items. -/
def firstLeast (f : α → β) (start : α × β) (l : List α) : α × β :=
  l.foldl (fun best a => if f a < best.2 then (a, f a) else best) start

variable {f : α → β} {start : α × β} {l : List α}

theorem firstLeast_cons (f : α → β) (start : α × β) (a : α) (l : List α) :
    firstLeast f start (a :: l) = firstLeast f (if f a < start.2 then (a, f a) else start) l :=
  rfl

/-- Without better items the start is left. -/
theorem firstLeast_of_le (h : ∀ a ∈ l, start.2 ≤ f a) : firstLeast f start l = start := by
  induction l with
  | nil => rfl
  | cons a l ih =>
    rw [firstLeast_cons, if_neg (not_lt.mpr (h a List.mem_cons_self))]
    exact ih fun b hb => h b (List.mem_cons_of_mem a hb)

/-- The item that is left was the first with the least value. -/
theorem firstLeast_spec (f : α → β) (start : α × β) (l : List α) :
    (firstLeast f start l = start ∧ ∀ a ∈ l, start.2 ≤ f a) ∨
      ∃ l₁ a l₂, l = l₁ ++ a :: l₂ ∧ firstLeast f start l = (a, f a) ∧ f a < start.2 ∧
        (∀ b ∈ l₁, f a < f b) ∧ ∀ b ∈ l₂, f a ≤ f b := by
  induction l generalizing start with
  | nil => exact Or.inl ⟨rfl, fun a ha => absurd ha List.not_mem_nil⟩
  | cons a l ih =>
    rw [firstLeast_cons]
    split_ifs with hlt
    · obtain ⟨heq, hle⟩ | ⟨l₁, b, l₂, rfl, heq, hb, hbefore, hafter⟩ := ih (a, f a)
      · exact Or.inr ⟨[], a, l, rfl, heq, hlt, fun b hb => absurd hb List.not_mem_nil, hle⟩
      · refine Or.inr ⟨a :: l₁, b, l₂, rfl, heq, hb.trans hlt, ?_, hafter⟩
        intro c hc
        rcases List.mem_cons.mp hc with rfl | hc
        · exact hb
        · exact hbefore c hc
    · obtain ⟨heq, hle⟩ | ⟨l₁, b, l₂, rfl, heq, hb, hbefore, hafter⟩ := ih start
      · refine Or.inl ⟨heq, ?_⟩
        intro c hc
        rcases List.mem_cons.mp hc with rfl | hc
        · exact not_lt.mp hlt
        · exact hle c hc
      · refine Or.inr ⟨a :: l₁, b, l₂, rfl, heq, hb, ?_, hafter⟩
        intro c hc
        rcases List.mem_cons.mp hc with rfl | hc
        · exact hb.trans_le (not_lt.mp hlt)
        · exact hbefore c hc

/-- Some item is better than the start: then one is left, and none is better. -/
theorem firstLeast_mem (h : ∃ a ∈ l, f a < start.2) :
    (firstLeast f start l).1 ∈ l ∧ (firstLeast f start l).2 = f (firstLeast f start l).1 ∧
      ∀ b ∈ l, f (firstLeast f start l).1 ≤ f b := by
  obtain ⟨heq, hle⟩ | ⟨l₁, a, l₂, rfl, heq, ha, hbefore, hafter⟩ := firstLeast_spec f start l
  · obtain ⟨a, ha, hlt⟩ := h
    exact absurd hlt (not_lt.mpr (hle a ha))
  · rw [heq]
    refine ⟨List.mem_append_right l₁ List.mem_cons_self, rfl, ?_⟩
    intro b hb
    rcases List.mem_append.mp hb with hb | hb
    · exact (hbefore b hb).le
    · rcases List.mem_cons.mp hb with rfl | hb
      · exact le_rfl
      · exact hafter b hb

/-- Of numbers in order, the first with the least value is left. -/
theorem firstLeast_range {f : ℕ → β} {start : ℕ × β} {n : ℕ} (h : ∃ i < n, f i < start.2) :
    (firstLeast f start (List.range n)).1 < n ∧
      (∀ j < n, f (firstLeast f start (List.range n)).1 ≤ f j) ∧
      ∀ j < (firstLeast f start (List.range n)).1,
        f (firstLeast f start (List.range n)).1 < f j := by
  have hsome : ∃ i ∈ List.range n, f i < start.2 := by
    obtain ⟨i, hi, hlt⟩ := h
    exact ⟨i, List.mem_range.mpr hi, hlt⟩
  obtain ⟨hmem, -, hle⟩ := firstLeast_mem hsome
  refine ⟨List.mem_range.mp hmem, fun j hj => hle j (List.mem_range.mpr hj), ?_⟩
  obtain ⟨-, hnone⟩ | ⟨l₁, i, l₂, hrange, heq, -, hbefore, -⟩ :=
    firstLeast_spec f start (List.range n)
  · obtain ⟨i, hi, hlt⟩ := hsome
    exact absurd hlt (not_lt.mpr (hnone i hi))
  · intro j hj
    rw [heq] at hmem hj ⊢
    -- what is less than `i` comes before it
    have hsorted := List.pairwise_lt_range (n := n)
    rw [hrange, List.pairwise_append, List.pairwise_cons] at hsorted
    have hj' : j ∈ l₁ ++ i :: l₂ := by
      rw [← hrange, List.mem_range]
      exact hj.trans (List.mem_range.mp hmem)
    rcases List.mem_append.mp hj' with hj' | hj'
    · exact hbefore j hj'
    · rcases List.mem_cons.mp hj' with rfl | hj'
      · exact absurd hj (lt_irrefl _)
      · exact absurd (hsorted.2.1.1 j hj') (not_lt.mpr hj.le)

/-! ## The nearest number -/

/-- The greater of two numbers gains when the target grows. -/
theorem dist_sub_dist_le {a b s t : ℤ} (hab : a ≤ b) (hst : s ≤ t) :
    |s - a| - |s - b| ≤ |t - a| - |t - b| := by
  rcases abs_cases (s - b) with hb | hb <;> rcases abs_cases (s - a) with ha | ha <;>
    rcases abs_cases (t - b) with hb' | hb' <;> rcases abs_cases (t - a) with ha' | ha' <;> omega

/-- In a list that does not decrease, the place of the nearest number does not decrease with the
target. -/
theorem firstLeast_dist_mono {r : ℕ → ℤ} {n : ℕ} {start : ℕ × ℤ} {s t : ℤ}
    (hr : ∀ i j, i ≤ j → j < n → r i ≤ r j) (hst : s ≤ t) (hs : ∃ i < n, |s - r i| < start.2)
    (ht : ∃ i < n, |t - r i| < start.2) :
    (firstLeast (fun i => |s - r i|) start (List.range n)).1 ≤
      (firstLeast (fun i => |t - r i|) start (List.range n)).1 := by
  obtain ⟨hi, -, hfirst⟩ := firstLeast_range hs
  obtain ⟨-, hleast, -⟩ := firstLeast_range ht
  by_contra hlt
  rw [not_le] at hlt
  have hs := hfirst _ hlt
  have ht := hleast _ hi
  have hgain := dist_sub_dist_le (hr _ _ hlt.le hi) hst
  linarith
