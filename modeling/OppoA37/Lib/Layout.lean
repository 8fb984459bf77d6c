import Mathlib

/-!
# Blobs one after the other

Blobs that are named by keys are laid out one after the other, each of them once, in the order
in which their keys are used first.

* `firsts` is that order, and `offset` the place of each blob in it;
* `take_drop_blobs` finds a blob at its place;
* `offset_disjoint` says that different blobs do not overlap.
-/

namespace Layout

variable {K B : Type*} [DecidableEq K]

/-- The keys in the order of their first use, without those seen before. -/
def firsts : List K → List K → List K
  | _, [] => []
  | seen, k :: ks => if k ∈ seen then firsts seen ks else k :: firsts (k :: seen) ks

/-- Where the blob of a key begins, when the first one begins at `base`. -/
def offset (size : K → ℕ) : ℕ → List K → K → ℕ
  | base, [], _ => base
  | base, k :: ks, m => if m = k then base else offset size (base + size k) ks m

variable {size : K → ℕ} {base : ℕ} {seen ks : List K} {k m : K}

theorem mem_firsts : m ∈ firsts seen ks ↔ m ∈ ks ∧ m ∉ seen := by
  induction ks generalizing seen with
  | nil => simp [firsts]
  | cons k ks ih =>
    rw [firsts]
    split
    · next hk =>
      rw [ih]
      constructor
      · exact fun h => ⟨List.mem_cons_of_mem k h.1, h.2⟩
      · rintro ⟨hm, hno⟩
        rcases List.mem_cons.mp hm with rfl | hm
        · exact absurd hk hno
        · exact ⟨hm, hno⟩
    · next hk =>
      rw [List.mem_cons, ih, List.mem_cons, List.mem_cons]
      constructor
      · rintro (rfl | ⟨hm, hno⟩)
        · exact ⟨.inl rfl, hk⟩
        · exact ⟨.inr hm, fun h => hno (.inr h)⟩
      · rintro ⟨hm, hno⟩
        by_cases hmk : m = k
        · exact .inl hmk
        · exact .inr ⟨hm.resolve_left hmk, fun h => hno (h.resolve_left hmk)⟩

/-- No blob begins before the first one. -/
theorem le_offset (size : K → ℕ) (base : ℕ) (ks : List K) (m : K) :
    base ≤ offset size base ks m := by
  induction ks generalizing base with
  | nil => exact le_refl base
  | cons k ks ih =>
    rw [offset]
    split
    · exact le_refl base
    · exact (Nat.le_add_right base (size k)).trans (ih _)

/-- Every blob ends before the end of the last one. -/
theorem offset_add_le (size : K → ℕ) (base : ℕ) (hm : m ∈ ks) :
    offset size base ks m + size m ≤ base + (ks.map size).sum := by
  induction ks generalizing base with
  | nil => cases hm
  | cons k ks ih =>
    rw [offset, List.map_cons, List.sum_cons]
    split
    · next hmk =>
      subst hmk
      omega
    · next hmk =>
      have hrest := ih (base + size k) ((List.mem_cons.mp hm).resolve_left hmk)
      omega

/-- Blobs of different keys do not overlap. -/
theorem offset_disjoint (size : K → ℕ) (base : ℕ) (hk : k ∈ ks) (hm : m ∈ ks) (hne : k ≠ m) :
    offset size base ks k + size k ≤ offset size base ks m ∨
      offset size base ks m + size m ≤ offset size base ks k := by
  induction ks generalizing base with
  | nil => cases hk
  | cons a ks ih =>
    rw [offset, offset]
    by_cases hka : k = a
    · subst hka
      rw [if_pos rfl, if_neg hne.symm]
      exact .inl (le_offset ..)
    · by_cases hma : m = a
      · subst hma
        rw [if_pos rfl, if_neg hne]
        exact .inr (le_offset ..)
      · rw [if_neg hka, if_neg hma]
        exact ih _ ((List.mem_cons.mp hk).resolve_left hka) ((List.mem_cons.mp hm).resolve_left hma)

/-- Blobs of aligned sizes begin at aligned places. -/
theorem dvd_offset {p : ℕ} (hbase : p ∣ base) (hsize : ∀ k ∈ ks, p ∣ size k) (m : K) :
    p ∣ offset size base ks m := by
  induction ks generalizing base with
  | nil => exact hbase
  | cons k ks ih =>
    rw [offset]
    split
    · exact hbase
    · apply ih (dvd_add hbase (hsize k List.mem_cons_self))
      exact fun k' hk' => hsize k' (List.mem_cons_of_mem k hk')

/-- A blob is found at its place. -/
theorem take_drop_blobs {blob : K → List B} (hblob : ∀ k ∈ ks, (blob k).length = size k)
    (head : List B) (hbase : head.length = base) (hm : m ∈ ks) :
    ((head ++ ks.flatMap blob).drop (offset size base ks m)).take (size m) = blob m := by
  induction ks generalizing base head with
  | nil => cases hm
  | cons k ks ih =>
    rw [offset]
    split
    · next hmk =>
      subst hmk
      rw [← hbase, List.drop_left, List.flatMap_cons, ← hblob m List.mem_cons_self, List.take_left]
    · next hmk =>
      rw [List.flatMap_cons, ← List.append_assoc]
      refine ih (fun k' hk' => hblob k' (List.mem_cons_of_mem k hk')) _ ?_
        ((List.mem_cons.mp hm).resolve_left hmk)
      rw [List.length_append, hbase, hblob k List.mem_cons_self]

end Layout
