import Mathlib

/-!
# Bit masks

A `BitVec` as a set of events. `Within a b` says that no bit of `a` is outside `b`; taking the
bits of a mask `c` away from `a` is `a &&& ~~~c`. `translate` turns one kind of mask into another
by a table, and only adds bits of the rows it finds. `union` has the bits of all masks of a list,
which is what a loop leaves that adds them one by one.

Masks that are `Apart` stand for the elements of a type: `joined` is the mask of a list of them, and
says which ones are in it. `close` adds the rest of every mask that is touched.
-/

namespace BitMask

universe u

variable {v w : ℕ} {a b c e : BitVec w}

/-- No bit of `a` is outside `b`. -/
def Within (a b : BitVec w) : Prop := a &&& ~~~b = 0

instance : Decidable (Within a b) := inferInstanceAs (Decidable (_ = _))

theorem within_iff : Within a b ↔ ∀ i < w, a.getLsbD i = true → b.getLsbD i = true := by
  rw [Within]
  constructor
  · intro h i hi ha
    have hbit : (a &&& ~~~b).getLsbD i = false := by rw [h]; exact BitVec.getLsbD_zero
    rw [BitVec.getLsbD_and, BitVec.getLsbD_not, ha, decide_eq_true hi] at hbit
    simpa using hbit
  · intro h
    refine BitVec.eq_of_getLsbD_eq fun i hi => ?_
    have hbit := h i hi
    cases ha : a.getLsbD i with
    | false => simp [ha]
    | true => simp [ha, hbit ha]

@[simp] theorem within_refl (a : BitVec w) : Within a a := within_iff.mpr fun _ _ h => h

theorem Within.trans (hab : Within a b) (hbc : Within b c) : Within a c :=
  within_iff.mpr fun i hi h => within_iff.mp hbc i hi (within_iff.mp hab i hi h)

@[simp] theorem within_or_right (a b : BitVec w) : Within a (b ||| a) := by
  refine within_iff.mpr fun i _ h => ?_
  rw [BitVec.getLsbD_or, h, Bool.or_true]

@[simp] theorem within_or_left (a b : BitVec w) : Within a (a ||| b) := by
  refine within_iff.mpr fun i _ h => ?_
  rw [BitVec.getLsbD_or, h, Bool.true_or]

/-- Taking bits away leaves no new ones. -/
@[simp] theorem and_not_within (a c : BitVec w) : Within (a &&& ~~~c) a := by
  refine within_iff.mpr fun i _ h => ?_
  rw [BitVec.getLsbD_and, Bool.and_eq_true] at h
  exact h.1

/-- Nothing is taken away from a mask without these bits. -/
theorem and_not_eq_self_iff : a &&& ~~~c = a ↔ a &&& c = 0 := by
  constructor
  · intro h
    rw [← h, BitVec.and_assoc]
    simp
  · intro h
    have hw : Within a (~~~c) := by rw [Within, BitVec.not_not]; exact h
    refine BitVec.eq_of_getLsbD_eq fun i hi => ?_
    have hbit := within_iff.mp hw i hi
    cases ha : a.getLsbD i with
    | false => simp [ha]
    | true =>
      rw [BitVec.getLsbD_and, ha, hbit ha]
      rfl

/-- Bits that are taken away are gone. -/
theorem not_within_and_not (he : e ≠ 0) (hec : Within e c) : ¬ Within e (a &&& ~~~c) := by
  intro hw
  refine he (BitVec.eq_of_getLsbD_eq fun i hi => ?_)
  cases hbit : e.getLsbD i with
  | false => simp
  | true =>
    have hc := within_iff.mp hec i hi hbit
    have hgone := within_iff.mp hw i hi hbit
    rw [BitVec.getLsbD_and, BitVec.getLsbD_not, hc] at hgone
    simp at hgone

/-! ## Tables -/

/-- Add the bits of every row that the mask has a bit of. -/
def translate (rows : List (BitVec v × BitVec w)) (m : BitVec v) (acc : BitVec w) : BitVec w :=
  rows.foldl (fun acc row => if m &&& row.1 ≠ 0 then acc ||| row.2 else acc) acc

variable {rows : List (BitVec v × BitVec w)} {m : BitVec v} {acc : BitVec w}

theorem within_translate_acc (rows : List (BitVec v × BitVec w)) (m : BitVec v) (acc : BitVec w) :
    Within acc (translate rows m acc) := by
  induction rows generalizing acc with
  | nil => exact within_refl acc
  | cons row rows ih =>
    rw [translate, List.foldl_cons, ← translate]
    refine Within.trans ?_ (ih _)
    split_ifs
    · exact within_or_left _ _
    · exact within_refl _

/-- The bits of a row that is found are there. -/
theorem within_translate {row : BitVec v × BitVec w} (hmem : row ∈ rows) (hm : m &&& row.1 ≠ 0) :
    Within row.2 (translate rows m acc) := by
  induction rows generalizing acc with
  | nil => cases hmem
  | cons row' rows ih =>
    rw [translate, List.foldl_cons, ← translate]
    rcases List.mem_cons.mp hmem with rfl | hrest
    · rw [if_pos hm]
      exact (within_or_right _ _).trans (within_translate_acc _ _ _)
    · exact ih hrest

/-! ## Loops that add bits -/

/-- The bits of all masks of a list. -/
def union (l : List (BitVec w)) : BitVec w := l.foldr (· ||| ·) 0

@[simp] theorem union_nil : union ([] : List (BitVec w)) = 0 := rfl

@[simp] theorem union_cons (a : BitVec w) (l : List (BitVec w)) : union (a :: l) = a ||| union l :=
  rfl

theorem getLsbD_union {l : List (BitVec w)} {k : ℕ} :
    (union l).getLsbD k = true ↔ ∃ a ∈ l, a.getLsbD k = true := by
  induction l with
  | nil => simp
  | cons a l ih => rw [union_cons, BitVec.getLsbD_or, Bool.or_eq_true, ih, List.exists_mem_cons_iff]

/-! ## Masks that are apart -/

section Apart

variable {ι : Type u} {F : ι → BitVec w} {l l' : List ι} {i : ι}

/-- Masks without a common bit, and none of them empty. -/
structure Apart (F : ι → BitVec w) : Prop where
  disjoint : ∀ i j, i ≠ j → F i &&& F j = 0
  nonempty : ∀ i, F i ≠ 0

/-- The bits of some of the masks. -/
def joined (F : ι → BitVec w) (l : List ι) : BitVec w := union (l.map F)

theorem getLsbD_joined {k : ℕ} :
    (joined F l).getLsbD k = true ↔ ∃ i ∈ l, (F i).getLsbD k = true := by
  rw [joined, getLsbD_union]
  simp only [List.mem_map, exists_exists_and_eq_and]

/-- A mask that is not empty has a bit. -/
theorem ne_zero_iff : a ≠ 0 ↔ ∃ k, a.getLsbD k = true := by
  constructor
  · intro h
    by_contra! hno
    refine h (BitVec.eq_of_getLsbD_eq fun k _ => ?_)
    rw [Bool.eq_false_iff.mpr (hno k)]
    simp
  · rintro ⟨k, hk⟩ rfl
    simp at hk

/-- Two masks have a bit in common. -/
theorem and_ne_zero_iff : a &&& b ≠ 0 ↔ ∃ k, a.getLsbD k = true ∧ b.getLsbD k = true := by
  rw [ne_zero_iff]
  simp only [BitVec.getLsbD_and, Bool.and_eq_true]

/-- Only one of them has a given bit. -/
theorem Apart.eq_of_getLsbD (h : Apart F) {j : ι} {k : ℕ} (hi : (F i).getLsbD k = true)
    (hj : (F j).getLsbD k = true) : i = j := by
  by_contra hne
  exact and_ne_zero_iff.mpr ⟨k, hi, hj⟩ (h.disjoint i j hne)

/-- A mask is in the joined ones, as a whole or not at all. -/
theorem Apart.within_joined_iff (h : Apart F) : Within (F i) (joined F l) ↔ i ∈ l := by
  constructor
  · intro hw
    obtain ⟨k, hk⟩ := ne_zero_iff.mp (h.nonempty i)
    obtain ⟨j, hj, hjk⟩ :=
      getLsbD_joined.mp (within_iff.mp hw k (BitVec.lt_of_getLsbD hk) hk)
    rwa [h.eq_of_getLsbD hk hjk]
  · exact fun hi => within_iff.mpr fun k _ hk => getLsbD_joined.mpr ⟨i, hi, hk⟩

/-- The joined mask says which ones were joined. -/
theorem Apart.joined_eq_iff (h : Apart F) : joined F l = joined F l' ↔ ∀ i, i ∈ l ↔ i ∈ l' := by
  constructor
  · intro heq i
    rw [← h.within_joined_iff, heq, h.within_joined_iff]
  · intro hsame
    refine BitVec.eq_of_getLsbD_eq fun k _ => ?_
    rw [Bool.eq_iff_iff, getLsbD_joined, getLsbD_joined]
    simp only [hsame]

/-- Which of the masks have a bit of `m`. -/
def touched (F : ι → BitVec w) (m : BitVec w) (l : List ι) : List ι :=
  l.filter fun i => decide (m &&& F i ≠ 0)

theorem mem_touched {m : BitVec w} : i ∈ touched F m l ↔ i ∈ l ∧ m &&& F i ≠ 0 := by
  rw [touched, List.mem_filter, decide_eq_true_eq]

/-- Add the rest of every mask that has a bit of `m`, one after the other. -/
def close (F : ι → BitVec w) (l : List ι) (m : BitVec w) : BitVec w :=
  l.foldl (fun m i => if m &&& F i ≠ 0 then m ||| F i else m) m

/-- What is added for one mask does not touch another one. -/
theorem getLsbD_close (h : Apart F) {m : BitVec w} {k : ℕ} : (close F l m).getLsbD k = true ↔
    m.getLsbD k = true ∨ (joined F (touched F m l)).getLsbD k = true := by
  induction l generalizing m with
  | nil => simp [close, touched, joined]
  | cons i l ih =>
    rw [close, List.foldl_cons, ← close, ih]
    by_cases hi : m &&& F i ≠ 0
    · rw [if_pos hi, BitVec.getLsbD_or, Bool.or_eq_true, getLsbD_joined, getLsbD_joined]
      constructor
      · rintro ((hm | hik) | ⟨j, hj, hjk⟩)
        · exact Or.inl hm
        · exact Or.inr ⟨i, mem_touched.mpr ⟨List.mem_cons_self, hi⟩, hik⟩
        · obtain ⟨hjl, hjm⟩ := mem_touched.mp hj
          refine Or.inr ⟨j, mem_touched.mpr ⟨List.mem_cons_of_mem i hjl, ?_⟩, hjk⟩
          -- the bit that is touched was there, or it is another bit of the same mask
          obtain ⟨n, hn, hjn⟩ := and_ne_zero_iff.mp hjm
          rw [BitVec.getLsbD_or, Bool.or_eq_true] at hn
          rcases hn with hn | hin
          · exact and_ne_zero_iff.mpr ⟨n, hn, hjn⟩
          · rwa [← h.eq_of_getLsbD hin hjn]
      · rintro (hm | ⟨j, hj, hjk⟩)
        · exact Or.inl (Or.inl hm)
        · obtain ⟨hjl, hjm⟩ := mem_touched.mp hj
          rcases List.mem_cons.mp hjl with rfl | hjl
          · exact Or.inl (Or.inr hjk)
          · obtain ⟨n, hn, hjn⟩ := and_ne_zero_iff.mp hjm
            refine Or.inr ⟨j, mem_touched.mpr ⟨hjl, and_ne_zero_iff.mpr ⟨n, ?_, hjn⟩⟩, hjk⟩
            rw [BitVec.getLsbD_or, hn, Bool.true_or]
    · rw [if_neg hi]
      have hskip : touched F m (i :: l) = touched F m l :=
        List.filter_cons_of_neg (by simpa using hi)
      rw [hskip]

/-- When every mask that is not closed is a single bit, what is left is the masks that were
touched. -/
theorem Apart.close_eq_joined (h : Apart F) {m : BitVec w} {all : List ι}
    (hm : Within m (joined F all)) (hl : ∀ i ∈ l, i ∈ all)
    (hall : ∀ i ∈ all, i ∈ l ∨ ∃ n, ∀ k, (F i).getLsbD k = true ↔ k = n) :
    close F l m = joined F (touched F m all) := by
  refine BitVec.eq_of_getLsbD_eq fun k hk => ?_
  rw [Bool.eq_iff_iff, getLsbD_close h, getLsbD_joined, getLsbD_joined]
  constructor
  · rintro (hmk | ⟨i, hi, hik⟩)
    · obtain ⟨i, hi, hik⟩ := getLsbD_joined.mp (within_iff.mp hm k hk hmk)
      exact ⟨i, mem_touched.mpr ⟨hi, and_ne_zero_iff.mpr ⟨k, hmk, hik⟩⟩, hik⟩
    · obtain ⟨hil, him⟩ := mem_touched.mp hi
      exact ⟨i, mem_touched.mpr ⟨hl i hil, him⟩, hik⟩
  · rintro ⟨i, hi, hik⟩
    obtain ⟨hiall, him⟩ := mem_touched.mp hi
    rcases hall i hiall with hil | ⟨n, hn⟩
    · exact Or.inr ⟨i, mem_touched.mpr ⟨hil, him⟩, hik⟩
    · obtain ⟨k', hmk', hik'⟩ := and_ne_zero_iff.mp him
      rw [hn] at hik hik'
      rw [hik', ← hik] at hmk'
      exact Or.inl hmk'

end Apart

end BitMask
