import OppoA37.Lib.Ring

/-!
# The ring of `InputEventReader.cpp`

A driver reads input events from its device into a ring of `numEvents` cells, as many at a time
as are free. One `read` must not wrap around, so the buffer is twice as long: what comes to lie
behind the end is copied to the start afterwards.

`contents` is what the ring holds, oldest first; a `fill` appends to it, `readEvent` looks at the
first event and `next` drops it. That the pointers stay where they belong is a field of the ring.
-/

namespace OppoA37.Sensors

universe u

/-- `InputEventCircularReader`; the pointers count from `mBuffer`. -/
structure InputEventCircularReader (α : Type u) where
  /-- `mBufferEnd` -/
  size : ℕ
  /-- `mBuffer`, with a second half behind `mBufferEnd` -/
  buffer : ℕ → α
  /-- `mHead` -/
  head : ℕ
  /-- `mCurr` -/
  curr : ℕ
  /-- `mFreeSpace` -/
  freeSpace : ℕ
  curr_lt : curr < size
  head_le : head ≤ size
  freeSpace_le : freeSpace ≤ size
  /-- the head is as far before `mCurr` as there are events, around the end or not -/
  head_eq : curr + (size - freeSpace) = head ∨ curr + (size - freeSpace) = head + size ∨
    curr + (size - freeSpace) = 0 ∧ head = size

namespace InputEventCircularReader

variable {α : Type u} (r : InputEventCircularReader α)

/-- A new ring, with whatever is in its memory. -/
def new (numEvents : ℕ) (hpos : 0 < numEvents) (buffer : ℕ → α) : InputEventCircularReader α where
  size := numEvents
  buffer := buffer
  head := 0
  curr := 0
  freeSpace := numEvents
  curr_lt := hpos
  head_le := Nat.zero_le _
  freeSpace_le := le_refl _
  head_eq := by omega

/-- `available` in `readEvent` -/
def available : ℕ := r.size - r.freeSpace

/-- What `read` leaves in the buffer. -/
def staged (events : List α) (i : ℕ) : α :=
  if i < r.head then r.buffer i else events[i - r.head]?.getD (r.buffer i)

/-- `fill`, with what `read` returns -/
def fill (events : List α) (hfree : events.length ≤ r.freeSpace) : InputEventCircularReader α where
  size := r.size
  -- what lies behind the end is copied to the start
  buffer i := if i < r.head + events.length - r.size then r.staged events (r.size + i)
    else r.staged events i
  head := if r.head + events.length > r.size then r.head + events.length - r.size
    else r.head + events.length
  curr := r.curr
  freeSpace := r.freeSpace - events.length
  curr_lt := r.curr_lt
  head_le := by
    have := r.head_le
    have := r.freeSpace_le
    split_ifs <;> omega
  freeSpace_le := (Nat.sub_le _ _).trans r.freeSpace_le
  head_eq := by
    have := r.head_le
    have := r.freeSpace_le
    have := r.curr_lt
    have := r.head_eq
    split_ifs <;> omega

/-- `readEvent` -/
def readEvent : Option α := if r.available ≠ 0 then some (r.buffer r.curr) else none

/-- `next`, after an event was read -/
def next (hne : r.available ≠ 0) : InputEventCircularReader α where
  size := r.size
  buffer := r.buffer
  head := r.head
  curr := if r.curr + 1 ≥ r.size then 0 else r.curr + 1
  freeSpace := r.freeSpace + 1
  curr_lt := by
    have := r.curr_lt
    split_ifs <;> omega
  head_le := r.head_le
  freeSpace_le := by
    rw [available] at hne
    omega
  head_eq := by
    rw [available] at hne
    have := r.curr_lt
    have := r.head_le
    have := r.head_eq
    split_ifs <;> omega

/-- The cell that is `j` behind `mCurr`. -/
def cell (j : ℕ) : ℕ := if r.curr + j < r.size then r.curr + j else r.curr + j - r.size

/-- What the ring holds, oldest first. -/
def contents : List α := (List.range r.available).map fun j => r.buffer (r.cell j)

@[simp] theorem length_contents : r.contents.length = r.available := by simp [contents]

@[simp] theorem contents_new (numEvents : ℕ) (hpos : 0 < numEvents) (buffer : ℕ → α) :
    (new numEvents hpos buffer).contents = [] := by simp [contents, available, new]

theorem available_next (hne : r.available ≠ 0) : (r.next hne).available = r.available - 1 := by
  simp only [available, next]
  omega

/-- The ring starts with the event that `readEvent` looks at. -/
theorem contents_eq (hne : r.available ≠ 0) :
    r.contents = r.buffer r.curr :: (r.next hne).contents := by
  obtain ⟨n, hn⟩ := Nat.exists_eq_succ_of_ne_zero hne
  have hle : n + 1 ≤ r.size := hn.symm.le.trans (Nat.sub_le r.size r.freeSpace)
  have hnext : (r.next hne).available = n := by rw [available_next, hn, Nat.succ_sub_one]
  have hpop : Ring.contents r.size r.buffer r.curr (n + 1) =
      r.buffer r.curr :: Ring.contents r.size r.buffer (Ring.advance r.size r.curr) n :=
    Ring.contents_pop r.curr_lt hle
  rw [contents, contents, hn, hnext]
  exact hpop

/-- `readEvent` looks at the oldest event. -/
theorem readEvent_eq : r.readEvent = r.contents.head? := by
  rw [readEvent]
  split_ifs with hne
  · rw [r.contents_eq hne, List.head?_cons]
  · simp [contents, not_not.mp hne]

/-- `fill` appends what was read. -/
theorem contents_fill (events : List α) (hfree : events.length ≤ r.freeSpace) :
    (r.fill events hfree).contents = r.contents ++ events := by
  have hcurr := r.curr_lt
  have hhead := r.head_le
  have hsize := r.freeSpace_le
  have heq := r.head_eq
  have havail : (r.fill events hfree).available = r.available + events.length := by
    simp only [available, fill]
    omega
  refine List.ext_getElem ?_ fun j hj hj' => ?_
  · rw [List.length_append, length_contents, length_contents, havail]
  · have hj₁ : j < r.available + events.length := by rwa [length_contents, havail] at hj
    rw [available] at hj₁
    have hcell : (r.fill events hfree).cell j = r.cell j := rfl
    have hbuffer : (r.fill events hfree).contents[j] = (r.fill events hfree).buffer (r.cell j) := by
      simp only [contents, List.getElem_map, List.getElem_range, hcell]
    rw [hbuffer]
    by_cases hold : j < r.available
    · -- the new events lie behind the old ones, around the end or not
      rw [List.getElem_append_left (by rwa [length_contents])]
      rw [available] at hold
      have hlow : ¬ r.cell j < r.head + events.length - r.size := by
        rw [cell]
        split_ifs <;> omega
      simp only [contents, List.getElem_map, List.getElem_range, fill, if_neg hlow]
      by_cases hbelow : r.cell j < r.head
      · rw [staged, if_pos hbelow]
      · have hbehind : events.length ≤ r.cell j - r.head := by
          rw [cell] at hbelow ⊢
          split_ifs at hbelow ⊢ <;> omega
        rw [staged, if_neg hbelow, List.getElem?_eq_none hbehind, Option.getD_none]
    · rw [List.getElem_append_right (by rw [length_contents]; omega)]
      have hk : j - r.available < events.length := by
        rw [available] at hold ⊢
        omega
      have hread : ∀ i, r.head ≤ i → i - r.head = j - r.available →
          r.staged events i = events[j - r.available] := by
        intro i hle hi
        rw [staged, if_neg (by omega), hi, List.getElem?_eq_getElem hk, Option.getD_some]
      simp only [length_contents, fill]
      have hsub : r.available = r.size - r.freeSpace := rfl
      split_ifs with hwrap
      · -- copied to the start
        refine hread _ (by omega) ?_
        rw [cell] at hwrap ⊢
        split_ifs at hwrap ⊢ <;> omega
      · refine hread _ ?_ ?_
        · rw [cell] at hwrap ⊢
          split_ifs at hwrap ⊢ <;> omega
        · rw [cell] at hwrap ⊢
          split_ifs at hwrap ⊢ <;> omega

end InputEventCircularReader

end OppoA37.Sensors
