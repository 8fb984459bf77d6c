import Mathlib

/-!
# Doubly linked lists

Cells that point to their neighbours, as two functions `next` and `prev` of an address. A list
of cells is `Linked` between two pointers when each of its cells points to the cells beside it.

* `linked_append` takes such a list apart, and `Linked.relink` moves what its ends point to;
* `Linked.insert` and `Linked.erase` are the pointer updates around one cell;
* `Linked.visits_next` and `Linked.visits_prev` say that following either pointer visits the
  cells, in opposite orders, and `Linked.next_eq_some_iff` that the pointers are inverses.
-/

namespace DoublyLinked

variable {A : Type*}

/-- Following `next` from a pointer visits these cells, and then ends. -/
inductive Visits (next : A → Option A) : Option A → List A → Prop where
  /-- the end -/
  | nil : Visits next none []
  /-- one more cell -/
  | cons {a : A} {l : List A} : Visits next (next a) l → Visits next (some a) (a :: l)

/-- The cells of the list point to their neighbours in it, and at its ends to `p` and `n`. -/
def Linked (next prev : A → Option A) : Option A → List A → Option A → Prop
  | _, [], _ => True
  | p, a :: l, n => prev a = p ∧ next a = l.head?.or n ∧ Linked next prev (some a) l n

variable {next prev next' prev' : A → Option A} {p p' n n' : Option A} {l l₁ l₂ : List A} {a c : A}

/-- A list is linked when its two parts are. -/
theorem linked_append : Linked next prev p (l₁ ++ l₂) n ↔
    Linked next prev p l₁ (l₂.head?.or n) ∧ Linked next prev (l₁.getLast?.or p) l₂ n := by
  induction l₁ generalizing p with
  | nil => simp [Linked]
  | cons a l₁ ih =>
    have hlast : (a :: l₁).getLast?.or p = l₁.getLast?.or (some a) := by
      rw [List.getLast?_cons]
      cases l₁.getLast? <;> rfl
    simp only [List.cons_append, Linked, ih, hlast, List.head?_append, Option.or_assoc, and_assoc]

/-- The ends of a list can point somewhere else. -/
theorem Linked.relink (h : Linked next prev p l n) (hnodup : l.Nodup)
    (hnext : ∀ a ∈ l, l.getLast? ≠ some a → next' a = next a)
    (hlast : ∀ a, l.getLast? = some a → next' a = n')
    (hprev : ∀ a ∈ l, l.head? ≠ some a → prev' a = prev a)
    (hhead : ∀ a, l.head? = some a → prev' a = p') : Linked next' prev' p' l n' := by
  induction l generalizing p p' with
  | nil => trivial
  | cons a l ih =>
    obtain ⟨ha, hl⟩ := List.nodup_cons.mp hnodup
    obtain ⟨-, hna, hrest⟩ := h
    have hlast' : l ≠ [] → (a :: l).getLast? = l.getLast? := by
      intro hne
      obtain ⟨b, hb⟩ := List.getLast?_isSome.mpr hne |> Option.isSome_iff_exists.mp
      rw [List.getLast?_cons, hb]
      rfl
    have hprev' : ∀ b ∈ l, prev' b = prev b := by
      intro b hb
      refine hprev b (List.mem_cons_of_mem a hb) fun heq => ha ?_
      obtain rfl := Option.some.inj heq
      exact hb
    refine ⟨hhead a rfl, ?_, ih hrest hl ?_ ?_ ?_ ?_⟩
    · cases l with
      | nil => exact hlast a rfl
      | cons b l =>
        refine (hnext a List.mem_cons_self fun heq => ha ?_).trans hna
        rw [hlast' (List.cons_ne_nil b l)] at heq
        exact List.mem_of_getLast? heq
    · intro b hb hne
      apply hnext b (List.mem_cons_of_mem a hb)
      rwa [hlast' (List.ne_nil_of_mem hb)]
    · intro b hb
      apply hlast b
      rw [hlast' (List.ne_nil_of_mem (List.mem_of_getLast? hb))]
      exact hb
    · exact fun b hb _ => hprev' b hb
    · intro b hb
      rw [hprev' b (List.mem_of_head? hb)]
      cases l with
      | nil => cases hb
      | cons b' l =>
        obtain rfl := Option.some.inj hb
        exact hrest.1

/-- What the first cell points back to. -/
theorem Linked.prev_head (h : Linked next prev p l n) (ha : l.head? = some a) : prev a = p := by
  cases l with
  | nil => cases ha
  | cons b l =>
    obtain rfl := Option.some.inj ha
    exact h.1

/-- What the last cell points on to. -/
theorem Linked.next_getLast (h : Linked next prev p l n) (ha : l.getLast? = some a) :
    next a = n := by
  obtain ⟨l', rfl⟩ := List.getLast?_eq_some_iff.mp ha
  obtain ⟨-, -, hn, -⟩ := linked_append.mp h
  exact hn

/-- A list is linked by what its own cells point to. -/
theorem Linked.congr (h : Linked next prev p l n)
    (hsame : ∀ a ∈ l, next' a = next a ∧ prev' a = prev a) : Linked next' prev' p l n := by
  induction l generalizing p with
  | nil => trivial
  | cons a l ih =>
    obtain ⟨hpa, hna, hrest⟩ := h
    obtain ⟨hn, hp⟩ := hsame a List.mem_cons_self
    exact ⟨hp.trans hpa, hn.trans hna, ih hrest fun b hb => hsame b (List.mem_cons_of_mem a hb)⟩

section

variable [DecidableEq A]

/-- A new cell between two parts of a list. -/
theorem Linked.insert (h : Linked next prev none (l₁ ++ l₂) none) (hnodup : (l₁ ++ l₂).Nodup)
    (hc : next' c = l₂.head? ∧ prev' c = l₁.getLast?)
    (hnext : ∀ a ∈ l₁ ++ l₂, next' a = if l₁.getLast? = some a then some c else next a)
    (hprev : ∀ a ∈ l₁ ++ l₂, prev' a = if l₂.head? = some a then some c else prev a) :
    Linked next' prev' none (l₁ ++ c :: l₂) none := by
  obtain ⟨h₁, h₂⟩ := linked_append.mp h
  obtain ⟨hnodup₁, hnodup₂, hdisj⟩ := List.nodup_append'.mp hnodup
  -- the end of one part is not in the other part
  have hlast : ∀ a ∈ l₂, l₁.getLast? ≠ some a := fun a ha heq =>
    hdisj (List.mem_of_getLast? heq) ha
  have hhead : ∀ a ∈ l₁, l₂.head? ≠ some a := fun a ha heq =>
    hdisj ha (List.mem_of_head? heq)
  refine linked_append.mpr ⟨?_, by rw [hc.2, Option.or_none], by rw [hc.1, Option.or_none], ?_⟩
  · refine h₁.relink hnodup₁ ?_ ?_ ?_ ?_
    · intro a ha hne
      rw [hnext a (List.mem_append_left l₂ ha), if_neg hne]
    · intro a ha
      rw [hnext a (List.mem_append_left l₂ (List.mem_of_getLast? ha)), if_pos ha]
      rfl
    · intro a ha _
      rw [hprev a (List.mem_append_left l₂ ha), if_neg (hhead a ha)]
    · intro a ha
      have hmem := List.mem_of_head? ha
      rw [hprev a (List.mem_append_left l₂ hmem), if_neg (hhead a hmem)]
      exact h₁.prev_head ha
  · refine h₂.relink hnodup₂ ?_ ?_ ?_ ?_
    · intro a ha _
      rw [hnext a (List.mem_append_right l₁ ha), if_neg (hlast a ha)]
    · intro a ha
      have hmem := List.mem_of_getLast? ha
      rw [hnext a (List.mem_append_right l₁ hmem), if_neg (hlast a hmem)]
      exact h₂.next_getLast ha
    · intro a ha hne
      rw [hprev a (List.mem_append_right l₁ ha), if_neg hne]
    · intro a ha
      rw [hprev a (List.mem_append_right l₁ (List.mem_of_head? ha)), if_pos ha]

/-- One cell leaves a list. -/
theorem Linked.erase (h : Linked next prev none (l₁ ++ c :: l₂) none)
    (hnodup : (l₁ ++ c :: l₂).Nodup)
    (hnext : ∀ a ∈ l₁ ++ l₂, next' a = if l₁.getLast? = some a then l₂.head? else next a)
    (hprev : ∀ a ∈ l₁ ++ l₂, prev' a = if l₂.head? = some a then l₁.getLast? else prev a) :
    Linked next' prev' none (l₁ ++ l₂) none := by
  obtain ⟨h₁, -, -, h₂⟩ := linked_append.mp h
  obtain ⟨hnodup₁, hnodup', hdisj'⟩ := List.nodup_append'.mp hnodup
  have hnodup₂ := (List.nodup_cons.mp hnodup').2
  have hdisj : List.Disjoint l₁ l₂ := fun a ha ha' => hdisj' ha (List.mem_cons_of_mem c ha')
  have hlast : ∀ a ∈ l₂, l₁.getLast? ≠ some a := fun a ha heq =>
    hdisj (List.mem_of_getLast? heq) ha
  have hhead : ∀ a ∈ l₁, l₂.head? ≠ some a := fun a ha heq =>
    hdisj ha (List.mem_of_head? heq)
  refine linked_append.mpr ⟨?_, ?_⟩
  · refine h₁.relink hnodup₁ ?_ ?_ ?_ ?_
    · intro a ha hne
      rw [hnext a (List.mem_append_left l₂ ha), if_neg hne]
    · intro a ha
      rw [hnext a (List.mem_append_left l₂ (List.mem_of_getLast? ha)), if_pos ha, Option.or_none]
    · intro a ha _
      rw [hprev a (List.mem_append_left l₂ ha), if_neg (hhead a ha)]
    · intro a ha
      have hmem := List.mem_of_head? ha
      rw [hprev a (List.mem_append_left l₂ hmem), if_neg (hhead a hmem)]
      exact h₁.prev_head ha
  · refine h₂.relink hnodup₂ ?_ ?_ ?_ ?_
    · intro a ha _
      rw [hnext a (List.mem_append_right l₁ ha), if_neg (hlast a ha)]
    · intro a ha
      have hmem := List.mem_of_getLast? ha
      rw [hnext a (List.mem_append_right l₁ hmem), if_neg (hlast a hmem)]
      exact h₂.next_getLast ha
    · intro a ha hne
      rw [hprev a (List.mem_append_right l₁ ha), if_neg hne]
    · intro a ha
      rw [hprev a (List.mem_append_right l₁ (List.mem_of_head? ha)), if_pos ha, Option.or_none]

end

/-! ## Following the pointers -/

/-- Following `next` visits the list from its first cell on. -/
theorem Linked.visits_next (h : Linked next prev p l none) : Visits next l.head? l := by
  induction l generalizing p with
  | nil => exact .nil
  | cons a l ih =>
    obtain ⟨-, hna, hrest⟩ := h
    refine .cons ?_
    rw [hna, Option.or_none]
    exact ih hrest

/-- Following `prev` visits the list from its last cell on. -/
theorem Linked.visits_prev (h : Linked next prev none l n) : Visits prev l.getLast? l.reverse := by
  induction l using List.reverseRecOn generalizing n with
  | nil => exact .nil
  | append_singleton l a ih =>
    obtain ⟨h₁, hpa, -, -⟩ := linked_append.mp h
    rw [List.getLast?_concat, List.reverse_append]
    refine .cons ?_
    rw [hpa, Option.or_none]
    exact ih h₁

/-- Inside a list, `prev` is the inverse of `next`. -/
theorem Linked.next_eq_some_iff {b : A} (h : Linked next prev none l none) (ha : a ∈ l) :
    next a = some b ↔ b ∈ l ∧ prev b = some a := by
  constructor
  · intro hb
    obtain ⟨l₁, l₂, rfl⟩ := List.append_of_mem ha
    obtain ⟨-, -, hna, hrest⟩ := linked_append.mp h
    cases l₂ with
    | nil => simp [hna] at hb
    | cons b' l₂ =>
      obtain rfl := Option.some.inj (hna.symm.trans hb)
      exact ⟨by simp, hrest.1⟩
  · rintro ⟨hmem, hb⟩
    obtain ⟨l₁, l₂, rfl⟩ := List.append_of_mem hmem
    obtain ⟨h₁, hpb, -, -⟩ := linked_append.mp h
    rw [Option.or_none, hb] at hpb
    exact h₁.next_getLast hpb.symm

end DoublyLinked
