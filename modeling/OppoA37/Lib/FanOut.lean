import Mathlib

/-!
# Fan-out to a list of receivers

Messages are handed to a list of receivers, one message after the other. What a receiver does
with a message leaves outputs behind, and says whether the receiver is to be dropped: then it is
off the list before the next message.

* `removeIf` is the pass over the receivers for one message;
* `fanOut` is one pass after the other;
* `alone` is what happens to a receiver that has the list for itself.

When every output belongs to one receiver only, the others do not matter: `fanOut_filter` says
that a receiver gets what it would get alone, and `fanOut_fst` that it stays when it would stay.
-/

namespace FanOut

universe u v w

variable {R : Type u} {M : Type v} {O : Type w}

/-- Drop the receivers for which `p` says so, and gather what it leaves behind. -/
def removeIf (p : R → Bool × List O) : List R → List R × List O
  | [] => ([], [])
  | r :: rs =>
    let rest := removeIf p rs
    (if (p r).1 then rest.1 else r :: rest.1, (p r).2 ++ rest.2)

theorem removeIf_eq (p : R → Bool × List O) (rs : List R) :
    removeIf p rs = (rs.filter fun r => !(p r).1, rs.flatMap fun r => (p r).2) := by
  induction rs with
  | nil => rfl
  | cons r rs ih =>
    rw [removeIf, ih]
    by_cases hdrop : (p r).1 <;> simp [hdrop]

variable (p : M → R → Bool × List O)

/-- One pass for every message. -/
def fanOut : List R → List M → List R × List O
  | rs, [] => (rs, [])
  | rs, m :: ms =>
    let pass := removeIf (p m) rs
    let rest := fanOut pass.1 ms
    (rest.1, pass.2 ++ rest.2)

/-- What happens to a single receiver: does it stay, and what does it leave behind? -/
def alone (r : R) : List M → Bool × List O
  | [] => (true, [])
  | m :: ms =>
    if (p m r).1 then (false, (p m r).2)
    else ((alone r ms).1, (p m r).2 ++ (alone r ms).2)

variable {p}

/-- A receiver stays when it would stay alone. -/
theorem fanOut_fst (rs : List R) (ms : List M) :
    (fanOut p rs ms).1 = rs.filter fun r => (alone p r ms).1 := by
  induction ms generalizing rs with
  | nil => simp [fanOut, alone]
  | cons m ms ih =>
    rw [fanOut, removeIf_eq]
    simp only [ih, List.filter_filter]
    refine List.filter_congr fun r _ => ?_
    by_cases hdrop : (p m r).1 <;> simp [alone, hdrop]

/-- Every output comes from a receiver of the list and one of the messages. -/
theorem mem_fanOut_snd {rs : List R} {ms : List M} {o : O} (ho : o ∈ (fanOut p rs ms).2) :
    ∃ r ∈ rs, ∃ m ∈ ms, o ∈ (p m r).2 := by
  induction ms generalizing rs with
  | nil => cases ho
  | cons m ms ih =>
    rw [fanOut, removeIf_eq] at ho
    rcases List.mem_append.mp ho with hpass | hrest
    · obtain ⟨r, hr, hmem⟩ := List.mem_flatMap.mp hpass
      exact ⟨r, hr, m, List.mem_cons_self, hmem⟩
    · obtain ⟨r, hr, m', hm', hmem⟩ := ih hrest
      exact ⟨r, List.mem_of_mem_filter hr, m', List.mem_cons_of_mem _ hm', hmem⟩

/-! ## Outputs that belong to one receiver -/

variable (p) in
/-- Nothing that `r'` leaves behind belongs to `r`. -/
def Apart (belongs : R → O → Bool) (r r' : R) : Prop :=
  ∀ m, ∀ o ∈ (p m r').2, belongs r o = false

variable {belongs : R → O → Bool} {r : R}

theorem flatMap_filter_of_apart {m : M} {rs : List R} (h : ∀ r' ∈ rs, Apart p belongs r r') :
    (rs.flatMap fun r' => (p m r').2).filter (belongs r) = [] := by
  refine List.filter_eq_nil_iff.mpr fun o ho => ?_
  obtain ⟨r', hr', hmem⟩ := List.mem_flatMap.mp ho
  simp [h r' hr' m o hmem]

/-- Receivers that are apart from `r` leave nothing for it. -/
theorem fanOut_filter_of_apart {rs : List R} (ms : List M)
    (h : ∀ r' ∈ rs, Apart p belongs r r') : (fanOut p rs ms).2.filter (belongs r) = [] := by
  refine List.filter_eq_nil_iff.mpr fun o ho => ?_
  obtain ⟨r', hr', m, -, hmem⟩ := mem_fanOut_snd ho
  simp [h r' hr' m o hmem]

/-- **The others do not matter.** A receiver between others that are apart from it gets what it
gets alone. -/
theorem fanOut_filter (hself : ∀ m, ∀ o ∈ (p m r).2, belongs r o = true) {l₁ l₂ : List R}
    (h₁ : ∀ r' ∈ l₁, Apart p belongs r r') (h₂ : ∀ r' ∈ l₂, Apart p belongs r r') (ms : List M) :
    (fanOut p (l₁ ++ r :: l₂) ms).2.filter (belongs r) = (alone p r ms).2 := by
  induction ms generalizing l₁ l₂ with
  | nil => rfl
  | cons m ms ih =>
    have hown : (p m r).2.filter (belongs r) = (p m r).2 :=
      List.filter_eq_self.mpr fun o ho => hself m o ho
    have hrest₁ : ∀ r' ∈ l₁.filter (fun r' => !(p m r').1), Apart p belongs r r' :=
      fun r' hr' => h₁ r' (List.mem_of_mem_filter hr')
    have hrest₂ : ∀ r' ∈ l₂.filter (fun r' => !(p m r').1), Apart p belongs r r' :=
      fun r' hr' => h₂ r' (List.mem_of_mem_filter hr')
    rw [fanOut, removeIf_eq]
    simp only [List.flatMap_append, List.flatMap_cons, List.filter_append, hown,
      flatMap_filter_of_apart h₁, flatMap_filter_of_apart h₂, List.nil_append, List.append_nil]
    by_cases hdrop : (p m r).1
    · -- dropped: only others are left
      rw [List.filter_cons_of_neg (by simp [hdrop]), alone, if_pos hdrop]
      rw [fanOut_filter_of_apart ms, List.append_nil]
      intro r' hr'
      exact (List.mem_append.mp hr').elim (hrest₁ r') (hrest₂ r')
    · rw [List.filter_cons_of_pos (by simp [hdrop]), alone, if_neg hdrop]
      rw [ih hrest₁ hrest₂]

/-- A receiver stays and has every message, or is dropped at the first message that says so. -/
theorem alone_cases (r : R) (ms : List M) :
    ((∀ m ∈ ms, (p m r).1 = false) ∧
      alone p r ms = (true, ms.flatMap fun m => (p m r).2)) ∨
    ∃ before m after, ms = before ++ m :: after ∧ (∀ m' ∈ before, (p m' r).1 = false) ∧
      (p m r).1 = true ∧
      alone p r ms = (false, (before.flatMap fun m' => (p m' r).2) ++ (p m r).2) := by
  induction ms with
  | nil => exact Or.inl ⟨by simp, rfl⟩
  | cons m ms ih =>
    by_cases hdrop : (p m r).1
    · refine Or.inr ⟨[], m, ms, rfl, by simp, hdrop, ?_⟩
      rw [alone, if_pos hdrop]
      rfl
    · have hkeep : (p m r).1 = false := Bool.not_eq_true _ ▸ hdrop
      have hcons : alone p r (m :: ms) = ((alone p r ms).1, (p m r).2 ++ (alone p r ms).2) := by
        rw [alone, if_neg hdrop]
      rcases ih with ⟨hall, heq⟩ | ⟨before, m', after, hms, hbefore, hlast, heq⟩
      · refine Or.inl ⟨List.forall_mem_cons.mpr ⟨hkeep, hall⟩, ?_⟩
        rw [hcons, heq]
        rfl
      · refine Or.inr ⟨m :: before, m', after, by rw [hms]; rfl,
          List.forall_mem_cons.mpr ⟨hkeep, hbefore⟩, hlast, ?_⟩
        rw [hcons, heq, List.flatMap_cons, List.append_assoc]

end FanOut
