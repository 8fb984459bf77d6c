import Mathlib

/-!
# Loops that fill a table

A loop goes through some objects. For each it may try the next free slot of a table, and what it
has put there may be kept, so that the slot is used. It goes wrong when it tries a slot behind the
last one:

* `Fills` says what a turn of such a loop does;
* `Fits` says when there is a slot whenever one is tried;
* `isSome_foldlM` says that the loop is defined just then, and `used_foldlM` how many slots are used
  after it.
-/

namespace Slots

universe u v

variable {X : Type u} {S : Type v}

/-- Whenever a slot is tried, fewer than `size` slots are used, if `n` are at first. -/
def Fits (size : ℕ) (tries keeps : X → Bool) (n : ℕ) (l : List X) : Prop :=
  ∀ before x after, l = before ++ x :: after → tries x = true → n + before.countP keeps < size

/-- What a turn of the loop does, in states that are as they should be: a slot is needed to try
one, and one more is used if what was tried is kept. -/
structure Fills (size : ℕ) (tries keeps : X → Bool) (used : S → ℕ) (I : S → Prop)
    (turn : S → X → Option S) : Prop where
  defined : ∀ s x, I s → ((turn s x).isSome = true ↔ (tries x = true → used s < size))
  step : ∀ s x s', I s → turn s x = some s' → I s' ∧ used s' = used s + if keeps x then 1 else 0

variable {size n : ℕ} {tries keeps : X → Bool} {l : List X}

@[simp] theorem fits_nil : Fits size tries keeps n [] := by
  intro before x after h
  exact absurd h.symm (List.append_ne_nil_of_right_ne_nil _ (List.cons_ne_nil _ _))

theorem fits_cons {x : X} : Fits size tries keeps n (x :: l) ↔
    (tries x = true → n < size) ∧ Fits size tries keeps (n + if keeps x then 1 else 0) l := by
  constructor
  · intro h
    refine ⟨fun htry => h [] x l rfl htry, fun before y after hl htry => ?_⟩
    have hlt := h (x :: before) y after (by rw [hl, List.cons_append]) htry
    rw [List.countP_cons] at hlt
    omega
  · rintro ⟨hfirst, hrest⟩ before y after hl htry
    cases before with
    | nil =>
      obtain ⟨rfl, rfl⟩ := List.cons.inj hl
      exact hfirst htry
    | cons z before =>
      obtain ⟨rfl, htail⟩ := List.cons.inj hl
      have hlt := hrest before y after htail htry
      rw [List.countP_cons]
      omega

/-- If only what was tried is kept, no more slots are used than there are. -/
theorem Fits.le (h : Fits size tries keeps n l) (hkeep : ∀ x ∈ l, keeps x = true → tries x = true)
    (hn : n ≤ size) : n + l.countP keeps ≤ size := by
  induction l generalizing n with
  | nil => exact hn
  | cons x l ih =>
    obtain ⟨hfirst, hrest⟩ := fits_cons.mp h
    rw [List.countP_cons, add_comm (l.countP keeps), ← add_assoc]
    refine ih hrest (fun y hy => hkeep y (List.mem_cons_of_mem _ hy)) ?_
    split_ifs with hx
    · exact hfirst (hkeep x List.mem_cons_self hx)
    · exact hn

variable {used : S → ℕ} {I : S → Prop} {turn : S → X → Option S} {s s' : S}

/-- **The loop is defined** just if there is a slot whenever one is tried. -/
theorem isSome_foldlM (h : Fills size tries keeps used I turn) (hI : I s) :
    (l.foldlM turn s).isSome = true ↔ Fits size tries keeps (used s) l := by
  induction l generalizing s with
  | nil => exact iff_of_true rfl fits_nil
  | cons x l ih =>
    rw [fits_cons, ← h.defined s x hI, List.foldlM_cons]
    cases hturn : turn s x with
    | none => exact iff_of_false Bool.false_ne_true fun hno => Bool.false_ne_true hno.1
    | some t =>
      obtain ⟨hI', hused⟩ := h.step s x t hI hturn
      rw [← hused]
      exact (ih hI').trans (and_iff_right rfl).symm

/-- What is used after the loop. -/
theorem used_foldlM (h : Fills size tries keeps used I turn) (hI : I s)
    (hrun : l.foldlM turn s = some s') : I s' ∧ used s' = used s + l.countP keeps := by
  induction l generalizing s with
  | nil =>
    obtain rfl := Option.some.inj hrun
    exact ⟨hI, rfl⟩
  | cons x l ih =>
    obtain ⟨t, hturn, hrest⟩ := Option.bind_eq_some_iff.mp hrun
    obtain ⟨hI', hused⟩ := h.step s x t hI hturn
    obtain ⟨hI'', hused'⟩ := ih hI' hrest
    refine ⟨hI'', ?_⟩
    rw [hused', hused, List.countP_cons, add_assoc, add_comm (l.countP keeps)]

end Slots
