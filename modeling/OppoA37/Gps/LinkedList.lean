import Mathlib

/-!
# `linked_list.c` on lists

The operations of `gps/utils/linked_list.c` at the level their callers see: the
nodes reachable from `p_head`, first node first. `linked_list_search` is the one
with content. It walks from the head, calls the comparator on every element until
the first match, and may unlink that match; the comparator is a callback with
effects of its own (the state machines notify subscribers from inside it), so the
model threads the callback's world through the walk.

The pointers of the nodes are not modelled here: a position in the list stands
for the pointer `linked_list_search` hands back.
-/

namespace OppoA37

variable {α : Type*} {W : Type*}

/-- `linked_list_add`: the new element becomes the head. -/
def linkedListAdd (list : List α) (dataObj : α) : List α := dataObj :: list

/-- `linked_list_empty`. -/
def linkedListEmpty (list : List α) : Bool := list.isEmpty

/-- `linked_list_flush`: every element is unlinked (and deallocated). -/
def linkedListFlush (_ : List α) : List α := []

/-- What a walk of `linked_list_search` leaves behind. -/
structure SearchResult (α : Type*) (W : Type*) where
  /-- `*data_p`: the first match, with the position it had in the list -/
  dataP : Option (ℕ × α)
  /-- the list afterwards -/
  list : List α
  /-- the world of the comparator afterwards -/
  world : W

/-- `linked_list_search`: call `equal` from the head until it answers `true`;
unlink that element when `rmIfFound` is set. -/
def linkedListSearch (equal : α → W → Bool × W) (rmIfFound : Bool) : List α → W → SearchResult α W
  | [], w => ⟨none, [], w⟩
  | a :: rest, w =>
    match equal a w with
    | (true, w') => ⟨some (0, a), if rmIfFound then rest else a :: rest, w'⟩
    | (false, w') =>
      let r := linkedListSearch equal rmIfFound rest w'
      ⟨r.dataP.map fun d => (d.1 + 1, d.2), a :: r.list, r.world⟩

/-! ## What a walk finds and removes

The comparators of the callers answer independently of their world: `p` is that
answer. -/

section Search

variable {equal : α → W → Bool × W} {p : α → Bool}

/-- The walk finds nothing iff nothing in the list matches. -/
theorem linkedListSearch_dataP_eq_none (hp : ∀ a w, (equal a w).1 = p a) (rm : Bool) :
    ∀ (l : List α) (w : W),
      (linkedListSearch equal rm l w).dataP = none ↔ ∀ a ∈ l, p a = false := by
  intro l
  induction l with
  | nil => intro w; simp [linkedListSearch]
  | cons a rest ih =>
    intro w
    have hpa := hp a w
    rcases hq : equal a w with ⟨_ | _, w'⟩ <;> rw [hq] at hpa
    · simp [linkedListSearch, hq, ih, ← hpa]
    · simp [linkedListSearch, hq, ← hpa]

/-- What the walk finds matches, and sits at the position it reports. -/
theorem linkedListSearch_dataP_eq_some (hp : ∀ a w, (equal a w).1 = p a) (rm : Bool) :
    ∀ (l : List α) (w : W) {i : ℕ} {a : α},
      (linkedListSearch equal rm l w).dataP = some (i, a) → l[i]? = some a ∧ p a = true := by
  intro l
  induction l with
  | nil => intro w i a h; simp [linkedListSearch] at h
  | cons b rest ih =>
    intro w i a h
    have hpb := hp b w
    rcases hq : equal b w with ⟨_ | _, w'⟩ <;> rw [hq] at hpb
    · simp only [linkedListSearch, hq, Option.map_eq_some_iff, Prod.mk.injEq] at h
      obtain ⟨⟨j, c⟩, hfound, rfl, rfl⟩ := h
      simpa using ih w' hfound
    · simp only [linkedListSearch, hq, Option.some.injEq, Prod.mk.injEq] at h
      obtain ⟨rfl, rfl⟩ := h
      exact ⟨rfl, hpb.symm⟩

/-- Without `rmIfFound` the list stays. -/
theorem linkedListSearch_keep (l : List α) (w : W) :
    (linkedListSearch equal false l w).list = l := by
  induction l generalizing w with
  | nil => rfl
  | cons a rest ih =>
    rcases hq : equal a w with ⟨_ | _, w'⟩
    · simp [linkedListSearch, hq, ih]
    · simp [linkedListSearch, hq]

/-- With `rmIfFound` exactly the first match is unlinked. -/
theorem linkedListSearch_remove (hp : ∀ a w, (equal a w).1 = p a) (l : List α) (w : W) :
    (linkedListSearch equal true l w).list = l.eraseP p := by
  induction l generalizing w with
  | nil => rfl
  | cons a rest ih =>
    have hpa := hp a w
    rcases hq : equal a w with ⟨_ | _, w'⟩ <;> rw [hq] at hpa
    · simp [linkedListSearch, hq, ih, ← hpa]
    · simp [linkedListSearch, hq, ← hpa]

/-- What the walk finds is the first match. -/
theorem linkedListSearch_find (hp : ∀ a w, (equal a w).1 = p a) (rm : Bool) (l : List α) (w : W) :
    (linkedListSearch equal rm l w).dataP.map (·.2) = l.find? p := by
  induction l generalizing w with
  | nil => rfl
  | cons a rest ih =>
    have hpa := hp a w
    cases hq : equal a w with
    | mk b w' =>
      rw [hq] at hpa
      cases b with
      | true => simp [linkedListSearch, hq, ← hpa]
      | false =>
        rw [List.find?_cons_of_neg (by simp [← hpa]), ← ih w']
        simp [linkedListSearch, hq, Function.comp_def]

end Search

/-! ## The search-and-delete loop -/

/-- `while (NULL != s) { s = NULL; linked_list_search(.., &s, .., true); }`: unlink
matches one at a time until a walk finds none. Every turn but the last unlinks an
element, so `l.length + 1` turns are enough (`searchAndDelete_list`). -/
def searchAndDelete (equal : α → W → Bool × W) : ℕ → List α → W → List α × W
  | 0, l, w => (l, w)
  | n + 1, l, w =>
    let r := linkedListSearch equal true l w
    if r.dataP.isNone then (r.list, r.world) else searchAndDelete equal n r.list r.world

/-- Filtering out the matches does not care whether the first is already gone. -/
theorem filter_not_eraseP (p : α → Bool) (l : List α) :
    (l.eraseP p).filter (fun a => !p a) = l.filter fun a => !p a := by
  induction l with
  | nil => rfl
  | cons a rest ih =>
    by_cases ha : p a
    · simp [ha]
    · simp [ha, ih]

/-- With enough turns the loop unlinks every match and keeps the others in order. -/
theorem searchAndDelete_list {equal : α → W → Bool × W} {p : α → Bool}
    (hp : ∀ a w, (equal a w).1 = p a) :
    ∀ (n : ℕ) (l : List α) (w : W), l.length < n →
      (searchAndDelete equal n l w).1 = l.filter fun a => !p a := by
  intro n
  induction n with
  | zero => intro l w hn; omega
  | succ n ih =>
    intro l w hn
    rw [searchAndDelete]
    simp only [linkedListSearch_remove hp]
    split
    · next hnone =>
      have hno :=
        (linkedListSearch_dataP_eq_none hp true l w).mp (Option.isNone_iff_eq_none.mp hnone)
      rw [List.eraseP_of_forall_not (fun a ha => by simp [hno a ha])]
      exact (List.filter_eq_self.mpr fun a ha => by simp [hno a ha]).symm
    · next hsome =>
      have hex : ∃ a ∈ l, p a = true := by
        by_contra hno
        refine hsome (Option.isNone_iff_eq_none.mpr ?_)
        refine (linkedListSearch_dataP_eq_none hp true l w).mpr fun a ha => ?_
        exact Bool.eq_false_iff.mpr fun hpa => hno ⟨a, ha, hpa⟩
      obtain ⟨a, ha, hpa⟩ := hex
      have hlen := List.length_eraseP_of_mem ha hpa
      have hpos := List.length_pos_of_mem ha
      rw [ih _ _ (by omega), filter_not_eraseP]

/-! ## Comparators that act on their matches

The comparators of the state machines do something to the world exactly when the
element matches: `act` is that effect. -/

section Acting

variable {equal : α → W → Bool × W} {p : α → Bool} {act : α → W → W}

/-- A walk that never answers `true` acts on every match, in the order of the list. -/
theorem linkedListSearch_world_all (act : α → W → W)
    (hact : ∀ a w, equal a w = (false, if p a then act a w else w)) (rm : Bool) :
    ∀ (l : List α) (w : W), (linkedListSearch equal rm l w).world =
      (l.filter p).foldl (fun w a => act a w) w := by
  intro l
  induction l with
  | nil => intro w; rfl
  | cons a rest ih =>
    intro w
    by_cases ha : p a
    · simp [linkedListSearch, hact, ha, ih]
    · simp [linkedListSearch, hact, ha, ih]

/-- A walk that stops at its first match acts on that match only. -/
theorem linkedListSearch_world_first
    (hact : ∀ a w, equal a w = (p a, if p a then act a w else w)) (rm : Bool) :
    ∀ (l : List α) (w : W), (linkedListSearch equal rm l w).world =
      ((l.filter p).take 1).foldl (fun w a => act a w) w := by
  intro l
  induction l with
  | nil => intro w; rfl
  | cons a rest ih =>
    intro w
    by_cases ha : p a
    · simp [linkedListSearch, hact, ha]
    · simp [linkedListSearch, hact, ha, ih]

/-- The matches after the first one is unlinked. -/
theorem filter_eraseP (p : α → Bool) (l : List α) :
    (l.eraseP p).filter p = (l.filter p).drop 1 := by
  induction l with
  | nil => rfl
  | cons a rest ih =>
    by_cases ha : p a
    · simp [ha]
    · simp [ha, ih]

/-- With enough turns the loop acts on every match, in the order of the list. -/
theorem searchAndDelete_world (act : α → W → W)
    (hact : ∀ a w, equal a w = (p a, if p a then act a w else w)) :
    ∀ (n : ℕ) (l : List α) (w : W), l.length < n →
      (searchAndDelete equal n l w).2 = (l.filter p).foldl (fun w a => act a w) w := by
  have hp (a : α) (w : W) : (equal a w).1 = p a := by rw [hact]
  intro n
  induction n with
  | zero => intro l w hn; omega
  | succ n ih =>
    intro l w hn
    rw [searchAndDelete]
    simp only [linkedListSearch_remove hp, linkedListSearch_world_first hact]
    rcases hm : l.filter p with _ | ⟨a, rest⟩
    · -- nothing matches: this is the last turn
      have hnone : (linkedListSearch equal true l w).dataP = none := by
        refine (linkedListSearch_dataP_eq_none hp true l w).mpr fun a ha => ?_
        exact Bool.eq_false_iff.mpr (List.filter_eq_nil_iff.mp hm a ha)
      simp [hnone]
    · have hmem : a ∈ l.filter p := by rw [hm]; exact List.mem_cons_self
      have hsome : ¬ (linkedListSearch equal true l w).dataP.isNone = true := by
        intro hnone
        have hno := (linkedListSearch_dataP_eq_none hp true l w).mp
          (Option.isNone_iff_eq_none.mp hnone) a (List.mem_of_mem_filter hmem)
        rw [List.of_mem_filter hmem] at hno
        cases hno
      have hlen := List.length_eraseP_of_mem (List.mem_of_mem_filter hmem) (List.of_mem_filter hmem)
      have hpos := List.length_pos_of_mem (List.mem_of_mem_filter hmem)
      rw [if_neg hsome, ih _ _ (by omega), filter_eraseP, hm]
      rfl

end Acting

end OppoA37
