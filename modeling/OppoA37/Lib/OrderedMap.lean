import Mathlib

/-!
# Ordered maps

An `OrderedMap` is a list of keys with their values, in the order of the keys. It is the order that
makes the list canonical: two maps that give the same value to every key are the same list
(`ext_get`), so comparing what is written of them compares the maps. A `Frame` says which keys an
operation, or a sequence of them, may have set.
-/

universe u v

/-- A map with finitely many keys. -/
structure OrderedMap (K : Type u) (V : Type v) [LinearOrder K] where
  /-- the keys and their values -/
  entries : List (K × V)
  /-- they are ordered by key -/
  ordered : entries.Pairwise fun e₁ e₂ => e₁.1 < e₂.1

namespace OrderedMap

variable {K : Type u} {V : Type v} [LinearOrder K]

instance [DecidableEq V] : DecidableEq (OrderedMap K V) := fun p q =>
  decidable_of_iff (p.entries = q.entries) (by cases p; cases q; simp)

/-- No entries. -/
def empty : OrderedMap K V := ⟨[], List.Pairwise.nil⟩

/-- Set a value in a list that is ordered by key. -/
def insert (key : K) (value : V) : List (K × V) → List (K × V)
  | [] => [(key, value)]
  | e :: l =>
    if key < e.1 then (key, value) :: e :: l
    else if key = e.1 then (key, value) :: l
    else e :: insert key value l

theorem mem_insert {key : K} {value : V} {l : List (K × V)} {e : K × V}
    (he : e ∈ insert key value l) : e = (key, value) ∨ e ∈ l := by
  induction l with
  | nil => simpa [insert] using he
  | cons e' l ih =>
    rw [insert] at he
    split_ifs at he with hlt heq
    · simpa using he
    · rcases List.mem_cons.mp he with rfl | he
      · exact Or.inl rfl
      · exact Or.inr (List.mem_cons_of_mem _ he)
    · rcases List.mem_cons.mp he with rfl | he
      · exact Or.inr List.mem_cons_self
      · exact (ih he).imp_right (List.mem_cons_of_mem _)

theorem pairwise_insert (key : K) (value : V) {l : List (K × V)}
    (hl : l.Pairwise fun e₁ e₂ => e₁.1 < e₂.1) :
    (insert key value l).Pairwise fun e₁ e₂ => e₁.1 < e₂.1 := by
  induction l with
  | nil => simp [insert]
  | cons e l ih =>
    obtain ⟨hall, htail⟩ := List.pairwise_cons.mp hl
    rw [insert]
    split_ifs with hlt heq
    · refine List.pairwise_cons.mpr ⟨fun e' he' => ?_, hl⟩
      rcases List.mem_cons.mp he' with rfl | he'
      · exact hlt
      · exact hlt.trans (hall e' he')
    · refine List.pairwise_cons.mpr ⟨fun e' he' => ?_, htail⟩
      rw [heq]
      exact hall e' he'
    · refine List.pairwise_cons.mpr ⟨fun e' he' => ?_, ih htail⟩
      rcases mem_insert he' with rfl | he'
      · exact lt_of_le_of_ne (not_lt.mp hlt) fun h => heq h.symm
      · exact hall e' he'

/-- Set the value of a key. -/
def set (p : OrderedMap K V) (key : K) (value : V) : OrderedMap K V :=
  ⟨insert key value p.entries, pairwise_insert key value p.ordered⟩

/-- The value of a key. -/
def get (p : OrderedMap K V) (key : K) : Option V := p.entries.lookup key

@[simp] theorem get_empty (key : K) : (empty : OrderedMap K V).get key = none := rfl

theorem lookup_cons (key : K) (e : K × V) (l : List (K × V)) :
    (e :: l).lookup key = if key = e.1 then some e.2 else l.lookup key := by
  rw [List.lookup_cons]
  by_cases h : key = e.1
  · simp [h]
  · simp [h, beq_eq_false_iff_ne.mpr h]

/-- Looking a key up in a list in which one was set. -/
theorem lookup_insert (key : K) (value : V) (l : List (K × V)) (key' : K) :
    (insert key value l).lookup key' = if key' = key then some value else l.lookup key' := by
  induction l with
  | nil => exact lookup_cons key' (key, value) []
  | cons e l ih =>
    rw [insert]
    rcases lt_trichotomy key e.1 with hlt | heq | hgt
    · rw [if_pos hlt]
      exact lookup_cons key' (key, value) (e :: l)
    · rw [if_neg (not_lt.mpr heq.ge), if_pos heq, lookup_cons, lookup_cons, ← heq]
      -- it was set in the place of the entry with this key
      split_ifs <;> rfl
    · rw [if_neg (not_lt.mpr hgt.le), if_neg hgt.ne', lookup_cons, lookup_cons, ih]
      split_ifs with hfirst hkey
      · exact absurd (hfirst.symm.trans hkey) hgt.ne
      · rfl
      · rfl
      · rfl

/-- The value of a key after one was set. -/
theorem get_set (p : OrderedMap K V) (key : K) (value : V) (key' : K) :
    (p.set key value).get key' = if key' = key then some value else p.get key' :=
  lookup_insert key value p.entries key'

/-- The entries are what is looked up. -/
theorem mem_entries (p : OrderedMap K V) (key : K) (value : V) :
    (key, value) ∈ p.entries ↔ p.get key = some value := by
  rw [get, List.lookup_eq_some_iff]
  constructor
  · intro hmem
    obtain ⟨l₁, l₂, heq⟩ := List.append_of_mem hmem
    refine ⟨l₁, l₂, heq, fun e he => ?_⟩
    have hordered := p.ordered
    rw [heq] at hordered
    have hlt := (List.pairwise_append.mp hordered).2.2 e he (key, value) List.mem_cons_self
    exact bne_iff_ne.mpr (ne_of_gt hlt)
  · rintro ⟨l₁, l₂, heq, -⟩
    rw [heq]
    exact List.mem_append_right _ List.mem_cons_self

/-- Two maps with the same values are the same. -/
theorem ext_get {p q : OrderedMap K V} (h : ∀ key, p.get key = q.get key) : p = q := by
  have hentries : p.entries = q.entries := by
    refine p.ordered.eq_of_mem_iff q.ordered fun e => ?_
    rw [mem_entries, mem_entries, h]
  cases p
  cases q
  congr

/-- Setting the value that a key has changes nothing. -/
theorem set_of_get {p : OrderedMap K V} {key : K} {value : V} (h : p.get key = some value) :
    p.set key value = p := by
  refine ext_get fun key' => ?_
  rw [get_set]
  split_ifs with heq
  · rw [heq, h]
  · rfl

/-! ## What is left as it was -/

/-- `q` has the values of `p`, but perhaps for some keys. -/
def Frame (keys : List K) (p q : OrderedMap K V) : Prop := ∀ key ∉ keys, q.get key = p.get key

namespace Frame

variable {keys : List K} {p q r : OrderedMap K V}

theorem refl (keys : List K) (p : OrderedMap K V) : Frame keys p p := fun _ _ => rfl

theorem trans (hpq : Frame keys p q) (hqr : Frame keys q r) : Frame keys p r :=
  fun key hkey => (hqr key hkey).trans (hpq key hkey)

/-- One of the keys may be set. -/
theorem set (h : Frame keys p q) {key : K} (hkey : key ∈ keys) (value : V) :
    Frame keys p (q.set key value) := by
  intro key' hkey'
  rw [get_set, if_neg, h key' hkey']
  rintro rfl
  exact hkey' hkey

/-- One of the keys may be set to the value that it has anyway. -/
theorem set_same (h : Frame keys p q) {key : K} {value : V} (hvalue : p.get key = some value)
    (hkey : key ∉ keys) : Frame keys p (q.set key value) := by
  rw [set_of_get ((h key hkey).trans hvalue)]
  exact h

end Frame

end OrderedMap
