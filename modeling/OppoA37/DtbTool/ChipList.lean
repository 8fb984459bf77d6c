import OppoA37.Lib.Machine
import OppoA37.Lib.DoublyLinked

/-!
# The chip list of `dtbtool`

`dtbtool` keeps one record for each board that a device tree is for, in a doubly linked list
that is sorted by chipset, platform, subtype and revision. `chip_add` walks this list once: it
looks for a record that is the same, and for the place of the new one.

* `Chips` is the invariant: the records in the list, in order, and what points to them;
* `Chips.chipAdd` is the one call: it refuses a record that is there already, and puts any other
  one at its place;
* `chipAdd_run` is what holds after any calls.
-/

namespace OppoA37.DtbTool

open Lts DoublyLinked

/-- A path, or the name of a file. -/
abbrev Path := List Char

/-- `struct chipInfo_t`, at whose address a record is known. -/
structure ChipInfo where
  /-- `chipset` -/
  chipset : UInt32
  /-- `platform` -/
  platform : UInt32
  /-- `subtype` -/
  subtype : UInt32
  /-- `revNum` -/
  revNum : UInt32
  /-- `pmic_model` -/
  pmicModel : Fin 4 → UInt32
  /-- `oppoId` -/
  oppoId : UInt32
  /-- `dtb_size` -/
  dtbSize : UInt32
  /-- `dtb_file` -/
  dtbFile : Option Path
  /-- `prev` -/
  prev : Option ℕ
  /-- `next` -/
  next : Option ℕ
  /-- `master` -/
  master : ℕ
  /-- `wroteDtb` -/
  wroteDtb : Bool
  /-- `master_offset` -/
  masterOffset : UInt32
  deriving DecidableEq

/-- The global `chip_list`, with the records in memory. -/
structure ChipState where
  /-- `chip_list` -/
  chipList : Option ℕ
  /-- the records by their address -/
  chips : ℕ → ChipInfo
  /-- how many records are in the list -/
  added : ℕ

namespace ChipState

/-- Write to a record. -/
def write (s : ChipState) (a : ℕ) (f : ChipInfo → ChipInfo) : ChipState :=
  { s with chips := Function.update s.chips a (f (s.chips a)) }

@[simp] theorem write_chips (s : ChipState) (a b : ℕ) (f : ChipInfo → ChipInfo) :
    (s.write a f).chips b = if b = a then f (s.chips a) else s.chips b :=
  Function.update_apply s.chips a _ b

@[simp] theorem write_chipList (s : ChipState) (a : ℕ) (f : ChipInfo → ChipInfo) :
    (s.write a f).chipList = s.chipList := rfl

@[simp] theorem write_added (s : ChipState) (a : ℕ) (f : ChipInfo → ChipInfo) :
    (s.write a f).added = s.added := rfl

end ChipState

/-- The comparison by which `chip_add` finds the place of `c`: it comes before `x`. -/
def precedes (c x : ChipInfo) : Bool :=
  c.chipset < x.chipset ||
    (c.chipset == x.chipset &&
      (c.platform < x.platform ||
        (c.platform == x.platform &&
          (c.subtype < x.subtype ||
            (c.subtype == x.subtype && c.revNum < x.revNum)))))

/-- The comparison by which `chip_add` finds a duplicate. -/
def duplicate (c x : ChipInfo) : Bool :=
  c.chipset == x.chipset && c.platform == x.platform && c.subtype == x.subtype &&
    c.revNum == x.revNum && c.pmicModel 0 == x.pmicModel 0 && c.pmicModel 1 == x.pmicModel 1 &&
    c.pmicModel 2 == x.pmicModel 2 && c.pmicModel 3 == x.pmicModel 3 && c.oppoId == x.oppoId

/-- What `chip_add` returns. -/
inductive Rc where
  /-- `RC_SUCCESS` -/
  | success
  /-- `RC_ERROR` -/
  | error
  deriving DecidableEq, Repr

/-- The loop of `chip_add` from the record `x` on, for at most so many turns. -/
def chipAddLoop (c : ℕ) : ℕ → ChipState → ℕ → Option (ChipState × Rc)
  | 0, _, _ => none
  | n + 1, s, x =>
    if precedes (s.chips c) (s.chips x) then
      match (s.chips x).prev with
      | none =>
        let s := s.write c fun i => { i with next := some x }
        let s := s.write c fun i => { i with prev := none }
        let s := s.write x fun i => { i with prev := some c }
        some ({ s with chipList := some c, added := s.added + 1 }, .success)
      | some _ =>
        let s := s.write c fun i => { i with next := some x }
        let s := s.write c fun i => { i with prev := (s.chips x).prev }
        let s := match (s.chips x).prev with
          | none => s
          | some p => s.write p fun i => { i with next := some c }
        let s := s.write x fun i => { i with prev := some c }
        some ({ s with added := s.added + 1 }, .success)
    else if duplicate (s.chips c) (s.chips x) then some (s, .error)
    else
      match (s.chips x).next with
      | none =>
        let s := s.write c fun i => { i with prev := some x }
        let s := s.write c fun i => { i with next := none }
        let s := s.write x fun i => { i with next := some c }
        some ({ s with added := s.added + 1 }, .success)
      | some x' => chipAddLoop c n s x'

/-- `chip_add`. -/
def chipAdd (s : ChipState) (c : ℕ) : Option (ChipState × Rc) :=
  match s.chipList with
  | none =>
    let s := { s with chipList := some c }
    let s := s.write c fun i => { i with next := none }
    let s := s.write c fun i => { i with prev := none }
    some ({ s with added := s.added + 1 }, .success)
  | some x => chipAddLoop c (s.added + 1) s x

/-- Calls of `chip_add`, one after the other. -/
def chipMachine : Machine ChipState ℕ Rc where
  step s c := (chipAdd s c).map fun r => (r.1, [r.2])

/-! ## The order of records -/

/-- What the list is sorted by. -/
def rank (c : ChipInfo) : ℕ ×ₗ ℕ ×ₗ ℕ ×ₗ ℕ :=
  toLex (c.chipset.toNat, toLex (c.platform.toNat, toLex (c.subtype.toNat, c.revNum.toNat)))

theorem precedes_iff (c x : ChipInfo) : precedes c x = true ↔ rank c < rank x := by
  simp only [precedes, rank, Bool.or_eq_true, Bool.and_eq_true, decide_eq_true_eq, beq_iff_eq,
    Prod.Lex.toLex_lt_toLex, UInt32.lt_iff_toNat_lt, ← UInt32.toNat_inj]

theorem precedes_eq_false (c x : ChipInfo) : precedes c x = false ↔ rank x ≤ rank c := by
  rw [← not_lt, ← precedes_iff, Bool.not_eq_true]

theorem duplicate_self (c : ChipInfo) : duplicate c c = true := by simp [duplicate]

theorem duplicate_comm (c x : ChipInfo) : duplicate c x = duplicate x c := by
  simp only [duplicate, Bool.beq_comm]

/-- Records that are the same have the same place. -/
theorem rank_eq_of_duplicate {c x : ChipInfo} (h : duplicate c x = true) : rank c = rank x := by
  simp only [duplicate, Bool.and_eq_true, beq_iff_eq] at h
  simp [rank, h]

/-- A record without its place in the list. -/
def ChipInfo.unlinked (c : ChipInfo) : ChipInfo := { c with prev := none, next := none }

/-! ## The list -/

namespace ChipState

/-- The `next` of a record. -/
def next (s : ChipState) (a : ℕ) : Option ℕ := (s.chips a).next

/-- The `prev` of a record. -/
def prev (s : ChipState) (a : ℕ) : Option ℕ := (s.chips a).prev

/-- A record without its place in the list. -/
def info (s : ChipState) (a : ℕ) : ChipInfo := (s.chips a).unlinked

end ChipState

/-- The records in the list, first one first, and the pointers that run through them. -/
structure Chips (s : ChipState) (l : List ℕ) : Prop where
  /-- every record is in the list once -/
  nodup : l.Nodup
  /-- `chip_list` points to the first record -/
  head : s.chipList = l.head?
  /-- the records point to their neighbours -/
  linked : Linked s.next s.prev none l none
  /-- so many -/
  count : s.added = l.length
  /-- the records are sorted -/
  sorted : l.Pairwise fun a b => rank (s.info a) ≤ rank (s.info b)
  /-- and no two of them are the same -/
  distinct : l.Pairwise fun a b => duplicate (s.info a) (s.info b) = false

variable {s s' : ChipState} {c : ℕ} {l l₁ l₂ : List ℕ}

/-- A record is put between two parts of the list. -/
theorem Chips.insert (h : Chips s (l₁ ++ l₂)) (hc : c ∉ l₁ ++ l₂)
    (hhead : s'.chipList = if l₁.getLast? = none then some c else s.chipList)
    (hcount : s'.added = s.added + 1) (hinfo : ∀ a, s'.info a = s.info a)
    (hnext : ∀ a, s'.next a = if a = c then l₂.head? else
      if l₁.getLast? = some a then some c else s.next a)
    (hprev : ∀ a, s'.prev a = if a = c then l₁.getLast? else
      if l₂.head? = some a then some c else s.prev a)
    (hsorted₁ : ∀ a ∈ l₁, rank (s.info a) ≤ rank (s.info c))
    (hsorted₂ : ∀ a ∈ l₂, rank (s.info c) ≤ rank (s.info a))
    (hdistinct : ∀ a ∈ l₁ ++ l₂, duplicate (s.info c) (s.info a) = false) :
    Chips s' (l₁ ++ c :: l₂) := by
  have hne : ∀ a ∈ l₁ ++ l₂, a ≠ c := by
    rintro a ha rfl
    exact hc ha
  refine ⟨?_, ?_, ?_, ?_, ?_, ?_⟩
  · exact List.perm_middle.nodup_iff.mpr (List.nodup_cons.mpr ⟨hc, h.nodup⟩)
  · rw [hhead, h.head]
    cases l₁ with
    | nil => rfl
    | cons a l₁ => rw [if_neg (by simp)]; rfl
  · refine Linked.insert h.linked h.nodup ⟨?_, ?_⟩ ?_ ?_
    · rw [hnext, if_pos rfl]
    · rw [hprev, if_pos rfl]
    · intro a ha
      rw [hnext, if_neg (hne a ha)]
    · intro a ha
      rw [hprev, if_neg (hne a ha)]
  · rw [hcount, h.count]
    simp [Nat.add_assoc]
  · have hsorted := h.sorted
    simp only [hinfo]
    rw [List.pairwise_append] at hsorted ⊢
    obtain ⟨h₁, h₂, h₁₂⟩ := hsorted
    refine ⟨h₁, List.pairwise_cons.mpr ⟨hsorted₂, h₂⟩, ?_⟩
    intro a ha b hb
    rcases List.mem_cons.mp hb with rfl | hb
    · exact hsorted₁ a ha
    · exact h₁₂ a ha b hb
  · have hold := h.distinct
    simp only [hinfo]
    rw [List.pairwise_append] at hold ⊢
    obtain ⟨h₁, h₂, h₁₂⟩ := hold
    refine ⟨h₁, List.pairwise_cons.mpr ⟨?_, h₂⟩, ?_⟩
    · exact fun a ha => hdistinct a (List.mem_append_right l₁ ha)
    · intro a ha b hb
      rcases List.mem_cons.mp hb with rfl | hb
      · rw [duplicate_comm]
        exact hdistinct a (List.mem_append_left l₂ ha)
      · exact h₁₂ a ha b hb

/-- What a call of `chip_add` does: it finds a duplicate and leaves everything as it is, or it
puts the record into the list. -/
def Added (s : ChipState) (c : ℕ) (l : List ℕ) (r : Option (ChipState × Rc)) : Prop :=
  ((∃ x ∈ l, duplicate (s.info c) (s.info x) = true) ∧ r = some (s, .error)) ∨
  ∃ s' l₁ l₂, l = l₁ ++ l₂ ∧ c ∉ l ∧ r = some (s', .success) ∧ Chips s' (l₁ ++ c :: l₂) ∧
    ∀ a, s'.info a = s.info a

/-- The record comes before the record `x`. -/
theorem Chips.chipAddLoop_before {n x : ℕ} (h : Chips s (l₁ ++ x :: l₂))
    (hpassed : ∀ a ∈ l₁, rank (s.info a) ≤ rank (s.info c) ∧
      duplicate (s.info c) (s.info a) = false)
    (hbefore : precedes (s.chips c) (s.chips x) = true) :
    Added s c (l₁ ++ x :: l₂) (chipAddLoop c (n + 1) s x) := by
  have hlt : rank (s.info c) < rank (s.info x) := (precedes_iff _ _).mp hbefore
  obtain ⟨-, hsorted₂, -⟩ := List.pairwise_append.mp h.sorted
  -- the record is smaller than all the others
  have hsmall : ∀ a ∈ x :: l₂, rank (s.info c) < rank (s.info a) := by
    intro a ha
    rcases List.mem_cons.mp ha with rfl | ha
    · exact hlt
    · exact hlt.trans_le ((List.pairwise_cons.mp hsorted₂).1 a ha)
  have hdup : ∀ a ∈ l₁ ++ x :: l₂, duplicate (s.info c) (s.info a) = false := by
    intro a ha
    rcases List.mem_append.mp ha with ha | ha
    · exact (hpassed a ha).2
    · by_contra hno
      exact (hsmall a ha).ne (rank_eq_of_duplicate (Bool.eq_true_of_not_eq_false hno))
  have hc : c ∉ l₁ ++ x :: l₂ := by
    intro hc
    have hself := hdup c hc
    rw [duplicate_self] at hself
    cases hself
  have hxc : x ≠ c := by
    rintro rfl
    exact hc (by simp)
  have hprevx : (s.chips x).prev = l₁.getLast? := by
    obtain ⟨-, hpx, -⟩ := linked_append.mp h.linked
    exact hpx.trans (Option.or_none)
  have hins : ∀ s' : ChipState,
      s'.chipList = (if l₁.getLast? = none then some c else s.chipList) →
      s'.added = s.added + 1 → (∀ a, s'.info a = s.info a) →
      (∀ a, s'.next a = if a = c then some x else
        if l₁.getLast? = some a then some c else s.next a) →
      (∀ a, s'.prev a = if a = c then l₁.getLast? else
        if some x = some a then some c else s.prev a) → Chips s' (l₁ ++ c :: x :: l₂) := by
    intro s' hhead hcount hinfo hnext hprev
    exact h.insert hc hhead hcount hinfo hnext hprev (fun a ha => (hpassed a ha).1)
      (fun a ha => (hsmall a ha).le) hdup
  rw [chipAddLoop, if_pos hbefore]
  refine .inr ?_
  cases hp : (s.chips x).prev with
  | none =>
    have hl₁ : l₁.getLast? = none := hprevx.symm.trans hp
    refine ⟨_, l₁, x :: l₂, rfl, hc, rfl, hins _ ?_ rfl ?_ ?_ ?_, ?_⟩
    · rw [hl₁, if_pos rfl]
    all_goals
      intro a
      by_cases hac : a = c
      · subst hac
        simp [ChipState.next, ChipState.prev, ChipState.info, ChipInfo.unlinked, Ne.symm hxc, hl₁]
      · by_cases hax : a = x
        · subst hax
          simp [ChipState.next, ChipState.prev, ChipState.info, ChipInfo.unlinked, hxc, hl₁]
        · simp [ChipState.next, ChipState.prev, ChipState.info, ChipInfo.unlinked, hac, hax,
            Ne.symm hax, hl₁]
  | some p =>
    have hl₁ : l₁.getLast? = some p := hprevx.symm.trans hp
    have hmem : p ∈ l₁ := List.mem_of_getLast? hl₁
    have hpc : p ≠ c := by
      rintro rfl
      exact hc (List.mem_append_left _ hmem)
    have hpx : p ≠ x := by
      rintro rfl
      exact (List.nodup_append'.mp h.nodup).2.2 hmem List.mem_cons_self
    refine ⟨_, l₁, x :: l₂, rfl, hc, rfl, hins _ ?_ ?_ ?_ ?_ ?_, ?_⟩
    · simp [hl₁, hxc, hp]
    · simp [hxc, hp]
    all_goals
      intro a
      by_cases hac : a = c
      · subst hac
        simp [ChipState.next, ChipState.prev, ChipState.info, ChipInfo.unlinked, Ne.symm hxc,
          Ne.symm hpc, hxc, hl₁, hp]
      · by_cases hax : a = x
        · subst hax
          simp [ChipState.next, ChipState.prev, ChipState.info, ChipInfo.unlinked, hxc, hl₁, hp,
            hpx, Ne.symm hpx]
        · by_cases hap : a = p
          · subst hap
            simp [ChipState.next, ChipState.prev, ChipState.info, ChipInfo.unlinked, hxc, hl₁, hp,
              hac, hax, Ne.symm hax]
          · simp [ChipState.next, ChipState.prev, ChipState.info, ChipInfo.unlinked, hxc, hl₁, hp,
              hac, hax, hap, Ne.symm hax, Ne.symm hap]

/-- The record comes after the last record `x`. -/
theorem Chips.chipAddLoop_last {n x : ℕ} (h : Chips s (l ++ [x]))
    (hpassed : ∀ a ∈ l ++ [x], rank (s.info a) ≤ rank (s.info c) ∧
      duplicate (s.info c) (s.info a) = false)
    (hbefore : precedes (s.chips c) (s.chips x) = false) :
    Added s c (l ++ [x]) (chipAddLoop c (n + 1) s x) := by
  have hc : c ∉ l ++ [x] := by
    intro hc
    have hself := (hpassed c hc).2
    rw [duplicate_self] at hself
    cases hself
  have hxc : x ≠ c := by
    rintro rfl
    exact hc (by simp)
  have hnextx : (s.chips x).next = none := by
    obtain ⟨-, -, hnx, -⟩ := linked_append.mp h.linked
    exact hnx
  have hdup : duplicate (s.chips c) (s.chips x) = false := (hpassed x (by simp)).2
  rw [DtbTool.chipAddLoop, if_neg (by rw [hbefore]; exact Bool.false_ne_true),
    if_neg (by rw [hdup]; exact Bool.false_ne_true), hnextx]
  refine .inr ⟨_, l ++ [x], [], (List.append_nil _).symm, hc, rfl, ?_, ?_⟩
  · refine Chips.insert (s := s) (by rwa [List.append_nil]) (by rwa [List.append_nil])
      ?_ rfl ?_ ?_ ?_ (fun a ha => (hpassed a ha).1) (by simp) ?_
    · rw [List.getLast?_concat, if_neg (Option.some_ne_none x)]
      rfl
    rotate_right
    · intro a ha
      rw [List.append_nil] at ha
      exact (hpassed a ha).2
    all_goals
      intro a
      by_cases hac : a = c
      · subst hac
        simp [ChipState.next, ChipState.prev, ChipState.info, ChipInfo.unlinked, Ne.symm hxc]
      · by_cases hax : a = x
        · subst hax
          simp [ChipState.next, ChipState.prev, ChipState.info, ChipInfo.unlinked, hxc]
        · simp [ChipState.next, ChipState.prev, ChipState.info, ChipInfo.unlinked, hac, hax,
            Ne.symm hax]
  · intro a
    by_cases hac : a = c
    · subst hac
      simp [ChipState.info, ChipInfo.unlinked, Ne.symm hxc]
    · by_cases hax : a = x
      · subst hax
        simp [ChipState.info, ChipInfo.unlinked, hxc]
      · simp [ChipState.info, ChipInfo.unlinked, hac, hax]

/-- The loop of `chip_add`, with `l₁` passed and `x` before it. -/
theorem Chips.chipAddLoop {n x : ℕ} (h : Chips s (l₁ ++ x :: l₂)) (hn : l₂.length < n)
    (hpassed : ∀ a ∈ l₁, rank (s.info a) ≤ rank (s.info c) ∧
      duplicate (s.info c) (s.info a) = false) :
    Added s c (l₁ ++ x :: l₂) (chipAddLoop c n s x) := by
  induction l₂ generalizing l₁ n x with
  | nil =>
    obtain ⟨m, rfl⟩ := Nat.exists_eq_add_one.mpr hn
    cases hbefore : precedes (s.chips c) (s.chips x) with
    | true => exact h.chipAddLoop_before hpassed hbefore
    | false =>
      cases hdup : duplicate (s.chips c) (s.chips x) with
      | true =>
        refine .inl ⟨⟨x, by simp, hdup⟩, ?_⟩
        simp [DtbTool.chipAddLoop, hbefore, hdup]
      | false =>
        refine h.chipAddLoop_last ?_ hbefore
        simp only [List.forall_mem_append, List.forall_mem_singleton]
        exact ⟨hpassed, (precedes_eq_false _ _).mp hbefore, hdup⟩
  | cons y l₂ ih =>
    obtain ⟨m, rfl⟩ := Nat.exists_eq_add_one.mpr (Nat.zero_lt_of_lt hn)
    cases hbefore : precedes (s.chips c) (s.chips x) with
    | true => exact h.chipAddLoop_before hpassed hbefore
    | false =>
      cases hdup : duplicate (s.chips c) (s.chips x) with
      | true =>
        refine .inl ⟨⟨x, by simp, hdup⟩, ?_⟩
        simp [DtbTool.chipAddLoop, hbefore, hdup]
      | false =>
        -- the walk goes on behind `x`
        have hnextx : (s.chips x).next = some y := by
          obtain ⟨-, -, hnx, -⟩ := linked_append.mp h.linked
          exact hnx
        have hloop : DtbTool.chipAddLoop c (m + 1) s x = DtbTool.chipAddLoop c m s y := by
          simp [DtbTool.chipAddLoop, hbefore, hdup, hnextx]
        rw [hloop]
        rw [← List.singleton_append, ← List.append_assoc] at h ⊢
        refine ih h (by simpa using hn) ?_
        simp only [List.forall_mem_append, List.forall_mem_singleton]
        exact ⟨hpassed, (precedes_eq_false _ _).mp hbefore, hdup⟩

/-- `chip_add` on any list. -/
theorem Chips.chipAdd (h : Chips s l) (c : ℕ) : Added s c l (chipAdd s c) := by
  cases l with
  | nil =>
    rw [DtbTool.chipAdd, h.head]
    refine .inr ⟨_, [], [], rfl, List.not_mem_nil, rfl, ?_, ?_⟩
    · refine ⟨List.nodup_singleton c, rfl, ⟨?_, ?_, trivial⟩, by simp [h.count], ?_, ?_⟩
      · simp [ChipState.prev]
      · simp [ChipState.next]
      · exact List.pairwise_singleton _ c
      · exact List.pairwise_singleton _ c
    · intro a
      by_cases hac : a = c
      · subst hac
        simp [ChipState.info, ChipInfo.unlinked]
      · simp [ChipState.info, ChipInfo.unlinked, hac]
  | cons x l =>
    rw [DtbTool.chipAdd, h.head]
    have h' : Chips s ([] ++ x :: l) := h
    exact h'.chipAddLoop (by rw [h.count]; simp) (by simp)

/-! ## Runs -/

/-- No record is in the list yet. -/
def ChipState.init (chips : ℕ → ChipInfo) : ChipState := ⟨none, chips, 0⟩

theorem chips_init (chips : ℕ → ChipInfo) : Chips (ChipState.init chips) [] :=
  ⟨List.nodup_nil, rfl, trivial, rfl, List.Pairwise.nil, List.Pairwise.nil⟩

/-- The records for which `chip_add` returned `RC_SUCCESS`. -/
def accepted (h : List (Event ChipState ℕ Rc)) : List ℕ :=
  (h.filter fun e => e.out = [.success]).map (·.label)

/-- **The chip list.** After any calls of `chip_add`, whatever the records in memory are: the
list is doubly linked and sorted, it holds exactly the records that were accepted, no two of
them are the same, a call that found a duplicate changed nothing, and every call returns. -/
theorem chipAdd_run {chips : ℕ → ChipInfo} {h : List (Event ChipState ℕ Rc)}
    (hr : Run chipMachine (.init chips) h s) :
    (∃ l : List ℕ, l.Nodup ∧ Visits s.next s.chipList l ∧
      Visits s.prev l.getLast? l.reverse ∧
      (∀ a ∈ l, ∀ b, s.next a = some b ↔ b ∈ l ∧ s.prev b = some a) ∧
      (l.Pairwise fun a b => rank (s.chips a) ≤ rank (s.chips b)) ∧
      (l.Pairwise fun a b => duplicate (s.chips a) (s.chips b) = false) ∧
      l.Perm (accepted h)) ∧
    (∀ a, (s.chips a).unlinked = (chips a).unlinked) ∧
    (∀ e ∈ h, e.out = [.error] → e.post = e.pre) ∧
    ∀ c, ∃ r, chipMachine.step s c = some r := by
  have hinv : (∃ l, Chips s l ∧ l.Perm (accepted h)) ∧ (∀ a, s.info a = (chips a).unlinked) ∧
      ∀ e ∈ h, e.out = [.error] → e.post = e.pre := by
    induction hr with
    | nil => exact ⟨⟨[], chips_init chips, List.Perm.nil⟩, fun _ => rfl, by simp⟩
    | @snoc h s s' c out _ hs ih =>
      obtain ⟨⟨l, hl, hperm⟩, hinfo, herror⟩ := ih
      simp only [chipMachine] at hs
      simp only [List.forall_mem_append, List.forall_mem_singleton]
      obtain ⟨-, hadd⟩ | ⟨s₁, l₁, l₂, rfl, hc, hadd, hl', hinfo'⟩ := hl.chipAdd c
      · rw [hadd] at hs
        obtain ⟨rfl, rfl⟩ := Prod.mk.inj (Option.some.inj hs)
        refine ⟨⟨l, hl, ?_⟩, hinfo, herror, fun _ => rfl⟩
        simpa [accepted] using hperm
      · rw [hadd] at hs
        obtain ⟨rfl, rfl⟩ := Prod.mk.inj (Option.some.inj hs)
        refine ⟨⟨_, hl', ?_⟩, ?_, herror, fun hno => ?_⟩
        · have hsnoc : accepted (h ++ [⟨s, c, [.success], s₁⟩]) = accepted h ++ [c] := by
            simp [accepted]
          rw [hsnoc]
          exact List.perm_middle.trans ((hperm.cons c).trans (List.perm_append_singleton _ _).symm)
        · exact fun a => (hinfo' a).trans (hinfo a)
        · simp at hno
  obtain ⟨⟨l, hl, hperm⟩, hinfo, herror⟩ := hinv
  refine ⟨⟨l, hl.nodup, ?_, hl.linked.visits_prev, ?_, hl.sorted, hl.distinct, hperm⟩, hinfo,
    herror, ?_⟩
  · rw [hl.head]
    exact hl.linked.visits_next
  · exact fun a ha b => hl.linked.next_eq_some_iff ha
  · intro c
    obtain ⟨-, hadd⟩ | ⟨s₁, l₁, l₂, -, -, hadd, -⟩ := hl.chipAdd c
    · exact ⟨(s, [.error]), by simp [chipMachine, hadd]⟩
    · exact ⟨(s₁, [.success]), by simp [chipMachine, hadd]⟩

/-- Three records by their chipset, of which the first is added twice. -/
theorem chipAdd_run_three :
    ∃ h s, Run chipMachine (.init fun a => ⟨a.toUInt32, 0, 0, 0, fun _ => 0, 0, 0, none, none,
        none, 0, false, 0⟩) h s ∧ accepted h = [5, 9, 7] ∧ s.chipList = some 5 ∧
      ∀ c, ∃ r, chipMachine.step s c = some r := by
  obtain ⟨h, s, hr, -, hcheck⟩ := chipMachine.exists_run
    (.init fun a => ⟨a.toUInt32, 0, 0, 0, fun _ => 0, 0, 0, none, none, none, 0, false, 0⟩)
    [5, 9, 5, 7] (fun h s => decide (accepted h = [5, 9, 7] ∧ s.chipList = some 5)) (by decide)
  obtain ⟨haccepted, hhead⟩ := of_decide_eq_true hcheck
  exact ⟨h, s, hr, haccepted, hhead, (chipAdd_run hr).2.2.2⟩

end OppoA37.DtbTool
