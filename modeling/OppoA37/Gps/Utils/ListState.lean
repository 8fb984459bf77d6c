import OppoA37.Lib.Machine
import OppoA37.Lib.DoublyLinked
import OppoA37.Gps.LinkedList

/-!
# `linked_list.c` with its pointers

The elements of a list live at addresses, and point to their neighbours. Every access goes
through memory, and fails at `NULL` and at an address that holds no element, so an operation
that answers has touched live elements only; a loop fails when it makes more turns than there
are elements.

* `Cells` is the invariant: which elements there are, in order, and what points to them;
* `call_spec` says of each call that it answers, and what it does to the list it stands for;
* `listState_run` is the refinement for whole runs, with the ownership of the objects.
-/

namespace OppoA37

open Lts DoublyLinked

/-- `linked_list_err_type`, as far as these functions return it. -/
inductive LinkedListErr where
  /-- `eLINKED_LIST_SUCCESS` -/
  | success
  /-- `eLINKED_LIST_FAILURE_GENERAL` -/
  | failureGeneral
  /-- `eLINKED_LIST_INVALID_PARAMETER` -/
  | invalidParameter
  /-- `eLINKED_LIST_INVALID_HANDLE` -/
  | invalidHandle
  /-- `eLINKED_LIST_UNAVAILABLE_RESOURCE` -/
  | unavailableResource
  deriving DecidableEq, Repr

/-- `list_element`, for objects `D` and dealloc functions `F`. -/
structure ListElement (D F : Type*) where
  /-- `next` -/
  next : Option ℕ
  /-- `prev` -/
  prev : Option ℕ
  /-- `data_ptr`, which is never `NULL` -/
  dataPtr : D
  /-- `dealloc_func` -/
  deallocFunc : Option F
  deriving DecidableEq

/-- `list_state`, with the elements that are allocated. -/
structure ListState (D F : Type*) where
  /-- `p_head` -/
  pHead : Option ℕ
  /-- `p_tail` -/
  pTail : Option ℕ
  /-- the elements by their address -/
  mem : ℕ → Option (ListElement D F)
  /-- how many elements are allocated -/
  allocated : ℕ

/-- What a call answers, and what it does with objects. -/
structure ListResult (D F : Type*) where
  /-- the value returned -/
  err : LinkedListErr
  /-- what is stored in `*data_obj` or `*data_p`, if anything is -/
  dataObj : Option (Option D)
  /-- the calls of dealloc functions, in order -/
  deallocs : List (F × D)
  deriving DecidableEq

namespace ListState

variable {D F : Type*}

/-- `linked_list_init`. -/
def linkedListInit : ListState D F := ⟨none, none, fun _ => none, 0⟩

/-! ## Memory -/

/-- Write to an element. -/
def write (s : ListState D F) (a : ℕ) (f : ListElement D F → ListElement D F) :
    Option (ListState D F) :=
  (s.mem a).map fun e => { s with mem := Function.update s.mem a (some (f e)) }

/-- `free` of an element. -/
def free (s : ListState D F) (a : ℕ) : Option (ListState D F) :=
  (s.mem a).map fun _ =>
    { s with mem := Function.update s.mem a none, allocated := s.allocated - 1 }

/-- `malloc` of an element, at the address that it answers. -/
def malloc (s : ListState D F) (a : ℕ) (e : ListElement D F) : ListState D F :=
  { s with mem := Function.update s.mem a (some e), allocated := s.allocated + 1 }

/-- Let what comes after `p` be `v`: its `next`, or `p_head` when there is no `p`. -/
def setNext (s : ListState D F) (p v : Option ℕ) : Option (ListState D F) :=
  match p with
  | none => some { s with pHead := v }
  | some p => s.write p fun e => { e with next := v }

/-- Let what comes before `n` be `v`: its `prev`, or `p_tail` when there is no `n`. -/
def setPrev (s : ListState D F) (n v : Option ℕ) : Option (ListState D F) :=
  match n with
  | none => some { s with pTail := v }
  | some n => s.write n fun e => { e with prev := v }

/-- An object and the dealloc function that was given with it. -/
abbrev Item (D F : Type*) := D × Option F

/-- The call of the dealloc function of an object, if it has one. -/
def release (x : Item D F) : List (F × D) := (x.2.map (·, x.1)).toList

/-! ## The operations -/

/-- `linked_list_add`, with the element that `malloc` answers. -/
def linkedListAdd (s : ListState D F) (dataObj : Option D) (dealloc : Option F)
    (elem : Option ℕ) : Option (ListState D F × ListResult D F) :=
  match dataObj, elem with
  | none, _ => some (s, ⟨.invalidParameter, none, []⟩)
  | some _, none => some (s, ⟨.failureGeneral, none, []⟩)
  | some d, some a => do
    let s := s.malloc a ⟨none, none, d, dealloc⟩
    let tmp := s.pHead
    let s := { s with pHead := some a }
    let s ← s.write a fun e => { e with next := tmp }
    let s ← s.setPrev tmp s.pHead
    some (s, ⟨.success, none, []⟩)

/-- `linked_list_remove`; the flag says whether `data_obj` is given. -/
def linkedListRemove (s : ListState D F) (dataObj : Bool) :
    Option (ListState D F × ListResult D F) :=
  match dataObj, s.pTail with
  | false, _ => some (s, ⟨.invalidParameter, none, []⟩)
  | true, none => some (s, ⟨.unavailableResource, none, []⟩)
  | true, some tmp => do
    let e ← s.mem tmp
    let s := { s with pTail := e.prev }
    let s ← s.setNext s.pTail none
    let e ← s.mem tmp
    let s ← s.free tmp
    some (s, ⟨.success, some (some e.dataPtr), []⟩)

/-- `linked_list_empty`. -/
def linkedListEmpty (s : ListState D F) : Bool := s.pHead.isNone

/-- The loop of `linked_list_flush`, for at most so many turns. -/
def flushLoop : ℕ → ListState D F → List (F × D) → Option (ListState D F × List (F × D))
  | 0, _, _ => none
  | n + 1, s, out =>
    match s.pHead with
    | none => some (s, out)
    | some a => do
      let e ← s.mem a
      let s ← s.free a
      flushLoop n { s with pHead := e.next } (out ++ release (e.dataPtr, e.deallocFunc))

/-- `linked_list_flush`. -/
def linkedListFlush (s : ListState D F) : Option (ListState D F × ListResult D F) := do
  let (s, out) ← flushLoop (s.allocated + 1) s []
  some ({ s with pTail := none }, ⟨.success, none, out⟩)

/-- The element `tmp` leaves the list, in `linked_list_search`. -/
def unlink (s : ListState D F) (tmp : ℕ) : Option (ListState D F) := do
  let e ← s.mem tmp
  let s ← s.setNext e.prev e.next
  let e ← s.mem tmp
  let s ← s.setPrev e.next e.prev
  s.write tmp fun e => { e with prev := none, next := none }

/-- The loop of `linked_list_search` from `tmp`, for at most so many turns; `dataP` says whether
`data_p` is given. -/
def searchLoop (dataP : Bool) (equal : D → Bool) (rmIfFound : Bool) :
    ℕ → ListState D F → Option ℕ → Option (ListState D F × Option D × List (F × D))
  | 0, _, _ => none
  | _ + 1, s, none => some (s, none, [])
  | n + 1, s, some tmp => do
    let e ← s.mem tmp
    if equal e.dataPtr then
      if rmIfFound then
        let s ← s.unlink tmp
        let e ← s.mem tmp
        let s ← s.free tmp
        some (s, some e.dataPtr, if dataP then [] else release (e.dataPtr, e.deallocFunc))
      else some (s, some e.dataPtr, [])
    else searchLoop dataP equal rmIfFound n s e.next

/-- `linked_list_search`; the comparator comes with its `data_0`. -/
def linkedListSearch (s : ListState D F) (dataP : Bool) (equal : Option (D → Bool))
    (rmIfFound : Bool) : Option (ListState D F × ListResult D F) :=
  match equal, s.pTail with
  | none, _ => some (s, ⟨.invalidHandle, none, []⟩)
  | some _, none => some (s, ⟨.unavailableResource, none, []⟩)
  | some equal, some _ => do
    let (s, found, out) ← searchLoop dataP equal rmIfFound (s.allocated + 1) s s.pHead
    some (s, ⟨.success, if dataP then some found else none, out⟩)

/-- A call on a list, with what `malloc` answers in it. -/
inductive Call (D F : Type*) where
  /-- `linked_list_add` -/
  | add (dataObj : Option D) (dealloc : Option F) (elem : Option ℕ)
  /-- `linked_list_remove` -/
  | remove (dataObj : Bool)
  /-- `linked_list_search` -/
  | search (dataP : Bool) (equal : Option (D → Bool)) (rmIfFound : Bool)
  /-- `linked_list_flush` -/
  | flush

/-- `malloc` answers `NULL`, or an address that is free. -/
def Call.Fresh (s : ListState D F) : Call D F → Prop
  | .add _ _ (some a) => s.mem a = none
  | _ => True

instance (s : ListState D F) (c : Call D F) : Decidable (c.Fresh s) :=
  match c with
  | .add _ _ (some a) => decidable_of_iff ((s.mem a).isNone = true) Option.isNone_iff_eq_none
  | .add _ _ none => isTrue trivial
  | .remove _ => isTrue trivial
  | .search _ _ _ => isTrue trivial
  | .flush => isTrue trivial

/-- A call. -/
def call (s : ListState D F) : Call D F → Option (ListState D F × ListResult D F)
  | .add dataObj dealloc elem => s.linkedListAdd dataObj dealloc elem
  | .remove dataObj => s.linkedListRemove dataObj
  | .search dataP equal rmIfFound => s.linkedListSearch dataP equal rmIfFound
  | .flush => s.linkedListFlush

/-- Calls on one list, one after the other. -/
def machine (D F : Type*) : Machine (ListState D F) (Call D F) (ListResult D F) where
  step s c := if c.Fresh s then (s.call c).map fun r => (r.1, [r.2]) else none

/-! ## Following the pointers -/

/-- The `next` of an element. -/
def next (s : ListState D F) (a : ℕ) : Option ℕ := (s.mem a).bind (·.next)

/-- The `prev` of an element. -/
def prev (s : ListState D F) (a : ℕ) : Option ℕ := (s.mem a).bind (·.prev)

/-- The object of an element, with its dealloc function. -/
def item (s : ListState D F) (a : ℕ) : Option (Item D F) :=
  (s.mem a).map fun e => (e.dataPtr, e.deallocFunc)

/-- The objects found on following `next`, for so many elements. -/
def itemsFrom (s : ListState D F) : ℕ → Option ℕ → List (Item D F)
  | 0, _ => []
  | _ + 1, none => []
  | n + 1, some a => (s.item a).toList ++ s.itemsFrom n (s.next a)

/-- The list of objects that a state stands for, first one first. -/
def items (s : ListState D F) : List (Item D F) := s.itemsFrom s.allocated s.pHead

/-- What a call does to the list of objects, and what it answers. -/
def spec (items : List (Item D F)) : Call D F → List (Item D F) × ListResult D F
  | .add none _ _ => (items, ⟨.invalidParameter, none, []⟩)
  | .add (some _) _ none => (items, ⟨.failureGeneral, none, []⟩)
  | .add (some d) dealloc (some _) => ((d, dealloc) :: items, ⟨.success, none, []⟩)
  | .remove false => (items, ⟨.invalidParameter, none, []⟩)
  | .remove true =>
    match items.getLast? with
    | none => (items, ⟨.unavailableResource, none, []⟩)
    | some x => (items.dropLast, ⟨.success, some (some x.1), []⟩)
  | .search _ none _ => (items, ⟨.invalidHandle, none, []⟩)
  | .search dataP (some equal) rmIfFound =>
    if items = [] then (items, ⟨.unavailableResource, none, []⟩)
    else
      let found := items.find? fun x => equal x.1
      (if rmIfFound then items.eraseP fun x => equal x.1 else items,
        ⟨.success, if dataP then some (found.map (·.1)) else none,
          if rmIfFound && !dataP then found.elim [] release else []⟩)
  | .flush => ([], ⟨.success, none, items.flatMap release⟩)

/-- The elements of the list, first one first, are the elements that are allocated, and the
pointers run through them. -/
structure Cells (s : ListState D F) (l : List ℕ) : Prop where
  /-- every element is in the list once -/
  nodup : l.Nodup
  /-- `p_head` points to the first element -/
  head : s.pHead = l.head?
  /-- `p_tail` points to the last element -/
  tail : s.pTail = l.getLast?
  /-- the elements point to their neighbours -/
  linked : Linked s.next s.prev none l none
  /-- the elements of the list are the ones that are allocated -/
  mem_iff : ∀ a, (s.item a).isSome = true ↔ a ∈ l
  /-- and so many -/
  count : s.allocated = l.length

variable {s s' s₁ : ListState D F} {a c : ℕ} {e : ListElement D F} {p v : Option ℕ}
  {l l₁ l₂ : List ℕ} {x : Item D F}

/-! ### Views of the memory -/

/-- An element that has an object can be read, and the views are what it holds. -/
theorem mem_of_item (h : (s.item a).isSome = true) :
    ∃ e, s.mem a = some e ∧ s.next a = e.next ∧ s.prev a = e.prev ∧
      s.item a = some (e.dataPtr, e.deallocFunc) := by
  obtain ⟨e, he⟩ : ∃ e, s.mem a = some e := by
    apply Option.isSome_iff_exists.mp
    simpa [item] using h
  exact ⟨e, he, by simp [next, he], by simp [prev, he], by simp [item, he]⟩

/-- A write changes one element. -/
theorem write_spec (he : s.mem a = some e) (f : ListElement D F → ListElement D F) :
    ∃ s', s.write a f = some s' ∧ s'.pHead = s.pHead ∧ s'.pTail = s.pTail ∧
      s'.allocated = s.allocated ∧ ∀ b, s'.mem b = if b = a then some (f e) else s.mem b := by
  refine ⟨_, Option.map_eq_some_iff.mpr ⟨e, he, rfl⟩, rfl, rfl, rfl, fun b => ?_⟩
  exact Function.update_apply s.mem a (some (f e)) b

/-- After `setNext`, one pointer is another one. -/
theorem setNext_spec (hp : ∀ a, p = some a → (s.item a).isSome = true) (v : Option ℕ) :
    ∃ s', s.setNext p v = some s' ∧ s'.pHead = (if p = none then v else s.pHead) ∧
      s'.pTail = s.pTail ∧ (∀ a, s'.next a = if p = some a then v else s.next a) ∧
      (∀ a, s'.prev a = s.prev a) ∧ (∀ a, s'.item a = s.item a) ∧
      s'.allocated = s.allocated := by
  cases p with
  | none => exact ⟨_, rfl, by simp, rfl, by simp [next], fun _ => rfl, fun _ => rfl, rfl⟩
  | some a =>
    obtain ⟨e, he, -⟩ := mem_of_item (hp a rfl)
    obtain ⟨s', hs', hhead, htail, hcount, hmem⟩ := write_spec he fun e => { e with next := v }
    refine ⟨s', hs', by simp [hhead], htail, ?_, ?_, ?_, hcount⟩
    all_goals
      intro b
      by_cases hb : b = a
      · subst hb
        simp [next, prev, item, hmem, he]
      · simp [next, prev, item, hmem, hb, Ne.symm hb]

/-- After `setPrev`, one pointer is another one. -/
theorem setPrev_spec (hp : ∀ a, p = some a → (s.item a).isSome = true) (v : Option ℕ) :
    ∃ s', s.setPrev p v = some s' ∧ s'.pTail = (if p = none then v else s.pTail) ∧
      s'.pHead = s.pHead ∧ (∀ a, s'.prev a = if p = some a then v else s.prev a) ∧
      (∀ a, s'.next a = s.next a) ∧ (∀ a, s'.item a = s.item a) ∧
      s'.allocated = s.allocated := by
  cases p with
  | none => exact ⟨_, rfl, by simp, rfl, by simp [prev], fun _ => rfl, fun _ => rfl, rfl⟩
  | some a =>
    obtain ⟨e, he, -⟩ := mem_of_item (hp a rfl)
    obtain ⟨s', hs', hhead, htail, hcount, hmem⟩ := write_spec he fun e => { e with prev := v }
    refine ⟨s', hs', by simp [htail], hhead, ?_, ?_, ?_, hcount⟩
    all_goals
      intro b
      by_cases hb : b = a
      · subst hb
        simp [next, prev, item, hmem, he]
      · simp [next, prev, item, hmem, hb, Ne.symm hb]

/-- After `free`, one element is gone. -/
theorem free_spec (he : s.mem a = some e) :
    ∃ s', s.free a = some s' ∧ s'.pHead = s.pHead ∧ s'.pTail = s.pTail ∧
      s'.allocated = s.allocated - 1 ∧ (∀ b, b ≠ a → s'.next b = s.next b ∧ s'.prev b = s.prev b ∧
      s'.item b = s.item b) ∧ s'.item a = none := by
  refine ⟨_, Option.map_eq_some_iff.mpr ⟨e, he, rfl⟩, rfl, rfl, rfl, fun b hb => ?_, by simp [item]⟩
  simp [next, prev, item, hb]

/-! ### The list a state stands for -/

/-- The elements of a part of the list are those that following `next` visits. -/
theorem itemsFrom_eq (h : Linked s.next s.prev p l none) :
    s.itemsFrom l.length l.head? = l.filterMap s.item := by
  induction l generalizing p with
  | nil => rfl
  | cons a l ih =>
    obtain ⟨-, hnext, hrest⟩ := h
    rw [Option.or_none] at hnext
    rw [List.length_cons, List.head?_cons, itemsFrom, hnext, ih hrest, List.filterMap_cons]
    cases s.item a <;> rfl

theorem Cells.items (h : Cells s l) : s.items = l.filterMap s.item := by
  rw [ListState.items, h.count, h.head]
  exact itemsFrom_eq h.linked

/-- Elements that keep their objects stand for the same list. -/
theorem filterMap_item_congr (h : ∀ a ∈ l, s'.item a = s.item a) :
    l.filterMap s'.item = l.filterMap s.item :=
  List.filterMap_congr h

/-- An element of the list has an object. -/
theorem Cells.item (h : Cells s l) (ha : a ∈ l) :
    ∃ e, s.mem a = some e ∧ s.next a = e.next ∧ s.prev a = e.prev ∧
      s.item a = some (e.dataPtr, e.deallocFunc) :=
  mem_of_item ((h.mem_iff a).mpr ha)

/-- The list of objects is empty only when there are no elements. -/
theorem Cells.items_eq_nil (h : Cells s l) : s.items = [] ↔ l = [] := by
  rw [h.items]
  constructor
  · intro hnil
    refine List.eq_nil_iff_forall_not_mem.mpr fun a ha => ?_
    obtain ⟨e, -, -, -, hitem⟩ := h.item ha
    exact absurd (List.filterMap_eq_nil_iff.mp hnil a ha) (by simp [hitem])
  · rintro rfl
    rfl

/-- Every element has its object. -/
theorem Cells.map_item (h : Cells s l) : l.map s.item = s.items.map some := by
  rw [h.items, List.map_filterMap_some_eq_filter_map_isSome]
  refine (List.filter_eq_self.mpr ?_).symm
  intro x hx
  obtain ⟨a, ha, rfl⟩ := List.mem_map.mp hx
  exact (h.mem_iff a).mpr ha

theorem cells_init : Cells (linkedListInit : ListState D F) [] :=
  ⟨List.nodup_nil, rfl, rfl, trivial, by simp [linkedListInit, ListState.item], rfl⟩

/-! ## The operations keep the invariant -/

/-- `linked_list_add` puts an element in front. -/
theorem Cells.add (h : Cells s l) (hfresh : s.mem c = none) (d : D) (f : Option F) :
    ∃ s', s.linkedListAdd (some d) f (some c) = some (s', ⟨.success, none, []⟩) ∧
      Cells s' (c :: l) ∧ s'.items = (d, f) :: s.items := by
  have hc : c ∉ l := by
    intro hc
    obtain ⟨e, he, -⟩ := h.item hc
    rw [hfresh] at he
    cases he
  -- the new element, before the old first element points to it
  have hmalloc : ∀ b, (s.malloc c ⟨none, none, d, f⟩).mem b =
      if b = c then some ⟨none, none, d, f⟩ else s.mem b := Function.update_apply s.mem c _
  obtain ⟨s₁, hs₁, hhead₁, htail₁, hcount₁, hmem₁⟩ :=
    write_spec (s := { s.malloc c ⟨none, none, d, f⟩ with pHead := some c })
      ((hmalloc c).trans (if_pos rfl)) fun e => { e with next := s.pHead }
  have hview : ∀ b, b ≠ c → s₁.next b = s.next b ∧ s₁.prev b = s.prev b ∧
      s₁.item b = s.item b := by
    intro b hb
    simp [next, prev, ListState.item, hmem₁, hmalloc, hb]
  have hnext₁ : s₁.next c = s.pHead := by simp [next, hmem₁]
  have hprev₁ : s₁.prev c = none := by simp [prev, hmem₁]
  have hitem₁ : s₁.item c = some (d, f) := by simp [ListState.item, hmem₁]
  have hne : ∀ b ∈ l, b ≠ c := by
    rintro b hb rfl
    exact hc hb
  obtain ⟨s', hs', htail', hhead', hprev', hnext', hitem', hcount'⟩ :=
    setPrev_spec (s := s₁) (p := s.pHead) (v := some c) <| by
      intro a ha
      have hal : a ∈ l := List.mem_of_head? (h.head ▸ ha)
      rw [(hview a (hne a hal)).2.2]
      exact (h.mem_iff a).mpr hal
  have hcells : Cells s' (c :: l) := by
    refine ⟨List.nodup_cons.mpr ⟨hc, h.nodup⟩, hhead'.trans hhead₁, ?_, ?_, ?_, ?_⟩
    · -- the tail moves when the list was empty
      rw [htail', htail₁, List.getLast?_cons, h.head]
      cases l with
      | nil => rfl
      | cons b l =>
        rw [if_neg (by rw [List.head?_cons]; exact Option.some_ne_none b)]
        exact h.tail.trans (by rw [List.getLast?_cons]; rfl)
    · have hlinked : Linked s'.next s'.prev none ([] ++ c :: l) none := by
        refine Linked.insert h.linked h.nodup ⟨?_, ?_⟩ ?_ ?_
        · rw [hnext', hnext₁, h.head]
        · rw [hprev', hprev₁, if_neg]
          · rfl
          · intro heq
            exact hc (List.mem_of_head? (h.head ▸ heq))
        · intro b hb
          rw [hnext', (hview b (hne b hb)).1, if_neg (by simp)]
        · intro b hb
          rw [hprev', (hview b (hne b hb)).2.1, h.head]
      exact hlinked
    · intro b
      rw [hitem']
      by_cases hb : b = c
      · simp [hb, hitem₁]
      · rw [(hview b hb).2.2, h.mem_iff]
        simp [hb]
    · rw [hcount', hcount₁, List.length_cons, ← h.count]
      rfl
  refine ⟨s', ?_, hcells, ?_⟩
  · have hs₁' : s₁.pHead = some c := hhead₁
    simp only [linkedListAdd, malloc] at hs₁ ⊢
    simp [hs₁, hs₁', hs']
  · rw [hcells.items, h.items, List.filterMap_cons, hitem', hitem₁]
    refine congrArg _ (filterMap_item_congr fun b hb => ?_)
    rw [hitem', (hview b (hne b hb)).2.2]

/-- The pointers of an element in the middle of the list. -/
theorem Cells.at (h : Cells s (l₁ ++ c :: l₂)) :
    ∃ e, s.mem c = some e ∧ e.prev = l₁.getLast? ∧ e.next = l₂.head? ∧
      s.item c = some (e.dataPtr, e.deallocFunc) := by
  obtain ⟨e, he, hnext, hprev, hitem⟩ := h.item (a := c) (by simp)
  obtain ⟨-, hp, hn, -⟩ := linked_append.mp h.linked
  refine ⟨e, he, ?_, ?_, hitem⟩
  · rw [← hprev, hp, Option.or_none]
  · rw [← hnext, hn, Option.or_none]

/-- When one element is freed and its neighbours point past it, the others are a list. -/
theorem Cells.erase (h : Cells s (l₁ ++ c :: l₂))
    (hhead : s'.pHead = if l₁.getLast? = none then l₂.head? else s.pHead)
    (htail : s'.pTail = if l₂.head? = none then l₁.getLast? else s.pTail)
    (hnext : ∀ b, b ≠ c → s'.next b = if l₁.getLast? = some b then l₂.head? else s.next b)
    (hprev : ∀ b, b ≠ c → s'.prev b = if l₂.head? = some b then l₁.getLast? else s.prev b)
    (hitem : ∀ b, b ≠ c → s'.item b = s.item b) (hfree : s'.item c = none)
    (hcount : s'.allocated = s.allocated - 1) : Cells s' (l₁ ++ l₂) := by
  have hnodup : c ∉ l₁ ++ l₂ ∧ (l₁ ++ l₂).Nodup :=
    List.nodup_cons.mp (List.perm_middle.nodup_iff.mp h.nodup)
  have hne : ∀ b ∈ l₁ ++ l₂, b ≠ c := by
    rintro b hb rfl
    exact hnodup.1 hb
  refine ⟨hnodup.2, ?_, ?_, ?_, ?_, ?_⟩
  · rw [hhead, h.head]
    cases l₁ with
    | nil => rfl
    | cons a l₁ => rw [if_neg (by simp)]; rfl
  · rw [htail, h.tail]
    cases l₂ with
    | nil => simp
    | cons a l₂ => rw [if_neg (by simp)]; simp
  · exact Linked.erase h.linked h.nodup (fun b hb => hnext b (hne b hb))
      fun b hb => hprev b (hne b hb)
  · intro b
    by_cases hb : b = c
    · subst hb
      simpa [hfree] using hnodup.1
    · rw [hitem b hb, h.mem_iff]
      simp [hb]
  · rw [hcount, h.count]
    simp

/-- An element leaves the list, and is freed. -/
theorem Cells.unlink (h : Cells s (l₁ ++ c :: l₂)) :
    ∃ s₁ s' e, s.item c = some (e.dataPtr, e.deallocFunc) ∧ s.unlink c = some s₁ ∧
      s₁.mem c = some e ∧ s₁.free c = some s' ∧ Cells s' (l₁ ++ l₂) ∧
      ∀ a ∈ l₁ ++ l₂, s'.item a = s.item a := by
  obtain ⟨hc, -⟩ := List.nodup_cons.mp (List.perm_middle.nodup_iff.mp h.nodup)
  have hc₁ : l₁.getLast? ≠ some c := fun heq =>
    hc (List.mem_append_left l₂ (List.mem_of_getLast? heq))
  obtain ⟨e, he, hep, hen, hitem⟩ := h.at
  -- the neighbours point past the element
  obtain ⟨s₁, hs₁, hhead₁, htail₁, hnext₁, hprev₁, hitem₁, hcount₁⟩ :=
    setNext_spec (s := s) (p := e.prev) (v := e.next) <| by
      intro a ha
      apply (h.mem_iff a).mpr
      exact List.mem_append_left _ (List.mem_of_getLast? (hep ▸ ha))
  obtain ⟨e₁, he₁, hen₁, hep₁, hee₁⟩ :=
    mem_of_item (s := s₁) (a := c) (by rw [hitem₁, hitem]; rfl)
  have hen' : e₁.next = e.next := by
    rw [← hen₁, hnext₁, if_neg (by rwa [hep])]
    simp [next, he]
  have hep' : e₁.prev = e.prev := by
    rw [← hep₁, hprev₁]
    simp [prev, he]
  obtain ⟨s₂, hs₂, htail₂, hhead₂, hprev₂, hnext₂, hitem₂, hcount₂⟩ :=
    setPrev_spec (s := s₁) (p := e₁.next) (v := e₁.prev) <| by
      intro a ha
      rw [hitem₁]
      apply (h.mem_iff a).mpr
      rw [hen', hen] at ha
      exact List.mem_append_right _ (List.mem_cons_of_mem c (List.mem_of_head? ha))
  -- its own pointers are cleared, and it is freed
  obtain ⟨e₂, he₂, -, -, hee₂⟩ :=
    mem_of_item (s := s₂) (a := c) (by rw [hitem₂, hitem₁, hitem]; rfl)
  obtain ⟨s₃, hs₃, hhead₃, htail₃, hcount₃, hmem₃⟩ :=
    write_spec he₂ fun e => { e with prev := none, next := none }
  have hview₃ : ∀ b, b ≠ c → s₃.next b = s₂.next b ∧ s₃.prev b = s₂.prev b ∧
      s₃.item b = s₂.item b := by
    intro b hb
    simp [next, prev, ListState.item, hmem₃, hb]
  obtain ⟨s', hs', hhead', htail', hcount', hview', hfree'⟩ :=
    free_spec ((hmem₃ c).trans (if_pos rfl))
  refine ⟨s₃, s', _, ?_, ?_, (hmem₃ c).trans (if_pos rfl), hs', ?_, ?_⟩
  · rw [← hitem₁, ← hitem₂, hee₂]
  · simp [ListState.unlink, he, hs₁, he₁, hs₂, hs₃]
  · refine h.erase ?_ ?_ ?_ ?_ ?_ hfree' ?_
    · rw [hhead', hhead₃, hhead₂, hhead₁, hep, hen]
    · rw [htail', htail₃, htail₂, htail₁, hen', hep', hep, hen]
    · intro b hb
      rw [(hview' b hb).1, (hview₃ b hb).1, hnext₂, hnext₁, hep, hen]
    · intro b hb
      rw [(hview' b hb).2.1, (hview₃ b hb).2.1, hprev₂, hprev₁, hen', hep', hep, hen]
    · intro b hb
      rw [(hview' b hb).2.2, (hview₃ b hb).2.2, hitem₂, hitem₁]
    · rw [hcount', hcount₃, hcount₂, hcount₁]
  · intro b hb
    have hbc : b ≠ c := by
      rintro rfl
      exact hc hb
    rw [(hview' b hbc).2.2, (hview₃ b hbc).2.2, hitem₂, hitem₁]

/-- `linked_list_remove` takes the last element. -/
theorem Cells.remove (h : Cells s (l ++ [c])) :
    ∃ s' d f, s.item c = some (d, f) ∧
      s.linkedListRemove true = some (s', ⟨.success, some (some d), []⟩) ∧
      Cells s' l ∧ ∀ a ∈ l, s'.item a = s.item a := by
  obtain ⟨hc, -⟩ := List.nodup_cons.mp (List.perm_middle.nodup_iff.mp h.nodup)
  rw [List.append_nil] at hc
  have htail : s.pTail = some c := by rw [h.tail, List.getLast?_concat]
  obtain ⟨e, he, hep, -, hitem⟩ := h.at
  have hitem₀ : ∀ b, ({ s with pTail := e.prev } : ListState D F).item b = s.item b :=
    fun _ => rfl
  obtain ⟨s₁, hs₁, hhead₁, htail₁, hnext₁, hprev₁, hitem₁, hcount₁⟩ :=
    setNext_spec (s := { s with pTail := e.prev }) (p := e.prev) (v := none) <| by
      intro a ha
      rw [hitem₀]
      apply (h.mem_iff a).mpr
      exact List.mem_append_left _ (List.mem_of_getLast? (hep ▸ ha))
  obtain ⟨e₁, he₁, -, -, hee₁⟩ :=
    mem_of_item (s := s₁) (a := c) (by rw [hitem₁, hitem₀, hitem]; rfl)
  obtain ⟨s', hs', hhead', htail', hcount', hview', hfree'⟩ := free_spec he₁
  have hitem' : ∀ b, b ≠ c → s'.item b = s.item b := by
    intro b hb
    rw [(hview' b hb).2.2, hitem₁, hitem₀]
  refine ⟨s', e₁.dataPtr, e₁.deallocFunc, ?_, ?_, ?_, ?_⟩
  · rw [← hitem₀, ← hitem₁, hee₁]
  · simp [linkedListRemove, htail, he, hs₁, he₁, hs']
  · rw [← l.append_nil]
    refine h.erase ?_ ?_ ?_ ?_ hitem' hfree' ?_
    · rw [hhead', hhead₁, hep]
      rfl
    · rw [htail', htail₁, hep]
      rfl
    · intro b hb
      rw [(hview' b hb).1, hnext₁, hep]
      rfl
    · intro b hb
      rw [(hview' b hb).2.1, hprev₁, if_neg (by simp)]
      rfl
    · rw [hcount', hcount₁]
  · intro b hb
    apply hitem' b
    rintro rfl
    exact hc hb

/-- The loop of `linked_list_flush` goes through the list from its head on, and frees what it
has passed. -/
theorem flushLoop_spec {n : ℕ} (hn : l.length < n) (out : List (F × D)) (hnodup : l.Nodup)
    (hhead : s.pHead = l.head?) (hlinked : Linked s.next s.prev p l none)
    (hmem : ∀ a, (s.item a).isSome = true ↔ a ∈ l) (hcount : s.allocated = l.length) :
    ∃ s', flushLoop n s out = some (s', out ++ (l.filterMap s.item).flatMap release) ∧
      s'.pHead = none ∧ (∀ a, s'.item a = none) ∧ s'.allocated = 0 := by
  induction l generalizing n s p out with
  | nil =>
    obtain ⟨m, rfl⟩ := Nat.exists_eq_add_one.mpr hn
    refine ⟨s, by simp [flushLoop, hhead], hhead, fun a => ?_, hcount⟩
    simpa using (hmem a).mp
  | cons a l ih =>
    obtain ⟨m, rfl⟩ := Nat.exists_eq_add_one.mpr (Nat.zero_lt_of_lt hn)
    obtain ⟨hal, hnodup'⟩ := List.nodup_cons.mp hnodup
    obtain ⟨-, hnext, hrest⟩ := hlinked
    have hne : ∀ b ∈ l, b ≠ a := by
      rintro b hb rfl
      exact hal hb
    obtain ⟨e, he, hen, -, hee⟩ := mem_of_item ((hmem a).mpr List.mem_cons_self)
    obtain ⟨s₁, hs₁, hhead₁, htail₁, hcount₁, hview₁, hfree₁⟩ := free_spec he
    have hitem₁ : ({ s₁ with pHead := e.next } : ListState D F).item = s₁.item := rfl
    have hloop := ih (s := { s₁ with pHead := e.next }) (p := some a) (n := m)
      (by simpa using hn) (out ++ release (e.dataPtr, e.deallocFunc)) hnodup' ?_ ?_ ?_ ?_
    · obtain ⟨s', hs', hspec⟩ := hloop
      refine ⟨s', ?_, hspec⟩
      have hsame : l.filterMap s₁.item = l.filterMap s.item :=
        filterMap_item_congr fun b hb => (hview₁ b (hne b hb)).2.2
      have hcons : (a :: l).filterMap s.item =
          (e.dataPtr, e.deallocFunc) :: l.filterMap s.item := by
        rw [List.filterMap_cons, hee]
      rw [flushLoop, hhead, hcons, List.flatMap_cons, ← List.append_assoc, ← hsame]
      rw [hitem₁, List.append_assoc] at hs'
      simpa [he, hs₁] using hs'
    · rw [← hen, hnext, Option.or_none]
    · exact hrest.congr fun b hb => ⟨(hview₁ b (hne b hb)).1, (hview₁ b (hne b hb)).2.1⟩
    · intro b
      rw [hitem₁]
      by_cases hb : b = a
      · subst hb
        simpa [hfree₁] using hal
      · rw [(hview₁ b hb).2.2, hmem]
        simp [hb]
    · rw [hcount₁, hcount]
      rfl

/-- `linked_list_flush` empties the list. -/
theorem Cells.flush (h : Cells s l) :
    ∃ s', s.linkedListFlush = some (s', ⟨.success, none, s.items.flatMap release⟩) ∧
      Cells s' [] := by
  obtain ⟨s', hs', hhead, hitem, hcount⟩ := flushLoop_spec (n := s.allocated + 1)
    (by rw [h.count]; omega) [] h.nodup h.head h.linked h.mem_iff h.count
  refine ⟨{ s' with pTail := none }, ?_, List.nodup_nil, hhead, rfl, trivial, ?_, hcount⟩
  · simp [linkedListFlush, hs', h.items]
  · intro a
    have ha : ({ s' with pTail := none } : ListState D F).item a = none := hitem a
    simp [ha]

/-- The loop of `linked_list_search`, with `l₁` passed and `l₂` before it. -/
theorem searchLoop_spec (dataP rmIfFound : Bool) (equal : D → Bool) {n : ℕ} (hn : l₂.length < n)
    (h : Cells s (l₁ ++ l₂)) :
    ∃ s' l, searchLoop dataP equal rmIfFound n s l₂.head? = some (s',
        ((l₂.filterMap s.item).find? fun x => equal x.1).map (·.1),
        if rmIfFound && !dataP then
          ((l₂.filterMap s.item).find? fun x => equal x.1).elim [] release else []) ∧
      Cells s' l ∧ s'.items = l₁.filterMap s.item ++
        if rmIfFound then (l₂.filterMap s.item).eraseP fun x => equal x.1
        else l₂.filterMap s.item := by
  induction l₂ generalizing l₁ n with
  | nil =>
    obtain ⟨m, rfl⟩ := Nat.exists_eq_add_one.mpr hn
    refine ⟨s, _, by simp [searchLoop], h, ?_⟩
    rw [h.items]
    simp
  | cons c l₂ ih =>
    obtain ⟨m, rfl⟩ := Nat.exists_eq_add_one.mpr (Nat.zero_lt_of_lt hn)
    obtain ⟨e, he, -, hen, hee⟩ := h.at
    have hcons : (c :: l₂).filterMap s.item =
        (e.dataPtr, e.deallocFunc) :: l₂.filterMap s.item := by
      rw [List.filterMap_cons, hee]
    rw [hcons]
    by_cases heq : equal e.dataPtr = true
    · cases rmIfFound with
      | false =>
        refine ⟨s, _, by simp [searchLoop, he, heq], h, ?_⟩
        rw [h.items, List.filterMap_append, hcons]
        rfl
      | true =>
        obtain ⟨s₁, s', e₁, hee₁, hs₁, he₁, hs', hcells, hsame⟩ := h.unlink
        obtain ⟨hd, hf⟩ := Prod.mk.inj (Option.some.inj (hee.symm.trans hee₁))
        refine ⟨s', _, ?_, hcells, ?_⟩
        · simp [searchLoop, he, heq, hs₁, he₁, hs', ← hd, ← hf]
          cases dataP <;> rfl
        · rw [hcells.items, filterMap_item_congr hsame, List.filterMap_append]
          simp [heq]
    · -- the walk goes on behind this element
      rw [← List.singleton_append, ← List.append_assoc] at h
      obtain ⟨s', l, hloop, hcells, hitems⟩ := ih (n := m) (by simpa using hn) h
      refine ⟨s', l, ?_, hcells, ?_⟩
      · simpa [searchLoop, he, heq, hen] using hloop
      · rw [hitems, List.filterMap_append, List.filterMap_cons, hee]
        cases rmIfFound <;> simp [heq]

/-- `linked_list_remove` on any list. -/
theorem Cells.remove_spec (h : Cells s l) :
    ∃ s' l' r, s.linkedListRemove true = some (s', r) ∧ Cells s' l' ∧
      (s'.items, r) = spec s.items (.remove true) := by
  induction l using List.reverseRecOn with
  | nil =>
    refine ⟨s, [], ⟨.unavailableResource, none, []⟩, ?_, h, ?_⟩
    · simp [linkedListRemove, h.tail]
    · rw [h.items_eq_nil.mpr rfl]
      rfl
  | append_singleton l a =>
    obtain ⟨s', d, f, hitem, hs', hcells, hsame⟩ := h.remove
    have hitems : s.items = l.filterMap s.item ++ [(d, f)] := by
      rw [h.items, List.filterMap_append]
      simp [hitem]
    refine ⟨s', l, _, hs', hcells, ?_⟩
    rw [hcells.items, filterMap_item_congr hsame]
    simp [spec, hitems]

/-- `linked_list_search` on any list. -/
theorem Cells.search_spec (h : Cells s l) (dataP rmIfFound : Bool) (equal : D → Bool) :
    ∃ s' l' r, s.linkedListSearch dataP (some equal) rmIfFound = some (s', r) ∧ Cells s' l' ∧
      (s'.items, r) = spec s.items (.search dataP (some equal) rmIfFound) := by
  by_cases hl : l = []
  · subst hl
    refine ⟨s, [], ⟨.unavailableResource, none, []⟩, ?_, h, ?_⟩
    · simp [linkedListSearch, h.tail]
    · rw [spec, if_pos (h.items_eq_nil.mpr rfl)]
  · obtain ⟨t, ht⟩ : ∃ t, s.pTail = some t := by
      rw [h.tail]
      exact ⟨_, List.getLast?_eq_some_getLast hl⟩
    -- nothing is passed yet
    have hpassed : Cells s ([] ++ l) := h
    obtain ⟨s', l', hloop, hcells, hitems⟩ :=
      searchLoop_spec dataP rmIfFound equal (n := s.allocated + 1) (by rw [h.count]; omega) hpassed
    have hitems' : s.items ≠ [] := by rwa [Ne, h.items_eq_nil]
    refine ⟨s', l', (spec s.items (.search dataP (some equal) rmIfFound)).2, ?_, hcells, ?_⟩
    · rw [← h.items] at hloop
      simp only [linkedListSearch, ht, h.head, hloop, spec, if_neg hitems']
      rfl
    · rw [hitems, spec, if_neg hitems', ← h.items]
      rfl

/-- Every call answers, and does to the list what it should. -/
theorem call_spec (h : Cells s l) (c : Call D F) (hfresh : c.Fresh s) :
    ∃ s' l' r, s.call c = some (s', r) ∧ Cells s' l' ∧ (s'.items, r) = spec s.items c := by
  cases c with
  | add dataObj f elem =>
    cases dataObj with
    | none => exact ⟨s, l, _, rfl, h, rfl⟩
    | some d =>
      cases elem with
      | none => exact ⟨s, l, _, rfl, h, rfl⟩
      | some a =>
        obtain ⟨s', hs', hcells, hitems⟩ := h.add hfresh d f
        exact ⟨s', _, _, hs', hcells, by rw [hitems]; rfl⟩
  | remove dataObj =>
    cases dataObj with
    | false => exact ⟨s, l, _, rfl, h, rfl⟩
    | true => exact h.remove_spec
  | search dataP equal rmIfFound =>
    cases equal with
    | none => exact ⟨s, l, _, rfl, h, rfl⟩
    | some equal => exact h.search_spec dataP rmIfFound equal
  | flush =>
    obtain ⟨s', hs', hcells⟩ := h.flush
    exact ⟨s', [], _, hs', hcells, by rw [hcells.items_eq_nil.mpr rfl]; rfl⟩

/-! ## Who owns the objects -/

/-- The objects that a call gives to the list. -/
def Call.given : Call D F → ListResult D F → List (Item D F)
  | .add (some d) f _, r => if r.err = .success then [(d, f)] else []
  | _, _ => []

/-- The objects that a call takes out of the list and hands back. A search that does not remove
what it finds only lends it. -/
def Call.handedBack : Call D F → ListResult D F → List D
  | .remove _, r => (r.dataObj.bind id).toList
  | .search _ _ true, r => (r.dataObj.bind id).toList
  | _, _ => []

/-- The objects whose dealloc functions were called, with these functions. -/
def released (r : ListResult D F) : List (Item D F) :=
  r.deallocs.map fun q => (q.2, some q.1)

/-- Of the objects that were given, some are in the list, some were handed back, some were
released, and some have no dealloc function and were dropped. -/
def Balanced (given items : Multiset (Item D F)) (handedBack : Multiset D)
    (released : Multiset (Item D F)) : Prop :=
  ∃ back dropped : Multiset (Item D F), given = items + back + released + dropped ∧
    back.map Prod.fst = handedBack ∧ ∀ x ∈ dropped, x.2 = none

/-- Releasing objects drops those without a dealloc function. -/
theorem perm_release (l : List (Item D F)) :
    l.Perm
      ((l.flatMap release).map (fun q => (q.2, some q.1)) ++ l.filter fun x => x.2.isNone) := by
  induction l with
  | nil => exact List.Perm.nil
  | cons x l ih =>
    obtain ⟨d, f⟩ := x
    cases f with
    | none => exact (ih.cons _).trans List.perm_middle.symm
    | some f => exact ih.cons _

/-- A call that leaves the list alone. -/
theorem balanced_self (items : Multiset (Item D F)) : Balanced items items 0 0 :=
  ⟨0, 0, by simp, rfl, by simp⟩

/-- One object is handed back. -/
theorem balanced_back {items l : List (Item D F)} (h : items.Perm (x :: l)) :
    Balanced (items : Multiset (Item D F)) l {x.1} 0 := by
  refine ⟨{x}, 0, ?_, rfl, by simp⟩
  rw [Multiset.coe_eq_coe.mpr h, ← Multiset.cons_coe, ← Multiset.singleton_add, add_zero,
    add_zero, add_comm]

/-- Some objects are released, or dropped. -/
theorem balanced_release {items l l' : List (Item D F)} (h : items.Perm (l ++ l')) :
    Balanced (items : Multiset (Item D F)) l' 0
      ((l.flatMap release).map fun q => (q.2, some q.1) : List (Item D F)) := by
  refine ⟨0, (l.filter fun x => x.2.isNone : List (Item D F)), ?_, rfl, ?_⟩
  · rw [Multiset.coe_eq_coe.mpr h, ← Multiset.coe_add, Multiset.coe_eq_coe.mpr (perm_release l),
      ← Multiset.coe_add, add_zero, add_comm, add_assoc]
  · intro x hx
    simpa using (List.mem_filter.mp (Multiset.mem_coe.mp hx)).2

/-- What is found comes first, up to order. -/
theorem perm_of_find {items : List (Item D F)} {q : Item D F → Bool} (h : items.find? q = some x) :
    items.Perm (x :: items.eraseP q) := by
  obtain ⟨hx, l, l', rfl, hl⟩ := List.find?_eq_some_iff_append.mp h
  rw [List.eraseP_append_right _ (by simpa using hl), List.eraseP_cons_of_pos hx]
  exact List.perm_middle

/-- What a search takes out of the list. -/
theorem balanced_search (items : List (Item D F)) (dataP rmIfFound : Bool) (equal : D → Bool) :
    Balanced (items : Multiset (Item D F)) (spec items (.search dataP (some equal) rmIfFound)).1
      ((Call.search (F := F) dataP (some equal) rmIfFound).handedBack
        (spec items (.search dataP (some equal) rmIfFound)).2)
      (released (spec items (.search dataP (some equal) rmIfFound)).2) := by
  by_cases hnil : items = []
  · rw [spec, if_pos hnil]
    cases rmIfFound <;> exact balanced_self _
  · rw [spec, if_neg hnil]
    cases rmIfFound with
    | false => exact balanced_self _
    | true =>
      cases hfound : items.find? fun x => equal x.1 with
      | none =>
        have hnone : items.eraseP (fun x => equal x.1) = items :=
          List.eraseP_of_forall_not fun x hx => List.find?_eq_none.mp hfound x hx
        cases dataP <;> simpa [Call.handedBack, released, hnone, hfound] using balanced_self _
      | some x =>
        cases dataP with
        | true =>
          simpa [Call.handedBack, released, hfound] using balanced_back (perm_of_find hfound)
        | false =>
          simpa [Call.handedBack, released, hfound] using
            balanced_release (l := [x]) (perm_of_find hfound)

/-- What a call gives to the list and takes out of it. -/
theorem spec_balanced (items : List (Item D F)) (c : Call D F) :
    Balanced ((items ++ c.given (spec items c).2 : List (Item D F)) : Multiset (Item D F))
      (spec items c).1 (c.handedBack (spec items c).2) (released (spec items c).2) := by
  cases c with
  | add dataObj f elem =>
    cases dataObj with
    | none =>
      simp only [Call.given, List.append_nil]
      exact balanced_self _
    | some d =>
      cases elem with
      | none =>
        simp only [Call.given, spec, reduceCtorEq, if_false, List.append_nil]
        exact balanced_self _
      | some a =>
        have hperm : (items ++ [(d, f)]).Perm ((d, f) :: items) := List.perm_append_comm
        rw [spec, Call.given, if_pos rfl, Multiset.coe_eq_coe.mpr hperm]
        exact balanced_self _
  | remove dataObj =>
    simp only [Call.given, List.append_nil]
    cases dataObj with
    | false => exact balanced_self _
    | true =>
      induction items using List.reverseRecOn with
      | nil => exact balanced_self _
      | append_singleton l x =>
        simpa [spec, Call.handedBack, released] using balanced_back (x := x) List.perm_append_comm
  | search dataP equal rmIfFound =>
    simp only [Call.given, List.append_nil]
    cases equal with
    | none => cases rmIfFound <;> exact balanced_self _
    | some equal => exact balanced_search items dataP rmIfFound equal
  | flush =>
    simp only [Call.given, List.append_nil]
    exact balanced_release (List.Perm.of_eq (List.append_nil items).symm)

theorem Balanced.trans {given given' items items' rel rel' : Multiset (Item D F)}
    {back back' : Multiset D} (h : Balanced given items back rel)
    (h' : Balanced (items + given') items' back' rel') :
    Balanced (given + given') items' (back + back') (rel + rel') := by
  obtain ⟨b, d, rfl, rfl, hd⟩ := h
  obtain ⟨b', d', hitems, rfl, hd'⟩ := h'
  refine ⟨b + b', d + d', ?_, Multiset.map_add .., ?_⟩
  · calc items + b + rel + d + given' = (items + given') + b + rel + d := by abel
      _ = items' + b' + rel' + d' + b + rel + d := by rw [hitems]
      _ = items' + (b + b') + (rel + rel') + (d + d') := by abel
  · intro x hx
    rcases Multiset.mem_add.mp hx with hx | hx
    · exact hd x hx
    · exact hd' x hx

/-! ## Runs -/

/-- A call in a run does what it should to the list, and answers what it should. -/
def Serves (e : Event (ListState D F) (Call D F) (ListResult D F)) : Prop :=
  e.post.items = (spec e.pre.items e.label).1 ∧ e.out = [(spec e.pre.items e.label).2]

/-- A step keeps the invariant. -/
theorem machine_step {e : Event (ListState D F) (Call D F) (ListResult D F)}
    (h : ∃ l, Cells e.pre l) (hs : (machine D F).step e.pre e.label = some (e.post, e.out)) :
    (∃ l, Cells e.post l) ∧ Serves e := by
  obtain ⟨l, hl⟩ := h
  simp only [machine] at hs
  split at hs
  · next hfresh =>
    obtain ⟨s', l', r, hcall, hl', hspec⟩ := call_spec hl e.label hfresh
    rw [hcall] at hs
    obtain ⟨hpost, hout⟩ := Prod.mk.inj (Option.some.inj hs)
    subst hpost
    have hr : r = (spec e.pre.items e.label).2 := congrArg Prod.snd hspec
    exact ⟨⟨l', hl'⟩, congrArg Prod.fst hspec, hr ▸ hout.symm⟩
  · cases hs

/-- The objects given to the list in a history. -/
def given (h : List (Event (ListState D F) (Call D F) (ListResult D F))) : List (Item D F) :=
  h.flatMap fun e => e.out.flatMap e.label.given

/-- The objects handed back in a history. -/
def handedBack (h : List (Event (ListState D F) (Call D F) (ListResult D F))) : List D :=
  h.flatMap fun e => e.out.flatMap e.label.handedBack

/-- The objects released in a history. -/
def releasedIn (h : List (Event (ListState D F) (Call D F) (ListResult D F))) :
    List (Item D F) :=
  h.flatMap fun e => e.out.flatMap released

/-- **The list that the pointers stand for.** After any calls on a list: its elements are the
same ones, in opposite orders, along `next` from the head and along `prev` from the tail; every
further call answers; every call on the way did to the list what it should; and every object
given to the list is in it, or was handed back, or was released, or was dropped since it has
no dealloc function. -/
theorem listState_run {h : List (Event (ListState D F) (Call D F) (ListResult D F))}
    (hr : Run (machine D F) linkedListInit h s) :
    (∃ l : List ℕ, l.Nodup ∧ Visits s.next s.pHead l ∧ Visits s.prev s.pTail l.reverse ∧
      l.map s.item = s.items.map some) ∧
    (s.pHead = none ↔ s.pTail = none) ∧
    (∀ c : Call D F, c.Fresh s → ∃ r, (machine D F).step s c = some r) ∧
    (∀ e ∈ h, Serves e) ∧
    Balanced (given h : Multiset (Item D F)) s.items (handedBack h) (releasedIn h) := by
  have hinv : (∃ l, Cells s l) ∧ (∀ e ∈ h, Serves e) ∧
      Balanced (given h : Multiset (Item D F)) s.items (handedBack h) (releasedIn h) := by
    induction hr with
    | nil => exact ⟨⟨[], cells_init⟩, by simp, balanced_self _⟩
    | @snoc h s s' c out _ hs ih =>
      obtain ⟨hcells, hserves, hbalanced⟩ := ih
      obtain ⟨hcells', hserve⟩ := machine_step (e := ⟨s, c, out, s'⟩) hcells hs
      refine ⟨hcells', ?_, ?_⟩
      · simp only [List.forall_mem_append, List.forall_mem_singleton]
        exact ⟨hserves, hserve⟩
      · have hitems : s'.items = (spec s.items c).1 := hserve.1
        have hout : out = [(spec s.items c).2] := hserve.2
        subst hout
        have hstep := spec_balanced s.items c
        rw [← Multiset.coe_add, ← hitems] at hstep
        simpa [given, handedBack, releasedIn] using hbalanced.trans hstep
  obtain ⟨⟨l, hl⟩, hserves, hbalanced⟩ := hinv
  refine ⟨⟨l, hl.nodup, ?_, ?_, ?_⟩, ?_, ?_, hserves, hbalanced⟩
  · rw [hl.head]
    exact hl.linked.visits_next
  · rw [hl.tail]
    exact hl.linked.visits_prev
  · exact hl.map_item
  · rw [hl.head, hl.tail, List.head?_eq_none_iff, List.getLast?_eq_none_iff]
  · intro c hfresh
    obtain ⟨s', -, r, hcall, -⟩ := call_spec hl c hfresh
    exact ⟨(s', [r]), by simp [machine, hfresh, hcall]⟩

/-- Objects 1, 2 and 3, of which 2 has no dealloc function: a search takes 2 out of the middle,
1 is removed, and a flush releases 3. -/
theorem listState_run_numbers :
    ∃ h s, Run (machine ℕ ℕ) linkedListInit h s ∧ handedBack h = [2, 1] ∧
      releasedIn h = [(3, some 7)] ∧
      Balanced (given h : Multiset (Item ℕ ℕ)) s.items [2, 1] [(3, some 7)] := by
  obtain ⟨h, s, hr, -, hcheck⟩ := (machine ℕ ℕ).exists_run linkedListInit
    [.add (some 1) (some 7) (some 0), .add (some 2) none (some 1), .add (some 3) (some 7) (some 2),
      .search true (some (· == 2)) true, .remove true, .flush]
    (fun h _ => decide (handedBack h = [2, 1] ∧ releasedIn h = [(3, some 7)])) (by decide)
  obtain ⟨hback, hreleased⟩ := of_decide_eq_true hcheck
  obtain ⟨-, -, -, -, hbalanced⟩ := listState_run hr
  rw [hback, hreleased] at hbalanced
  exact ⟨h, s, hr, hback, hreleased, hbalanced⟩

/-! ## The lists of the state machines

The callers of a search see the list without its pointers: `OppoA37.linkedListSearch`. -/

/-- A search with its pointers finds and removes what a search without them does. -/
theorem Cells.linkedListSearch_eq (h : Cells s l) (equal : D → Bool) (rmIfFound : Bool)
    (hne : s.items ≠ []) :
    ∃ s' l', Cells s' l' ∧
      s.linkedListSearch true (some equal) rmIfFound = some (s', ⟨.success,
        some ((OppoA37.linkedListSearch (fun x w => (equal x.1, w)) rmIfFound s.items ()).dataP.map
          (·.2.1)), []⟩) ∧
      s'.items =
        (OppoA37.linkedListSearch (fun x w => (equal x.1, w)) rmIfFound s.items ()).list := by
  have hequal : ∀ (x : Item D F) (w : Unit), (equal x.1, w).1 = equal x.1 := fun _ _ => rfl
  obtain ⟨s', l', r, hs', hl', hspec⟩ := h.search_spec true rmIfFound equal
  rw [spec, if_neg hne] at hspec
  have hr := congrArg Prod.snd hspec
  have hitems := congrArg Prod.fst hspec
  dsimp only at hr hitems
  refine ⟨s', l', hl', ?_, ?_⟩
  · rw [hs', hr, ← linkedListSearch_find hequal rmIfFound s.items (), Option.map_map]
    cases rmIfFound <;> rfl
  · rw [hitems]
    cases rmIfFound with
    | false => exact (linkedListSearch_keep s.items ()).symm
    | true => exact (linkedListSearch_remove hequal s.items ()).symm

end ListState

end OppoA37
