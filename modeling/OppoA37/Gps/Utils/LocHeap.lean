import OppoA37.Lib.Machine

/-!
# `LocHeap`

A binary tree that is sorted vertically only: a parent is outranked by none of its children.
Every node counts its subtree, a push goes to the smaller side, and a pop pulls the winner of
two children up, level by level.

`heap_run` says that this is a priority queue with removal, for elements that are ranked by a
total preorder, whatever is pushed, popped and removed.
-/

namespace OppoA37.LocHeap

open Lts

/-! ## Ranks -/

/-- `LocRankable::ranks`, for objects of one class: positive when the first object ranks higher
than the second. Objects are compared as the elements of a total preorder. -/
structure LocRankable (α : Type*) where
  /-- how the first object ranks against the second -/
  ranks : α → α → ℤ
  /-- of two objects at most one ranks higher -/
  asymm : ∀ a b, 0 < ranks a b → ranks b a ≤ 0
  /-- not ranking higher is transitive -/
  trans : ∀ a b c, ranks b a ≤ 0 → ranks c b ≤ 0 → ranks c a ≤ 0

/-- `LocRankable::outRanks`. -/
def LocRankable.outRanks {α : Type*} (R : LocRankable α) (a b : α) : Bool := 0 < R.ranks a b

/-- Objects that are ranked by a number: the smaller number ranks higher. -/
def LocRankable.ofKey {α : Type*} (key : α → ℤ) : LocRankable α where
  ranks a b := key b - key a
  asymm := by
    intro a b h
    omega
  trans := by
    intro a b c hab hbc
    omega

section

variable {α : Type*} {R : LocRankable α} {a b c : α}

theorem LocRankable.outRanks_asymm (h : R.outRanks a b = true) : R.outRanks b a = false := by
  simp only [outRanks, decide_eq_true_eq, decide_eq_false_iff_not, not_lt] at h ⊢
  exact R.asymm a b h

theorem LocRankable.outRanks_trans (hab : R.outRanks b a = false)
    (hbc : R.outRanks c b = false) : R.outRanks c a = false := by
  simp only [outRanks, decide_eq_false_iff_not, not_lt] at hab hbc ⊢
  exact R.trans a b c hab hbc

/-- No object ranks higher than itself. -/
theorem LocRankable.outRanks_self (R : LocRankable α) (a : α) : R.outRanks a a = false := by
  by_contra h
  have h' : R.outRanks a a = true := Bool.eq_true_of_not_eq_false h
  rw [outRanks_asymm h'] at h'
  cases h'

end

/-! ## Trees -/

/-- `LocHeapNode*`. -/
inductive LocHeapNode (α : Type*) where
  /-- `NULL` -/
  | null
  /-- a node, with the size of its subtree -/
  | node (mSize : ℤ) (mLeft mRight : LocHeapNode α) (mData : α)
  deriving DecidableEq, Repr

namespace LocHeapNode

variable {α : Type*}

/-- `LocHeapNode::LocHeapNode`: a node without children. -/
def leaf (data : α) : LocHeapNode α := .node 1 .null .null data

/-- `mSize`. -/
def mSize : LocHeapNode α → ℤ
  | .null => 0
  | .node n _ _ _ => n

/-- `mData`; also `LocHeap::peek`. -/
def mData : LocHeapNode α → Option α
  | .null => none
  | .node _ _ _ d => some d

/-- The data of a tree. -/
def stored : LocHeapNode α → Multiset α
  | .null => 0
  | .node _ l r d => d ::ₘ (l.stored + r.stored)

variable (R : LocRankable α)

/-- `LocHeapNode::push`, and `LocHeap::push` for the empty tree: the higher of the two data
stays here, and the other one goes into a subtree. -/
def push : LocHeapNode α → α → LocHeapNode α
  | .null, x => leaf x
  | .node n l r d, x =>
    let top := if R.outRanks x d then x else d
    let rest := if R.outRanks x d then d else x
    match l, r with
    | .null, r => .node (n + 1) (leaf rest) r top
    | l, .null => .node (n + 1) l (leaf rest) top
    | l, r =>
      if l.mSize ≤ r.mSize then .node (n + 1) (push l rest) r top
      else .node (n + 1) l (push r rest) top

/-- `LocHeapNode::pop` of a tree whose top holds `x`, after the swap with the node above: the
data of the higher child moves up, and `x` moves on into that child, until it is at a leaf and
the leaf is taken out. -/
def popWith : LocHeapNode α → α → α × LocHeapNode α
  | .null, x => (x, .null)
  | .node _ .null .null _, x => (x, .null)
  | .node n .null (.node m l r d) _, x =>
    let p := popWith (.node m l r d) x
    (p.1, .node (n - 1) .null p.2 d)
  | .node n (.node m l r d) .null _, x =>
    let p := popWith (.node m l r d) x
    (p.1, .node (n - 1) p.2 .null d)
  | .node n (.node m l r d) (.node m' l' r' d') _, x =>
    if R.outRanks d d' then
      let p := popWith (.node m l r d) x
      (p.1, .node (n - 1) p.2 (.node m' l' r' d') d)
    else
      let p := popWith (.node m' l' r' d') x
      (p.1, .node (n - 1) (.node m l r d) p.2 d')

/-- `LocHeap::pop`: the data that was at the top, and the tree without it. -/
def pop : LocHeapNode α → Option α × LocHeapNode α
  | .null => (none, .null)
  | .node n l r d => ((popWith R (.node n l r d) d).map some id)

/-- `LocHeapNode::remove`, and `LocHeap::remove` for the empty tree. Data are compared by
address. -/
def remove [DecidableEq α] : LocHeapNode α → α → Option α × LocHeapNode α
  | .null, _ => (none, .null)
  | .node n l r d, x =>
    if x = d then pop R (.node n l r d)
    else if R.outRanks x d then (none, .node n l r d)
    else
      match remove l x with
      | (some y, l') => (some y, .node (n - 1) l' r d)
      | (none, l') =>
        match remove r x with
        | (some y, r') => (some y, .node (n - 1) l' r' d)
        | (none, r') => (none, .node n l' r' d)

/-- The data of a child does not rank higher than `d`. -/
def outRankedBy (d : α) : LocHeapNode α → Bool
  | .null => true
  | .node _ _ _ d' => !R.outRanks d' d

/-- `LocHeapNode::checkNodes`, and `LocHeap::checkTree` for the empty tree. -/
def checkNodes : LocHeapNode α → Bool
  | .null => true
  | .node n l r d =>
    outRankedBy R d l && checkNodes l && outRankedBy R d r && checkNodes r &&
      n - l.mSize - r.mSize == 1

/-! ## Sorted trees -/

section

variable {R} {n : ℤ} {l r t : LocHeapNode α} {d e x : α}

/-- What `checkNodes` checks at a node. -/
theorem checkNodes_node : checkNodes R (.node n l r d) = true ↔
    (outRankedBy R d l = true ∧ checkNodes R l = true) ∧
    (outRankedBy R d r = true ∧ checkNodes R r = true) ∧ n = l.mSize + r.mSize + 1 := by
  simp only [checkNodes, Bool.and_eq_true, beq_iff_eq, and_assoc]
  refine and_congr_right fun _ => and_congr_right fun _ => and_congr_right fun _ =>
    and_congr_right fun _ => ?_
  omega

/-- A tree whose top does not outrank `d` has no data that does. -/
theorem outRanks_eq_false (hd : outRankedBy R d t = true) (ht : checkNodes R t = true) :
    ∀ y ∈ t.stored, R.outRanks y d = false := by
  induction t generalizing d with
  | null => exact fun y hy => absurd hy (Multiset.notMem_zero y)
  | node n l r e ihl ihr =>
    obtain ⟨⟨hl, hl'⟩, ⟨hr, hr'⟩, -⟩ := checkNodes_node.mp ht
    have he : R.outRanks e d = false := by
      simpa [outRankedBy] using hd
    intro y hy
    rw [stored, Multiset.mem_cons, Multiset.mem_add] at hy
    rcases hy with rfl | hy | hy
    · exact he
    · exact LocRankable.outRanks_trans he (ihl hl hl' y hy)
    · exact LocRankable.outRanks_trans he (ihr hr hr' y hy)

/-- The top of a tree is outranked by none of its data. -/
theorem outRanks_mData (ht : checkNodes R t = true) (hd : t.mData = some d) :
    ∀ y ∈ t.stored, R.outRanks y d = false := by
  cases t with
  | null => cases hd
  | node n l r e =>
    obtain rfl := Option.some.inj hd
    refine outRanks_eq_false ?_ ht
    rw [outRankedBy, R.outRanks_self]
    rfl

/-- The top of a tree is in it. -/
theorem mem_stored (hd : t.mData = some d) : d ∈ t.stored := by
  cases t with
  | null => cases hd
  | node n l r e =>
    obtain rfl := Option.some.inj hd
    exact Multiset.mem_cons_self e _

/-- What is outranked by `d` is outranked by anything that outranks `d`. -/
theorem outRankedBy_mono (hd : outRankedBy R d t = true) (he : R.outRanks d e = false) :
    outRankedBy R e t = true := by
  cases t with
  | null => rfl
  | node n l r a =>
    have ha : R.outRanks a d = false := by
      simpa [outRankedBy] using hd
    rw [outRankedBy, LocRankable.outRanks_trans he ha]
    rfl

theorem checkNodes_leaf (x : α) : checkNodes R (leaf x) = true :=
  checkNodes_node.mpr ⟨⟨rfl, rfl⟩, ⟨rfl, rfl⟩, rfl⟩

/-! ## Push -/

/-- The swap of a push loses nothing. -/
theorem swap_cons (R : LocRankable α) (d x : α) (s : Multiset α) :
    (if R.outRanks x d then x else d) ::ₘ (if R.outRanks x d then d else x) ::ₘ s =
      x ::ₘ d ::ₘ s := by
  split
  · rfl
  · exact Multiset.cons_swap d x s

/-- After the swap of a push the higher of the two data is at the top. -/
theorem swap_outRanks (R : LocRankable α) (d x : α) :
    R.outRanks (if R.outRanks x d then d else x) (if R.outRanks x d then x else d) = false ∧
      R.outRanks d (if R.outRanks x d then x else d) = false := by
  split
  · next h => exact ⟨LocRankable.outRanks_asymm h, LocRankable.outRanks_asymm h⟩
  · next h => exact ⟨Bool.eq_false_iff.mpr h, R.outRanks_self d⟩

@[simp] theorem stored_leaf (x : α) : (leaf x).stored = {x} := rfl

/-- A push adds its data. -/
theorem stored_push (t : LocHeapNode α) (x : α) : (push R t x).stored = x ::ₘ t.stored := by
  fun_induction push R t x with
  | case1 x => rfl
  | case2 n d x top rest r =>
    have hold : (node n null r d).stored = d ::ₘ r.stored := by
      rw [stored, stored, Multiset.zero_add]
    rw [hold, stored, stored_leaf, Multiset.singleton_add]
    exact swap_cons R d x _
  | case3 n d x top rest l hl =>
    have hold : (node n l null d).stored = d ::ₘ l.stored := by
      rw [stored, stored, Multiset.add_zero]
    rw [hold, stored, stored_leaf, Multiset.add_comm, Multiset.singleton_add]
    exact swap_cons R d x _
  | case4 n d x top rest l r hl hr hle ih =>
    rw [stored, stored, ih, Multiset.cons_add]
    exact swap_cons R d x _
  | case5 n d x top rest l r hl hr hle ih =>
    rw [stored, stored, ih, Multiset.add_cons]
    exact swap_cons R d x _

/-- A push adds one node. -/
theorem mSize_push (t : LocHeapNode α) (x : α) : (push R t x).mSize = t.mSize + 1 := by
  cases t with
  | null => rfl
  | node n l r d =>
    rw [push.eq_def]
    dsimp only
    split
    · rfl
    · rfl
    · split <;> rfl

/-- The top after a push. -/
theorem mData_push (t : LocHeapNode α) (x : α) : (push R t x).mData =
    some (t.mData.elim x fun d => if R.outRanks x d then x else d) := by
  cases t with
  | null => rfl
  | node n l r d =>
    rw [push.eq_def]
    dsimp only
    split
    · rfl
    · rfl
    · split <;> rfl

/-- What outranks the tree and the new data outranks the tree after a push. -/
theorem outRankedBy_push (ht : outRankedBy R e t = true) (hx : R.outRanks x e = false) :
    outRankedBy R e (push R t x) = true := by
  have htop : ∀ d, R.outRanks d e = false →
      (!R.outRanks (if R.outRanks x d then x else d) e) = true := by
    intro d hd
    split
    · rw [hx]
      rfl
    · rw [hd]
      rfl
  cases t with
  | null => simpa [push, leaf, outRankedBy] using hx
  | node n l r d =>
    have hd : R.outRanks d e = false := by
      simpa [outRankedBy] using ht
    rw [push.eq_def]
    dsimp only
    split
    · exact htop d hd
    · exact htop d hd
    · split
      · exact htop d hd
      · exact htop d hd

/-- A push keeps the tree sorted. -/
theorem checkNodes_push (ht : checkNodes R t = true) (x : α) :
    checkNodes R (push R t x) = true := by
  fun_induction push R t x with
  | case1 x => exact checkNodes_leaf x
  | case2 n d x top rest r =>
    obtain ⟨-, ⟨hr, hr'⟩, hn⟩ := checkNodes_node.mp ht
    obtain ⟨hrest, hd⟩ := swap_outRanks R d x
    refine checkNodes_node.mpr ⟨⟨?_, checkNodes_leaf _⟩, ⟨outRankedBy_mono hr hd, hr'⟩, ?_⟩
    · simpa [leaf, outRankedBy] using hrest
    · simp only [leaf, mSize] at hn ⊢
      omega
  | case3 n d x top rest l hl =>
    obtain ⟨⟨hl, hl'⟩, -, hn⟩ := checkNodes_node.mp ht
    obtain ⟨hrest, hd⟩ := swap_outRanks R d x
    refine checkNodes_node.mpr ⟨⟨outRankedBy_mono hl hd, hl'⟩, ⟨?_, checkNodes_leaf _⟩, ?_⟩
    · simpa [leaf, outRankedBy] using hrest
    · simp only [leaf, mSize] at hn ⊢
      omega
  | case4 n d x top rest l r hl hr hle ih =>
    obtain ⟨⟨hl, hl'⟩, ⟨hr, hr'⟩, hn⟩ := checkNodes_node.mp ht
    obtain ⟨hrest, hd⟩ := swap_outRanks R d x
    refine checkNodes_node.mpr ⟨⟨?_, ih hl'⟩, ⟨outRankedBy_mono hr hd, hr'⟩, ?_⟩
    · exact outRankedBy_push (outRankedBy_mono hl hd) hrest
    · rw [mSize_push]
      omega
  | case5 n d x top rest l r hl hr hle ih =>
    obtain ⟨⟨hl, hl'⟩, ⟨hr, hr'⟩, hn⟩ := checkNodes_node.mp ht
    obtain ⟨hrest, hd⟩ := swap_outRanks R d x
    refine checkNodes_node.mpr ⟨⟨outRankedBy_mono hl hd, hl'⟩, ⟨?_, ih hr'⟩, ?_⟩
    · exact outRankedBy_push (outRankedBy_mono hr hd) hrest
    · rw [mSize_push]
      omega

/-! ## Pop -/

/-- The data that is popped is the one that was swapped down. -/
theorem popWith_fst (t : LocHeapNode α) (x : α) : (popWith R t x).1 = x := by
  fun_induction popWith R t x with
  | case1 | case2 => rfl
  | case3 => assumption
  | case4 => assumption
  | case5 => assumption
  | case6 => assumption

/-- A pop takes the data of the top. -/
theorem stored_popWith (hd : t.mData = some d) (x : α) :
    d ::ₘ (popWith R t x).2.stored = t.stored := by
  fun_induction popWith R t x generalizing d with
  | case1 => cases hd
  | case2 n e =>
    obtain rfl := Option.some.inj hd
    rfl
  | case3 n m l r e a x p =>
    rename_i ih
    obtain rfl := Option.some.inj hd
    simpa [stored, p] using ih rfl
  | case4 n m l r e a x p =>
    rename_i ih
    obtain rfl := Option.some.inj hd
    simpa [stored, p] using ih rfl
  | case5 n m l r e m' l' r' e' a x hwin p =>
    rename_i ih
    obtain rfl := Option.some.inj hd
    have hp : e ::ₘ p.2.stored = (node m l r e).stored := ih rfl
    rw [stored, ← Multiset.cons_add, hp]
    rfl
  | case6 n m l r e m' l' r' e' a x hwin p =>
    rename_i ih
    obtain rfl := Option.some.inj hd
    simpa [stored, p] using ih rfl

/-- The data of the top is outranked by none of the rest. -/
theorem outRankedBy_popWith (ht : checkNodes R t = true) (hd : t.mData = some d) (x : α) :
    outRankedBy R d (popWith R t x).2 = true := by
  have hall := outRanks_mData ht hd
  have hstored := stored_popWith (R := R) hd x
  cases hp : (popWith R t x).2 with
  | null => rfl
  | node n l r e =>
    have he : e ∈ t.stored := by
      rw [← hstored, hp, stored]
      exact Multiset.mem_cons_of_mem (Multiset.mem_cons_self e _)
    rw [outRankedBy, hall e he]
    rfl

/-- A pop keeps the tree sorted, and takes one node. -/
theorem checkNodes_popWith (ht : checkNodes R t = true) (hd : t.mData = some d) (x : α) :
    checkNodes R (popWith R t x).2 = true ∧ (popWith R t x).2.mSize = t.mSize - 1 := by
  fun_induction popWith R t x generalizing d with
  | case1 => cases hd
  | case2 n e =>
    obtain ⟨-, -, hn⟩ := checkNodes_node.mp ht
    simp only [mSize] at hn ⊢
    refine ⟨rfl, ?_⟩
    omega
  | case3 n m l r e a x p =>
    rename_i ih
    obtain ⟨-, ⟨-, hr⟩, hn⟩ := checkNodes_node.mp ht
    obtain ⟨hp, hsize⟩ := ih hr rfl
    refine ⟨checkNodes_node.mpr ⟨⟨rfl, rfl⟩, ⟨outRankedBy_popWith hr rfl _, hp⟩, ?_⟩, rfl⟩
    rw [hsize]
    omega
  | case4 n m l r e a x p =>
    rename_i ih
    obtain ⟨⟨-, hl⟩, -, hn⟩ := checkNodes_node.mp ht
    obtain ⟨hp, hsize⟩ := ih hl rfl
    refine ⟨checkNodes_node.mpr ⟨⟨outRankedBy_popWith hl rfl _, hp⟩, ⟨rfl, rfl⟩, ?_⟩, rfl⟩
    rw [hsize]
    omega
  | case5 n m l r e m' l' r' e' a x hwin p =>
    rename_i ih
    obtain ⟨⟨-, hl⟩, ⟨-, hr⟩, hn⟩ := checkNodes_node.mp ht
    obtain ⟨hp, hsize⟩ := ih hl rfl
    refine ⟨checkNodes_node.mpr ⟨⟨outRankedBy_popWith hl rfl _, hp⟩, ⟨?_, hr⟩, ?_⟩, rfl⟩
    · rw [outRankedBy, LocRankable.outRanks_asymm hwin]
      rfl
    · rw [hsize]
      omega
  | case6 n m l r e m' l' r' e' a x hwin p =>
    rename_i ih
    obtain ⟨⟨-, hl⟩, ⟨-, hr⟩, hn⟩ := checkNodes_node.mp ht
    obtain ⟨hp, hsize⟩ := ih hr rfl
    refine ⟨checkNodes_node.mpr ⟨⟨?_, hl⟩, ⟨outRankedBy_popWith hr rfl _, hp⟩, ?_⟩, rfl⟩
    · rw [outRankedBy, Bool.eq_false_iff.mpr hwin]
      rfl
    · rw [hsize]
      omega

/-- `LocHeap::pop` hands out the data of the top. -/
theorem pop_fst (t : LocHeapNode α) : (pop R t).1 = t.mData := by
  cases t with
  | null => rfl
  | node n l r d => exact congrArg some (popWith_fst (node n l r d) d)

/-- What `LocHeap::pop` leaves. -/
theorem pop_spec (ht : checkNodes R t = true) (hd : t.mData = some d) :
    d ::ₘ (pop R t).2.stored = t.stored ∧ outRankedBy R d (pop R t).2 = true ∧
      checkNodes R (pop R t).2 = true ∧ (pop R t).2.mSize = t.mSize - 1 := by
  cases t with
  | null => cases hd
  | node n l r e =>
    have hsnd : (pop R (node n l r e)).2 = (popWith R (node n l r e) e).2 := rfl
    rw [hsnd]
    exact ⟨stored_popWith hd e, outRankedBy_popWith ht hd e, checkNodes_popWith ht hd e⟩

/-! ## Remove -/

/-- What `LocHeap::remove` does: it takes the data out if the tree has it, and nothing else. -/
theorem remove_spec [DecidableEq α] (ht : checkNodes R t = true) (x : α) :
    ((remove R t x).1 = some x ∧ x ::ₘ (remove R t x).2.stored = t.stored ∧
      (remove R t x).2.mSize = t.mSize - 1 ∧ checkNodes R (remove R t x).2 = true ∧
      ∀ e, outRankedBy R e t = true → outRankedBy R e (remove R t x).2 = true) ∨
    (x ∉ t.stored ∧ remove R t x = (none, t)) := by
  induction t with
  | null => exact Or.inr ⟨Multiset.notMem_zero x, rfl⟩
  | node n l r d ihl ihr =>
    obtain ⟨⟨hl, hl'⟩, ⟨hr, hr'⟩, hn⟩ := checkNodes_node.mp ht
    rw [remove]
    by_cases hx : x = d
    · -- the top itself
      subst hx
      rw [if_pos rfl]
      obtain ⟨hstored, hout, hcheck, hsize⟩ := pop_spec ht rfl
      refine Or.inl ⟨pop_fst _, hstored, hsize, hcheck, fun e he => outRankedBy_mono hout ?_⟩
      simpa [outRankedBy] using he
    rw [if_neg hx]
    by_cases hrank : R.outRanks x d = true
    · -- what outranks the top is not below it
      rw [if_pos hrank]
      refine Or.inr ⟨fun hmem => ?_, rfl⟩
      have := outRanks_mData ht rfl x hmem
      rw [hrank] at this
      cases this
    rw [if_neg hrank]
    rcases ihl hl' with ⟨hfst, hstored, hsize, hcheck, hout⟩ | ⟨hnl, hnone⟩
    · apply Or.inl
      generalize remove R l x = p at hfst hstored hsize hcheck hout ⊢
      obtain ⟨o, l'⟩ := p
      obtain rfl : o = some x := hfst
      refine ⟨rfl, ?_, rfl, checkNodes_node.mpr ⟨⟨hout d hl, hcheck⟩, ⟨hr, hr'⟩, ?_⟩, ?_⟩
      · rw [stored, stored, Multiset.cons_swap, ← Multiset.cons_add, hstored]
      · have hsize' : l'.mSize = l.mSize - 1 := hsize
        omega
      · exact fun e he => he
    rw [hnone]
    rcases ihr hr' with ⟨hfst, hstored, hsize, hcheck, hout⟩ | ⟨hnr, hnone'⟩
    · apply Or.inl
      generalize remove R r x = p at hfst hstored hsize hcheck hout ⊢
      obtain ⟨o, r'⟩ := p
      obtain rfl : o = some x := hfst
      refine ⟨rfl, ?_, rfl, checkNodes_node.mpr ⟨⟨hl, hl'⟩, ⟨hout d hr, hcheck⟩, ?_⟩, ?_⟩
      · rw [stored, stored, Multiset.cons_swap, ← Multiset.add_cons, hstored]
      · have hsize' : r'.mSize = r.mSize - 1 := hsize
        omega
      · exact fun e he => he
    · rw [hnone']
      refine Or.inr ⟨?_, rfl⟩
      simp only [stored, Multiset.mem_cons, Multiset.mem_add, not_or]
      exact ⟨hx, hnl, hnr⟩

/-- In a consistent tree the size counts the data. -/
theorem mSize_eq_card (ht : checkNodes R t = true) : t.mSize = Multiset.card t.stored := by
  induction t with
  | null => rfl
  | node n l r d ihl ihr =>
    obtain ⟨⟨-, hl⟩, ⟨-, hr⟩, hn⟩ := checkNodes_node.mp ht
    rw [mSize, stored, Multiset.card_cons, Multiset.card_add, hn, ihl hl, ihr hr]
    push_cast
    rfl

/-- A removal of other data leaves the top. -/
theorem mData_remove [DecidableEq α] (hd : t.mData = some d) (hx : x ≠ d) :
    (remove R t x).2.mData = some d := by
  cases t with
  | null => cases hd
  | node n l r e =>
    obtain rfl := Option.some.inj hd
    rw [remove, if_neg hx]
    split
    · rfl
    · split
      · rfl
      · split <;> rfl

end

end LocHeapNode

/-! ## Whole runs -/

/-- The operations of a heap. -/
inductive HeapOp (α : Type*) where
  /-- `push` -/
  | push (x : α)
  /-- `pop` -/
  | pop
  /-- `remove` -/
  | remove (x : α)
  deriving DecidableEq, Repr

/-- `LocHeap`: what `pop` and `remove` return is shown, unless it is `NULL`. -/
def heap {α : Type*} [DecidableEq α] (R : LocRankable α) :
    Machine (LocHeapNode α) (HeapOp α) α where
  step
    | t, .push x => some (t.push R x, [])
    | t, .pop => some ((t.pop R).2, (t.pop R).1.toList)
    | t, .remove x => some ((t.remove R x).2, (t.remove R x).1.toList)

variable {α : Type*} [DecidableEq α] {R : LocRankable α}

/-- The data that a history has pushed. -/
def pushed (h : List (Event (LocHeapNode α) (HeapOp α) α)) : List α :=
  h.filterMap fun e =>
    match e.label with
    | .push x => some x
    | _ => none

/-- The data that a history has popped or removed. -/
def taken (h : List (Event (LocHeapNode α) (HeapOp α) α)) : List α := h.flatMap Event.out

/-- An operation does what it should: a pop returns data that none outranks, if there are any,
and a removal returns its data, if they are there. -/
def Serves (R : LocRankable α) (e : Event (LocHeapNode α) (HeapOp α) α) : Prop :=
  match e.label with
  | .push _ => e.out = []
  | .pop => e.out = e.pre.mData.toList ∧ (e.out = [] ↔ e.pre.stored = 0) ∧
    ∀ x ∈ e.out, x ∈ e.pre.stored ∧ ∀ y ∈ e.pre.stored, R.outRanks y x = false
  | .remove x => e.out = if x ∈ e.pre.stored then [x] else []

/-- A step keeps the tree sorted, serves, and accounts for its data. -/
theorem heap_step {e : Event (LocHeapNode α) (HeapOp α) α} (ht : e.pre.checkNodes R = true)
    (hs : (heap R).step e.pre e.label = some (e.post, e.out)) :
    e.post.checkNodes R = true ∧ Serves R e ∧
      e.pre.stored + (pushed [e] : Multiset α) = e.post.stored + (e.out : Multiset α) := by
  rcases e with ⟨t, op, out, t'⟩
  dsimp only at ht hs ⊢
  cases op with
  | push x =>
    obtain ⟨rfl, rfl⟩ := Prod.mk.inj (Option.some.inj hs)
    refine ⟨LocHeapNode.checkNodes_push ht x, rfl, ?_⟩
    rw [LocHeapNode.stored_push]
    simp [pushed, add_comm]
  | pop =>
    obtain ⟨rfl, rfl⟩ := Prod.mk.inj (Option.some.inj hs)
    rcases hd : t.mData with _ | d
    · cases t with
      | null => exact ⟨rfl, ⟨rfl, by simp [LocHeapNode.pop, LocHeapNode.stored]⟩, rfl⟩
      | node => cases hd
    · obtain ⟨hstored, -, hcheck, -⟩ := LocHeapNode.pop_spec ht hd
      have hfst : (t.pop R).1 = some d := (LocHeapNode.pop_fst t).trans hd
      have hmem : d ∈ t.stored := by
        rw [← hstored]
        exact Multiset.mem_cons_self d _
      refine ⟨hcheck, ⟨by rw [LocHeapNode.pop_fst], ?_, ?_⟩, ?_⟩
      · rw [hfst, ← hstored]
        simp
      · rw [hfst]
        simp only [Option.toList_some, List.mem_singleton]
        rintro x rfl
        exact ⟨hmem, LocHeapNode.outRanks_mData ht hd⟩
      · rw [hfst, ← hstored]
        simp [pushed, add_comm]
  | remove x =>
    obtain ⟨rfl, rfl⟩ := Prod.mk.inj (Option.some.inj hs)
    rcases LocHeapNode.remove_spec ht x with ⟨hfst, hstored, -, hcheck, -⟩ | ⟨hno, hnone⟩
    · have hmem : x ∈ t.stored := by
        rw [← hstored]
        exact Multiset.mem_cons_self x _
      refine ⟨hcheck, ?_, ?_⟩
      · simp [Serves, hfst, hmem]
      · rw [hfst, ← hstored]
        simp [pushed, add_comm]
    · rw [hnone]
      refine ⟨ht, ?_, ?_⟩
      · simp [Serves, hno]
      · simp [pushed]

/-- **A priority queue with removal.** After any pushes, pops and removals of an empty heap:
the tree is consistent, it holds what was pushed and has not been popped or removed, its top
is outranked by none of its data, and every operation on the way did what it should. -/
theorem heap_run {h : List (Event (LocHeapNode α) (HeapOp α) α)} {t : LocHeapNode α}
    (hrun : Run (heap R) .null h t) :
    t.checkNodes R = true ∧ (pushed h : Multiset α) = t.stored + (taken h : Multiset α) ∧
      (∀ x, t.mData = some x → x ∈ t.stored ∧ ∀ y ∈ t.stored, R.outRanks y x = false) ∧
      ∀ e ∈ h, Serves R e := by
  have hinv : t.checkNodes R = true ∧
      (pushed h : Multiset α) = t.stored + (taken h : Multiset α) ∧ ∀ e ∈ h, Serves R e := by
    induction hrun with
    | nil => exact ⟨rfl, rfl, fun e he => absurd he List.not_mem_nil⟩
    | @snoc h s s' l out _ hs ih =>
      obtain ⟨hcheck, hdata, hserves⟩ := ih
      obtain ⟨hcheck', hserve, hstep⟩ := heap_step (e := ⟨s, l, out, s'⟩) hcheck hs
      refine ⟨hcheck', ?_, ?_⟩
      · have hpushed : pushed (h ++ [⟨s, l, out, s'⟩]) = pushed h ++ pushed [⟨s, l, out, s'⟩] :=
          List.filterMap_append
        have htaken : taken (h ++ [⟨s, l, out, s'⟩]) = taken h ++ out := by
          simp [taken]
        rw [hpushed, htaken, ← Multiset.coe_add, ← Multiset.coe_add, hdata]
        calc s.stored + (taken h : Multiset α) + (pushed [⟨s, l, out, s'⟩] : Multiset α)
            = s.stored + (pushed [⟨s, l, out, s'⟩] : Multiset α) + (taken h : Multiset α) :=
              add_right_comm _ _ _
          _ = s'.stored + (out : Multiset α) + (taken h : Multiset α) :=
              congrArg (· + (taken h : Multiset α)) hstep
          _ = s'.stored + ((taken h : Multiset α) + (out : Multiset α)) := by
              rw [add_assoc, add_comm (out : Multiset α)]
      · intro e he
        rcases List.mem_append.mp he with he | he
        · exact hserves e he
        · obtain rfl := List.mem_singleton.mp he
          exact hserve
  obtain ⟨hcheck, hdata, hserves⟩ := hinv
  exact ⟨hcheck, hdata,
    fun x hx => ⟨LocHeapNode.mem_stored hx, LocHeapNode.outRanks_mData hcheck hx⟩, hserves⟩

/-- Seven operations on numbers, of which the smaller one ranks higher. -/
theorem heap_run_numbers :
    ∃ h t, Run (heap (LocRankable.ofKey fun n : ℕ => (n : ℤ))) .null h t ∧ taken h = [1, 3] ∧
      t.mData = some 2 ∧ t.checkNodes (LocRankable.ofKey fun n : ℕ => (n : ℤ)) = true := by
  obtain ⟨h, t, hrun, -, hcheck⟩ := (heap (LocRankable.ofKey fun n : ℕ => (n : ℤ))).exists_run
    .null [.push 3, .push 1, .push 2, .pop, .push 4, .remove 3, .remove 7]
    (fun h t => decide (taken h = [1, 3] ∧ t.mData = some 2)) (by decide)
  obtain ⟨htaken, htop⟩ := of_decide_eq_true hcheck
  exact ⟨h, t, hrun, htaken, htop, (heap_run hrun).1⟩

/-- The tree of a heap is consistent at any time. -/
theorem checkNodes_run {h : List (Event (LocHeapNode α) (HeapOp α) α)} {t : LocHeapNode α}
    (hrun : Run (heap R) .null h t) : t.checkNodes R = true := by
  refine Run.invariant_of (·.checkNodes R = true) (fun _ _ => True) rfl ?_ hrun fun _ _ => trivial
  exact fun t op t' out ht _ hs => (heap_step (e := ⟨t, op, out, t'⟩) ht hs).1

/-- **Removal.** In whatever way a heap has come about, data that are stored are found and
returned, one occurrence of them is gone and the tree is consistent; data that are not stored
change nothing. -/
theorem remove_run {h : List (Event (LocHeapNode α) (HeapOp α) α)} {t : LocHeapNode α}
    (hrun : Run (heap R) .null h t) (x : α) :
    (x ∈ t.stored → (t.remove R x).1 = some x ∧ (t.remove R x).2.stored = t.stored.erase x ∧
        (t.remove R x).2.checkNodes R = true ∧
        (t.remove R x).2.mSize = Multiset.card (t.remove R x).2.stored) ∧
      (x ∉ t.stored → t.remove R x = (none, t)) := by
  have hcheck := checkNodes_run hrun
  rcases LocHeapNode.remove_spec hcheck x with ⟨hfst, hstored, -, hcheck', -⟩ | ⟨hno, hnone⟩
  · have hmem : x ∈ t.stored := by
      rw [← hstored]
      exact Multiset.mem_cons_self x _
    refine ⟨fun _ => ⟨hfst, ?_, hcheck', LocHeapNode.mSize_eq_card hcheck'⟩,
      fun hno => absurd hmem hno⟩
    rw [← hstored, Multiset.erase_cons_head]
  · exact ⟨fun hmem => absurd hmem hno, fun _ => hnone⟩

/-- Objects of equal rank are told apart: of four, the one that is asked for is taken out. -/
theorem remove_run_equal_ranks :
    ∃ h t, Run (heap (LocRankable.ofKey fun p : ℕ × ℤ => p.2)) .null h t ∧
      (t.remove (LocRankable.ofKey fun p : ℕ × ℤ => p.2) (3, 5)).1 = some (3, 5) := by
  obtain ⟨h, t, hrun, -, hcheck⟩ := (heap (LocRankable.ofKey fun p : ℕ × ℤ => p.2)).exists_run
    .null [.push (0, 5), .push (1, 5), .push (2, 5), .push (3, 5), .remove (1, 5)]
    (fun _ t => decide ((3, 5) ∈ t.stored)) (by decide)
  exact ⟨h, t, hrun, ((remove_run hrun (3, 5)).1 (of_decide_eq_true hcheck)).1⟩

end OppoA37.LocHeap
