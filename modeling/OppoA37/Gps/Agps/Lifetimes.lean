import OppoA37.Gps.Agps.StateMachine

/-!
# Subscribers that are deleted while they are compared with

A `Notification` for one receiver holds a pointer, and `unsubscribeRsrc` hands down the pointer of a
listed subscriber. With `postNotifyDelete` the loop of `notifySubscribers` deletes the subscribers
it finds one by one and searches again after each, so once the receiver itself was deleted every
further comparison reads an object that is gone.

* `SubscriberStore` has the objects behind the pointers; to read a destroyed one has no result.
* `deleteLoop_isSome_iff` says when the loop reads none.
* `notifySubscribers_isSome_iff` says so for the notifications of the state objects: a broadcast
  never does, and one for a receiver does unless the list is empty when the receiver is gone.
* `notifySubscribers_values` is what this means for the machine on values: where nothing destroyed
  is read, it does what the machine on pointers does.
-/

namespace OppoA37.Agps

/-- A `Subscriber*` -/
abbrev Ptr : Type := ℕ

/-- The subscribers of a machine in memory. -/
structure SubscriberStore (σ W : Type) where
  /-- the object at an address, if it is there -/
  objects : Ptr → Option σ
  /-- the `data_ptr` of the nodes of `mSubscribers`, head first -/
  mSubscribers : List Ptr
  /-- what the virtual calls act on -/
  world : W

/-! ## A search that reads objects -/

section Search

variable {W : Type}

/-- `linked_list_search` with a comparator that may read an object that is gone. -/
def checkedSearch (equal : Ptr → W → Option (Bool × W)) (rmIfFound : Bool) :
    List Ptr → W → Option (SearchResult Ptr W)
  | [], w => some ⟨none, [], w⟩
  | a :: rest, w => do
    let found ← equal a w
    if found.1 then return ⟨some (0, a), if rmIfFound then rest else a :: rest, found.2⟩
    else
      let r ← checkedSearch equal rmIfFound rest found.2
      return ⟨r.dataP.map fun d => (d.1 + 1, d.2), a :: r.list, r.world⟩

/-- A search whose comparisons all succeed finds the first match and unlinks it. -/
theorem checkedSearch_eq {equal : Ptr → W → Option (Bool × W)} {p : Ptr → Bool} {l : List Ptr}
    (hp : ∀ a ∈ l, ∀ w, ∃ w', equal a w = some (p a, w')) (rm : Bool) (w : W) :
    ∃ r, checkedSearch equal rm l w = some r ∧ r.dataP.map (·.2) = l.find? p ∧
      r.list = if rm then l.eraseP p else l := by
  induction l generalizing w with
  | nil => exact ⟨_, rfl, rfl, by simp⟩
  | cons a rest ih =>
    obtain ⟨w', ha⟩ := hp a List.mem_cons_self w
    obtain ⟨r, hr, hfind, hlist⟩ := ih (fun b hb => hp b (List.mem_cons_of_mem _ hb)) w'
    rw [checkedSearch, ha]
    cases hpa : p a with
    | true => exact ⟨_, rfl, by simp [hpa], by simp [hpa]⟩
    | false =>
      refine ⟨⟨r.dataP.map fun d => (d.1 + 1, d.2), a :: r.list, r.world⟩, by simp [hr], ?_, ?_⟩
      · rw [List.find?_cons_of_neg (by simp [hpa]), ← hfind]
        simp [Function.comp_def]
      · rw [hlist, List.eraseP_cons_of_neg (by simp [hpa])]
        cases rm <;> rfl

/-- What a search unlinks was in the list. -/
theorem checkedSearch_some {equal : Ptr → W → Option (Bool × W)} {l : List Ptr} {w : W}
    {r : SearchResult Ptr W} (hr : checkedSearch equal true l w = some r) {i : ℕ} {s : Ptr}
    (hs : r.dataP = some (i, s)) : ∃ l₁ l₂, l = l₁ ++ s :: l₂ ∧ r.list = l₁ ++ l₂ := by
  induction l generalizing w r i with
  | nil =>
    cases hr
    cases hs
  | cons a rest ih =>
    obtain ⟨⟨b, w'⟩, -, hr⟩ := Option.bind_eq_some_iff.mp hr
    cases b with
    | true =>
      cases hr
      cases hs
      exact ⟨[], rest, rfl, rfl⟩
    | false =>
      obtain ⟨r', hr', hr⟩ := Option.bind_eq_some_iff.mp hr
      cases hr
      obtain ⟨⟨j, t⟩, hj, ht⟩ := Option.map_eq_some_iff.mp hs
      cases ht
      obtain ⟨l₁, l₂, hl, hlist⟩ := ih hr' hj
      exact ⟨a :: l₁, l₂, by rw [hl]; rfl, by rw [hlist]; rfl⟩

/-- A search on pointers that succeeds is the search on the objects they point to. -/
theorem checkedSearch_values {σ : Type} {objects : Ptr → Option σ} {f : σ → W → Bool × W}
    {equal : Ptr → W → Option (Bool × W)}
    (hf : ∀ a w x, equal a w = some x → ∃ this, objects a = some this ∧ f this w = x)
    {rm : Bool} {l : List Ptr} {w : W} {r : SearchResult Ptr W}
    (hr : checkedSearch equal rm l w = some r) :
    (linkedListSearch f rm (l.filterMap objects) w).list = r.list.filterMap objects ∧
      (linkedListSearch f rm (l.filterMap objects) w).world = r.world ∧
      (linkedListSearch f rm (l.filterMap objects) w).dataP.isNone = r.dataP.isNone := by
  induction l generalizing w r with
  | nil =>
    cases hr
    exact ⟨rfl, rfl, rfl⟩
  | cons a rest ih =>
    obtain ⟨⟨b, w'⟩, ha, hr⟩ := Option.bind_eq_some_iff.mp hr
    obtain ⟨this, hthis, hthat⟩ := hf a w _ ha
    rw [List.filterMap_cons_some hthis, linkedListSearch, hthat]
    cases b with
    | true =>
      cases hr
      cases rm
      · exact ⟨(List.filterMap_cons_some hthis).symm, rfl, rfl⟩
      · exact ⟨rfl, rfl, rfl⟩
    | false =>
      obtain ⟨r', hr', hr⟩ := Option.bind_eq_some_iff.mp hr
      cases hr
      obtain ⟨hlist, hworld, hdata⟩ := ih hr'
      exact ⟨by simp [hlist, hthis], hworld, by simpa using hdata⟩

end Search

namespace SubscriberStore

variable {σ W : Type} [SubscriberOps σ] (inform : σ → AgpsRsrcStatus → W → W)

/-! ## `notifySubscribers` -/

/-- A notification with the object its `rcver` points to. -/
def read (objects : Ptr → Option σ) (n : Notification Ptr) : Option (Notification σ) :=
  match n.rcver with
  | none => some ⟨none, n.groupID, n.rsrcStatus, n.postNotifyDelete⟩
  | some rcver =>
    (objects rcver).map fun s => ⟨some s, n.groupID, n.rsrcStatus, n.postNotifyDelete⟩

/-- `notifySubscriber` -/
def notifySubscriber (objects : Ptr → Option σ) (n : Notification Ptr) (s1 : Ptr) (w : W) :
    Option (Bool × W) := do
  let this ← objects s1
  let notification ← read objects n
  let r := notifyRsrcStatus inform notification this w
  return (r.1 && n.postNotifyDelete, r.2)

/-- The loop of `notifySubscribers`: the subscriber that a search unlinks is deleted, until a search
finds none. -/
def deleteLoop (n : Notification Ptr) : ℕ → SubscriberStore σ W → Option (SubscriberStore σ W)
  | 0, st => some st
  | k + 1, st => do
    let r ← checkedSearch (notifySubscriber inform st.objects n) true st.mSubscribers st.world
    match r.dataP with
    | none => return { st with mSubscribers := r.list, world := r.world }
    | some (_, s) => deleteLoop n k ⟨Function.update st.objects s none, r.list, r.world⟩

/-- `notifySubscribers`; there is no result when a destroyed subscriber is touched. -/
def notifySubscribers (st : SubscriberStore σ W) (n : Notification Ptr) :
    Option (SubscriberStore σ W) :=
  if n.postNotifyDelete then deleteLoop inform n (st.mSubscribers.length + 1) st
  else do
    let r ← checkedSearch (notifySubscriber inform st.objects n) false st.mSubscribers st.world
    return { st with mSubscribers := r.list, world := r.world }

/-- The notifications that the state objects build for `notifySubscribers`. -/
inductive Built (st : SubscriberStore σ W) : Notification Ptr → Prop where
  /-- `RSRC_UNSUBSCRIBE` in the pending, the acquired and the releasing state, for the listed
  subscriber that `unsubscribeRsrc` has found -/
  | unsubscribe {s : Ptr} (hs : s ∈ st.mSubscribers) :
    Built st (.addressed s .rsrcUnsubscribe true)
  /-- `RSRC_GRANTED` in the pending state -/
  | granted : Built st (.broadcast .broadcastActive .rsrcGranted false)
  /-- `RSRC_DENIED` in the pending state -/
  | denied : Built st (.broadcast .broadcastAll .rsrcDenied true)
  /-- `RSRC_RELEASED` in the acquired state -/
  | released : Built st (.broadcast .broadcastAll .rsrcReleased true)
  /-- `RSRC_DENIED` in the releasing state -/
  | deniedInactive : Built st (.broadcast .broadcastInactive .rsrcDenied true)
  /-- `RSRC_RELEASED` in the releasing state -/
  | releasedInactive : Built st (.broadcast .broadcastInactive .rsrcReleased true)

/-! ## What a comparison reads -/

/-- Every listed subscriber is there, and is listed once. -/
structure Sound (st : SubscriberStore σ W) : Prop where
  /-- no subscriber has two nodes -/
  nodup : st.mSubscribers.Nodup
  /-- none was destroyed -/
  live : ∀ s ∈ st.mSubscribers, (st.objects s).isSome = true

/-- Whether the object at one address equals that at another. -/
def equalsAt (st : SubscriberStore σ W) (s rcver : Ptr) : Bool :=
  match st.objects s, st.objects rcver with
  | some this, some that => equals this that
  | _, _ => false

omit [SubscriberOps σ] in
/-- A listed subscriber is listed nowhere else, and neither are the others. -/
theorem Sound.split {st : SubscriberStore σ W} (hst : st.Sound) {l₁ l₂ : List Ptr} {s : Ptr}
    (hl : st.mSubscribers = l₁ ++ s :: l₂) : s ∉ l₁ ++ l₂ ∧ (l₁ ++ l₂).Nodup := by
  have hnodup := hst.nodup
  rwa [hl, List.nodup_middle, List.nodup_cons] at hnodup

omit [SubscriberOps σ] in
/-- A listed subscriber that is unlinked may be deleted. -/
theorem Sound.delete {st : SubscriberStore σ W} (hst : st.Sound) {l₁ l₂ : List Ptr} {s : Ptr}
    (hl : st.mSubscribers = l₁ ++ s :: l₂) (w : W) :
    Sound ⟨Function.update st.objects s none, l₁ ++ l₂, w⟩ := by
  obtain ⟨hs, hnodup⟩ := hst.split hl
  refine ⟨hnodup, fun t ht => ?_⟩
  have hne : t ≠ s := fun h => hs (h ▸ ht)
  have hmem : t ∈ st.mSubscribers := by
    rw [hl, List.mem_append, List.mem_cons]
    exact (List.mem_append.mp ht).imp_right Or.inr
  simpa only [Function.update_of_ne hne] using hst.live t hmem

omit [SubscriberOps σ] in
/-- Reading the receiver leaves the rest of a notification as it is. -/
theorem read_fields {objects : Ptr → Option σ} {n : Notification Ptr} {n' : Notification σ}
    (hn : read objects n = some n') :
    n'.rsrcStatus = n.rsrcStatus ∧ n'.postNotifyDelete = n.postNotifyDelete := by
  rw [read] at hn
  split at hn
  · cases hn
    exact ⟨rfl, rfl⟩
  · obtain ⟨_, -, rfl⟩ := Option.map_eq_some_iff.mp hn
    exact ⟨rfl, rfl⟩

/-- Whether a notification is for the object at an address. -/
def isFor (st : SubscriberStore σ W) (n : Notification σ) (s : Ptr) : Bool :=
  (st.objects s).any (forMe n)

/-- A comparison while the receiver is there. -/
theorem notifySubscriber_eq {st : SubscriberStore σ W} {n : Notification Ptr} {n' : Notification σ}
    (hn : read st.objects n = some n') (htold : n.rsrcStatus.isTold = true) {s : Ptr}
    (hs : (st.objects s).isSome = true) (w : W) : ∃ w', notifySubscriber inform st.objects n s w =
      some (st.isFor n' s && n.postNotifyDelete, w') := by
  obtain ⟨this, hthis⟩ := Option.isSome_iff_exists.mp hs
  have hstatus := (read_fields hn).1
  refine ⟨(notifyRsrcStatus inform n' this w).2, ?_⟩
  simp [notifySubscriber, hthis, hn, notifyRsrcStatus_fst, hstatus, htold, isFor]

/-! ## One turn of the loop -/

section Turn

variable {n : Notification Ptr} {st : SubscriberStore σ W}

/-- A turn that finds nobody is the last. -/
theorem deleteLoop_of_none {n' : Notification σ} (hst : st.Sound)
    (hn : read st.objects n = some n') (hdel : n.postNotifyDelete = true)
    (htold : n.rsrcStatus.isTold = true) (hnone : st.mSubscribers.find? (st.isFor n') = none)
    (k : ℕ) : (deleteLoop inform n (k + 1) st).isSome = true := by
  obtain ⟨r, hr, hfind, -⟩ := checkedSearch_eq
    (fun s hs w => notifySubscriber_eq inform hn htold (hst.live s hs) w) true st.world
  simp only [hdel, Bool.and_true] at hfind
  rw [hnone, Option.map_eq_none_iff] at hfind
  rw [deleteLoop, hr]
  simp [hfind]

/-- A turn that finds somebody deletes them. -/
theorem deleteLoop_of_some {n' : Notification σ} (hst : st.Sound)
    (hn : read st.objects n = some n') (hdel : n.postNotifyDelete = true)
    (htold : n.rsrcStatus.isTold = true) {s : Ptr} {l₁ l₂ : List Ptr}
    (hl : st.mSubscribers = l₁ ++ s :: l₂) (hs : st.isFor n' s = true)
    (hl₁ : ∀ t ∈ l₁, ¬ st.isFor n' t = true) (k : ℕ) :
    ∃ w, deleteLoop inform n (k + 1) st =
      deleteLoop inform n k ⟨Function.update st.objects s none, l₁ ++ l₂, w⟩ := by
  obtain ⟨r, hr, hfind, hlist⟩ := checkedSearch_eq
    (fun s hs w => notifySubscriber_eq inform hn htold (hst.live s hs) w) true st.world
  simp only [hdel, Bool.and_true, if_true] at hfind hlist
  have hfirst : st.mSubscribers.find? (st.isFor n') = some s := by
    rw [List.find?_eq_some_iff_append]
    exact ⟨hs, l₁, l₂, hl, fun t ht => by simpa using hl₁ t ht⟩
  rw [hfirst, Option.map_eq_some_iff] at hfind
  obtain ⟨⟨i, _⟩, hdata, rfl⟩ := hfind
  rw [hl, List.eraseP_append_right _ hl₁, List.eraseP_cons_of_pos hs] at hlist
  refine ⟨r.world, ?_⟩
  rw [deleteLoop, hr]
  simp [hdata, hlist]

/-- A turn that has somebody to compare with a receiver that is gone reads what is not there. -/
theorem deleteLoop_of_gone (hn : read st.objects n = none) (hne : st.mSubscribers ≠ []) (k : ℕ) :
    deleteLoop inform n (k + 1) st = none := by
  obtain ⟨s, rest, hl⟩ := List.exists_cons_of_ne_nil hne
  have hcmp : notifySubscriber inform st.objects n s st.world = none := by
    rw [notifySubscriber, hn]
    cases st.objects s <;> rfl
  rw [deleteLoop, hl, checkedSearch, hcmp]
  rfl

/-- With nobody left the loop ends. -/
theorem deleteLoop_nil (hl : st.mSubscribers = []) (k : ℕ) :
    (deleteLoop inform n (k + 1) st).isSome = true := by
  rw [deleteLoop, hl]
  rfl

end Turn

/-! ## The whole loop -/

/-- The receiver is the last in the list, and all listed subscribers equal it: they are deleted
before it, and nobody is left to compare with it. -/
def LastOfEquals (st : SubscriberStore σ W) (rcver : Ptr) : Prop :=
  st.mSubscribers.getLast? = some rcver ∧ ∀ s ∈ st.mSubscribers, st.equalsAt s rcver = true

/-- For one receiver, a notification is for those that equal it. -/
theorem isFor_eq_equalsAt {st : SubscriberStore σ W} {n : Notification Ptr} {n' : Notification σ}
    {rcver : Ptr} (hn : read st.objects n = some n') (hrcver : n.rcver = some rcver) (s : Ptr) :
    st.isFor n' s = st.equalsAt s rcver := by
  rw [read, hrcver] at hn
  obtain ⟨that, hthat, rfl⟩ := Option.map_eq_some_iff.mp hn
  rw [isFor, equalsAt, hthat]
  cases st.objects s <;> rfl

omit [SubscriberOps σ] in
/-- A notification can be read while its receiver is there. -/
theorem exists_read {st : SubscriberStore σ W} {n : Notification Ptr}
    (hrcver : ∀ p, n.rcver = some p → (st.objects p).isSome = true) :
    ∃ n', read st.objects n = some n' := by
  rw [← Option.isSome_iff_exists, read]
  split
  · rfl
  · rename_i p hp
    rw [Option.isSome_map]
    exact hrcver p hp

/-- Others can be deleted without a change to how the receiver compares. -/
theorem lastOfEquals_delete {st : SubscriberStore σ W} {l₁ l₂ : List Ptr} {s p : Ptr}
    (hst : st.Sound) (hl : st.mSubscribers = l₁ ++ s :: l₂) (hs : st.equalsAt s p = true)
    (hp : p ∈ l₂) (w : W) :
    LastOfEquals ⟨Function.update st.objects s none, l₁ ++ l₂, w⟩ p ↔ st.LastOfEquals p := by
  have hmem := (hst.split hl).1
  have hps : p ≠ s := fun h => hmem (h ▸ List.mem_append_right _ hp)
  have hne : l₂ ≠ [] := List.ne_nil_of_mem hp
  have hcmp : ∀ t ∈ l₁ ++ l₂, equalsAt ⟨Function.update st.objects s none, l₁ ++ l₂, w⟩ t p =
      st.equalsAt t p := by
    intro t ht
    have hts : t ≠ s := fun h => hmem (h ▸ ht)
    simp only [equalsAt, Function.update_of_ne hts, Function.update_of_ne hps]
  rw [LastOfEquals, LastOfEquals, hl]
  refine and_congr ?_ ⟨fun h t ht => ?_, fun h t ht => ?_⟩
  · simp [List.getLast?_cons, List.getLast?_eq_some_getLast hne]
  · rw [List.mem_append, List.mem_cons] at ht
    rcases ht with ht | rfl | ht
    · exact (hcmp t (List.mem_append_left _ ht)).symm.trans (h t (List.mem_append_left _ ht))
    · exact hs
    · exact (hcmp t (List.mem_append_right _ ht)).symm.trans (h t (List.mem_append_right _ ht))
  · exact (hcmp t ht).trans (h t (by simp at ht ⊢; tauto))

/-- Where the receiver is the first that equals it, it is the last only if it is alone. -/
theorem lastOfEquals_first {st : SubscriberStore σ W} {l₁ l₂ : List Ptr} {s : Ptr}
    (hst : st.Sound) (hl : st.mSubscribers = l₁ ++ s :: l₂) (hs : st.equalsAt s s = true)
    (hl₁ : ∀ t ∈ l₁, (!st.equalsAt t s) = true) : st.LastOfEquals s ↔ l₁ ++ l₂ = [] := by
  rw [LastOfEquals, hl]
  constructor
  · rintro ⟨hlast, hall⟩
    have hfst : l₁ = [] := by
      apply List.eq_nil_iff_forall_not_mem.mpr
      intro t ht
      have := hl₁ t ht
      rw [hall t (List.mem_append_left _ ht)] at this
      cases this
    have hsnd : l₂ = [] := by
      by_contra hne
      rw [List.getLast?_append_cons, List.getLast?_cons, List.getLast?_eq_some_getLast hne] at hlast
      refine (hst.split hl).1 (List.mem_append_right _ ?_)
      rw [← Option.some.inj hlast]
      exact List.getLast_mem hne
    rw [hfst, hsnd]
    rfl
  · intro hnil
    obtain ⟨rfl, rfl⟩ := List.append_eq_nil_iff.mp hnil
    exact ⟨rfl, fun t ht => List.mem_singleton.mp ht ▸ hs⟩

/-- **The loop.** It reads no destroyed subscriber exactly when the receiver is not in the list, or
is the last of subscribers that are all equal to it. -/
theorem deleteLoop_isSome_iff [LawfulSubscriber σ] {n : Notification Ptr}
    (hdel : n.postNotifyDelete = true) (htold : n.rsrcStatus.isTold = true) {k : ℕ}
    {st : SubscriberStore σ W} (hst : st.Sound) (hk : st.mSubscribers.length < k)
    (hrcver : ∀ p, n.rcver = some p → (st.objects p).isSome = true) :
    (deleteLoop inform n k st).isSome = true ↔
      ∀ p, n.rcver = some p → p ∈ st.mSubscribers → st.LastOfEquals p := by
  induction k generalizing st with
  | zero => omega
  | succ k ih =>
    obtain ⟨n', hn⟩ := exists_read hrcver
    have hself : ∀ p, n.rcver = some p → st.isFor n' p = true := by
      intro p hp
      obtain ⟨that, hthat⟩ := Option.isSome_iff_exists.mp (hrcver p hp)
      rw [isFor_eq_equalsAt hn hp, equalsAt, hthat]
      exact LawfulSubscriber.equals_refl that
    cases hfind : st.mSubscribers.find? (st.isFor n') with
    | none =>
      refine iff_of_true (deleteLoop_of_none inform hst hn hdel htold hfind k) fun p hp hmem => ?_
      exact absurd (hself p hp) (List.find?_eq_none.mp hfind p hmem)
    | some s =>
      obtain ⟨hs, l₁, l₂, hl, hl₁⟩ := List.find?_eq_some_iff_append.mp hfind
      obtain ⟨w, hloop⟩ := deleteLoop_of_some inform hst hn hdel htold hl hs
        (fun t ht => by simpa using hl₁ t ht) k
      have hsound := hst.delete hl w
      rw [hl, List.length_append, List.length_cons] at hk
      obtain ⟨k, rfl⟩ := Nat.exists_eq_succ_of_ne_zero (show k ≠ 0 by omega)
      rw [hloop]
      by_cases hrs : n.rcver = some s
      · -- the receiver itself is deleted
        have hlast := lastOfEquals_first hst hl (isFor_eq_equalsAt hn hrs s ▸ hs)
          fun t ht => isFor_eq_equalsAt hn hrs t ▸ hl₁ t ht
        have hspec : (∀ p, n.rcver = some p → p ∈ st.mSubscribers → st.LastOfEquals p) ↔
            l₁ ++ l₂ = [] := by
          rw [← hlast, hrs, hl]
          simp
        rw [hspec]
        by_cases hnil : l₁ ++ l₂ = []
        · exact iff_of_true (deleteLoop_nil inform hnil k) hnil
        · rw [deleteLoop_of_gone inform (by simp [read, hrs]) hnil]
          exact iff_of_false Bool.false_ne_true hnil
      · -- somebody else is, and the receiver stays
        have hstays : ∀ p, n.rcver = some p → p ≠ s := fun p hp h => hrs (h ▸ hp)
        rw [ih hsound (by simp; omega)]
        · refine forall₂_congr fun p hp => ?_
          have hp₁ : p ∉ l₁ := fun h => absurd (hself p hp) (by simpa using hl₁ p h)
          have hmem : p ∈ l₁ ++ l₂ ↔ p ∈ l₂ := by simp [hp₁]
          have hmem' : p ∈ st.mSubscribers ↔ p ∈ l₂ := by simp [hl, hp₁, hstays p hp]
          rw [hmem, hmem']
          refine forall_congr' fun hp₂ => ?_
          exact lastOfEquals_delete hst hl (isFor_eq_equalsAt hn hp s ▸ hs) hp₂ w
        · intro p hp
          simpa only [Function.update_of_ne (hstays p hp)] using hrcver p hp

/-- A search for a notification that deletes nobody, while its receiver is there. -/
theorem notifySubscribers_of_keep {st : SubscriberStore σ W} {n : Notification Ptr}
    (hst : st.Sound) (hdel : n.postNotifyDelete = false) (htold : n.rsrcStatus.isTold = true)
    (hrcver : ∀ p, n.rcver = some p → (st.objects p).isSome = true) :
    (st.notifySubscribers inform n).isSome = true := by
  obtain ⟨n', hn⟩ := exists_read hrcver
  obtain ⟨r, hr, -⟩ := checkedSearch_eq
    (fun s hs w => notifySubscriber_eq inform hn htold (hst.live s hs) w) false st.world
  rw [notifySubscribers, hdel, if_neg Bool.false_ne_true, hr]
  rfl

/-- **No destroyed subscriber is touched** for a notification of the state objects exactly when it
is a broadcast, or its receiver is the last in the list and all the others equal it. -/
theorem notifySubscribers_isSome_iff [LawfulSubscriber σ] {st : SubscriberStore σ W}
    (hst : st.Sound) {n : Notification Ptr} (hn : st.Built n) :
    (st.notifySubscribers inform n).isSome = true ↔
      ∀ rcver, n.rcver = some rcver → st.LastOfEquals rcver := by
  have hlive : ∀ p, n.rcver = some p → p ∈ st.mSubscribers := by
    intro p hp
    cases hn with
    | unsubscribe hs => exact Option.some.inj hp ▸ hs
    | granted | denied | released | deniedInactive | releasedInactive => cases hp
  have htold : n.rsrcStatus.isTold = true := by cases hn <;> rfl
  have hthere := fun p hp => hst.live p (hlive p hp)
  cases hdel : n.postNotifyDelete with
  | true =>
    rw [notifySubscribers, if_pos hdel, deleteLoop_isSome_iff inform hdel htold hst
      (Nat.lt_succ_self _) hthere]
    exact forall₂_congr fun p hp => forall_prop_of_true (hlive p hp)
  | false =>
    refine iff_of_true (notifySubscribers_of_keep inform hst hdel htold hthere) fun p hp => ?_
    cases hn with
    | granted => cases hp
    | unsubscribe | denied | released | deniedInactive | releasedInactive => cases hdel

/-- One client of the modem. -/
def oneClient : SubscriberStore Subscriber Unit where
  objects s := if s = 0 then some ⟨1, .replicate 16 0, .atlSubscriber false⟩ else none
  mSubscribers := [0]
  world := ()

/-- The only client may be unsubscribed. -/
theorem notifySubscribers_isSome_iff_oneClient :
    (oneClient.notifySubscribers (fun _ _ w => w) (.addressed 0 .rsrcUnsubscribe true)).isSome =
      true := by
  have hst : oneClient.Sound := ⟨by decide, by decide⟩
  rw [notifySubscribers_isSome_iff _ hst (.unsubscribe (by decide))]
  intro rcver hrcver
  cases hrcver
  exact ⟨rfl, by decide⟩

/-- Two clients of the modem. -/
def twoClients : SubscriberStore Subscriber Unit where
  objects s := if s = 0 then some ⟨1, .replicate 16 0, .atlSubscriber false⟩
    else if s = 1 then some ⟨2, .replicate 16 0, .atlSubscriber false⟩ else none
  mSubscribers := [0, 1]
  world := ()

/-- When one of them is unsubscribed, the other is compared with it after it was destroyed. -/
theorem destroyed_receiver :
    twoClients.Sound ∧ twoClients.Built (.addressed 0 .rsrcUnsubscribe true) ∧
    twoClients.notifySubscribers (fun _ _ w => w) (.addressed 0 .rsrcUnsubscribe true) = none := by
  refine ⟨⟨by decide, by decide⟩, .unsubscribe (by decide), ?_⟩
  rw [← Option.isNone_iff_eq_none]
  decide

/-- An unsubscribe while somebody else is listed compares them with a destroyed subscriber. -/
theorem notifySubscribers_of_other [LawfulSubscriber σ] {st : SubscriberStore σ W}
    (hst : st.Sound) {s t : Ptr} (hs : s ∈ st.mSubscribers) (ht : t ∈ st.mSubscribers)
    (hne : st.equalsAt t s = false) :
    st.notifySubscribers inform (.addressed s .rsrcUnsubscribe true) = none := by
  have hthere : ∀ p, (Notification.addressed s .rsrcUnsubscribe true).rcver = some p →
      (st.objects p).isSome = true := fun p hp => Option.some.inj hp ▸ hst.live s hs
  have hdel : (Notification.addressed s .rsrcUnsubscribe true).postNotifyDelete = true := rfl
  rw [← Option.not_isSome_iff_eq_none, notifySubscribers, if_pos hdel,
    deleteLoop_isSome_iff inform rfl rfl hst (Nat.lt_succ_self _) hthere]
  intro h
  have := (h s rfl hs).2 t ht
  rw [hne] at this
  cases this

/-! ## The machine on values -/

/-- The subscribers, in the order of the list. -/
def values (st : SubscriberStore σ W) : List σ := st.mSubscribers.filterMap st.objects

/-- A comparison that reads nothing destroyed is that of the objects. -/
theorem notifySubscriber_some {objects : Ptr → Option σ} {n : Notification Ptr}
    {n' : Notification σ} (hn : ∀ m, read objects n = some m → m = n') (s1 : Ptr) (w : W)
    (x : Bool × W) (hx : notifySubscriber inform objects n s1 w = some x) :
    ∃ this, objects s1 = some this ∧ ((notifyRsrcStatus inform n' this w).1 && n.postNotifyDelete,
      (notifyRsrcStatus inform n' this w).2) = x := by
  obtain ⟨this, hthis, hx⟩ := Option.bind_eq_some_iff.mp hx
  obtain ⟨m, hm, hx⟩ := Option.bind_eq_some_iff.mp hx
  obtain rfl := hn m hm
  exact ⟨this, hthis, Option.some.inj hx⟩

omit [SubscriberOps σ] in
/-- While the receiver is there, it is the same. -/
theorem read_delete {objects : Ptr → Option σ} {n : Notification Ptr} {n' m : Notification σ}
    {s : Ptr} (hn : ∀ m, read objects n = some m → m = n')
    (hm : read (Function.update objects s none) n = some m) : m = n' := by
  apply hn m
  rw [read] at hm ⊢
  split at hm
  · exact hm
  · rename_i p hp
    by_cases hps : p = s
    · simp [hps] at hm
    · rwa [Function.update_of_ne hps] at hm

/-- What a loop on pointers does, one on values does. -/
theorem deleteLoop_values {n : Notification Ptr} {n' : Notification σ} {k : ℕ}
    {st st' : SubscriberStore σ W} (hst : st.Sound)
    (hn : ∀ m, read st.objects n = some m → m = n') (hloop : deleteLoop inform n k st = some st') :
    searchAndDelete (fun s1 w => ((notifyRsrcStatus inform n' s1 w).1 && n.postNotifyDelete,
      (notifyRsrcStatus inform n' s1 w).2)) k st.values st.world = (st'.values, st'.world) := by
  induction k generalizing st with
  | zero =>
    cases hloop
    rfl
  | succ k ih =>
    obtain ⟨r, hr, hnext⟩ := Option.bind_eq_some_iff.mp hloop
    obtain ⟨hlist, hworld, hdata⟩ := checkedSearch_values (notifySubscriber_some inform hn) hr
    rw [searchAndDelete, values, hlist, hworld, hdata]
    rcases hfound : r.dataP with _ | ⟨i, s⟩
    · rw [hfound] at hnext
      cases hnext
      rfl
    · rw [hfound] at hnext
      obtain ⟨l₁, l₂, hl, hrest⟩ := checkedSearch_some hr hfound
      rw [hrest] at hnext ⊢
      have hsound := hst.delete hl r.world
      have hvalues : (l₁ ++ l₂).filterMap st.objects =
          values ⟨Function.update st.objects s none, l₁ ++ l₂, r.world⟩ := by
        apply List.filterMap_congr
        intro t ht
        have hts : t ≠ s := fun h => (hst.split hl).1 (h ▸ ht)
        exact (Function.update_of_ne hts _ _).symm
      rw [hvalues]
      exact ih hsound (fun m hm => read_delete hn hm) hnext

/-- **On values.** Where nothing destroyed is read, the machine on values is left with the objects
of the machine on pointers, and both have told the same. -/
theorem notifySubscribers_values {vt : Virtuals σ W} {sm : AgpsStateMachine σ W}
    {st st' : SubscriberStore σ W} (hst : st.Sound) (hlist : sm.mSubscribers = st.values)
    (hworld : sm.world = st.world) {n : Notification Ptr} {n' : Notification σ}
    (hn : read st.objects n = some n')
    (hrun : st.notifySubscribers (vt.inform sm) n = some st') :
    (sm.notifySubscribers vt n').mSubscribers = st'.values ∧
      (sm.notifySubscribers vt n').world = st'.world := by
  have hdel := (read_fields hn).2
  have hsame : ∀ m, read st.objects n = some m → m = n' :=
    fun m hm => Option.some.inj (hm.symm.trans hn)
  rw [notifySubscribers] at hrun
  rw [AgpsStateMachine.notifySubscribers, hdel, hlist, hworld]
  split at hrun
  · rename_i htrue
    have hlength : st.values.length = st.mSubscribers.length :=
      List.filterMap_length_eq_length.mpr hst.live
    have hloop := deleteLoop_values (vt.inform sm) hst hsame hrun
    rw [if_pos htrue, hlength, hloop]
    exact ⟨rfl, rfl⟩
  · rename_i hfalse
    obtain ⟨r, hr, hst'⟩ := Option.bind_eq_some_iff.mp hrun
    cases hst'
    obtain ⟨hvalues, hw, -⟩ := checkedSearch_values (notifySubscriber_some (vt.inform sm) hsame) hr
    rw [if_neg hfalse]
    exact ⟨hvalues, hw⟩

end SubscriberStore

end OppoA37.Agps
