import Mathlib

/-!
# The table of synchronous requests

A synchronous request takes a slot of `loc_sync_array`, names the indication it waits for,
and blocks on the condition variable of its slot. Indications come in on another thread
and are compared with the slots.

Every function here is what one thread does while it holds a mutex: `loc_sync_call_mutex`
(the slots in use, and the whole of `processInd`), or the `sync_req_lock` of one slot
(everything else in that slot).
-/

namespace OppoA37.LocSync

/-! ## Data -/

/-- `LOC_SYNC_REQ_BUFFER_SIZE` slots. -/
abbrev Slot : Type := Fin 8

/-- What a call of `loc_sync_send_req` asks for. Pointers are numbers, and `none` is `NULL`. -/
structure Request where
  /-- the client that sends the request; `none` is `LOC_CLIENT_INVALID_HANDLE_VALUE` -/
  clientHandle : Option ℕ
  /-- the request -/
  reqId : UInt32
  /-- its payload -/
  reqPayload : ℕ
  /-- the indication to block for -/
  indId : UInt32
  /-- where the payload of the indication goes; can be `NULL` -/
  indPayloadPtr : Option ℕ
  deriving DecidableEq, Repr

/-- An indication, as `loc_sync_process_ind` receives it. -/
structure Indication where
  /-- the handle of the client -/
  clientHandle : Option ℕ
  /-- the indication -/
  indId : UInt32
  /-- the bytes behind `ind_payload_ptr`; `none` is `NULL` -/
  indPayload : Option (List UInt8)
  deriving DecidableEq, Repr

/-- `loc_sync_req_data_s_type`: one slot. -/
structure SyncReqData where
  /-- the client -/
  clientHandle : Option ℕ := none
  /-- the threads blocked on the condition variable -/
  indArrivedCond : List ℕ := []
  /-- is the indication selected? -/
  indIsSelected : Bool := false
  /-- is a thread waiting? -/
  indIsWaiting : Bool := false
  /-- has the indication arrived before the wait? -/
  indHasArrived : Bool := false
  /-- the request -/
  reqId : UInt32 := 0
  /-- where the payload goes -/
  recvIndPayloadPtr : Option ℕ := none
  /-- the indication to wait for -/
  recvIndId : UInt32 := 0
  deriving DecidableEq, Repr

/-- `loc_sync_req_array_s_type`. -/
structure SyncReqArray where
  /-- at least one synchronous call is active -/
  inUse : Bool := false
  /-- the slots that are taken -/
  slotInUse : Slot → Bool := fun _ => false
  /-- the slots -/
  slots : Slot → SyncReqData := fun _ => {}

/-- What `loc_sync_wait_for_ind` returns. -/
inductive WaitResult where
  /-- no error -/
  | ok
  /-- `-EINVAL`: the slot is not in use -/
  | einval
  /-- `-EBUSY`: another thread waits in the slot -/
  | ebusy
  /-- `-ETIMEDOUT` -/
  | etimedout
  deriving DecidableEq, Repr

namespace SyncReqArray

variable (a : SyncReqArray)

/-- Write one slot. -/
def setSlot (i : Slot) (d : SyncReqData) : SyncReqArray :=
  { a with slots := Function.update a.slots i d }

/-! ## Slots are taken and freed -/

/-- `loc_alloc_slot`: the first slot that is free; `none` is `-1`. -/
def allocSlot : Option Slot × SyncReqArray :=
  match (List.finRange 8).find? fun i => !a.slotInUse i with
  | some i => (some i, { a with inUse := true, slotInUse := Function.update a.slotInUse i true })
  | none => (none, a)

/-- `loc_free_slot`. The threads blocked on the condition variable stay blocked. -/
def freeSlot (i : Slot) : SyncReqArray :=
  let slotInUse := Function.update a.slotInUse i false
  { inUse := if (List.finRange 8).any slotInUse then a.inUse else false
    slotInUse := slotInUse
    slots := Function.update a.slots i { indArrivedCond := (a.slots i).indArrivedCond } }

@[simp] theorem inUse_setSlot (i : Slot) (d : SyncReqData) : (a.setSlot i d).inUse = a.inUse := rfl

@[simp] theorem slotInUse_setSlot (i : Slot) (d : SyncReqData) :
    (a.setSlot i d).slotInUse = a.slotInUse := rfl

@[simp] theorem slots_setSlot_self (i : Slot) (d : SyncReqData) : (a.setSlot i d).slots i = d :=
  Function.update_self ..

@[simp] theorem slots_setSlot_of_ne {i j : Slot} (h : j ≠ i) (d : SyncReqData) :
    (a.setSlot i d).slots j = a.slots j :=
  Function.update_of_ne h ..

variable {a}

/-- A slot that is given out was free. -/
theorem allocSlot_eq_some {i : Slot} {a' : SyncReqArray} (h : a.allocSlot = (some i, a')) :
    a.slotInUse i = false ∧
      a' = { a with inUse := true, slotInUse := Function.update a.slotInUse i true } := by
  rw [allocSlot] at h
  split at h
  · next j hj =>
    obtain ⟨hij, rfl⟩ := Prod.mk.inj h
    obtain rfl := Option.some.inj hij
    exact ⟨by simpa using List.find?_some hj, rfl⟩
  · next => cases h

/-- No slot is given out only when all are taken. -/
theorem allocSlot_eq_none {a' : SyncReqArray} (h : a.allocSlot = (none, a')) :
    a' = a ∧ ∀ i, a.slotInUse i = true := by
  rw [allocSlot] at h
  split at h
  · next => cases h
  · next hnone =>
    refine ⟨(Prod.mk.inj h).2.symm, fun i => ?_⟩
    simpa using List.find?_eq_none.mp hnone i (List.mem_finRange i)

/-- Freeing a slot keeps `in_use` in step with the slots. -/
theorem inUse_freeSlot (h : a.inUse = true ↔ ∃ i, a.slotInUse i = true) (i : Slot) :
    (a.freeSlot i).inUse = true ↔ ∃ j, (a.freeSlot i).slotInUse j = true := by
  have hany : (List.finRange 8).any (Function.update a.slotInUse i false) = true ↔
      ∃ j, Function.update a.slotInUse i false j = true := by
    simp only [List.any_eq_true, List.mem_finRange, true_and]
  simp only [freeSlot]
  split
  · next hsome =>
    have hex := hany.mp hsome
    refine ⟨fun _ => hex, fun _ => h.mpr ?_⟩
    obtain ⟨j, hj⟩ := hex
    refine ⟨j, ?_⟩
    by_cases hji : j = i
    · subst hji
      simp at hj
    · rwa [Function.update_of_ne hji] at hj
  · next hnone => exact ⟨nofun, fun hex => absurd (hany.mpr hex) hnone⟩

variable (a)

/-! ## Selecting and waiting -/

/-- `loc_sync_select_ind`, once it has a slot. -/
def selectInd (i : Slot) (q : Request) : SyncReqArray :=
  a.setSlot i { a.slots i with
    clientHandle := q.clientHandle
    indIsSelected := true
    indIsWaiting := false
    indHasArrived := false
    recvIndId := q.indId
    reqId := q.reqId
    recvIndPayloadPtr := q.indPayloadPtr }

/-- `loc_sync_wait_for_ind` of the thread `r` up to the wait: it returns at once, or blocks
(`none`). -/
def beginWait (i : Slot) (r : ℕ) : Option WaitResult × SyncReqArray :=
  if (a.slots i).indHasArrived then (some .ok, a)
  else if (a.slots i).indIsWaiting then (some .ebusy, a)
  else (none, a.setSlot i { a.slots i with
    indIsWaiting := true
    indArrivedCond := (a.slots i).indArrivedCond ++ [r] })

/-- `loc_sync_wait_for_ind` of the thread `r` when `pthread_cond_timedwait` returns. -/
def endWait (i : Slot) (r : ℕ) : SyncReqArray :=
  a.setSlot i { a.slots i with
    indIsWaiting := false
    indArrivedCond := (a.slots i).indArrivedCond.erase r }

/-! ## An indication arrives -/

/-- The slot `i` waits for this indication, and it has not arrived before. -/
def Matches (ind : Indication) (i : Slot) : Prop :=
  a.slotInUse i = true ∧ (a.slots i).clientHandle = ind.clientHandle ∧
    ind.indId = (a.slots i).recvIndId ∧ (a.slots i).indHasArrived = false

instance (ind : Indication) (i : Slot) : Decidable (a.Matches ind i) :=
  inferInstanceAs (Decidable (_ ∧ _ ∧ _ ∧ _))

end SyncReqArray

/-- `pthread_cond_signal`: one of the blocked threads is woken; `k` picks it. -/
def condSignal (k : ℕ) (blocked : List ℕ) : List ℕ :=
  blocked.eraseIdx (k % blocked.length)

/-- What `loc_sync_process_ind` copies for a slot, and where to: nothing if the size of the
indication is not known to `locClientGetSizeByRespIndId` (`sizeOf`), or a pointer is `NULL`. -/
def payloadCopy (sizeOf : UInt32 → Option ℕ) (ind : Indication) (d : SyncReqData) :
    Option (ℕ × List UInt8) :=
  match sizeOf ind.indId, d.recvIndPayloadPtr, ind.indPayload with
  | some size, some ptr, some bytes => some (ptr, bytes.take size)
  | _, _, _ => none

/-- What is copied goes to the pointer of the slot. -/
theorem ptr_of_payloadCopy {sizeOf : UInt32 → Option ℕ} {ind : Indication} {d : SyncReqData}
    {ptr : ℕ} {bytes : List UInt8} (h : payloadCopy sizeOf ind d = some (ptr, bytes)) :
    d.recvIndPayloadPtr = some ptr := by
  rw [payloadCopy] at h
  split at h
  · next hptr _ =>
    rw [hptr, (Prod.mk.inj (Option.some.inj h)).1]
  · cases h

/-- A slot after its indication: a thread that waits is woken, and for one that does not the
indication is remembered. -/
def notifySlot (k : ℕ) (ind : Indication) (d : SyncReqData) : SyncReqData :=
  if d.indIsWaiting then
    { d with recvIndId := ind.indId, indArrivedCond := condSignal k d.indArrivedCond }
  else { d with indHasArrived := true }

theorem notifySlot_of_waiting {d : SyncReqData} (h : d.indIsWaiting = true) (k : ℕ)
    (ind : Indication) : notifySlot k ind d =
      { d with recvIndId := ind.indId, indArrivedCond := condSignal k d.indArrivedCond } := by
  rw [notifySlot, if_pos h]

theorem notifySlot_of_not_waiting {d : SyncReqData} (h : d.indIsWaiting = false) (k : ℕ)
    (ind : Indication) : notifySlot k ind d = { d with indHasArrived := true } := by
  rw [notifySlot, if_neg (Bool.eq_false_iff.mp h)]

/-- A `memcpy` into the payload of a request: the slot, the pointer and the bytes. -/
structure Copied where
  /-- the slot that matched -/
  slot : Slot
  /-- its `recv_ind_payload_ptr` -/
  ptr : ℕ
  /-- the payload -/
  bytes : List UInt8
  deriving DecidableEq, Repr

namespace SyncReqArray

variable (sizeOf : UInt32 → Option ℕ) (ind : Indication) (pick : Slot → ℕ)

/-- The loop of `loc_sync_process_ind` over the remaining slots, with its flag `in_use`: it
ends with the first slot that the payload was copied for. `pick` chooses the threads that
wake up. -/
def scanSlots : List Slot → SyncReqArray → Bool → SyncReqArray × Bool × Option Copied
  | [], a, inUse => (a, inUse, none)
  | i :: rest, a, inUse =>
    if a.Matches ind i then
      let a' := a.setSlot i (notifySlot (pick i) ind (a.slots i))
      match payloadCopy sizeOf ind (a.slots i) with
      | some (ptr, bytes) => (a', inUse || a.slotInUse i, some ⟨i, ptr, bytes⟩)
      | none => scanSlots rest a' (inUse || a.slotInUse i)
    else scanSlots rest a (inUse || a.slotInUse i)

/-- `loc_sync_process_ind`. -/
def processInd (a : SyncReqArray) : SyncReqArray × Option Copied :=
  if a.inUse then
    let r := scanSlots sizeOf ind pick (List.finRange 8) a false
    ({ r.1 with inUse := if r.2.1 then r.1.inUse else false }, r.2.2)
  else (a, none)

/-- The slots that the loop notifies: those that match, up to the first one that the payload
is copied for. -/
def notified (a : SyncReqArray) : List Slot → List Slot
  | [] => []
  | i :: rest =>
    if a.Matches ind i then
      if (payloadCopy sizeOf ind (a.slots i)).isSome = true then [i] else i :: notified a rest
    else notified a rest

/-- Notify some slots. -/
def notifySlots (a : SyncReqArray) (l : List Slot) : SyncReqArray where
  inUse := a.inUse
  slotInUse := a.slotInUse
  slots i := if i ∈ l then notifySlot (pick i) ind (a.slots i) else a.slots i

variable {sizeOf ind pick} {a a' : SyncReqArray}

theorem matches_of_mem_notified {i : Slot} : ∀ {l : List Slot}, i ∈ notified sizeOf ind a l →
    i ∈ l ∧ a.Matches ind i := by
  intro l
  induction l with
  | nil => exact fun h => absurd h List.not_mem_nil
  | cons j rest ih =>
    intro h
    rw [notified] at h
    split at h
    · next hm =>
      split at h
      · obtain rfl := List.mem_singleton.mp h
        exact ⟨List.mem_cons_self, hm⟩
      · rcases List.mem_cons.mp h with rfl | h
        · exact ⟨List.mem_cons_self, hm⟩
        · exact ⟨List.mem_cons_of_mem _ (ih h).1, (ih h).2⟩
    · exact ⟨List.mem_cons_of_mem _ (ih h).1, (ih h).2⟩

/-- The notified slots depend on the slots of the loop only. -/
theorem notified_congr (huse : a'.slotInUse = a.slotInUse) : ∀ {l : List Slot},
    (∀ j ∈ l, a'.slots j = a.slots j) → notified sizeOf ind a' l = notified sizeOf ind a l := by
  intro l
  induction l with
  | nil => exact fun _ => rfl
  | cons j rest ih =>
    intro h
    have hm : a'.Matches ind j ↔ a.Matches ind j := by
      rw [Matches, Matches, huse, h j List.mem_cons_self]
    rw [notified, notified, h j List.mem_cons_self,
      ih fun j' hj' => h j' (List.mem_cons_of_mem _ hj')]
    simp only [hm]

/-- Slots are notified one after the other. -/
theorem notifySlots_cons {i : Slot} {l : List Slot} (hi : i ∉ l) (a : SyncReqArray) :
    a.notifySlots ind pick (i :: l) =
      (a.setSlot i (notifySlot (pick i) ind (a.slots i))).notifySlots ind pick l := by
  simp only [notifySlots, setSlot, mk.injEq, true_and]
  funext j
  by_cases hji : j = i
  · subst hji
    simp [hi]
  · simp [hji]

/-- The loop notifies the slots it should, and no others. -/
theorem scanSlots_array : ∀ {l : List Slot}, l.Nodup → ∀ (a : SyncReqArray) (inUse : Bool),
    (scanSlots sizeOf ind pick l a inUse).1 =
      a.notifySlots ind pick (notified sizeOf ind a l) := by
  intro l
  induction l with
  | nil =>
    intro _ a inUse
    simp [scanSlots, notified, notifySlots]
  | cons j rest ih =>
    intro hnodup a inUse
    obtain ⟨hj, hrest⟩ := List.nodup_cons.mp hnodup
    rw [scanSlots, notified]
    split
    · next hm =>
      have hother : ∀ i ∈ rest,
          (a.setSlot j (notifySlot (pick j) ind (a.slots j))).slots i = a.slots i :=
        fun i hi => slots_setSlot_of_ne _ (ne_of_mem_of_not_mem hi hj) _
      split
      · next ptr bytes hcopy =>
        simp only [hcopy, Option.isSome_some, if_true]
        exact (notifySlots_cons (List.not_mem_nil) a).symm
      · next hcopy =>
        have hno : j ∉ notified sizeOf ind a rest := fun h => hj (matches_of_mem_notified h).1
        rw [ih hrest, notified_congr (slotInUse_setSlot ..) hother]
        simp only [hcopy, Option.isSome_none, Bool.false_eq_true, if_false]
        exact (notifySlots_cons hno a).symm
    · exact ih hrest a _

/-- The payload is copied for the notified slot that takes it. -/
theorem scanSlots_copied {c : Copied} : ∀ {l : List Slot}, l.Nodup →
    ∀ (a : SyncReqArray) (inUse : Bool), (scanSlots sizeOf ind pick l a inUse).2.2 = some c ↔
      c.slot ∈ notified sizeOf ind a l ∧
        payloadCopy sizeOf ind (a.slots c.slot) = some (c.ptr, c.bytes) := by
  intro l
  induction l with
  | nil => exact fun _ _ _ => by simp [scanSlots, notified]
  | cons j rest ih =>
    intro hnodup a inUse
    obtain ⟨hj, hrest⟩ := List.nodup_cons.mp hnodup
    rw [scanSlots, notified]
    split
    · next hm =>
      split
      · next ptr bytes hcopy =>
        simp only [hcopy, Option.isSome_some, if_true, List.mem_singleton]
        constructor
        · intro h
          obtain rfl := Option.some.inj h
          exact ⟨rfl, hcopy⟩
        · rintro ⟨hslot, hc⟩
          rw [hslot, hcopy] at hc
          obtain ⟨rfl, rfl⟩ := Prod.mk.inj (Option.some.inj hc)
          rw [← hslot]
      · next hcopy =>
        have hother : ∀ i ∈ rest,
            (a.setSlot j (notifySlot (pick j) ind (a.slots j))).slots i = a.slots i :=
          fun i hi => slots_setSlot_of_ne _ (ne_of_mem_of_not_mem hi hj) _
        rw [ih hrest, notified_congr (slotInUse_setSlot ..) hother]
        simp only [hcopy, Option.isSome_none, Bool.false_eq_true, if_false, List.mem_cons]
        constructor
        · rintro ⟨hmem, hc⟩
          rw [hother _ (matches_of_mem_notified hmem).1] at hc
          exact ⟨Or.inr hmem, hc⟩
        · rintro ⟨hslot | hmem, hc⟩
          · rw [hslot, hcopy] at hc
            cases hc
          · rw [hother _ (matches_of_mem_notified hmem).1]
            exact ⟨hmem, hc⟩
    · exact ih hrest a _

/-- The flag `in_use` of the loop tells whether a slot is taken. -/
theorem scanSlots_inUse : ∀ (l : List Slot) (a : SyncReqArray) (inUse : Bool),
    (scanSlots sizeOf ind pick l a inUse).2.1 = true ↔
      inUse = true ∨ ∃ i ∈ l, a.slotInUse i = true := by
  intro l
  induction l with
  | nil => exact fun _ _ => by simp [scanSlots]
  | cons j rest ih =>
    intro a inUse
    rw [scanSlots]
    split
    · next hm =>
      split
      · simp [hm.1]
      · rw [ih]
        simp [hm.1]
    · rw [ih]
      simp [or_assoc]

/-- If the payload is copied for no slot, all that match are notified. -/
theorem notified_of_forall {i : Slot} : ∀ {l : List Slot},
    (∀ j ∈ notified sizeOf ind a l, payloadCopy sizeOf ind (a.slots j) = none) →
      i ∈ l → a.Matches ind i → i ∈ notified sizeOf ind a l := by
  intro l
  induction l with
  | nil => exact fun _ h => absurd h List.not_mem_nil
  | cons j rest ih =>
    intro hnone hi hm
    rw [notified] at hnone ⊢
    by_cases hj : a.Matches ind j
    · rw [if_pos hj] at hnone ⊢
      by_cases hcopy : (payloadCopy sizeOf ind (a.slots j)).isSome = true
      · rw [if_pos hcopy] at hnone
        rw [hnone j (List.mem_singleton_self j)] at hcopy
        cases hcopy
      · rw [if_neg hcopy] at hnone ⊢
        rcases List.mem_cons.mp hi with rfl | hi
        · exact List.mem_cons_self
        · have hrest := ih (fun j' hj' => hnone j' (List.mem_cons_of_mem _ hj')) hi hm
          exact List.mem_cons_of_mem _ hrest
    · rw [if_neg hj] at hnone ⊢
      rcases List.mem_cons.mp hi with rfl | hi
      · exact absurd hm hj
      · exact ih hnone hi hm

/-- An indication finds these slots. -/
def notifiedSlots (sizeOf : UInt32 → Option ℕ) (ind : Indication) (a : SyncReqArray) : List Slot :=
  notified sizeOf ind a (List.finRange 8)

theorem matches_of_mem_notifiedSlots {i : Slot} (h : i ∈ notifiedSlots sizeOf ind a) :
    a.Matches ind i :=
  (matches_of_mem_notified h).2

theorem mem_notifiedSlots_of_forall {i : Slot} (hm : a.Matches ind i)
    (hnone : ∀ j ∈ notifiedSlots sizeOf ind a, payloadCopy sizeOf ind (a.slots j) = none) :
    i ∈ notifiedSlots sizeOf ind a :=
  notified_of_forall hnone (List.mem_finRange i) hm

/-- What `loc_sync_process_ind` does to the table. -/
theorem processInd_array (h : a.inUse = true ↔ ∃ i, a.slotInUse i = true) :
    (processInd sizeOf ind pick a).1 = a.notifySlots ind pick (notifiedSlots sizeOf ind a) := by
  rw [processInd]
  split
  · next huse =>
    obtain ⟨i, hi⟩ := h.mp huse
    have hflag : (scanSlots sizeOf ind pick (List.finRange 8) a false).2.1 = true :=
      (scanSlots_inUse _ a false).mpr (Or.inr ⟨i, List.mem_finRange i, hi⟩)
    simp only [hflag, if_true, scanSlots_array (List.nodup_finRange 8)]
    rfl
  · next hno =>
    have hnil : notifiedSlots sizeOf ind a = [] := by
      refine List.eq_nil_iff_forall_not_mem.mpr fun i hi => hno (h.mpr ⟨i, ?_⟩)
      exact (matches_of_mem_notifiedSlots hi).1
    rw [hnil]
    simp [notifySlots]

/-- What `loc_sync_process_ind` copies. -/
theorem processInd_copied (h : a.inUse = true ↔ ∃ i, a.slotInUse i = true) {c : Copied} :
    (processInd sizeOf ind pick a).2 = some c ↔ c.slot ∈ notifiedSlots sizeOf ind a ∧
      payloadCopy sizeOf ind (a.slots c.slot) = some (c.ptr, c.bytes) := by
  rw [processInd]
  split
  · exact scanSlots_copied (List.nodup_finRange 8) a false
  · next hno =>
    refine ⟨nofun, fun hc => absurd (h.mpr ⟨c.slot, ?_⟩) hno⟩
    exact (matches_of_mem_notifiedSlots hc.1).1

end SyncReqArray

end OppoA37.LocSync
