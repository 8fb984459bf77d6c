import OppoA37.Gps.LocSync.Table
import OppoA37.Lib.Machine

/-!
# Calls of `loc_sync_send_req`

Any number of threads are in `loc_sync_send_req`, each at its own place (`Pc`), and
indications arrive in between. A thread moves by whole sections: what it does under one
mutex, one call of `locClientSendReq`, or the look at `slot_in_use` that
`loc_sync_wait_for_ind` takes without a mutex. Its environment chooses what
`locClientSendReq` answers, and when and how `pthread_cond_timedwait` returns: by a signal, at
the end of the time, or for no reason at all.
-/

namespace OppoA37.LocSync

open Lts

/-- `locClientStatusEnumType`. -/
inductive ClientStatus where
  | success
  | failureGeneral
  | failureUnsupported
  | failureInvalidParameter
  | failureEngineBusy
  | failurePhoneOffline
  | failureTimeout
  | failureServiceNotPresent
  | failureServiceVersionUnsupported
  | failureClientVersionUnsupported
  | failureInvalidHandle
  | failureInternal
  | failureNotInitialized
  | failureNotEnoughMemory
  deriving DecidableEq, Repr

/-- `loc_sync_send_req` tries again after this status. -/
def ClientStatus.isRetried : ClientStatus → Bool
  | .failureEngineBusy | .failurePhoneOffline | .failureInternal => true
  | _ => false

/-- What `loc_sync_send_req` makes of the result of its wait. -/
def WaitResult.status : WaitResult → ClientStatus
  | .ok => .success
  | .etimedout => .failureTimeout
  | .einval | .ebusy => .failureInternal

/-- Where a call is, with the local variables that matter there. -/
inductive Pc where
  /-- at the start -/
  | called
  /-- `loc_alloc_slot` has given it a slot -/
  | selecting (i : Slot)
  /-- at the top of its loop; `rc` is what the last wait returned -/
  | sending (i : Slot) (hax : ℕ) (rc : WaitResult)
  /-- sent, before the first line of `loc_sync_wait_for_ind` -/
  | checking (i : Slot) (hax : ℕ)
  /-- before it locks the slot for its wait -/
  | waiting (i : Slot) (hax : ℕ)
  /-- in `pthread_cond_timedwait` -/
  | blocked (i : Slot) (hax : ℕ)
  /-- before the `loc_free_slot` of `loc_sync_wait_for_ind` -/
  | freeing (i : Slot) (hax : ℕ) (rc : WaitResult)
  /-- before the `loc_free_slot` of `loc_sync_send_req` -/
  | failing (i : Slot) (status : ClientStatus) (rc : WaitResult)
  /-- back at its caller -/
  | returned (status : ClientStatus)
  deriving DecidableEq, Repr

/-- The end of the loop of `loc_sync_send_req`: try again, fail, or succeed. -/
def afterLoop (i : Slot) (hax : ℕ) (status : ClientStatus) (rc : WaitResult) : Pc :=
  if status.isRetried = true ∧ 0 < hax then .sending i (hax - 1) rc
  else if status = .success then .returned .success
  else .failing i status rc

/-- One section of a call, with what its environment answers. -/
inductive Section where
  /-- `loc_alloc_slot` -/
  | alloc
  /-- the rest of `loc_sync_select_ind` -/
  | select
  /-- `locClientSendReq`, and its status -/
  | send (status : ClientStatus)
  /-- the look at `slot_in_use` -/
  | check
  /-- lock the slot, and wait if need be -/
  | wait
  /-- `pthread_cond_timedwait` returns -/
  | wake (timedOut : Bool)
  /-- the `loc_free_slot` of `loc_sync_wait_for_ind` -/
  | freeWaited
  /-- the `loc_free_slot` of `loc_sync_send_req` -/
  | freeFailed
  deriving DecidableEq, Repr

/-- What a step shows to the outside. -/
inductive Out where
  /-- `loc_alloc_slot` gives the slot `i` to the call `r` -/
  | given (r : ℕ) (i : Slot)
  /-- the call `r` runs `loc_free_slot` for the slot `i` -/
  | freed (r : ℕ) (i : Slot)
  /-- the call `r` hands its request to `locClientSendReq` -/
  | sent (r : ℕ) (clientHandle : Option ℕ) (reqId : UInt32) (reqPayload : ℕ)
  /-- the payload of an indication is copied -/
  | copied (c : Copied)
  /-- the call `r` returns -/
  | returned (r : ℕ) (status : ClientStatus)
  deriving DecidableEq, Repr

/-- A call that is back shows its status. -/
def Pc.outs (r : ℕ) : Pc → List Out
  | .returned status => [.returned r status]
  | _ => []

/-- A section of the call `r` for the request `q`: the table, the place it goes to, and what
it shows; `none` when the call is not at this section. -/
def runSection (a : SyncReqArray) (r : ℕ) (q : Request) :
    Section → Pc → Option (SyncReqArray × Pc × List Out)
  | .alloc, .called =>
    match a.allocSlot with
    | (some i, a') => some (a', .selecting i, [.given r i])
    | (none, a') => some (a', .returned .success, [])
  | .select, .selecting i => some (a.selectInd i q, .sending i 5 .ok, [])
  | .send status, .sending i hax rc =>
    some (a, if status = .success then .checking i hax else afterLoop i hax status rc,
      [.sent r q.clientHandle q.reqId q.reqPayload])
  | .check, .checking i hax =>
    if a.slotInUse i then some (a, .waiting i hax, [])
    else some (a, afterLoop i hax WaitResult.einval.status .einval, [])
  | .wait, .waiting i hax =>
    match a.beginWait i r with
    | (some rc, a') => some (a', .freeing i hax rc, [])
    | (none, a') => some (a', .blocked i hax, [])
  | .wake timedOut, .blocked i hax =>
    some (a.endWait i r, .freeing i hax (if timedOut then .etimedout else .ok), [])
  | .freeWaited, .freeing i hax rc =>
    some (a.freeSlot i, afterLoop i hax rc.status rc, [.freed r i])
  | .freeFailed, .failing i status _ =>
    some (a.freeSlot i, .returned status, [.freed r i])
  | _, _ => none

/-- What a section does, case by case. -/
inductive Move (a : SyncReqArray) (r : ℕ) (q : Request) :
    Section → Pc → SyncReqArray → Pc → List Out → Prop where
  | alloc (i : Slot) : a.slotInUse i = false →
      Move a r q .alloc .called
        { a with inUse := true, slotInUse := Function.update a.slotInUse i true }
        (.selecting i) [.given r i]
  | full : (∀ i, a.slotInUse i = true) → Move a r q .alloc .called a (.returned .success) []
  | select (i : Slot) :
      Move a r q .select (.selecting i) (a.selectInd i q) (.sending i 5 .ok) []
  | sent (i : Slot) (hax : ℕ) (rc : WaitResult) :
      Move a r q (.send .success) (.sending i hax rc) a (.checking i hax)
        [.sent r q.clientHandle q.reqId q.reqPayload]
  | refused (i : Slot) (hax : ℕ) (rc : WaitResult) (status : ClientStatus) : status ≠ .success →
      Move a r q (.send status) (.sending i hax rc) a (afterLoop i hax status rc)
        [.sent r q.clientHandle q.reqId q.reqPayload]
  | checked (i : Slot) (hax : ℕ) : a.slotInUse i = true →
      Move a r q .check (.checking i hax) a (.waiting i hax) []
  | invalid (i : Slot) (hax : ℕ) : a.slotInUse i = false →
      Move a r q .check (.checking i hax) a (afterLoop i hax .failureInternal .einval) []
  | arrived (i : Slot) (hax : ℕ) : (a.slots i).indHasArrived = true →
      Move a r q .wait (.waiting i hax) a (.freeing i hax .ok) []
  | busy (i : Slot) (hax : ℕ) :
      (a.slots i).indHasArrived = false → (a.slots i).indIsWaiting = true →
      Move a r q .wait (.waiting i hax) a (.freeing i hax .ebusy) []
  | blocks (i : Slot) (hax : ℕ) :
      (a.slots i).indHasArrived = false → (a.slots i).indIsWaiting = false →
      Move a r q .wait (.waiting i hax) (a.setSlot i { a.slots i with
        indIsWaiting := true
        indArrivedCond := (a.slots i).indArrivedCond ++ [r] }) (.blocked i hax) []
  | wakes (i : Slot) (hax : ℕ) (timedOut : Bool) :
      Move a r q (.wake timedOut) (.blocked i hax) (a.endWait i r)
        (.freeing i hax (if timedOut then .etimedout else .ok)) []
  | freeWaited (i : Slot) (hax : ℕ) (rc : WaitResult) :
      Move a r q .freeWaited (.freeing i hax rc) (a.freeSlot i)
        (afterLoop i hax rc.status rc) [.freed r i]
  | freeFailed (i : Slot) (status : ClientStatus) (rc : WaitResult) :
      Move a r q .freeFailed (.failing i status rc) (a.freeSlot i) (.returned status) [.freed r i]

theorem move_of_runSection {a a' : SyncReqArray} {r : ℕ} {q : Request} {sec : Section}
    {pc pc' : Pc} {out : List Out} (h : runSection a r q sec pc = some (a', pc', out)) :
    Move a r q sec pc a' pc' out := by
  revert h
  unfold runSection
  split
  · -- loc_alloc_slot
    split
    · next i b hb =>
      rintro ⟨⟩
      obtain ⟨hfree, rfl⟩ := SyncReqArray.allocSlot_eq_some hb
      exact .alloc i hfree
    · next b hb =>
      rintro ⟨⟩
      obtain ⟨rfl, hfull⟩ := SyncReqArray.allocSlot_eq_none hb
      exact .full hfull
  · rintro ⟨⟩
    exact .select _
  · next status i hax rc =>
    rintro ⟨⟩
    by_cases hst : status = .success
    · subst hst
      exact .sent i hax rc
    · rw [if_neg hst]
      exact .refused i hax rc status hst
  · next i hax =>
    split
    · next huse =>
      rintro ⟨⟩
      exact .checked i hax huse
    · next huse =>
      rintro ⟨⟩
      exact .invalid i hax (Bool.eq_false_iff.mpr huse)
  · -- loc_sync_wait_for_ind
    next i hax =>
    rw [SyncReqArray.beginWait]
    by_cases harr : (a.slots i).indHasArrived = true
    · rw [if_pos harr]
      rintro ⟨⟩
      exact .arrived i hax harr
    · rw [if_neg harr]
      by_cases hwait : (a.slots i).indIsWaiting = true
      · rw [if_pos hwait]
        rintro ⟨⟩
        exact .busy i hax (Bool.eq_false_iff.mpr harr) hwait
      · rw [if_neg hwait]
        rintro ⟨⟩
        exact .blocks i hax (Bool.eq_false_iff.mpr harr) (Bool.eq_false_iff.mpr hwait)
  · rintro ⟨⟩
    exact .wakes _ _ _
  · rintro ⟨⟩
    exact .freeWaited _ _ _
  · rintro ⟨⟩
    exact .freeFailed _ _ _
  · exact nofun

/-- The slot that a call works with. -/
def Pc.slot : Pc → Option Slot
  | .called | .returned _ => none
  | .selecting i | .sending i _ _ | .checking i _ | .waiting i _ | .blocked i _
  | .freeing i _ _ | .failing i _ _ => some i

section

variable {a a' : SyncReqArray} {r : ℕ} {q : Request} {sec : Section} {pc pc' : Pc}
  {out : List Out}

/-- A section writes no slot but its own. -/
theorem Move.slots_of_ne {j : Slot} (h : Move a r q sec pc a' pc' out) (hj : pc.slot ≠ some j) :
    a'.slots j = a.slots j := by
  have hne : ∀ {i}, pc.slot = some i → j ≠ i := by
    rintro i hi rfl
    exact hj hi
  cases h with
  | alloc | full | sent | refused | checked | invalid | arrived | busy => rfl
  | select | blocks | wakes => exact SyncReqArray.slots_setSlot_of_ne _ (hne rfl) _
  | freeWaited | freeFailed => exact Function.update_of_ne (hne rfl) ..

/-- Only a call that is back shows a status. -/
theorem Move.returned_of_mem {r' : ℕ} {status : ClientStatus}
    (h : Move a r q sec pc a' pc' out) (ho : .returned r' status ∈ out ++ pc'.outs r) :
    r' = r ∧ pc' = .returned status := by
  rcases List.mem_append.mp ho with hout | hback
  · cases h with
    | alloc | sent | refused | freeWaited | freeFailed => cases List.mem_singleton.mp hout
    | _ => cases hout
  · cases pc' with
    | returned st =>
      obtain ⟨rfl, rfl⟩ := Out.returned.inj (List.mem_singleton.mp hback)
      exact ⟨rfl, rfl⟩
    | _ => cases hback

end

/-! ## The system -/

/-- The table, and the calls that were made so far, by number. -/
structure Sys where
  /-- `loc_sync_array` -/
  array : SyncReqArray := {}
  /-- the request and the place of every call; `none` before it is made -/
  calls : ℕ → Option (Request × Pc) := fun _ => none

/-- Who acts. -/
inductive Label where
  /-- a thread calls `loc_sync_send_req`; `r` is a new number -/
  | call (r : ℕ) (q : Request)
  /-- the call `r` runs its next section -/
  | run (r : ℕ) (sec : Section)
  /-- an indication of an open client arrives; its signals wake the threads of `pick` -/
  | indication (clientHandle : ℕ) (indId : UInt32) (indPayload : Option (List UInt8))
      (pick : Slot → ℕ)

/-- One step of the system; `sizeOf` is `locClientGetSizeByRespIndId`. -/
def step (sizeOf : UInt32 → Option ℕ) (s : Sys) : Label → Option (Sys × List Out)
  | .call r q =>
    match s.calls r with
    | some _ => none
    | none => some ({ s with calls := Function.update s.calls r (some (q, .called)) }, [])
  | .run r sec =>
    match s.calls r with
    | none => none
    | some (q, pc) =>
      (runSection s.array r q sec pc).map fun (a, pc', out) =>
        (⟨a, Function.update s.calls r (some (q, pc'))⟩, out ++ pc'.outs r)
  | .indication clientHandle indId indPayload pick =>
    let p := s.array.processInd sizeOf ⟨some clientHandle, indId, indPayload⟩ pick
    some ({ s with array := p.1 }, (p.2.map Out.copied).toList)

/-- The synchronous requests, over the sizes of the indications. -/
def machine (sizeOf : UInt32 → Option ℕ) : Machine Sys Label Out where
  step := step sizeOf

/-! ## What a step does -/

section

variable {sizeOf : UInt32 → Option ℕ} {s s' : Sys} {out : List Out}

/-- Inversion of a new call. -/
theorem step_call_inv {r : ℕ} {q : Request}
    (hs : (machine sizeOf).step s (.call r q) = some (s', out)) :
    s.calls r = none ∧ out = [] ∧
      s' = ⟨s.array, Function.update s.calls r (some (q, .called))⟩ := by
  simp only [machine, step] at hs
  split at hs
  · cases hs
  · next hnew =>
    obtain ⟨rfl, rfl⟩ := Prod.mk.inj (Option.some.inj hs)
    exact ⟨hnew, rfl, rfl⟩

/-- Inversion of a section of a call. -/
theorem step_run_inv {r : ℕ} {sec : Section}
    (hs : (machine sizeOf).step s (.run r sec) = some (s', out)) :
    ∃ q pc a pc' out', s.calls r = some (q, pc) ∧ Move s.array r q sec pc a pc' out' ∧
      s' = ⟨a, Function.update s.calls r (some (q, pc'))⟩ ∧ out = out' ++ pc'.outs r := by
  simp only [machine, step] at hs
  split at hs
  · cases hs
  · next q pc hcall =>
    obtain ⟨⟨a, pc', out'⟩, hsec, hr⟩ := Option.map_eq_some_iff.mp hs
    obtain ⟨rfl, rfl⟩ := Prod.mk.inj hr
    exact ⟨q, pc, a, pc', out', hcall, move_of_runSection hsec, rfl, rfl⟩

/-- Inversion of an indication. -/
theorem step_indication_inv {clientHandle : ℕ} {indId : UInt32}
    {indPayload : Option (List UInt8)} {pick : Slot → ℕ}
    (hs : (machine sizeOf).step s (.indication clientHandle indId indPayload pick)
      = some (s', out)) :
    let p := s.array.processInd sizeOf ⟨some clientHandle, indId, indPayload⟩ pick
    s' = ⟨p.1, s.calls⟩ ∧ out = (p.2.map Out.copied).toList := by
  obtain ⟨rfl, rfl⟩ := Prod.mk.inj (Option.some.inj hs)
  exact ⟨rfl, rfl⟩

end

end OppoA37.LocSync
