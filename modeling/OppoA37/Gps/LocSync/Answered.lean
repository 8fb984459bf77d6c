import OppoA37.Gps.LocSync.SlotOwnership

/-!
# Does success mean answered?

A call that returns `eLOC_CLIENT_SUCCESS` should have handed its request to
`locClientSendReq`, and an indication of its client with its ID should have come in after
the slot was selected, with the payload copied to where the caller wants it. A history keeps
what has happened to each call so far.

There are four ways to return success without an answer: no slot is free, and
`loc_sync_send_req` never looks at the error of `loc_sync_select_ind`; the wait ends for no
reason; an indication wakes the call although its payload cannot be copied; or the slot was
freed by another call. `honest_of_safe` says that there is no other.
-/

namespace OppoA37.LocSync

open Lts Holding

/-! ## What has happened to a call -/

/-- What has happened to the calls. -/
structure History where
  /-- its slot was selected -/
  selected : ℕ → Prop
  /-- its request was handed to `locClientSendReq` -/
  handed : ℕ → Prop
  /-- its indication arrived after that, and was copied if it has a place to go -/
  answered : ℕ → Prop

/-- A step hands the request of the call `r` to `locClientSendReq`. -/
def Hands (e : Event Sys Label Out) (r : ℕ) : Prop :=
  ∃ q pc, e.pre.calls r = some (q, pc) ∧ .sent r q.clientHandle q.reqId q.reqPayload ∈ e.out

/-- A step brings the indication that the call `r` waits for, and copies its payload. -/
def Answers (e : Event Sys Label Out) (r : ℕ) : Prop :=
  ∃ q pc clientHandle indPayload pick, e.pre.calls r = some (q, pc) ∧
    e.label = .indication clientHandle q.indId indPayload pick ∧
    q.clientHandle = some clientHandle ∧
    ∀ ptr, q.indPayloadPtr = some ptr → ∃ c : Copied, c.ptr = ptr ∧ .copied c ∈ e.out

/-- The history after one more step. -/
def History.next (v : History) (e : Event Sys Label Out) : History where
  selected r := v.selected r ∨ e.label = .run r .select
  handed r := v.handed r ∨ Hands e r
  answered r := v.answered r ∨ v.selected r ∧ Answers e r

/-- Nothing has happened. -/
def History.empty : History := ⟨fun _ => False, fun _ => False, fun _ => False⟩

/-- A call that returns success was answered. -/
def Honest (v : History) (e : Event Sys Label Out) : Prop :=
  ∀ r, .returned r .success ∈ e.out → v.handed r ∧ v.answered r

/-- The steps that lead to no false success. -/
structure Safe (sizeOf : UInt32 → Option ℕ) (s : Sys) (l : Label) : Prop where
  /-- a call that wants a slot finds a free one -/
  slot : ∀ r, l = .run r .alloc → ∃ i, s.array.slotInUse i = false
  /-- a wait that ends before its time ends by a signal -/
  wake : ∀ r q i hax, l = .run r (.wake false) → s.calls r = some (q, .blocked i hax) →
    r ∉ (s.array.slots i).indArrivedCond
  /-- the payload of an indication is copied for a slot that matches, if it has a place to go -/
  copy : ∀ clientHandle indId indPayload pick,
    l = .indication clientHandle indId indPayload pick →
    ∀ i, s.array.Matches ⟨some clientHandle, indId, indPayload⟩ i →
      (s.array.slots i).recvIndPayloadPtr ≠ none →
      (payloadCopy sizeOf ⟨some clientHandle, indId, indPayload⟩ (s.array.slots i)).isSome = true
  /-- no call frees the slot of another one -/
  free : FreesOwn s l

/-! ## The invariant -/

/-- What the slot of a call tells about its history. -/
def Tells (v : History) (r : ℕ) : Pc → SyncReqData → Prop
  | .sending _ _ _, d => v.selected r ∧ (d.indHasArrived = true → v.answered r)
  | .checking _ _, d | .waiting _ _, d =>
    v.selected r ∧ v.handed r ∧ (d.indHasArrived = true → v.answered r)
  | .blocked _ _, d => v.selected r ∧ v.handed r ∧ (r ∉ d.indArrivedCond → v.answered r)
  | .freeing _ _ rc, _ => v.handed r ∧ (rc = .ok → v.answered r)
  | _, _ => True

/-- The table and the history agree. -/
structure Truthful (v : History) (s : Sys) : Prop extends Owned s where
  /-- the slot of every call tells the truth -/
  tells : ∀ r q pc i, s.calls r = some (q, pc) → pc.owner = some i →
    Tells v r pc (s.array.slots i)

theorem truthful_init : Truthful .empty {} where
  toOwned := owned_init
  tells := nofun

section

variable {v v' : History} {s : Sys} {r : ℕ} {q : Request} {pc pc' : Pc} {sec : Section}
  {a : SyncReqArray} {out : List Out} {e : Event Sys Label Out}
  {sizeOf : UInt32 → Option ℕ}

/-- A history only grows. -/
theorem Tells.next {d : SyncReqData} (h : Tells v r pc d) (e : Event Sys Label Out) :
    Tells (v.next e) r pc d := by
  cases pc with
  | sending => exact ⟨Or.inl h.1, fun ha => Or.inl (h.2 ha)⟩
  | checking | waiting | blocked =>
    exact ⟨Or.inl h.1, Or.inl h.2.1, fun ha => Or.inl (h.2.2 ha)⟩
  | freeing => exact ⟨Or.inl h.1, fun ha => Or.inl (h.2 ha)⟩
  | _ => trivial

/-- A section keeps the truth in the slot of its call. -/
theorem Truthful.tells_section (hI : Truthful v s) (hcall : s.calls r = some (q, pc))
    (hok : Safe sizeOf s (.run r sec)) (hmove : Move s.array r q sec pc a pc' out) {i : Slot}
    (hown : pc'.owner = some i) {s' : Sys} {out' : List Out} (hout : ∀ o ∈ out, o ∈ out') :
    Tells (v.next ⟨s, .run r sec, out', s'⟩) r pc' (a.slots i) := by
  have htells : ∀ j, pc.owner = some j → Tells v r pc (s.array.slots j) :=
    fun j hj => hI.tells r q pc j hcall hj
  have hsound := hI.sound r q pc hcall
  cases hmove with
  | alloc | full | freeFailed => trivial
  | select j =>
    obtain rfl : j = i := Option.some.inj hown
    refine ⟨Or.inr rfl, fun harr => ?_⟩
    simp [SyncReqArray.selectInd] at harr
  | sent j hax rc =>
    obtain rfl : j = i := Option.some.inj hown
    obtain ⟨hsel, harr⟩ := (htells j rfl).next ⟨s, .run r (.send .success), out', s'⟩
    exact ⟨hsel, Or.inr ⟨q, _, hcall, hout _ List.mem_cons_self⟩, harr⟩
  | refused j hax rc status hst =>
    rcases afterLoop_refused hst j hax rc with h | h
    · rw [h] at hown ⊢
      obtain rfl : j = i := Option.some.inj hown
      exact (htells j rfl).next _
    · rw [h]
      trivial
  | checked j hax =>
    obtain rfl : j = i := Option.some.inj hown
    exact (htells j rfl).next _
  | invalid j hax huse =>
    rw [hI.slotInUse_of_owner (owner_of_call hcall)] at huse
    cases huse
  | arrived j hax harr =>
    obtain ⟨-, hhanded, hans⟩ := htells j rfl
    exact ⟨Or.inl hhanded, fun _ => Or.inl (hans harr)⟩
  | busy j hax =>
    exact ⟨Or.inl (htells j rfl).2.1, nofun⟩
  | blocks j hax =>
    obtain rfl : j = i := Option.some.inj hown
    obtain ⟨hsel, hhanded, -⟩ := htells j rfl
    refine ⟨Or.inl hsel, Or.inl hhanded, fun hnot => absurd ?_ hnot⟩
    simp
  | wakes j hax timedOut =>
    obtain ⟨-, hhanded, hans⟩ := htells j rfl
    refine ⟨Or.inl hhanded, fun hrc => Or.inl (hans ?_)⟩
    cases timedOut with
    | false => exact hok.wake r q j hax rfl hcall
    | true => cases hrc
  | freeWaited j hax rc =>
    rcases hsound with rfl | rfl
    · rw [WaitResult.status, afterLoop_success] at hown
      cases hown
    · rw [WaitResult.status, afterLoop_timeout]
      trivial

/-- A section keeps the truth in every slot. -/
theorem Truthful.section (hI : Truthful v s) (hcall : s.calls r = some (q, pc))
    (hok : Safe sizeOf s (.run r sec)) (hmove : Move s.array r q sec pc a pc' out) :
    Truthful (v.next ⟨s, .run r sec, out ++ pc'.outs r,
      ⟨a, Function.update s.calls r (some (q, pc'))⟩⟩)
      ⟨a, Function.update s.calls r (some (q, pc'))⟩ := by
  refine ⟨hI.toOwned.section hcall hok.free hmove, fun r' q' pc₁ i => ?_⟩
  refine forall_calls_update (P := fun r' q' pc₁ => pc₁.owner = some i →
    Tells (v.next ⟨s, .run r sec, out ++ pc'.outs r,
      ⟨a, Function.update s.calls r (some (q, pc'))⟩⟩) r' pc₁ (a.slots i)) ?_ ?_ r' q' pc₁
  · exact fun hown => hI.tells_section hcall hok hmove hown fun o ho => List.mem_append_left _ ho
  · intro r' q' pc₁ hne hcall' hown
    have h' : s.owner r' = some i := (owner_of_call hcall').trans hown
    rw [hI.slots_of_owner hcall hok.free hmove hne h']
    exact (hI.tells r' q' pc₁ i hcall' hown).next _

/-- An indication that reaches the slot of a call answers it. -/
theorem Truthful.answers (hI : Truthful v s) {clientHandle : ℕ} {indId : UInt32}
    {indPayload : Option (List UInt8)} {pick : Slot → ℕ} {i : Slot} {s' : Sys}
    (hok : Safe sizeOf s (.indication clientHandle indId indPayload pick))
    (hcall : s.calls r = some (q, pc)) (hcarries : Carries q (s.array.slots i))
    (hmem : i ∈ SyncReqArray.notifiedSlots sizeOf ⟨some clientHandle, indId, indPayload⟩
      s.array) :
    Answers ⟨s, .indication clientHandle indId indPayload pick,
      ((s.array.processInd sizeOf ⟨some clientHandle, indId, indPayload⟩ pick).2.map
        Out.copied).toList, s'⟩ r := by
  have hm := SyncReqArray.matches_of_mem_notifiedSlots hmem
  have hclient := hcarries.clientHandle.symm.trans hm.2.1
  have hid : indId = q.indId := hm.2.2.1.trans hcarries.recvIndId
  subst hid
  refine ⟨q, pc, clientHandle, indPayload, pick, hcall, rfl, hclient, fun ptr hptr => ?_⟩
  have hnull : (s.array.slots i).recvIndPayloadPtr = some ptr :=
    hcarries.recvIndPayloadPtr.trans hptr
  have hsome := hok.copy clientHandle q.indId indPayload pick rfl i hm (by rw [hnull]; exact nofun)
  obtain ⟨⟨ptr', bytes⟩, hcopy⟩ := Option.isSome_iff_exists.mp hsome
  obtain rfl := Option.some.inj (hnull.symm.trans (ptr_of_payloadCopy hcopy))
  refine ⟨⟨i, ptr, bytes⟩, rfl, ?_⟩
  rw [Option.mem_toList]
  exact Option.map_eq_some_iff.mpr
    ⟨_, (SyncReqArray.processInd_copied hI.inUse).mpr ⟨hmem, hcopy⟩, rfl⟩

/-- A call that is answered has its answer, whatever its slot says. -/
theorem Tells.answered {d d' : SyncReqData} (h : Tells v r pc d) (hans : Answers e r) :
    Tells (v.next e) r pc d' := by
  cases pc with
  | sending => exact ⟨Or.inl h.1, fun _ => Or.inr ⟨h.1, hans⟩⟩
  | checking | waiting | blocked =>
    exact ⟨Or.inl h.1, Or.inl h.2.1, fun _ => Or.inr ⟨h.1, hans⟩⟩
  | freeing => exact ⟨Or.inl h.1, fun ha => Or.inl (h.2 ha)⟩
  | _ => trivial

/-- A safe step keeps the truth. -/
theorem Truthful.step (hI : Truthful v e.pre) (hok : Safe sizeOf e.pre e.label)
    (hs : (machine sizeOf).step e.pre e.label = some (e.post, e.out)) :
    Truthful (v.next e) e.post := by
  have howned := hI.toOwned.step hok.free hs
  rcases e with ⟨s, l, out, s'⟩
  dsimp only at hI hok hs howned ⊢
  cases l with
  | call r q =>
    obtain ⟨hnew, rfl, rfl⟩ := step_call_inv hs
    refine ⟨howned, fun r' q' pc i => ?_⟩
    refine forall_calls_update (P := fun r' q' pc => pc.owner = some i →
      Tells _ r' pc (s.array.slots i)) ?_ ?_ r' q' pc
    · exact fun _ => trivial
    · exact fun r' q' pc _ hcall hown => (hI.tells r' q' pc i hcall hown).next _
  | run r sec =>
    obtain ⟨q, pc, a, pc', out', hcall, hmove, rfl, rfl⟩ := step_run_inv hs
    exact hI.section hcall hok hmove
  | indication clientHandle indId indPayload pick =>
    obtain ⟨rfl, rfl⟩ := step_indication_inv hs
    refine ⟨howned, fun r q pc i hcall hown => ?_⟩
    have htells := hI.tells r q pc i hcall hown
    by_cases hmem : i ∈ SyncReqArray.notifiedSlots sizeOf
        ⟨some clientHandle, indId, indPayload⟩ s.array
    · exact htells.answered (hI.answers hok hcall (hI.carries_of_notified hcall hown hmem) hmem)
    · have hsame : (s.array.processInd sizeOf ⟨some clientHandle, indId, indPayload⟩
          pick).1.slots i = s.array.slots i := by
        rw [SyncReqArray.processInd_array hI.inUse]
        exact if_neg hmem
      rw [hsame]
      exact htells.next _

/-- A call that comes back with success from a safe step was answered. -/
theorem Truthful.honest (hI : Truthful v e.pre) (hok : Safe sizeOf e.pre e.label)
    (hs : (machine sizeOf).step e.pre e.label = some (e.post, e.out)) : Honest v e := by
  rcases e with ⟨s, l, out, s'⟩
  dsimp only at hI hok hs
  intro r' hret
  cases l with
  | call r q =>
    obtain ⟨-, rfl, -⟩ := step_call_inv hs
    cases hret
  | run r sec =>
    obtain ⟨q, pc, a, pc', out', hcall, hmove, -, rfl⟩ := step_run_inv hs
    obtain ⟨rfl, hpc'⟩ := hmove.returned_of_mem hret
    have hsound := hI.sound r' q pc hcall
    cases hmove with
    | full hfull =>
      obtain ⟨i, hi⟩ := hok.slot r' rfl
      rw [hfull i] at hi
      cases hi
    | refused i hax rc status hst =>
      rcases afterLoop_refused hst i hax rc with h | h <;> rw [h] at hpc' <;> cases hpc'
    | invalid i hax huse =>
      rw [hI.slotInUse_of_owner (owner_of_call hcall)] at huse
      cases huse
    | freeWaited i hax rc =>
      obtain ⟨hhanded, hans⟩ := hI.tells r' q _ i hcall rfl
      rcases hsound with rfl | rfl
      · exact ⟨hhanded, hans rfl⟩
      · rw [WaitResult.status, afterLoop_timeout] at hpc'
        cases hpc'
    | freeFailed i status rc =>
      obtain rfl := Pc.returned.inj hpc'
      exact absurd rfl hsound.1
    | _ => cases hpc'
  | indication clientHandle indId indPayload pick =>
    obtain ⟨-, rfl⟩ := step_indication_inv hs
    obtain ⟨x, -, h⟩ := Option.map_eq_some_iff.mp (Option.mem_toList.mp hret)
    cases h

end

/-! ## Whole runs -/

/-- **Success means answered.** For any number of calls, any indications, and any order of
their sections: in a run of safe steps, every call that returns success has handed its
request to `locClientSendReq`, and its indication has arrived since its slot was selected and
was copied to where the caller wants it. -/
theorem honest_of_safe {sizeOf : UInt32 → Option ℕ} {h : List (Event Sys Label Out)} {s : Sys}
    (hrun : Run (machine sizeOf) {} h s) (hsafe : ∀ e ∈ h, Safe sizeOf e.pre e.label) :
    Watched History.next .empty Honest h :=
  Run.watched_of Truthful truthful_init
    (fun _ _ hI hok hs => ⟨hI.step hok hs, hI.honest hok hs⟩) hrun (watched_const.mpr hsafe)

/-! ## Two runs -/

/-- A request is known to be handed over exactly when a step did so. -/
theorem handed_watch_iff {h : List (Event Sys Label Out)} {r : ℕ} :
    (watch History.next .empty h).handed r ↔ ∃ e ∈ h, Hands e r := by
  induction h using List.reverseRecOn with
  | nil => exact ⟨False.elim, fun ⟨_, he, _⟩ => absurd he List.not_mem_nil⟩
  | append_singleton h e ih =>
    rw [watch_snoc, History.next]
    simp only [ih, List.mem_append, List.mem_singleton, or_and_right, exists_or, exists_eq_left]

/-- A test for safe steps. -/
def checkSafe (sizeOf : UInt32 → Option ℕ) (s : Sys) : Label → Bool
  | .run _ .alloc => decide (∃ i, s.array.slotInUse i = false)
  | .run r (.wake false) =>
    match s.calls r with
    | some (_, .blocked i _) => decide (r ∉ (s.array.slots i).indArrivedCond)
    | _ => true
  | .indication clientHandle indId indPayload _ =>
    decide (∀ i, s.array.Matches ⟨some clientHandle, indId, indPayload⟩ i →
      (payloadCopy sizeOf ⟨some clientHandle, indId, indPayload⟩ (s.array.slots i)).isSome = true)
  | l => !failsTimedOut s l

theorem safe_of_checkSafe {sizeOf : UInt32 → Option ℕ} {s : Sys} {l : Label}
    (h : checkSafe sizeOf s l = true) : Safe sizeOf s l where
  slot := by
    rintro r rfl
    exact of_decide_eq_true h
  wake := by
    rintro r q i hax rfl hcall
    simpa [checkSafe, hcall] using h
  copy := by
    rintro clientHandle indId indPayload pick rfl i hm -
    exact of_decide_eq_true h i hm
  free := by
    rintro r q i status rfl hcall
    simp [checkSafe, failsTimedOut, hcall] at h

/-- Two calls wait for the same indication, and both are answered. -/
theorem honest_of_safe_two_calls :
    ∃ h s, Run (machine fun _ => some 4) {} h s ∧
      (s.calls 0).map Prod.snd = some (.returned .success) ∧
      (s.calls 1).map Prod.snd = some (.returned .success) ∧
      Watched History.next .empty Honest h := by
  obtain ⟨h, s, hrun, -, hcheck⟩ := (machine fun _ => some 4).exists_run {}
    (untilWait 0 100 ++ [.indication 7 40 (some [1, 2, 3, 4]) (fun _ => 0), .run 0 (.wake false),
      .run 0 .freeWaited, .call 1 (request 200), .run 1 .alloc, .run 1 .select,
      .indication 7 40 (some [5, 6, 7, 8]) (fun _ => 0), .run 1 (.send .success), .run 1 .check,
      .run 1 .wait, .run 1 .freeWaited])
    (fun h s => decide ((∀ e ∈ h, checkSafe (fun _ => some 4) e.pre e.label = true) ∧
      (s.calls 0).map Prod.snd = some (.returned .success) ∧
      (s.calls 1).map Prod.snd = some (.returned .success))) (by decide)
  obtain ⟨hok, h0, h1⟩ := of_decide_eq_true hcheck
  exact ⟨h, s, hrun, h0, h1, honest_of_safe hrun fun e he => safe_of_checkSafe (hok e he)⟩

/-- The ninth call finds no free slot, sends nothing, and returns success. -/
theorem not_honest_of_full :
    ¬ ∀ (sizeOf : UInt32 → Option ℕ) (h : List (Event Sys Label Out)) (s : Sys),
      Run (machine sizeOf) {} h s → Watched History.next .empty Honest h := by
  intro hall
  obtain ⟨h, e, hrun, -, -, hcheck⟩ := (machine fun _ => some 4).exists_run_last {}
    ((List.range 8).flatMap (fun r => [.call r (request r), .run r .alloc]) ++
      [.call 8 (request 8)]) (.run 8 .alloc)
    (fun h e => decide (e.out = [.returned 8 .success] ∧
      ∀ e ∈ h, (e.out.all fun o => match o with | .sent _ _ _ _ => false | _ => true) = true))
    (by decide)
  obtain ⟨hout, hsent⟩ := of_decide_eq_true hcheck
  have hhonest := (watched_snoc.mp (hall _ (h ++ [e]) e.post hrun)).2
  obtain ⟨hhanded, -⟩ := hhonest 8 (by rw [hout]; exact List.mem_cons_self)
  obtain ⟨e', he', q, pc, -, hmem⟩ := handed_watch_iff.mp hhanded
  have hnone := List.all_eq_true.mp (hsent e' he') _ hmem
  cases hnone

end OppoA37.LocSync
