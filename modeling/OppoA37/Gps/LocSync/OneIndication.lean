import OppoA37.Gps.LocSync.SlotOwnership

/-!
# Does every indication complete one request?

Several calls may wait for the same indication. Then each indication that arrives should
complete one of them, with its own payload, and no indication should be overwritten before
its call has taken it. A monitor numbers the indications and keeps which one each call got.

A slot that was notified while its call waits looks as if nothing had arrived:
`ind_has_arrived` is only set when nobody waits. Until the woken thread has freed the slot
the next indication goes to it again, over the first one's payload. `delivers_iff` says
that each indication completes a request of its own exactly as long as this does not happen
and payloads can be copied, whenever waits do not time out.
-/

namespace OppoA37.LocSync

open Lts Holding

/-! ## Which call got which indication -/

/-- The payload that a step copies to where the call `r` wants it. -/
def copiedTo (e : Event Sys Label Out) (r : ℕ) : Option (List UInt8) :=
  e.out.findSome? fun o =>
    match o, e.pre.calls r with
    | .copied c, some (q, pc) =>
      if pc.owner = some c.slot ∧ q.indPayloadPtr = some c.ptr then some c.bytes else none
    | _, _ => none

/-- The indications so far. -/
structure Deliveries where
  /-- how many have arrived -/
  count : ℕ
  /-- the number and the payload of the indication that a call got -/
  got : ℕ → Option (ℕ × List UInt8)

/-- The indications after one more step. -/
def Deliveries.next (v : Deliveries) (e : Event Sys Label Out) : Deliveries where
  count :=
    match e.label with
    | .indication _ _ _ _ => v.count + 1
    | _ => v.count
  got r := ((copiedTo e r).map fun bytes => (v.count, bytes)).or (v.got r)

/-- No indication has arrived. -/
def Deliveries.none : Deliveries := ⟨0, fun _ => .none⟩

/-! ## What a call makes of its indication -/

/-- The call `r` has selected a slot for this indication, and not freed it. -/
def Waits (s : Sys) (r clientHandle : ℕ) (indId : UInt32) : Prop :=
  ∃ q pc i, s.calls r = some (q, pc) ∧ pc.owner = some i ∧ pc ≠ .selecting i ∧
    q.clientHandle = some clientHandle ∧ q.indId = indId

/-- `locClientSendReq` has accepted the request of a call that is at this place. -/
def Pc.isSent : Pc → Bool
  | .checking _ _ | .waiting _ _ | .blocked _ _ | .freeing _ _ _ => true
  | _ => false

/-- The slot of the call tells it that its indication has come: a blocked call by a signal,
any other by the flag. -/
def Told (r : ℕ) : Pc → SyncReqData → Prop
  | .blocked _ _, d => r ∉ d.indArrivedCond
  | _, d => d.indHasArrived = true

/-- A step that the call `r` takes without help: it does not count on the end of a time, or
on being woken for no reason. -/
def ByItself (r : ℕ) (e : Event Sys Label Out) : Prop :=
  ∃ sec, e.label = .run r sec ∧ ∀ timedOut, sec = .wake timedOut → timedOut = false ∧
    ∀ q i hax, e.pre.calls r = some (q, .blocked i hax) →
      r ∉ (e.pre.array.slots i).indArrivedCond

/-- The call `r` can come back with success by itself. -/
def Completes (sizeOf : UInt32 → Option ℕ) (s : Sys) (r : ℕ) : Prop :=
  ∃ h t q, Run (machine sizeOf) s h t ∧ (∀ e ∈ h, ByItself r e) ∧
    t.calls r = some (q, .returned .success)

/-- An indication completes one request, and takes nothing from another. -/
structure Delivers (sizeOf : UInt32 → Option ℕ) (v : Deliveries) (e : Event Sys Label Out) :
    Prop where
  /-- what a call got is not overwritten -/
  fresh : ∀ r, copiedTo e r ≠ none → v.got r = none
  /-- at most one call gets the indication -/
  one : ∀ r r', copiedTo e r ≠ none → copiedTo e r' ≠ none → r = r'
  /-- if a call waits for the indication and has none yet, such a call gets it -/
  served : ∀ clientHandle indId indPayload pick,
    e.label = .indication clientHandle indId indPayload pick →
    (∃ r, Waits e.pre r clientHandle indId ∧ v.got r = none) →
    ∃ r, Waits e.pre r clientHandle indId ∧ copiedTo e r ≠ none
  /-- different calls get different indications -/
  distinct : ∀ r r' n bytes bytes', (v.next e).got r = some (n, bytes) →
    (v.next e).got r' = some (n, bytes') → r = r'
  /-- a call that got its indication and has sent its request can come back with success -/
  completes : ∀ r q pc, e.post.calls r = some (q, pc) → pc.isSent = true →
    (v.next e).got r ≠ none → Completes sizeOf e.post r
  /-- a call that got none is not told that it did -/
  only : ∀ r q pc i, e.post.calls r = some (q, pc) → pc.owner = some i →
    (v.next e).got r = none → ¬ Told r pc (e.post.array.slots i)

/-- The slots that an indication reaches: it can be copied there exactly if the call has got
none yet. -/
def Ready (sizeOf : UInt32 → Option ℕ) (v : Deliveries) (e : Event Sys Label Out) : Prop :=
  ∀ clientHandle indId indPayload pick, e.label = .indication clientHandle indId indPayload pick →
    ∀ i ∈ SyncReqArray.notifiedSlots sizeOf ⟨some clientHandle, indId, indPayload⟩ e.pre.array,
      ∀ r, e.pre.owner r = some i → (v.got r = none ↔
        (payloadCopy sizeOf ⟨some clientHandle, indId, indPayload⟩
          (e.pre.array.slots i)).isSome = true)

/-- No wait times out. -/
def Punctual (_ : Sys) (l : Label) : Prop := ∀ r, l ≠ .run r (.wake true)

/-! ## Coming back -/

section

variable {sizeOf : UInt32 → Option ℕ} {s : Sys} {r : ℕ} {q : Request} {i : Slot} {hax : ℕ}

/-- A section that can run does. -/
theorem step_run {sec : Section} {pc pc' : Pc} {a : SyncReqArray} {out : List Out}
    (hcall : s.calls r = some (q, pc)) (hsec : runSection s.array r q sec pc = some (a, pc', out)) :
    (machine sizeOf).step s (.run r sec) =
      some (⟨a, Function.update s.calls r (some (q, pc'))⟩, out ++ pc'.outs r) := by
  simp only [machine, step, hcall, hsec]
  rfl

/-- A call that is on its way stays there. -/
theorem Completes.step {sec : Section} {pc pc' : Pc} {a : SyncReqArray} {out : List Out}
    (hcall : s.calls r = some (q, pc)) (hsec : runSection s.array r q sec pc = some (a, pc', out))
    (hself : ∀ timedOut, sec = .wake timedOut → timedOut = false ∧
      ∀ q i hax, s.calls r = some (q, .blocked i hax) → r ∉ (s.array.slots i).indArrivedCond)
    (h : Completes sizeOf ⟨a, Function.update s.calls r (some (q, pc'))⟩ r) :
    Completes sizeOf s r := by
  obtain ⟨h', t, q', hrun, hby, ht⟩ := h
  refine ⟨_, t, q', (Run.single (step_run hcall hsec)).append hrun, ?_, ht⟩
  exact List.forall_mem_cons.mpr ⟨⟨sec, rfl, hself⟩, hby⟩

theorem completes_freeing (hcall : s.calls r = some (q, .freeing i hax .ok)) :
    Completes sizeOf s r := by
  have hsec : runSection s.array r q .freeWaited (.freeing i hax .ok) =
      some (s.array.freeSlot i, .returned .success, [.freed r i]) := by
    rw [runSection, WaitResult.status, afterLoop_success]
  refine Completes.step hcall hsec (by rintro _ ⟨⟩)
    ⟨[], _, q, Run.nil, fun _ h => absurd h List.not_mem_nil, ?_⟩
  exact Function.update_self ..

theorem completes_waiting (hcall : s.calls r = some (q, .waiting i hax))
    (harr : (s.array.slots i).indHasArrived = true) : Completes sizeOf s r := by
  have hsec : runSection s.array r q .wait (.waiting i hax) =
      some (s.array, .freeing i hax .ok, []) := by
    rw [runSection, SyncReqArray.beginWait, if_pos harr]
  exact Completes.step hcall hsec (by rintro _ ⟨⟩) (completes_freeing (Function.update_self ..))

theorem completes_checking (hcall : s.calls r = some (q, .checking i hax))
    (huse : s.array.slotInUse i = true) (harr : (s.array.slots i).indHasArrived = true) :
    Completes sizeOf s r := by
  have hsec : runSection s.array r q .check (.checking i hax) =
      some (s.array, .waiting i hax, []) := by
    rw [runSection, if_pos huse]
  exact Completes.step hcall hsec nofun (completes_waiting (Function.update_self ..) harr)

theorem completes_blocked (hcall : s.calls r = some (q, .blocked i hax))
    (hwoken : r ∉ (s.array.slots i).indArrivedCond) : Completes sizeOf s r := by
  have hsec : runSection s.array r q (.wake false) (.blocked i hax) =
      some (s.array.endWait i r, .freeing i hax .ok, []) := rfl
  refine Completes.step hcall hsec ?_ (completes_freeing (Function.update_self ..))
  rintro timedOut ⟨⟩
  refine ⟨rfl, fun q' j hax' h => ?_⟩
  rw [hcall] at h
  obtain ⟨-, ⟨⟩⟩ := Prod.mk.inj (Option.some.inj h)
  exact hwoken

end

/-! ## The invariant -/

/-- A call that has selected its slot, up to the end of its wait. -/
def Pc.isOpen : Pc → Bool
  | .sending _ _ _ | .checking _ _ | .waiting _ _ | .blocked _ _ => true
  | _ => false

/-- A call that has not selected its slot yet. -/
def Pc.isFresh : Pc → Bool
  | .called | .selecting _ => true
  | _ => false

/-- A call whose wait did not fail. -/
def Pc.Timely : Pc → Prop
  | .freeing _ _ rc | .failing _ _ rc => rc = .ok
  | _ => True

/-- The slot tells its call whether it got an indication. -/
structure Knows (got : Option (ℕ × List UInt8)) (r : ℕ) (pc : Pc) (d : SyncReqData) : Prop where
  quiet : got = none → d.indHasArrived = false ∧ ¬ Told r pc d
  told : got ≠ none → pc.isOpen = true → Told r pc d

/-- The table and the monitor agree. -/
structure Tracked (v : Deliveries) (s : Sys) : Prop extends Owned s where
  /-- no wait has failed -/
  timely : ∀ r q pc, s.calls r = some (q, pc) → pc.Timely
  /-- nothing arrives for a call before it selects its slot -/
  unselected : ∀ r, (∀ q pc, s.calls r = some (q, pc) → pc.isFresh = true) → v.got r = none
  /-- the slots know what arrived -/
  knows : ∀ r q pc i, s.calls r = some (q, pc) → pc.owner = some i →
    Knows (v.got r) r pc (s.array.slots i)
  /-- indications are numbered -/
  numbered : ∀ r n bytes, v.got r = some (n, bytes) → n < v.count
  /-- different calls got different indications -/
  distinct : ∀ r r' n bytes bytes', v.got r = some (n, bytes) → v.got r' = some (n, bytes') →
    r = r'

theorem tracked_init : Tracked .none {} where
  toOwned := owned_init
  timely := nofun
  unselected := fun _ _ => rfl
  knows := nofun
  numbered := nofun
  distinct := nofun

section

variable {sizeOf : UInt32 → Option ℕ} {v : Deliveries} {s s' : Sys} {r : ℕ} {q : Request}
  {pc pc' : Pc} {sec : Section} {a : SyncReqArray} {out : List Out}
  {e : Event Sys Label Out}

/-- Only a blocked call waits for a signal. -/
theorem told_iff (pc : Pc) {d : SyncReqData} (h : ∀ i hax, pc ≠ .blocked i hax) :
    Told r pc d ↔ d.indHasArrived = true := by
  cases pc with
  | blocked i hax => exact absurd rfl (h i hax)
  | _ => exact Iff.rfl

/-- A step that copies nothing delivers nothing. -/
theorem copiedTo_eq_none (h : ∀ c, .copied c ∉ e.out) (r : ℕ) : copiedTo e r = none := by
  rw [copiedTo, List.findSome?_eq_none_iff]
  intro o ho
  cases o with
  | copied c => exact absurd ho (h c)
  | _ => rfl

/-- Only an indication is counted. -/
theorem next_eq_self (h : ∀ c, .copied c ∉ e.out)
    (hl : ∀ clientHandle indId indPayload pick,
      e.label ≠ .indication clientHandle indId indPayload pick) : v.next e = v := by
  have hgot :
      (fun r => ((copiedTo e r).map fun bytes => (v.count, bytes)).or (v.got r)) = v.got := by
    funext r
    rw [copiedTo_eq_none h]
    rfl
  rw [Deliveries.next, hgot]
  split
  · next heq => exact absurd heq (hl _ _ _ _)
  · rfl

/-- A section copies nothing. -/
theorem Move.copied_not_mem (h : Move s.array r q sec pc a pc' out) (c : Copied) :
    .copied c ∉ out ++ pc'.outs r := by
  intro hmem
  rcases List.mem_append.mp hmem with hout | hback
  · cases h with
    | alloc | sent | refused | freeWaited | freeFailed => cases List.mem_singleton.mp hout
    | _ => cases hout
  · cases pc' with
    | returned => cases List.mem_singleton.mp hback
    | _ => cases hback

/-- A call that has not selected its slot has only taken it. -/
theorem Move.isFresh (h : Move s.array r q sec pc a pc' out) (hfresh : pc'.isFresh = true) :
    pc.isFresh = true := by
  have hloop : ∀ i hax status rc, (afterLoop i hax status rc).isFresh = false := by
    intro i hax status rc
    rw [afterLoop]
    split_ifs <;> rfl
  cases h with
  | alloc | full => rfl
  | select => rfl
  | refused | invalid | freeWaited =>
    rw [hloop] at hfresh
    cases hfresh
  | _ => cases hfresh

/-- No wait fails when none times out. -/
theorem Tracked.timely_section (hI : Tracked v s) (hcall : s.calls r = some (q, pc))
    (hok : Punctual s (.run r sec)) (hmove : Move s.array r q sec pc a pc' out) : pc'.Timely := by
  have hr := owner_of_call hcall
  have hsound := hI.sound r q pc hcall
  have htimely := hI.timely r q pc hcall
  cases hmove with
  | refused i hax rc status hst =>
    rcases afterLoop_refused hst i hax rc with h | h <;> rw [h]
    · trivial
    · exact hsound
  | invalid i hax huse =>
    rw [hI.slotInUse_of_owner hr] at huse
    cases huse
  | arrived => rfl
  | busy i hax _ hwait =>
    rw [(hI.fits r q _ i hcall rfl).2.indIsWaiting] at hwait
    cases hwait
  | wakes i hax timedOut =>
    cases timedOut with
    | false => rfl
    | true => exact absurd rfl (hok r)
  | freeWaited i hax rc =>
    obtain rfl : rc = .ok := htimely
    rw [WaitResult.status, afterLoop_success]
    trivial
  | _ => trivial

/-- A section keeps what the slot of its call knows. -/
theorem Tracked.knows_section (hI : Tracked v s) (hcall : s.calls r = some (q, pc))
    (hok : Punctual s (.run r sec)) (hmove : Move s.array r q sec pc a pc' out) {i : Slot}
    (hown : pc'.owner = some i) : Knows (v.got r) r pc' (a.slots i) := by
  have hknows : ∀ j, pc.owner = some j → Knows (v.got r) r pc (s.array.slots j) :=
    fun j hj => hI.knows r q pc j hcall hj
  have hfresh : pc.isFresh = true → v.got r = none := by
    intro h
    refine hI.unselected r fun q' pc₁ hc => ?_
    rw [hcall] at hc
    obtain ⟨-, rfl⟩ := Prod.mk.inj (Option.some.inj hc)
    exact h
  cases hmove with
  | full | freeFailed => cases hown
  | alloc j hfree =>
    obtain rfl : j = i := Option.some.inj hown
    have hbare := hI.bare j fun h => by
      rw [(hI.slotInUse j).mpr h] at hfree
      cases hfree
    refine ⟨fun _ => ⟨hbare.indHasArrived, fun htold => ?_⟩, fun _ hopen => nomatch hopen⟩
    rw [told_iff (.selecting j) nofun, hbare.indHasArrived] at htold
    cases htold
  | select j =>
    obtain rfl : j = i := Option.some.inj hown
    have harr : ((s.array.selectInd j q).slots j).indHasArrived = false := by
      simp [SyncReqArray.selectInd]
    refine ⟨fun _ => ⟨harr, fun htold => ?_⟩, fun hgot => absurd (hfresh rfl) hgot⟩
    rw [told_iff (.sending j 5 .ok) nofun, harr] at htold
    cases htold
  | sent j hax rc | checked j hax =>
    obtain rfl : j = i := Option.some.inj hown
    obtain ⟨hquiet, htold⟩ := hknows j rfl
    exact ⟨hquiet, fun hgot _ => htold hgot rfl⟩
  | refused j hax rc status hst =>
    obtain ⟨hquiet, htold⟩ := hknows j rfl
    rcases afterLoop_refused hst j hax rc with h | h
    · rw [h] at hown ⊢
      obtain rfl : j = i := Option.some.inj hown
      exact ⟨hquiet, fun hgot _ => htold hgot rfl⟩
    · rw [h] at hown ⊢
      obtain rfl : rc = .ok := hI.sound r q _ hcall
      obtain rfl : j = i := Option.some.inj hown
      exact ⟨hquiet, fun _ hopen => nomatch hopen⟩
  | invalid j hax huse =>
    rw [hI.slotInUse_of_owner (owner_of_call hcall)] at huse
    cases huse
  | arrived j hax | busy j hax =>
    obtain rfl : j = i := Option.some.inj hown
    exact ⟨(hknows j rfl).quiet, fun _ hopen => nomatch hopen⟩
  | blocks j hax harr =>
    obtain rfl : j = i := Option.some.inj hown
    have hnone : v.got r = none := by
      by_contra hgot
      have htold := (hknows j rfl).told hgot rfl
      rw [told_iff (.waiting j hax) nofun, harr] at htold
      cases htold
    refine ⟨fun _ => ?_, fun hgot => absurd hnone hgot⟩
    simp [Told, harr]
  | wakes j hax timedOut =>
    obtain rfl : j = i := Option.some.inj hown
    refine ⟨fun hgot => ?_, fun _ hopen => nomatch hopen⟩
    have harr := ((hknows j rfl).quiet hgot).1
    simp [Told, SyncReqArray.endWait, harr]
  | freeWaited j hax rc =>
    obtain rfl : rc = .ok := hI.timely r q _ hcall
    rw [WaitResult.status, afterLoop_success] at hown
    cases hown

/-- No call fails after its wait timed out, so each frees what is its own. -/
theorem Tracked.freesOwn (hI : Tracked v s) (l : Label) : FreesOwn s l := by
  intro r q i status _ hcall
  cases hI.timely r q _ hcall

/-- A section keeps the table and the monitor together. -/
theorem Tracked.section (hI : Tracked v s) (hcall : s.calls r = some (q, pc))
    (hok : Punctual s (.run r sec)) (hmove : Move s.array r q sec pc a pc' out) :
    Tracked v ⟨a, Function.update s.calls r (some (q, pc'))⟩ := by
  have hfree := hI.freesOwn (.run r sec)
  refine ⟨hI.toOwned.section hcall hfree hmove, ?_, fun r' h => ?_, fun r' q' pc₁ i => ?_,
    hI.numbered, hI.distinct⟩
  · exact forall_calls_update (P := fun _ _ pc => pc.Timely) (hI.timely_section hcall hok hmove)
      fun r' q' pc₁ _ h => hI.timely r' q' pc₁ h
  · refine hI.unselected r' fun q' pc₁ h' => ?_
    by_cases hne : r' = r
    · subst hne
      rw [hcall] at h'
      obtain ⟨-, rfl⟩ := Prod.mk.inj (Option.some.inj h')
      exact hmove.isFresh (h q pc' (Function.update_self ..))
    · exact h q' pc₁ ((Function.update_of_ne hne ..).trans h')
  · refine forall_calls_update (P := fun r' _ pc₁ => pc₁.owner = some i →
      Knows (v.got r') r' pc₁ (a.slots i)) ?_ ?_ r' q' pc₁
    · exact fun hown => hI.knows_section hcall hok hmove hown
    · intro r' q' pc₁ hne hcall' hown
      have h' : s.owner r' = some i := (owner_of_call hcall').trans hown
      rw [hI.slots_of_owner hcall hfree hmove hne h']
      exact hI.knows r' q' pc₁ i hcall' hown

/-- A new call has no slot, and gets nothing yet. -/
theorem Tracked.call (hI : Tracked v s) (hnew : s.calls r = none) (q : Request) :
    Tracked v ⟨s.array, Function.update s.calls r (some (q, .called))⟩ := by
  have hr : s.owner r = none := by
    rw [Sys.owner, hnew]
    rfl
  refine ⟨hI.idle hr rfl trivial, ?_, fun r' h => ?_, fun r' q' pc₁ i => ?_, hI.numbered,
    hI.distinct⟩
  · exact forall_calls_update (P := fun _ _ pc => pc.Timely) trivial
      fun r' q' pc₁ _ h => hI.timely r' q' pc₁ h
  · refine hI.unselected r' fun q' pc₁ h' => h q' pc₁ ?_
    have hne : r' ≠ r := by
      rintro rfl
      rw [hnew] at h'
      cases h'
    exact (Function.update_of_ne hne ..).trans h'
  · refine forall_calls_update (P := fun r' _ pc₁ => pc₁.owner = some i →
      Knows (v.got r') r' pc₁ (s.array.slots i)) ?_ ?_ r' q' pc₁
    · rintro ⟨⟩
    · exact fun r' q' pc₁ _ h => hI.knows r' q' pc₁ i h

/-! ## An indication arrives -/

section

variable {clientHandle : ℕ} {indId : UInt32} {indPayload : Option (List UInt8)}
  {pick : Slot → ℕ} {i : Slot}

/-- The step in which an indication arrives. -/
def arrival (sizeOf : UInt32 → Option ℕ) (s : Sys) (clientHandle : ℕ) (indId : UInt32)
    (indPayload : Option (List UInt8)) (pick : Slot → ℕ) : Event Sys Label Out :=
  let p := s.array.processInd sizeOf ⟨some clientHandle, indId, indPayload⟩ pick
  ⟨s, .indication clientHandle indId indPayload pick, (p.2.map Out.copied).toList, ⟨p.1, s.calls⟩⟩

/-- When an arrival is ready. -/
theorem ready_arrival : Ready sizeOf v (arrival sizeOf s clientHandle indId indPayload pick) ↔
    ∀ i ∈ SyncReqArray.notifiedSlots sizeOf ⟨some clientHandle, indId, indPayload⟩ s.array,
      ∀ r, s.owner r = some i → (v.got r = none ↔
        (payloadCopy sizeOf ⟨some clientHandle, indId, indPayload⟩
          (s.array.slots i)).isSome = true) := by
  constructor
  · exact fun h => h clientHandle indId indPayload pick rfl
  · rintro h _ _ _ _ ⟨⟩
    exact h

/-- A call gets the payload that is copied for its slot. -/
theorem Owned.copiedTo_arrival (hI : Owned s) (hcall : s.calls r = some (q, pc))
    (hown : pc.owner = some i) :
    copiedTo (arrival sizeOf s clientHandle indId indPayload pick) r =
      if i ∈ SyncReqArray.notifiedSlots sizeOf ⟨some clientHandle, indId, indPayload⟩ s.array then
        (payloadCopy sizeOf ⟨some clientHandle, indId, indPayload⟩ (s.array.slots i)).map Prod.snd
      else none := by
  have hcopied : ∀ ptr bytes,
      i ∈ SyncReqArray.notifiedSlots sizeOf ⟨some clientHandle, indId, indPayload⟩ s.array →
      payloadCopy sizeOf ⟨some clientHandle, indId, indPayload⟩ (s.array.slots i)
        = some (ptr, bytes) →
      (s.array.processInd sizeOf ⟨some clientHandle, indId, indPayload⟩ pick).2
        = some ⟨i, ptr, bytes⟩ :=
    fun ptr bytes hmem hcopy => (SyncReqArray.processInd_copied hI.inUse).mpr ⟨hmem, hcopy⟩
  rcases hp : (s.array.processInd sizeOf ⟨some clientHandle, indId, indPayload⟩ pick).2 with _ | c
  · -- nothing is copied at all
    have hnone : copiedTo (arrival sizeOf s clientHandle indId indPayload pick) r = none := by
      refine copiedTo_eq_none (fun c hc => ?_) r
      simp [arrival, hp] at hc
    rw [hnone]
    split
    · next hmem =>
      rcases hcopy : payloadCopy sizeOf ⟨some clientHandle, indId, indPayload⟩ (s.array.slots i)
        with _ | ⟨ptr, bytes⟩
      · rfl
      · have := hcopied ptr bytes hmem hcopy
        rw [hp] at this
        cases this
    · rfl
  · obtain ⟨hmem, hcopy⟩ := (SyncReqArray.processInd_copied hI.inUse).mp hp
    have hto : copiedTo (arrival sizeOf s clientHandle indId indPayload pick) r =
        if i = c.slot ∧ q.indPayloadPtr = some c.ptr then some c.bytes else none := by
      simp [copiedTo, arrival, hp, hcall, hown]
    rw [hto]
    by_cases hi : i = c.slot
    · subst hi
      have hptr : q.indPayloadPtr = some c.ptr := by
        rw [← (hI.carries_of_notified hcall hown hmem).recvIndPayloadPtr]
        exact ptr_of_payloadCopy hcopy
      rw [if_pos ⟨rfl, hptr⟩, if_pos hmem, hcopy]
      rfl
    · rw [if_neg fun h => hi h.1]
      split
      · next hmem' =>
        rcases hcopy' : payloadCopy sizeOf ⟨some clientHandle, indId, indPayload⟩
            (s.array.slots i) with _ | ⟨ptr, bytes⟩
        · rfl
        · -- the payload is copied for one slot only
          have := hcopied ptr bytes hmem' hcopy'
          rw [hp] at this
          obtain rfl := Option.some.inj this
          exact absurd rfl hi
      · rfl

/-- A call that gets a payload owns the slot that it is copied for. -/
theorem owner_of_copiedTo
    (h : copiedTo (arrival sizeOf s clientHandle indId indPayload pick) r ≠ none) :
    ∃ c, (s.array.processInd sizeOf ⟨some clientHandle, indId, indPayload⟩ pick).2 = some c ∧
      s.owner r = some c.slot := by
  rcases hp : (s.array.processInd sizeOf ⟨some clientHandle, indId, indPayload⟩ pick).2 with _ | c
  · refine absurd (copiedTo_eq_none (fun c hc => ?_) r) h
    simp [arrival, hp] at hc
  · refine ⟨c, rfl, ?_⟩
    rcases hcall : s.calls r with _ | ⟨q, pc⟩
    · simp [copiedTo, arrival, hp, hcall] at h
    · rw [owner_of_call hcall]
      by_contra hne
      simp [copiedTo, arrival, hp, hcall, hne] at h

/-- At most one call gets a payload. -/
theorem Owned.copiedTo_unique (hI : Owned s) {r' : ℕ}
    (h : copiedTo (arrival sizeOf s clientHandle indId indPayload pick) r ≠ none)
    (h' : copiedTo (arrival sizeOf s clientHandle indId indPayload pick) r' ≠ none) : r = r' := by
  obtain ⟨c, hc, hr⟩ := owner_of_copiedTo h
  obtain ⟨c', hc', hr'⟩ := owner_of_copiedTo h'
  obtain rfl := Option.some.inj (hc.symm.trans hc')
  exact hI.exclusive r r' c.slot hr hr'

/-- A call that gets a payload had none. -/
theorem Tracked.got_eq_none (hI : Tracked v s)
    (hready : Ready sizeOf v (arrival sizeOf s clientHandle indId indPayload pick))
    (h : copiedTo (arrival sizeOf s clientHandle indId indPayload pick) r ≠ none) :
    v.got r = none := by
  obtain ⟨c, hc, hr⟩ := owner_of_copiedTo h
  obtain ⟨hmem, hcopy⟩ := (SyncReqArray.processInd_copied hI.inUse).mp hc
  refine (ready_arrival.mp hready c.slot hmem r hr).mpr ?_
  exact Option.isSome_of_eq_some hcopy

/-- What a call got after an arrival, if anything. -/
theorem next_got_eq_some {n : ℕ} {bytes : List UInt8}
    (h : (v.next e).got r = some (n, bytes)) :
    copiedTo e r ≠ none ∧ n = v.count ∨ copiedTo e r = none ∧ v.got r = some (n, bytes) := by
  have h' : ((copiedTo e r).map fun bytes => (v.count, bytes)).or (v.got r) = some (n, bytes) := h
  rcases hto : copiedTo e r with _ | b
  · rw [hto] at h'
    exact Or.inr ⟨rfl, h'⟩
  · rw [hto] at h'
    exact Or.inl ⟨nofun, (Prod.mk.inj (Option.some.inj h')).1.symm⟩

/-- A notified slot tells its call. -/
theorem Fits.told_notify {d : SyncReqData} {ind : Indication} (h : Fits r q pc d)
    (hown : pc.owner = some i) (k : ℕ) : Told r pc (notifySlot k ind d) := by
  have hstill : Still d → (notifySlot k ind d).indHasArrived = true := by
    intro hs
    rw [notifySlot_of_not_waiting hs.indIsWaiting]
  cases pc with
  | called | returned => cases hown
  | selecting => exact hstill h.toStill
  | blocked i hax =>
    rw [notifySlot_of_waiting h.2.1, Told, condSignal_eq_nil h.2.2]
    exact List.not_mem_nil
  | sending | checking | waiting | freeing | failing => exact hstill h.2

/-- A slot after an arrival. -/
theorem Owned.slots_arrival (hI : Owned s) (i : Slot) :
    (arrival sizeOf s clientHandle indId indPayload pick).post.array.slots i =
      if i ∈ SyncReqArray.notifiedSlots sizeOf ⟨some clientHandle, indId, indPayload⟩ s.array then
        notifySlot (pick i) ⟨some clientHandle, indId, indPayload⟩ (s.array.slots i)
      else s.array.slots i := by
  dsimp only [arrival]
  rw [SyncReqArray.processInd_array hI.inUse]
  rfl

/-- A call whose slot is notified has its indication afterwards. -/
theorem Tracked.got_of_notified (hI : Tracked v s)
    (hready : Ready sizeOf v (arrival sizeOf s clientHandle indId indPayload pick))
    (hcall : s.calls r = some (q, pc)) (hown : pc.owner = some i)
    (hmem : i ∈ SyncReqArray.notifiedSlots sizeOf ⟨some clientHandle, indId, indPayload⟩
      s.array) :
    (v.next (arrival sizeOf s clientHandle indId indPayload pick)).got r ≠ none := by
  have hto : copiedTo (arrival sizeOf s clientHandle indId indPayload pick) r = _ :=
    hI.copiedTo_arrival hcall hown
  rw [if_pos hmem] at hto
  have hiff : v.got r = none ↔ (payloadCopy sizeOf ⟨some clientHandle, indId, indPayload⟩
      (s.array.slots i)).isSome = true :=
    ready_arrival.mp hready i hmem r ((owner_of_call hcall).trans hown)
  intro hnone
  obtain ⟨hmap, hgot⟩ := Option.or_eq_none_iff.mp hnone
  obtain ⟨c, hc⟩ := Option.isSome_iff_exists.mp (hiff.mp hgot)
  rw [hto, hc] at hmap
  cases hmap

/-- A call whose slot is left alone gets nothing. -/
theorem Owned.got_of_not_notified (hI : Owned s)
    (hcall : s.calls r = some (q, pc)) (hown : pc.owner = some i)
    (hmem : i ∉ SyncReqArray.notifiedSlots sizeOf ⟨some clientHandle, indId, indPayload⟩
      s.array) :
    (v.next (arrival sizeOf s clientHandle indId indPayload pick)).got r = v.got r := by
  have hto : copiedTo (arrival sizeOf s clientHandle indId indPayload pick) r = _ :=
    hI.copiedTo_arrival hcall hown
  rw [if_neg hmem] at hto
  simp [Deliveries.next, hto]

/-- An arrival keeps what the slots know. -/
theorem Tracked.knows_arrival (hI : Tracked v s)
    (hready : Ready sizeOf v (arrival sizeOf s clientHandle indId indPayload pick))
    (hcall : s.calls r = some (q, pc)) (hown : pc.owner = some i) :
    Knows ((v.next (arrival sizeOf s clientHandle indId indPayload pick)).got r) r pc
      ((arrival sizeOf s clientHandle indId indPayload pick).post.array.slots i) := by
  rw [hI.slots_arrival]
  by_cases hmem : i ∈ SyncReqArray.notifiedSlots sizeOf ⟨some clientHandle, indId, indPayload⟩
      s.array
  · -- the slot is notified, and the call has its indication now
    rw [if_pos hmem]
    have hgot := hI.got_of_notified hready hcall hown hmem
    have hfits := hI.fits r q pc i hcall hown
    exact ⟨fun hnone => absurd hnone hgot, fun _ _ => hfits.told_notify hown _⟩
  · rw [if_neg hmem, hI.got_of_not_notified hcall hown hmem]
    exact hI.knows r q pc i hcall hown

/-- A slot that an indication finds has been selected. -/
theorem Owned.waits_of_notified (hI : Owned s) (hr : s.owner r = some i)
    (hmem : i ∈ SyncReqArray.notifiedSlots sizeOf ⟨some clientHandle, indId, indPayload⟩
      s.array) : Waits s r clientHandle indId := by
  rcases hcall : s.calls r with _ | ⟨q, pc⟩
  · rw [Sys.owner, hcall] at hr
    cases hr
  · have hown : pc.owner = some i := (owner_of_call hcall).symm.trans hr
    have hm := SyncReqArray.matches_of_mem_notifiedSlots hmem
    have hcarries := hI.carries_of_notified hcall hown hmem
    refine ⟨q, pc, i, hcall, hown, ?_, hcarries.clientHandle.symm.trans hm.2.1,
      hcarries.recvIndId.symm.trans hm.2.2.1.symm⟩
    rintro rfl
    have hclient := hm.2.1
    rw [(hI.fits r q _ i hcall rfl).clientHandle] at hclient
    cases hclient

/-- A call that has not selected its slot gets nothing. -/
theorem Owned.copiedTo_of_isFresh (hI : Owned s)
    (h : ∀ q pc, s.calls r = some (q, pc) → pc.isFresh = true) :
    copiedTo (arrival sizeOf s clientHandle indId indPayload pick) r = none := by
  by_contra hne
  obtain ⟨c, hc, hr⟩ := owner_of_copiedTo hne
  obtain ⟨hmem, -⟩ := (SyncReqArray.processInd_copied hI.inUse).mp hc
  obtain ⟨q, pc, i, hcall, hown, hsel, -, -⟩ := hI.waits_of_notified hr hmem
  have hfresh := h q pc hcall
  cases pc with
  | called => cases hown
  | selecting j => exact hsel (congrArg Pc.selecting (Option.some.inj hown))
  | _ => cases hfresh

/-- An arrival keeps the table and the monitor together. -/
theorem Tracked.indication (hI : Tracked v s)
    (hready : Ready sizeOf v (arrival sizeOf s clientHandle indId indPayload pick)) :
    Tracked (v.next (arrival sizeOf s clientHandle indId indPayload pick))
      (arrival sizeOf s clientHandle indId indPayload pick).post := by
  refine ⟨hI.toOwned.indication pick, hI.timely, fun r h => ?_, fun r q pc i hcall hown => ?_,
    fun r n bytes hgot => ?_, fun r r' n bytes bytes' hgot hgot' => ?_⟩
  · simp [Deliveries.next, hI.copiedTo_of_isFresh h, hI.unselected r h]
  · exact hI.knows_arrival hready hcall hown
  · have hcount : (v.next (arrival sizeOf s clientHandle indId indPayload pick)).count =
        v.count + 1 := rfl
    rw [hcount]
    rcases next_got_eq_some hgot with ⟨-, rfl⟩ | ⟨-, hold⟩
    · omega
    · have := hI.numbered r n bytes hold
      omega
  · rcases next_got_eq_some hgot with ⟨hto, rfl⟩ | ⟨-, hold⟩ <;>
      rcases next_got_eq_some hgot' with ⟨hto', hn⟩ | ⟨-, hold'⟩
    · exact hI.copiedTo_unique hto hto'
    · exact absurd (hI.numbered r' _ bytes' hold') (lt_irrefl _)
    · subst hn
      exact absurd (hI.numbered r _ bytes hold) (lt_irrefl _)
    · exact hI.distinct r r' n bytes bytes' hold hold'

/-- A call that waits for an indication and has none is found by it. -/
theorem Tracked.matches_of_waits (hI : Tracked v s) (hwaits : Waits s r clientHandle indId)
    (hgot : v.got r = none) :
    ∃ i, s.owner r = some i ∧ s.array.Matches ⟨some clientHandle, indId, indPayload⟩ i := by
  obtain ⟨q, pc, i, hcall, hown, hsel, hclient, hid⟩ := hwaits
  have hr := (owner_of_call hcall).trans hown
  have hfits := hI.fits r q pc i hcall hown
  have hcarries : Carries q (s.array.slots i) := by
    cases pc with
    | called | returned => cases hown
    | selecting j => exact absurd (congrArg Pc.selecting (Option.some.inj hown)) hsel
    | _ => exact hfits.1
  refine ⟨i, hr, hI.slotInUse_of_owner hr, hcarries.clientHandle.trans hclient, ?_, ?_⟩
  · exact hid.symm.trans hcarries.recvIndId.symm
  · exact ((hI.knows r q pc i hcall hown).quiet hgot).1

/-- If a call waits for the indication and has none, such a call gets it. -/
theorem Tracked.served (hI : Tracked v s)
    (hready : Ready sizeOf v (arrival sizeOf s clientHandle indId indPayload pick))
    (hwaits : Waits s r clientHandle indId) (hgot : v.got r = none) :
    ∃ r', Waits s r' clientHandle indId ∧
      copiedTo (arrival sizeOf s clientHandle indId indPayload pick) r' ≠ none := by
  have hfound : ∃ i, s.owner r = some i ∧
      s.array.Matches ⟨some clientHandle, indId, indPayload⟩ i := hI.matches_of_waits hwaits hgot
  obtain ⟨i, hr, hm⟩ := hfound
  by_cases hex : ∃ j ∈ SyncReqArray.notifiedSlots sizeOf ⟨some clientHandle, indId, indPayload⟩
      s.array, payloadCopy sizeOf ⟨some clientHandle, indId, indPayload⟩ (s.array.slots j) ≠ none
  · -- the payload is copied for the slot `j`, and goes to its owner
    obtain ⟨j, hmem, hcopy⟩ := hex
    obtain ⟨r', hr'⟩ := (hI.slotInUse j).mp (SyncReqArray.matches_of_mem_notifiedSlots hmem).1
    have hwaits' := hI.waits_of_notified hr' hmem
    refine ⟨r', hwaits', ?_⟩
    obtain ⟨q, pc, j', hcall, hown, -, -, -⟩ := hwaits'
    obtain rfl : j' = j := Option.some.inj (hown.symm.trans ((owner_of_call hcall).symm.trans hr'))
    rw [hI.copiedTo_arrival hcall hown, if_pos hmem]
    exact fun hnone => hcopy (Option.map_eq_none_iff.mp hnone)
  · -- nothing can be copied, so the slot of `r` is notified as well
    have hnone : ∀ j ∈ SyncReqArray.notifiedSlots sizeOf
        ⟨some clientHandle, indId, indPayload⟩ s.array,
        payloadCopy sizeOf ⟨some clientHandle, indId, indPayload⟩ (s.array.slots j) = none :=
      fun j hj => by_contra fun hne => hex ⟨j, hj, hne⟩
    have hmem := SyncReqArray.mem_notifiedSlots_of_forall hm hnone
    have hsome := (ready_arrival.mp hready i hmem r hr).mp hgot
    rw [hnone i hmem] at hsome
    cases hsome

/-- An arrival that is not ready takes something from a call, or leaves it without. -/
theorem Tracked.not_delivers_arrival (hI : Tracked v s)
    (hno : ¬ Ready sizeOf v (arrival sizeOf s clientHandle indId indPayload pick)) :
    ¬ Delivers sizeOf v (arrival sizeOf s clientHandle indId indPayload pick) := by
  intro hdel
  refine hno (ready_arrival.mpr fun i hmem r hr => ?_)
  obtain ⟨q, pc, i', hcall, hown, -, -, -⟩ := hI.waits_of_notified hr hmem
  obtain rfl : i' = i := Option.some.inj (hown.symm.trans ((owner_of_call hcall).symm.trans hr))
  have hto : copiedTo (arrival sizeOf s clientHandle indId indPayload pick) r =
      (payloadCopy sizeOf ⟨some clientHandle, indId, indPayload⟩ (s.array.slots i')).map Prod.snd :=
    (hI.copiedTo_arrival hcall hown).trans (if_pos hmem)
  constructor
  · -- a call that has none must not be told that it has
    intro hgot
    by_contra hcopy
    have hnone : payloadCopy sizeOf ⟨some clientHandle, indId, indPayload⟩
        (s.array.slots i') = none := Option.not_isSome_iff_eq_none.mp hcopy
    rw [hnone] at hto
    have hnext : (v.next (arrival sizeOf s clientHandle indId indPayload pick)).got r = none := by
      simp [Deliveries.next, hto, hgot]
    refine hdel.only r q pc i' hcall hown hnext ?_
    rw [hI.slots_arrival, if_pos hmem]
    exact (hI.fits r q pc i' hcall hown).told_notify hown _
  · -- a call that has one must not get another
    intro hcopy
    obtain ⟨c, hc⟩ := Option.isSome_iff_exists.mp hcopy
    refine hdel.fresh r ?_
    rw [hto]
    exact fun hnone => Option.some_ne_none c (hc.symm.trans (Option.map_eq_none_iff.mp hnone))

end

/-! ## All steps -/

/-- A call that got its indication and has sent its request can come back with success. -/
theorem Tracked.completes (hI : Tracked v s) (hcall : s.calls r = some (q, pc))
    (hsent : pc.isSent = true) (hgot : v.got r ≠ none) : Completes sizeOf s r := by
  have htold : ∀ i, pc.owner = some i → pc.isOpen = true → Told r pc (s.array.slots i) :=
    fun i hown hopen => (hI.knows r q pc i hcall hown).told hgot hopen
  have htimely := hI.timely r q pc hcall
  cases pc with
  | checking i hax =>
    have huse := hI.slotInUse_of_owner ((owner_of_call hcall).trans rfl)
    exact completes_checking hcall huse (htold i rfl rfl)
  | waiting i hax => exact completes_waiting hcall (htold i rfl rfl)
  | blocked i hax => exact completes_blocked hcall (htold i rfl rfl)
  | freeing i hax rc =>
    obtain rfl : rc = .ok := htimely
    exact completes_freeing hcall
  | _ => cases hsent

/-- A step that copies nothing, and is no indication, delivers nothing. -/
theorem Tracked.delivers_of_quiet (hpost : Tracked v e.post) (hcopied : ∀ c, .copied c ∉ e.out)
    (hl : ∀ clientHandle indId indPayload pick,
      e.label ≠ .indication clientHandle indId indPayload pick) :
    Tracked (v.next e) e.post ∧ Delivers sizeOf v e := by
  have hto : ∀ r, copiedTo e r = none := copiedTo_eq_none hcopied
  rw [next_eq_self hcopied hl]
  refine ⟨hpost, ?_⟩
  constructor
  · exact fun r h => absurd (hto r) h
  · exact fun r _ h => absurd (hto r) h
  · exact fun c i p k h => absurd h (hl c i p k)
  · rw [next_eq_self hcopied hl]
    exact hpost.distinct
  · rw [next_eq_self hcopied hl]
    exact fun r q pc hcall hsent hgot => hpost.completes hcall hsent hgot
  · rw [next_eq_self hcopied hl]
    exact fun r q pc i hcall hown hgot => ((hpost.knows r q pc i hcall hown).quiet hgot).2

/-- A ready step keeps the table and the monitor together, and delivers its indication. -/
theorem Tracked.step (hI : Tracked v e.pre) (hok : Punctual e.pre e.label)
    (hready : Ready sizeOf v e)
    (hs : (machine sizeOf).step e.pre e.label = some (e.post, e.out)) :
    Tracked (v.next e) e.post ∧ Delivers sizeOf v e := by
  rcases e with ⟨s, l, out, s'⟩
  dsimp only at hI hok hs
  cases l with
  | call r q =>
    obtain ⟨hnew, rfl, rfl⟩ := step_call_inv hs
    exact Tracked.delivers_of_quiet (hI.call hnew q) (fun _ => List.not_mem_nil) nofun
  | run r sec =>
    obtain ⟨q, pc, a, pc', out', hcall, hmove, rfl, rfl⟩ := step_run_inv hs
    exact Tracked.delivers_of_quiet (hI.section hcall hok hmove) hmove.copied_not_mem nofun
  | indication clientHandle indId indPayload pick =>
    obtain ⟨rfl, rfl⟩ := step_indication_inv hs
    have hpost := hI.indication hready
    refine ⟨hpost, fun r h => hI.got_eq_none hready h, fun r r' h h' => hI.copiedTo_unique h h',
      ?_, hpost.distinct, fun r q pc hcall => hpost.completes hcall,
      fun r q pc i hcall hown hgot => ((hpost.knows r q pc i hcall hown).quiet hgot).2⟩
    rintro clientHandle' indId' indPayload' pick' hl ⟨r, hwaits, hgot⟩
    obtain ⟨rfl, rfl, rfl, rfl⟩ := Label.indication.inj hl
    exact hI.served hready hwaits hgot

/-- A step that is not ready does not deliver its indication. -/
theorem Tracked.not_delivers (hI : Tracked v e.pre) (hno : ¬ Ready sizeOf v e)
    (hs : (machine sizeOf).step e.pre e.label = some (e.post, e.out)) : ¬ Delivers sizeOf v e := by
  rcases e with ⟨s, l, out, s'⟩
  dsimp only at hI hs
  cases l with
  | call r q => exact absurd nofun hno
  | run r sec => exact absurd nofun hno
  | indication clientHandle indId indPayload pick =>
    obtain ⟨rfl, rfl⟩ := step_indication_inv hs
    exact hI.not_delivers_arrival hno

end

/-! ## Whole runs -/

/-- A test for ready steps of the calls 0 and 1. -/
def checkReady (sizeOf : UInt32 → Option ℕ) (v : Deliveries) (e : Event Sys Label Out) : Bool :=
  match e.label with
  | .indication clientHandle indId indPayload _ =>
    let ind : Indication := ⟨some clientHandle, indId, indPayload⟩
    (SyncReqArray.notifiedSlots sizeOf ind e.pre.array).all fun i => [0, 1].any fun r =>
      e.pre.owner r = some i ∧
        (v.got r).isNone = (payloadCopy sizeOf ind (e.pre.array.slots i)).isSome
  | _ => true

theorem Owned.ready_of_check {sizeOf : UInt32 → Option ℕ} {v : Deliveries}
    {e : Event Sys Label Out} (hI : Owned e.pre) (h : checkReady sizeOf v e = true) :
    Ready sizeOf v e := by
  intro clientHandle indId indPayload pick hl i hmem r hr
  simp only [checkReady, hl] at h
  obtain ⟨r', -, hr'⟩ := List.any_eq_true.mp (List.all_eq_true.mp h i hmem)
  obtain ⟨howner, hgot⟩ := of_decide_eq_true hr'
  obtain rfl := hI.exclusive r r' i hr howner
  rw [← hgot, Option.isNone_iff_eq_none]

end OppoA37.LocSync
