import OppoA37.Gps.LocSync.Calls
import OppoA37.Lib.Holding

/-!
# Who owns a slot

A call owns its slot from `loc_alloc_slot` to its first `loc_free_slot`. `Owned` is the
invariant of the table: no slot has two owners, `slot_in_use` and `in_use` say what is
owned, and what stands in an owned slot fits the place its owner is at.

There is one step that can break it. A call whose wait timed out has freed its slot inside
`loc_sync_wait_for_ind`, and frees it a second time when it fails: by then the slot may
belong to another call. `Owned.step` says that every other step keeps the invariant.
-/

namespace OppoA37.LocSync

open Lts Holding

/-! ## Owners -/

/-- The slot that a call owns, by the place it is at. A wait that timed out has freed the
slot before the call fails. -/
def Pc.owner : Pc → Option Slot
  | .called | .returned _ => none
  | .selecting i | .sending i _ _ | .checking i _ | .waiting i _ | .blocked i _
  | .freeing i _ _ => some i
  | .failing i _ rc => if rc = .etimedout then none else some i

/-- Who owns what. -/
def Sys.owner (s : Sys) (r : ℕ) : Option Slot := (s.calls r).bind fun c => c.2.owner

/-- A slot that carries the fields of a request. -/
structure Carries (q : Request) (d : SyncReqData) : Prop where
  clientHandle : d.clientHandle = q.clientHandle
  indIsSelected : d.indIsSelected = true
  recvIndId : d.recvIndId = q.indId
  reqId : d.reqId = q.reqId
  recvIndPayloadPtr : d.recvIndPayloadPtr = q.indPayloadPtr

/-- Nobody is at the condition variable of a slot. -/
structure Still (d : SyncReqData) : Prop where
  indIsWaiting : d.indIsWaiting = false
  indArrivedCond : d.indArrivedCond = []

/-- A slot that no request has selected. -/
structure Bare (d : SyncReqData) : Prop extends Still d where
  clientHandle : d.clientHandle = none
  indHasArrived : d.indHasArrived = false

/-- What stands in the slot of a call, by the place the call is at. -/
def Fits (r : ℕ) (q : Request) : Pc → SyncReqData → Prop
  | .called, _ | .returned _, _ => True
  | .selecting _, d => Bare d
  | .blocked _ _, d => Carries q d ∧ d.indIsWaiting = true ∧
      (d.indArrivedCond = [] ∨ d.indArrivedCond = [r])
  | .sending _ _ _, d | .checking _ _, d | .waiting _ _, d | .freeing _ _ _, d
  | .failing _ _ _, d => Carries q d ∧ Still d

/-- A wait fails only because its time is over, and a call that fails has a reason to. -/
def Pc.Sound : Pc → Prop
  | .sending _ _ rc => rc = .ok
  | .freeing _ _ rc => rc = .ok ∨ rc = .etimedout
  | .failing _ status rc => status ≠ .success ∧ (rc = .ok ∨ rc = .etimedout)
  | _ => True

/-- The invariant of the table. -/
structure Owned (s : Sys) : Prop where
  /-- no slot has two owners -/
  exclusive : Exclusive s.owner
  /-- `slot_in_use` says what is owned -/
  slotInUse : ∀ i, s.array.slotInUse i = true ↔ Taken s.owner i
  /-- `in_use` says whether anything is -/
  inUse : s.array.inUse = true ↔ ∃ i, s.array.slotInUse i = true
  /-- a slot fits the place of its owner -/
  fits : ∀ r q pc i, s.calls r = some (q, pc) → pc.owner = some i →
    Fits r q pc (s.array.slots i)
  /-- a slot without an owner is bare -/
  bare : ∀ i, ¬ Taken s.owner i → Bare (s.array.slots i)
  /-- waits fail only because their time is over -/
  sound : ∀ r q pc, s.calls r = some (q, pc) → pc.Sound

theorem owned_init : Owned {} where
  exclusive := exclusive_none
  slotInUse := fun i => ⟨nofun, fun h => absurd h (not_taken_none i)⟩
  inUse := ⟨nofun, fun ⟨_, h⟩ => nomatch h⟩
  fits := nofun
  bare := fun _ _ => ⟨⟨rfl, rfl⟩, rfl, rfl⟩
  sound := nofun

/-! ## Updates of one call -/

section

variable {s : Sys} {r r' : ℕ} {q q' : Request} {pc pc' : Pc} {i : Slot} {a : SyncReqArray}

theorem owner_of_call (h : s.calls r = some (q, pc)) : s.owner r = pc.owner := by
  rw [Sys.owner, h]
  rfl

/-- Moving one call moves one owner. -/
theorem owner_update (a : SyncReqArray) (r : ℕ) (q : Request) (pc : Pc) :
    Sys.owner ⟨a, Function.update s.calls r (some (q, pc))⟩ =
      Function.update s.owner r pc.owner := by
  funext r'
  by_cases h : r' = r
  · subst h
    simp [Sys.owner]
  · simp [Sys.owner, h]

/-- A call that stays the owner of its slot leaves the owners as they are. -/
theorem owner_update_of_eq (a : SyncReqArray) (q' : Request) (hcall : s.calls r = some (q, pc))
    (h : pc'.owner = pc.owner) :
    Sys.owner ⟨a, Function.update s.calls r (some (q', pc'))⟩ = s.owner := by
  rw [owner_update, h, ← owner_of_call hcall, Function.update_eq_self]

/-- What holds of the calls that do not move, and of the one that does, holds of all. -/
theorem forall_calls_update {P : ℕ → Request → Pc → Prop} (hr : P r q pc)
    (hother : ∀ r' q' pc', r' ≠ r → s.calls r' = some (q', pc') → P r' q' pc') :
    ∀ r' q' pc', Function.update s.calls r (some (q, pc)) r' = some (q', pc') →
      P r' q' pc' := by
  intro r' q' pc' h
  by_cases hne : r' = r
  · subst hne
    rw [Function.update_self] at h
    obtain ⟨rfl, rfl⟩ := Prod.mk.inj (Option.some.inj h)
    exact hr
  · rw [Function.update_of_ne hne] at h
    exact hother r' q' pc' hne h

namespace Owned

variable (hI : Owned s)

include hI

/-- An owned slot is in use. -/
theorem slotInUse_of_owner (h : s.owner r = some i) : s.array.slotInUse i = true :=
  (hI.slotInUse i).mpr ⟨r, h⟩

/-- The slots of two calls differ. -/
theorem ne_of_owner {j : Slot} (h : s.owner r = some i) (h' : s.owner r' = some j)
    (hne : r' ≠ r) : j ≠ i := by
  rintro rfl
  exact hne (hI.exclusive r' r j h' h)

/-- A call that owns nothing moves on without a slot. -/
theorem idle (hown : s.owner r = none) (hown' : pc'.owner = none) (hsound : pc'.Sound) :
    Owned ⟨s.array, Function.update s.calls r (some (q, pc'))⟩ := by
  have howner : Sys.owner ⟨s.array, Function.update s.calls r (some (q, pc'))⟩ = s.owner := by
    rw [owner_update, hown', ← hown, Function.update_eq_self]
  constructor
  · rw [howner]
    exact hI.exclusive
  · rw [howner]
    exact hI.slotInUse
  · exact hI.inUse
  · intro r' q' pc₁ j
    refine forall_calls_update (P := fun r' q' pc₁ => pc₁.owner = some j →
      Fits r' q' pc₁ (s.array.slots j)) ?_ ?_ r' q' pc₁
    · rw [hown']
      exact nofun
    · exact fun r' q' pc₁ _ h => hI.fits r' q' pc₁ j h
  · rw [howner]
    exact hI.bare
  · exact forall_calls_update hsound fun r' q' pc₁ _ h => hI.sound r' q' pc₁ h

/-- A call that keeps its slot only writes there. -/
theorem keep (hcall : s.calls r = some (q, pc)) (hown : pc.owner = some i)
    (hown' : pc'.owner = some i) {d : SyncReqData} (hfits : Fits r q pc' d)
    (hsound : pc'.Sound) :
    Owned ⟨s.array.setSlot i d, Function.update s.calls r (some (q, pc'))⟩ := by
  have hr : s.owner r = some i := (owner_of_call hcall).trans hown
  have howner := owner_update_of_eq (s.array.setSlot i d) q hcall (hown'.trans hown.symm)
  constructor
  · rw [howner]
    exact hI.exclusive
  · rw [howner]
    exact hI.slotInUse
  · exact hI.inUse
  · intro r' q' pc₁ j
    refine forall_calls_update (P := fun r' q' pc₁ => pc₁.owner = some j →
      Fits r' q' pc₁ ((s.array.setSlot i d).slots j)) ?_ ?_ r' q' pc₁
    · intro hj
      obtain rfl := Option.some.inj (hown'.symm.trans hj)
      rw [SyncReqArray.slots_setSlot_self]
      exact hfits
    · intro r' q' pc₁ hne h hj
      have hji := hI.ne_of_owner hr ((owner_of_call h).trans hj) hne
      rw [SyncReqArray.slots_setSlot_of_ne _ hji]
      exact hI.fits r' q' pc₁ j h hj
  · rw [howner]
    intro j hj
    have hji : j ≠ i := by
      rintro rfl
      exact hj ⟨r, hr⟩
    rw [SyncReqArray.slots_setSlot_of_ne _ hji]
    exact hI.bare j hj
  · exact forall_calls_update hsound fun r' q' pc₁ _ h => hI.sound r' q' pc₁ h

/-- A call that keeps its slot as it is. -/
theorem stay (hcall : s.calls r = some (q, pc)) (hown : pc.owner = some i)
    (hown' : pc'.owner = some i) (hfits : Fits r q pc' (s.array.slots i))
    (hsound : pc'.Sound) :
    Owned ⟨s.array, Function.update s.calls r (some (q, pc'))⟩ := by
  have hsame : s.array.setSlot i (s.array.slots i) = s.array := by
    simp [SyncReqArray.setSlot]
  have := hI.keep hcall hown hown' hfits hsound
  rwa [hsame] at this

/-- A call takes a free slot. -/
theorem alloc (hcall : s.calls r = some (q, .called)) (hfree : s.array.slotInUse i = false) :
    Owned ⟨{ s.array with inUse := true, slotInUse := Function.update s.array.slotInUse i true },
      Function.update s.calls r (some (q, .selecting i))⟩ := by
  have hr : s.owner r = none := owner_of_call hcall
  have hnot : ¬ Taken s.owner i := fun h => by
    rw [(hI.slotInUse i).mpr h] at hfree
    cases hfree
  constructor
  · rw [owner_update]
    exact hI.exclusive.update_some hnot r
  · intro j
    rw [owner_update, Pc.owner, taken_update_some hr, ← hI.slotInUse j]
    by_cases hji : j = i
    · subst hji
      simp
    · simp [hji]
  · simp only [true_iff]
    exact ⟨i, Function.update_self ..⟩
  · intro r' q' pc₁ j
    refine forall_calls_update (P := fun r' q' pc₁ => pc₁.owner = some j →
      Fits r' q' pc₁ (s.array.slots j)) ?_ ?_ r' q' pc₁
    · intro hj
      obtain rfl := Option.some.inj hj
      exact hI.bare i hnot
    · exact fun r' q' pc₁ _ h => hI.fits r' q' pc₁ j h
  · intro j hj
    rw [owner_update, Pc.owner, taken_update_some hr] at hj
    exact hI.bare j fun h => hj (Or.inl h)
  · exact forall_calls_update trivial fun r' q' pc₁ _ h => hI.sound r' q' pc₁ h

/-- A call frees a slot that nobody else owns. -/
theorem free (hcall : s.calls r = some (q, pc)) (hother : ∀ r', s.owner r' = some i → r' = r)
    (hmine : ∀ j, s.owner r = some j → j = i) (hstill : Still (s.array.slots i))
    (hown' : pc'.owner = none) (hsound : pc'.Sound) :
    Owned ⟨s.array.freeSlot i, Function.update s.calls r (some (q, pc'))⟩ := by
  have htaken : ∀ j, Taken (Function.update s.owner r none) j ↔ Taken s.owner j ∧ j ≠ i := by
    intro j
    rw [hI.exclusive.taken_update_none]
    refine and_congr_right fun htaken => ⟨?_, ?_⟩
    · rintro hne rfl
      obtain ⟨r', hr'⟩ := htaken
      obtain rfl := hother r' hr'
      exact hne hr'
    · exact fun hne hj => hne (hmine j hj)
  constructor
  · rw [owner_update, hown']
    exact hI.exclusive.update_none r
  · intro j
    rw [owner_update, hown', htaken, ← hI.slotInUse j]
    by_cases hji : j = i
    · subst hji
      simp [SyncReqArray.freeSlot]
    · simp [SyncReqArray.freeSlot, hji]
  · exact SyncReqArray.inUse_freeSlot hI.inUse i
  · intro r' q' pc₁ j
    refine forall_calls_update (P := fun r' q' pc₁ => pc₁.owner = some j →
      Fits r' q' pc₁ ((s.array.freeSlot i).slots j)) ?_ ?_ r' q' pc₁
    · rw [hown']
      rintro ⟨⟩
    · intro r' q' pc₁ hne h hj
      have hji : j ≠ i := by
        rintro rfl
        exact hne (hother r' ((owner_of_call h).trans hj))
      simp only [SyncReqArray.freeSlot, Function.update_of_ne hji]
      exact hI.fits r' q' pc₁ j h hj
  · intro j hj
    rw [owner_update, hown', htaken] at hj
    by_cases hji : j = i
    · subst hji
      simp only [SyncReqArray.freeSlot, Function.update_self]
      exact ⟨⟨rfl, hstill.indArrivedCond⟩, rfl, rfl⟩
    · simp only [SyncReqArray.freeSlot, Function.update_of_ne hji]
      exact hI.bare j fun h => hj ⟨h, hji⟩
  · exact forall_calls_update hsound fun r' q' pc₁ _ h => hI.sound r' q' pc₁ h

end Owned

end

/-! ## Steps -/

theorem afterLoop_success (i : Slot) (hax : ℕ) (rc : WaitResult) :
    afterLoop i hax .success rc = .returned .success := by
  simp [afterLoop, ClientStatus.isRetried]

theorem afterLoop_timeout (i : Slot) (hax : ℕ) (rc : WaitResult) :
    afterLoop i hax .failureTimeout rc = .failing i .failureTimeout rc := by
  simp [afterLoop, ClientStatus.isRetried]

/-- A request that was refused is sent again, or fails. -/
theorem afterLoop_refused {status : ClientStatus} (h : status ≠ .success) (i : Slot) (hax : ℕ)
    (rc : WaitResult) :
    afterLoop i hax status rc = .sending i (hax - 1) rc ∨
      afterLoop i hax status rc = .failing i status rc := by
  rw [afterLoop]
  by_cases hagain : status.isRetried = true ∧ 0 < hax
  · exact Or.inl (if_pos hagain)
  · rw [if_neg hagain, if_neg h]
    exact Or.inr rfl

section

variable {sizeOf : UInt32 → Option ℕ} {s s' : Sys} {r : ℕ} {q : Request} {pc : Pc} {i : Slot}

/-- A signal wakes the only thread that can be blocked. -/
theorem condSignal_eq_nil {blocked : List ℕ} (h : blocked = [] ∨ blocked = [r]) (k : ℕ) :
    condSignal k blocked = [] := by
  rcases h with rfl | rfl
  · rfl
  · simp [condSignal, Nat.mod_one]

/-- An indication leaves a slot fit for its owner. -/
theorem Fits.notify {d : SyncReqData} {ind : Indication} (h : Fits r q pc d)
    (hclient : d.clientHandle ≠ none) (hid : ind.indId = d.recvIndId) (k : ℕ) :
    Fits r q pc (notifySlot k ind d) := by
  have hstill : Carries q d ∧ Still d →
      Carries q (notifySlot k ind d) ∧ Still (notifySlot k ind d) := by
    rintro ⟨⟨hc, hs, hi, hr, hp⟩, ⟨hw, hcond⟩⟩
    rw [notifySlot_of_not_waiting hw]
    exact ⟨⟨hc, hs, hi, hr, hp⟩, ⟨hw, hcond⟩⟩
  cases pc with
  | called | returned => trivial
  | selecting => exact absurd h.clientHandle hclient
  | blocked =>
    obtain ⟨⟨hc, hs, hi, hr, hp⟩, hw, hcond⟩ := h
    rw [notifySlot_of_waiting hw]
    exact ⟨⟨hc, hs, hid.trans hi, hr, hp⟩, hw, Or.inl (condSignal_eq_nil hcond k)⟩
  | sending | checking | waiting | freeing | failing => exact hstill h

/-- A slot that an indication finds carries the request of its owner. -/
theorem Owned.carries_of_notified (hI : Owned s) {clientHandle : ℕ} {indId : UInt32}
    {indPayload : Option (List UInt8)} (hcall : s.calls r = some (q, pc))
    (hown : pc.owner = some i)
    (hmem : i ∈ SyncReqArray.notifiedSlots sizeOf ⟨some clientHandle, indId, indPayload⟩
      s.array) : Carries q (s.array.slots i) := by
  have hfits := hI.fits r q pc i hcall hown
  cases pc with
  | called | returned => cases hown
  | selecting j =>
    have hclient := (SyncReqArray.matches_of_mem_notifiedSlots hmem).2.1
    rw [hfits.clientHandle] at hclient
    cases hclient
  | _ => exact hfits.1

/-- An indication keeps the invariant. -/
theorem Owned.indication (hI : Owned s) {clientHandle : ℕ} {indId : UInt32}
    {indPayload : Option (List UInt8)} (pick : Slot → ℕ) :
    Owned ⟨(s.array.processInd sizeOf ⟨some clientHandle, indId, indPayload⟩ pick).1,
      s.calls⟩ := by
  rw [SyncReqArray.processInd_array hI.inUse]
  refine ⟨hI.exclusive, hI.slotInUse, hI.inUse, ?_, ?_, hI.sound⟩
  · intro r q pc i hcall hown
    have hfits := hI.fits r q pc i hcall hown
    simp only [SyncReqArray.notifySlots]
    split
    · next hmem =>
      obtain ⟨-, hclient, hid, -⟩ := SyncReqArray.matches_of_mem_notifiedSlots hmem
      exact hfits.notify (by rw [hclient]; rintro ⟨⟩) hid _
    · exact hfits
  · intro i hi
    have hno : i ∉ SyncReqArray.notifiedSlots sizeOf ⟨some clientHandle, indId, indPayload⟩
        s.array := fun hmem =>
      hi ((hI.slotInUse i).mp (SyncReqArray.matches_of_mem_notifiedSlots hmem).1)
    simp only [SyncReqArray.notifySlots, if_neg hno]
    exact hI.bare i hi

/-- A call frees no slot that another call owns: it can only do so when it fails after its
wait timed out. -/
def FreesOwn (s : Sys) (l : Label) : Prop :=
  ∀ r q i status, l = .run r .freeFailed → s.calls r = some (q, .failing i status .etimedout) →
    ∀ r', s.owner r' ≠ some i

/-- A section leaves the slots of the other calls as they are. -/
theorem Owned.slots_of_owner (hI : Owned s) {sec : Section} {a : SyncReqArray} {pc' : Pc}
    {out : List Out} {r' : ℕ} (hcall : s.calls r = some (q, pc))
    (hok : FreesOwn s (.run r sec)) (hmove : Move s.array r q sec pc a pc' out) (hne : r' ≠ r)
    (h' : s.owner r' = some i) : a.slots i = s.array.slots i := by
  refine hmove.slots_of_ne fun hslot => ?_
  have hr := owner_of_call hcall
  have hmine : s.owner r ≠ some i := fun hi => hne (hI.exclusive r' r i h' hi)
  cases hmove with
  | alloc | full => cases hslot
  | freeFailed j status rc =>
    obtain rfl : j = i := Option.some.inj hslot
    rcases (hI.sound r q _ hcall).2 with rfl | rfl
    · exact hmine hr
    · exact hok r q j status rfl hcall r' h'
  | _ => exact hmine (hr.trans hslot)

/-- A section of a call keeps the invariant, unless it frees a slot of another call. -/
theorem Owned.section (hI : Owned s) {sec : Section} {a : SyncReqArray} {pc' : Pc}
    {out : List Out} (hcall : s.calls r = some (q, pc)) (hok : FreesOwn s (.run r sec))
    (hmove : Move s.array r q sec pc a pc' out) :
    Owned ⟨a, Function.update s.calls r (some (q, pc'))⟩ := by
  have hr := owner_of_call hcall
  have hfits : ∀ i, pc.owner = some i → Fits r q pc (s.array.slots i) :=
    fun i hi => hI.fits r q pc i hcall hi
  have hsound := hI.sound r q pc hcall
  have hfree : ∀ {i}, pc.owner = some i →
      (∀ r', s.owner r' = some i → r' = r) ∧ ∀ j, s.owner r = some j → j = i := by
    intro i hi
    refine ⟨fun r' h' => hI.exclusive r' r i h' (hr.trans hi), fun j hj => ?_⟩
    exact Option.some.inj (hj.symm.trans (hr.trans hi))
  cases hmove with
  | alloc i hi => exact hI.alloc hcall hi
  | full => exact hI.idle hr rfl trivial
  | select i =>
    obtain ⟨⟨hw, hcond⟩, -⟩ := hfits i rfl
    exact hI.keep hcall rfl rfl ⟨⟨rfl, rfl, rfl, rfl, rfl⟩, ⟨rfl, hcond⟩⟩ rfl
  | sent i hax rc => exact hI.stay hcall rfl rfl (hfits i rfl) trivial
  | refused i hax rc status hst =>
    obtain rfl : rc = .ok := hsound
    rcases afterLoop_refused hst i hax .ok with h | h <;> rw [h]
    · exact hI.stay hcall rfl rfl (hfits i rfl) rfl
    · exact hI.stay hcall rfl rfl (hfits i rfl) ⟨hst, Or.inl rfl⟩
  | checked i hax => exact hI.stay hcall rfl rfl (hfits i rfl) trivial
  | invalid i hax huse =>
    rw [hI.slotInUse_of_owner hr] at huse
    cases huse
  | arrived i hax => exact hI.stay hcall rfl rfl (hfits i rfl) (Or.inl rfl)
  | busy i hax _ hwait =>
    obtain ⟨-, hw, -⟩ := hfits i rfl
    rw [hw] at hwait
    cases hwait
  | blocks i hax =>
    obtain ⟨⟨hc, hs, hi, hq, hp⟩, -, hcond⟩ := hfits i rfl
    refine hI.keep hcall rfl rfl ⟨⟨hc, hs, hi, hq, hp⟩, rfl, Or.inr ?_⟩ trivial
    simp [hcond]
  | wakes i hax timedOut =>
    obtain ⟨⟨hc, hs, hi, hq, hp⟩, -, hcond⟩ := hfits i rfl
    refine hI.keep hcall rfl rfl ⟨⟨hc, hs, hi, hq, hp⟩, ⟨rfl, ?_⟩⟩ ?_
    · rcases hcond with hcond | hcond <;> simp [hcond]
    · cases timedOut
      · exact Or.inl rfl
      · exact Or.inr rfl
  | freeWaited i hax rc =>
    obtain ⟨hother, hmine⟩ := hfree rfl
    have hstill := (hfits i rfl).2
    rcases hsound with rfl | rfl
    · rw [WaitResult.status, afterLoop_success]
      exact hI.free hcall hother hmine hstill rfl trivial
    · rw [WaitResult.status, afterLoop_timeout]
      exact hI.free hcall hother hmine hstill rfl ⟨nofun, Or.inr rfl⟩
  | freeFailed i status rc =>
    rcases hsound.2 with rfl | rfl
    · obtain ⟨hother, hmine⟩ := hfree rfl
      exact hI.free hcall hother hmine (hfits i rfl).2 rfl trivial
    · -- the slot was freed in the wait, and nobody has taken it since
      have hnone := hok r q i status rfl hcall
      refine hI.free hcall (fun r' h' => absurd h' (hnone r')) (fun j hj => ?_)
        (hI.bare i fun ⟨r', h'⟩ => hnone r' h').toStill rfl trivial
      rw [hr] at hj
      cases hj

/-- **Ownership.** Every step keeps the invariant, unless it frees a slot of another
call. -/
theorem Owned.step {l : Label} {out : List Out} (hI : Owned s) (hok : FreesOwn s l)
    (hs : (machine sizeOf).step s l = some (s', out)) : Owned s' := by
  cases l with
  | call r q =>
    obtain ⟨hnew, -, rfl⟩ := step_call_inv hs
    exact hI.idle (by rw [Sys.owner, hnew]; rfl) rfl trivial
  | run r sec =>
    obtain ⟨q, pc, a, pc', out', hcall, hmove, rfl, -⟩ := step_run_inv hs
    exact hI.section hcall hok hmove
  | indication clientHandle indId indPayload pick =>
    obtain ⟨rfl, -⟩ := step_indication_inv hs
    exact hI.indication pick

end

end OppoA37.LocSync
