import OppoA37.Gps.LocSync.Ownership
import OppoA37.Lib.Monitor

/-!
# Is a slot freed by its owner, and once?

A ledger keeps, from the calls of `loc_alloc_slot` and `loc_free_slot` alone, who was given
which slot and who has freed it. A slot should stay with the call it was given to until
that call frees it, and each call should free its slot once.

A wait that times out frees the slot at the end of `loc_sync_wait_for_ind`; its call then
fails, and frees the slot again at the end of `loc_sync_send_req`. `ownership_iff` says that
nothing else goes wrong.
-/

namespace OppoA37.LocSync

open Lts Holding

/-! ## The ledger -/

/-- What became of the slot of a call. -/
inductive Hold where
  /-- it never got one -/
  | never
  /-- it has the slot `i` -/
  | held (i : Slot)
  /-- it had the slot `i`, and has freed it -/
  | freed (i : Slot)
  deriving DecidableEq, Repr

/-- Write an output into the ledger. -/
def record (v : ℕ → Hold) : Out → ℕ → Hold
  | .given r i => Function.update v r (.held i)
  | .freed r i => Function.update v r (.freed i)
  | _ => v

/-- The ledger after one more step. -/
def ledger (v : ℕ → Hold) (e : Event Sys Label Out) : ℕ → Hold := e.out.foldl record v

/-- The fields of a slot that a request selects. -/
def SyncReqData.selection (d : SyncReqData) : Option ℕ × Bool × UInt32 × UInt32 × Option ℕ :=
  (d.clientHandle, d.indIsSelected, d.recvIndId, d.reqId, d.recvIndPayloadPtr)

/-- A step respects the owners of the ledger, and the table agrees with it. -/
structure Respects (v : ℕ → Hold) (e : Event Sys Label Out) : Prop where
  /-- a slot that is given to a call is the first of that call, and nobody holds it -/
  given : ∀ r i, .given r i ∈ e.out → v r = .never ∧ ∀ r', v r' ≠ .held i
  /-- a slot is freed by its holder -/
  freed : ∀ r i, .freed r i ∈ e.out → v r = .held i
  /-- only the holder of a slot changes what is selected in it -/
  kept : ∀ r i, v r = .held i → (∀ sec, e.label ≠ .run r sec) →
    (e.post.array.slots i).selection = (e.pre.array.slots i).selection
  /-- a call that returns holds nothing any more -/
  returned : ∀ r status, .returned r status ∈ e.out → ∀ i, ledger v e r ≠ .held i
  /-- `slot_in_use` says which slots are held -/
  slotInUse : ∀ i, e.post.array.slotInUse i = true ↔ ∃ r, ledger v e r = .held i
  /-- `in_use` says whether one is -/
  inUse : e.post.array.inUse = true ↔ ∃ i, e.post.array.slotInUse i = true

/-- A call that fails did not time out in its wait. -/
def NotTimedOut (s : Sys) (l : Label) : Prop :=
  ∀ r q i status, l = .run r .freeFailed → s.calls r ≠ some (q, .failing i status .etimedout)

/-- The ledger and the calls agree. -/
structure Agrees (v : ℕ → Hold) (s : Sys) : Prop extends Owned s where
  /-- the holders are the owners -/
  held : ∀ r i, v r = .held i ↔ s.owner r = some i
  /-- a call that has not begun has no slot -/
  never : ∀ r, (∀ q pc, s.calls r = some (q, pc) → pc = .called) → v r = .never

theorem agrees_init : Agrees (fun _ => .never) {} where
  toOwned := owned_init
  held := fun _ _ => ⟨nofun, nofun⟩
  never := fun _ _ => rfl

/-! ## What a section writes -/

section

variable {a a' : SyncReqArray} {r : ℕ} {q : Request} {sec : Section} {pc pc' : Pc}
  {out : List Out} {v : ℕ → Hold}

/-- A section leads on from the start. -/
theorem Move.ne_called (h : Move a r q sec pc a' pc' out) : pc' ≠ .called := by
  have hloop : ∀ i hax status rc, afterLoop i hax status rc ≠ .called := by
    intro i hax status rc
    rw [afterLoop]
    split_ifs <;> rintro ⟨⟩
  cases h with
  | refused | invalid | freeWaited => exact hloop _ _ _ _
  | _ => rintro ⟨⟩

/-- A call that is back adds nothing to the ledger. -/
theorem foldl_outs (v : ℕ → Hold) (r : ℕ) (pc : Pc) : (pc.outs r).foldl record v = v := by
  cases pc <;> rfl

end

section

variable {s s' : Sys} {r : ℕ} {q : Request} {sec : Section} {a : SyncReqArray} {pc pc' : Pc}
  {out : List Out} {v : ℕ → Hold} {sizeOf : UInt32 → Option ℕ}

/-- A section takes a slot, frees the one it has, or leaves the ledger alone. -/
theorem Owned.section_cases (hI : Owned s) (hcall : s.calls r = some (q, pc))
    (hok : NotTimedOut s (.run r sec)) (hmove : Move s.array r q sec pc a pc' out) :
    (∃ i, out = [.given r i] ∧ pc = .called ∧ pc' = .selecting i ∧
      s.array.slotInUse i = false) ∨
    (∃ i, out = [.freed r i] ∧ pc.owner = some i ∧ pc'.owner = none) ∨
    pc'.owner = pc.owner ∧ (out = [] ∨ ∃ clientHandle reqId reqPayload,
      out = [.sent r clientHandle reqId reqPayload]) := by
  have hr := owner_of_call hcall
  have hsound := hI.sound r q pc hcall
  cases hmove with
  | alloc i hi => exact Or.inl ⟨i, rfl, rfl, rfl, hi⟩
  | full | select | checked | arrived | blocks | wakes => exact Or.inr (Or.inr ⟨rfl, Or.inl rfl⟩)
  | sent => exact Or.inr (Or.inr ⟨rfl, Or.inr ⟨_, _, _, rfl⟩⟩)
  | refused i hax rc status hst =>
    obtain rfl : rc = .ok := hsound
    refine Or.inr (Or.inr ⟨?_, Or.inr ⟨_, _, _, rfl⟩⟩)
    rcases afterLoop_refused hst i hax .ok with h | h <;> rw [h] <;> rfl
  | invalid i hax huse =>
    rw [hI.slotInUse_of_owner hr] at huse
    cases huse
  | busy => exact Or.inr (Or.inr ⟨rfl, Or.inl rfl⟩)
  | freeWaited i hax rc =>
    refine Or.inr (Or.inl ⟨i, rfl, rfl, ?_⟩)
    rcases hsound with rfl | rfl
    · rw [WaitResult.status, afterLoop_success]
      rfl
    · rw [WaitResult.status, afterLoop_timeout]
      rfl
  | freeFailed i status rc =>
    rcases hsound.2 with rfl | rfl
    · exact Or.inr (Or.inl ⟨i, rfl, rfl, rfl⟩)
    · exact absurd hcall (hok r q i status rfl)

theorem NotTimedOut.freesOwn {l : Label} (hok : NotTimedOut s l) : FreesOwn s l :=
  fun r q i status hl hcall => absurd hcall (hok r q i status hl)

/-- The ledger follows the owners. -/
theorem Agrees.section (hI : Agrees v s) (hcall : s.calls r = some (q, pc))
    (hok : NotTimedOut s (.run r sec)) (hmove : Move s.array r q sec pc a pc' out) :
    Agrees (out.foldl record v) ⟨a, Function.update s.calls r (some (q, pc'))⟩ := by
  have hnext := hI.toOwned.section hcall hok.freesOwn hmove
  -- the other calls are where they were, and so is their part of the ledger
  have hnever : ∀ x r', (∀ q' pc₁, Function.update s.calls r (some (q, pc')) r' = some (q', pc₁) →
      pc₁ = .called) → Function.update v r x r' = .never := by
    intro x r' h
    by_cases hne : r' = r
    · subst hne
      exact absurd (h q pc' (Function.update_self ..)) hmove.ne_called
    · simp only [Function.update_of_ne hne] at h ⊢
      exact hI.never r' h
  have hheld : ∀ x (o : Option Slot), (∀ j, x = .held j ↔ o = some j) →
      ∀ r' j, Function.update v r x r' = .held j ↔ Function.update s.owner r o r' = some j := by
    intro x o hxo r' j
    by_cases hne : r' = r
    · subst hne
      simpa using hxo j
    · simpa [hne] using hI.held r' j
  rcases hI.section_cases hcall hok hmove with
    ⟨i, rfl, rfl, rfl, -⟩ | ⟨i, rfl, hown, hown'⟩ | ⟨hown, hout⟩
  · -- the slot `i` is taken
    refine ⟨hnext, fun r' j => ?_, hnever _⟩
    rw [owner_update]
    exact hheld _ _ (fun j => by simp [Pc.owner]) r' j
  · -- the slot `i` is freed
    refine ⟨hnext, fun r' j => ?_, hnever _⟩
    rw [owner_update, hown']
    exact hheld _ _ (fun j => by simp) r' j
  · -- nothing is taken or freed
    have hsame : out.foldl record v = Function.update v r (v r) := by
      rw [Function.update_eq_self]
      rcases hout with rfl | ⟨_, _, _, rfl⟩ <;> rfl
    rw [hsame]
    refine ⟨hnext, fun r' j => ?_, hnever _⟩
    rw [owner_update, hown, ← owner_of_call hcall]
    exact hheld _ _ (hI.held r) r' j

/-- An indication writes nothing into the ledger. -/
theorem foldl_copied (v : ℕ → Hold) (c : Option Copied) :
    (c.map Out.copied).toList.foldl record v = v := by
  cases c <;> rfl

/-- An indication changes nothing that a request has selected. -/
theorem selection_notifySlot {d : SyncReqData} {ind : Indication}
    (hid : ind.indId = d.recvIndId) (k : ℕ) : (notifySlot k ind d).selection = d.selection := by
  rw [notifySlot]
  split
  · simp [SyncReqData.selection, hid]
  · rfl

/-- A new call has no slot. -/
theorem Agrees.call (hI : Agrees v s) (hnew : s.calls r = none) (q : Request) :
    Agrees v ⟨s.array, Function.update s.calls r (some (q, .called))⟩ := by
  have hr : s.owner r = none := by
    rw [Sys.owner, hnew]
    rfl
  refine ⟨hI.idle hr rfl trivial, fun r' j => ?_, fun r' h => ?_⟩
  · rw [owner_update, Pc.owner, ← hr, Function.update_eq_self]
    exact hI.held r' j
  · by_cases hne : r' = r
    · subst hne
      refine hI.never r' fun q' pc' h' => ?_
      rw [hnew] at h'
      cases h'
    · simp only [Function.update_of_ne hne] at h
      exact hI.never r' h

/-- What a section shows: a slot that it takes or frees, a request that it sends, and the
status of a call that is back. -/
theorem Owned.mem_out (hI : Owned s) (hcall : s.calls r = some (q, pc))
    (hok : NotTimedOut s (.run r sec)) (hmove : Move s.array r q sec pc a pc' out) {o : Out}
    (ho : o ∈ out ++ pc'.outs r) :
    (∃ i, o = .given r i ∧ pc = .called ∧ s.array.slotInUse i = false) ∨
    (∃ i, o = .freed r i ∧ pc.owner = some i) ∨
    (∃ clientHandle reqId reqPayload, o = .sent r clientHandle reqId reqPayload) ∨
    ∃ status, o = .returned r status ∧ pc' = .returned status := by
  rcases List.mem_append.mp ho with ho | ho
  · rcases hI.section_cases hcall hok hmove with
      ⟨i, rfl, hpc, -, hfree⟩ | ⟨i, rfl, hown, -⟩ |
        ⟨-, rfl | ⟨clientHandle, reqId, reqPayload, rfl⟩⟩
    · exact Or.inl ⟨i, List.mem_singleton.mp ho, hpc, hfree⟩
    · exact Or.inr (Or.inl ⟨i, List.mem_singleton.mp ho, hown⟩)
    · cases ho
    · exact Or.inr (Or.inr (Or.inl ⟨clientHandle, reqId, reqPayload, List.mem_singleton.mp ho⟩))
  · cases pc' with
    | returned status => exact Or.inr (Or.inr (Or.inr ⟨status, List.mem_singleton.mp ho, rfl⟩))
    | _ => cases ho

/-- After a step the table says what the ledger says. -/
theorem Agrees.slotInUse_iff (hI : Agrees v s) (i : Slot) :
    s.array.slotInUse i = true ↔ ∃ r, v r = .held i := by
  rw [hI.slotInUse]
  exact exists_congr fun r => (hI.held r i).symm

/-- A section respects the ledger. -/
theorem Agrees.respects_section (hI : Agrees v s) (hcall : s.calls r = some (q, pc))
    (hok : NotTimedOut s (.run r sec)) (hmove : Move s.array r q sec pc a pc' out) :
    Respects v ⟨s, .run r sec, out ++ pc'.outs r,
      ⟨a, Function.update s.calls r (some (q, pc'))⟩⟩ := by
  have hpost := hI.section hcall hok hmove
  have hledger : ledger v ⟨s, .run r sec, out ++ pc'.outs r,
      ⟨a, Function.update s.calls r (some (q, pc'))⟩⟩ = out.foldl record v := by
    rw [ledger, List.foldl_append, foldl_outs]
  constructor
  · intro r' i ho
    rcases hI.mem_out hcall hok hmove ho with
      ⟨j, h, rfl, hfree⟩ | ⟨_, h, -⟩ | ⟨_, _, _, h⟩ | ⟨_, h, -⟩ <;> cases h
    refine ⟨hI.never r fun q' pc₁ h => ?_, fun r' h => ?_⟩
    · rw [hcall] at h
      exact (Prod.mk.inj (Option.some.inj h)).2.symm
    · rw [hI.slotInUse_of_owner ((hI.held r' i).mp h)] at hfree
      cases hfree
  · intro r' i ho
    rcases hI.mem_out hcall hok hmove ho with
      ⟨_, h, -, -⟩ | ⟨j, h, hown⟩ | ⟨_, _, _, h⟩ | ⟨_, h, -⟩ <;> cases h
    exact (hI.held r i).mpr ((owner_of_call hcall).trans hown)
  · intro r' i hheld hlabel
    have hne : r' ≠ r := by
      rintro rfl
      exact hlabel sec rfl
    exact congrArg SyncReqData.selection
      (hI.slots_of_owner hcall hok.freesOwn hmove hne ((hI.held r' i).mp hheld))
  · intro r' status ho i
    rcases hI.mem_out hcall hok hmove ho with
      ⟨_, h, -, -⟩ | ⟨_, h, -⟩ | ⟨_, _, _, h⟩ | ⟨_, h, rfl⟩ <;> cases h
    rw [hledger, Ne, hpost.held, owner_update, Function.update_self]
    exact nofun
  · rw [hledger]
    exact hpost.slotInUse_iff
  · exact hpost.inUse

/-- An indication respects the ledger. -/
theorem Agrees.respects_indication (hI : Agrees v s) {clientHandle : ℕ} {indId : UInt32}
    {indPayload : Option (List UInt8)} (pick : Slot → ℕ) :
    let p := s.array.processInd sizeOf ⟨some clientHandle, indId, indPayload⟩ pick
    Agrees v ⟨p.1, s.calls⟩ ∧
      Respects v ⟨s, .indication clientHandle indId indPayload pick,
        (p.2.map Out.copied).toList, ⟨p.1, s.calls⟩⟩ := by
  intro p
  have hpost : Agrees v ⟨p.1, s.calls⟩ := ⟨hI.indication pick, hI.held, hI.never⟩
  have hcopied : ∀ o ∈ (p.2.map Out.copied).toList, ∃ x, o = .copied x := by
    intro o ho
    obtain ⟨x, -, rfl⟩ := Option.map_eq_some_iff.mp (Option.mem_toList.mp ho)
    exact ⟨x, rfl⟩
  refine ⟨hpost, ⟨?_, ?_, ?_, ?_, ?_, hpost.inUse⟩⟩
  · intro r i ho
    obtain ⟨x, h⟩ := hcopied _ ho
    cases h
  · intro r i ho
    obtain ⟨x, h⟩ := hcopied _ ho
    cases h
  · intro r i _ _
    dsimp only [p]
    rw [SyncReqArray.processInd_array hI.inUse]
    simp only [SyncReqArray.notifySlots]
    split
    · next hmem =>
      obtain ⟨-, -, hid, -⟩ := SyncReqArray.matches_of_mem_notifiedSlots hmem
      exact selection_notifySlot hid _
    · rfl
  · intro r status ho
    obtain ⟨x, h⟩ := hcopied _ ho
    cases h
  · rw [ledger, foldl_copied]
    exact hpost.slotInUse_iff

/-- A step that frees no slot twice respects the ledger. -/
theorem Agrees.step {e : Event Sys Label Out} (hI : Agrees v e.pre)
    (hok : NotTimedOut e.pre e.label)
    (hs : (machine sizeOf).step e.pre e.label = some (e.post, e.out)) :
    Agrees (ledger v e) e.post ∧ Respects v e := by
  rcases e with ⟨s, l, out, s'⟩
  dsimp only at hI hok hs ⊢
  cases l with
  | call r q =>
    obtain ⟨hnew, rfl, rfl⟩ := step_call_inv hs
    have hpost := hI.call hnew q
    exact ⟨hpost, nofun, nofun, fun _ _ _ _ => rfl, nofun, hpost.slotInUse_iff, hpost.inUse⟩
  | run r sec =>
    obtain ⟨q, pc, a, pc', out', hcall, hmove, rfl, rfl⟩ := step_run_inv hs
    refine ⟨?_, hI.respects_section hcall hok hmove⟩
    rw [ledger, List.foldl_append, foldl_outs]
    exact hI.section hcall hok hmove
  | indication clientHandle indId indPayload pick =>
    obtain ⟨rfl, rfl⟩ := step_indication_inv hs
    refine ⟨?_, (hI.respects_indication pick).2⟩
    rw [ledger, foldl_copied]
    exact (hI.respects_indication pick).1

/-- A call that fails after its wait timed out frees a slot that is not its own. -/
theorem Agrees.not_respects {e : Event Sys Label Out} (hI : Agrees v e.pre)
    (hno : ¬ NotTimedOut e.pre e.label)
    (hs : (machine sizeOf).step e.pre e.label = some (e.post, e.out)) : ¬ Respects v e := by
  intro hresp
  simp only [NotTimedOut, not_forall, not_not] at hno
  obtain ⟨r, q, i, status, hl, hcall⟩ := hno
  rcases e with ⟨s, l, out, s'⟩
  dsimp only at hl hcall hs hI
  subst hl
  obtain ⟨q', pc, a, pc', out', hcall', hmove, -, rfl⟩ := step_run_inv hs
  rw [hcall] at hcall'
  obtain ⟨rfl, rfl⟩ := Prod.mk.inj (Option.some.inj hcall')
  cases hmove with
  | freeFailed =>
    have hheld := hresp.freed r i (List.mem_append_left _ List.mem_cons_self)
    rw [hI.held, owner_of_call hcall] at hheld
    cases hheld

end

/-! ## Whole runs -/

/-- **Who owns a slot.** For any number of calls, any indications, and any order of their
sections: every step of a run respects the owners of the slots, and each call frees its
slot once, exactly when no call fails after its wait timed out. -/
theorem ownership_iff {sizeOf : UInt32 → Option ℕ} {h : List (Event Sys Label Out)} {s : Sys}
    (hrun : Run (machine sizeOf) {} h s) :
    (∀ e ∈ h, NotTimedOut e.pre e.label) ↔ Watched ledger (fun _ => .never) Respects h :=
  Run.watched_iff Agrees (fun _ _ => True) NotTimedOut agrees_init
    (fun _ _ hI _ hok hs => hI.step hok hs) (fun _ _ hI _ hno hs => hI.not_respects hno hs) hrun
    fun _ _ => trivial

/-! ## Two runs -/

/-- A call fails after its wait timed out. -/
def failsTimedOut (s : Sys) : Label → Bool
  | .run r .freeFailed =>
    match s.calls r with
    | some (_, .failing _ _ .etimedout) => true
    | _ => false
  | _ => false

theorem failsTimedOut_eq_false {s : Sys} {l : Label} :
    failsTimedOut s l = false ↔ NotTimedOut s l := by
  constructor
  · rintro h r q i status rfl hcall
    simp [failsTimedOut, hcall] at h
  · intro h
    unfold failsTimedOut
    split
    · next r =>
      split
      · next q i status hcall => exact absurd hcall (h r q i status rfl)
      · rfl
    · rfl

instance (s : Sys) (l : Label) : Decidable (NotTimedOut s l) :=
  decidable_of_iff _ failsTimedOut_eq_false

/-- A request of client 7 for the indication 40. -/
def request (ptr : ℕ) : Request := ⟨some 7, 40, 0, 40, some ptr⟩

/-- A call goes up to its wait. -/
def untilWait (r ptr : ℕ) : List Label :=
  [.call r (request ptr), .run r .alloc, .run r .select, .run r (.send .success), .run r .check,
    .run r .wait]

/-- Two calls, of which one is answered and the other one is refused. -/
theorem ownership_iff_two_calls :
    ∃ h s, Run (machine fun _ => some 4) {} h s ∧
      (s.calls 0).map Prod.snd = some (.returned .success) ∧
      (s.calls 1).map Prod.snd = some (.returned .failureGeneral) ∧
      Watched ledger (fun _ => .never) Respects h := by
  obtain ⟨h, s, hrun, -, hcheck⟩ := (machine fun _ => some 4).exists_run {}
    (untilWait 0 100 ++ [.call 1 (request 200), .run 1 .alloc, .run 1 .select,
      .indication 7 40 (some [1, 2, 3, 4]) (fun _ => 0), .run 0 (.wake false),
      .run 0 .freeWaited, .run 1 (.send .failureGeneral), .run 1 .freeFailed])
    (fun h s => decide ((∀ e ∈ h, NotTimedOut e.pre e.label) ∧
      (s.calls 0).map Prod.snd = some (.returned .success) ∧
      (s.calls 1).map Prod.snd = some (.returned .failureGeneral))) (by decide)
  obtain ⟨hok, h0, h1⟩ := of_decide_eq_true hcheck
  exact ⟨h, s, hrun, h0, h1, (ownership_iff hrun).mp hok⟩

/-- A call whose wait times out frees its slot, and then the same slot of the next call. -/
theorem not_respects_of_timeout :
    ¬ ∀ (sizeOf : UInt32 → Option ℕ) (h : List (Event Sys Label Out)) (s : Sys),
      Run (machine sizeOf) {} h s → Watched ledger (fun _ => .never) Respects h := by
  intro hall
  obtain ⟨h, e, hrun, hl, -, hcheck⟩ := (machine fun _ => some 4).exists_run_last {}
    (untilWait 0 100 ++ [.run 0 (.wake true), .run 0 .freeWaited, .call 1 (request 200),
      .run 1 .alloc]) (.run 0 .freeFailed)
    (fun _ e => decide (¬ NotTimedOut e.pre e.label ∧ .freed 0 0 ∈ e.out ∧
      (e.pre.calls 1).map Prod.snd = some (.selecting 0))) (by decide)
  obtain ⟨hno, -, -⟩ := of_decide_eq_true hcheck
  obtain ⟨hpre, hs, -⟩ := Run.event hrun
  have hquiet : ∀ e ∈ h, NotTimedOut e.pre e.label := by
    have hlabel := forall_label (P := fun l => ∀ r, l ≠ .run r .freeFailed) hl
      (by simp [untilWait])
    exact fun e he r q i status heq => absurd heq (hlabel e he r)
  have hI : Agrees (watch ledger (fun _ => .never) h) e.pre :=
    Run.watched_invariant Agrees agrees_init (fun _ _ hI hok hs => (hI.step hok hs).1) hpre
      (watched_const.mpr hquiet)
  exact hI.not_respects hno hs (watched_snoc.mp (hall _ (h ++ [e]) e.post hrun)).2

end OppoA37.LocSync
