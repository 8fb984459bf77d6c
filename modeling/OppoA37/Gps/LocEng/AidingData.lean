import OppoA37.Gps.LocEng.EngineThread

/-!
# Aiding data that waits to be deleted

Aiding data can only be deleted while the engine is not on, so a request that comes in
earlier is kept in `aiding_data_for_deletion` until a status report says that the engine is
off. The field holds one mask, and a new request overwrites it.

What is owed to the requests is a monitor: the bits that were asked for and not yet passed to
`deleteAidingData`. As long as the field holds all of them nothing is lost:

* a request must have the bits that wait already;
* a restart of the modem, which reports the engine as off but deletes nothing, must find
  nothing waiting.
-/

namespace OppoA37.LocEng

open Lts

variable {d d' : LocEngData} {msg : Msg} {out : List Out} {b : ℕ} {v mask : GpsAidingData}

/-! ## What is owed -/

/-- The bits that were asked for, with a message that is handled. -/
def requested (v : GpsAidingData) : Msg → GpsAidingData
  | .delAidData mType => v ||| mType
  | _ => v

/-- The bits that are still owed after an output. -/
def unpaid (v : GpsAidingData) : Out → GpsAidingData
  | .deleteAidingData mask => v &&& ~~~mask
  | _ => v

/-- The bits that were asked for and not passed to `deleteAidingData` since. -/
def owed (v : GpsAidingData) (e : Event LocEngData Msg Out) : GpsAidingData :=
  e.out.foldl unpaid (requested v e.label)

/-- A bit stays owed until it is passed. -/
theorem unpaid_or_deletes (hb : b < 16) (hbit : v.getLsbD b = true) (out : List Out) :
    (out.foldl unpaid v).getLsbD b = true ∨
      ∃ mask, Deletes out mask ∧ mask.getLsbD b = true := by
  induction out generalizing v with
  | nil => exact Or.inl hbit
  | cons o out ih =>
    by_cases hstill : (unpaid v o).getLsbD b = true
    · refine (ih hstill).imp_right ?_
      rintro ⟨mask, hmem, hmask⟩
      exact ⟨mask, List.mem_cons_of_mem _ hmem, hmask⟩
    · cases o with
      | deleteAidingData mask =>
        refine Or.inr ⟨mask, List.mem_cons_self, ?_⟩
        by_contra hno
        apply hstill
        rw [unpaid, BitVec.getLsbD_and, BitVec.getLsbD_not, hbit,
          Bool.eq_false_of_not_eq_true hno, decide_eq_true hb]
        rfl
      | _ => exact absurd hbit hstill

/-- What was owed before a message is owed with it. -/
theorem getLsbD_requested (hbit : v.getLsbD b = true) (msg : Msg) :
    (requested v msg).getLsbD b = true := by
  cases msg <;> simp [requested, hbit]

/-- A bit that is asked for is owed at the end, or passed on the way. -/
theorem owed_or_deletes (hb : b < 16) {e : Event LocEngData Msg Out}
    (hbit : (requested v e.label).getLsbD b = true) (h : List (Event LocEngData Msg Out)) :
    (watch owed v (e :: h)).getLsbD b = true ∨
      ∃ e' ∈ e :: h, ∃ mask, Deletes e'.out mask ∧ mask.getLsbD b = true := by
  induction h generalizing v e with
  | nil =>
    refine (unpaid_or_deletes hb hbit e.out).imp_right ?_
    rintro ⟨mask, hmem, hmask⟩
    exact ⟨e, List.mem_cons_self, mask, hmem, hmask⟩
  | cons e' h ih =>
    rcases unpaid_or_deletes hb hbit e.out with hstill | ⟨mask, hmem, hmask⟩
    · refine (ih (v := owed v e) (getLsbD_requested hstill e'.label)).imp_right ?_
      rintro ⟨e'', hin, hdel⟩
      exact ⟨e'', List.mem_cons_of_mem _ hin, hdel⟩
    · exact Or.inr ⟨e, List.mem_cons_self, mask, hmem, hmask⟩

/-! ## What a message does to the field -/

/-- Nothing of what waits is overwritten or left behind: a new request has all of it, and a
restart of the modem finds nothing. -/
def KeepsWaiting (d : LocEngData) : Msg → Prop
  | .delAidData mType => d.aidingDataForDeletion &&& ~~~mType = 0
  | .engineDown => d.aidingDataForDeletion = 0
  | _ => True

instance (d : LocEngData) : (msg : Msg) → Decidable (KeepsWaiting d msg)
  | .delAidData mType => inferInstanceAs (Decidable (d.aidingDataForDeletion &&& ~~~mType = 0))
  | .engineDown => inferInstanceAs (Decidable (d.aidingDataForDeletion = 0))
  | .reportPosition _ _ _ | .reportSv | .reportGpsMeasurement | .reportStatus _ | .startFix _
  | .stopFix | .positionMode _ | .engineUp | .gpsMeasurementCb _ | .niInit | .ni _ =>
    .isTrue trivial

/-- The field holds what is owed, and nothing waits unless the engine is on. -/
structure Waits (v : GpsAidingData) (d : LocEngData) : Prop where
  field : d.aidingDataForDeletion = v
  off : d.engineStatus ≠ engineOn → d.aidingDataForDeletion = 0

/-- After `update_aiding_data_for_deletion` the field holds what is owed still, and nothing
waits unless the engine is on. -/
theorem waits_update (d : LocEngData) :
    Waits (d.updateAidingDataForDeletion.2.foldl unpaid d.aidingDataForDeletion)
      d.updateAidingDataForDeletion.1 := by
  rw [LocEngData.updateAidingDataForDeletion]
  split_ifs with hoff
  · exact ⟨(BitVec.and_not_self _).symm, fun _ => rfl⟩
  · refine ⟨rfl, fun hstatus => ?_⟩
    by_contra hne
    exact hoff ⟨hstatus, hne⟩

/-- What waits and is asked for again, waits once. -/
theorem requested_of_contained (h : v &&& ~~~mask = 0) : v ||| mask = mask := by
  ext b hb
  have hbit := congrArg (fun x => x[b]) h
  simp only [BitVec.getElem_and, BitVec.getElem_not] at hbit
  simp only [BitVec.getElem_or]
  cases hv : v[b] <;> cases hm : mask[b] <;> simp [hv, hm] at hbit ⊢

/-- A message that passes no mask leaves what is owed as it was. -/
theorem foldl_unpaid_of_not_deletes (h : ∀ mask, ¬ Deletes out mask) :
    out.foldl unpaid v = v := by
  induction out with
  | nil => rfl
  | cons o out ih =>
    have hrest : ∀ mask, ¬ Deletes out mask := fun mask hmem => h mask (List.mem_cons_of_mem _ hmem)
    rw [List.foldl_cons]
    cases o with
    | deleteAidingData mask => exact absurd List.mem_cons_self (h mask)
    | _ => exact ih hrest

/-- **One message.** A message that keeps what waits keeps the field up to date. -/
theorem Waits.step {e : Event LocEngData Msg Out} (hI : Waits v e.pre)
    (hok : KeepsWaiting e.pre e.label) (hs : machine.step e.pre e.label = some (e.post, e.out)) :
    Waits (owed v e) e.post := by
  obtain ⟨pre, msg, out, post⟩ := e
  obtain ⟨rfl, hoff⟩ := hI
  have hmove : Handles pre msg post out := handles_of_step hs
  cases hmove with
  | request mType =>
    have hreq : requested pre.aidingDataForDeletion (.delAidData mType) = mType :=
      requested_of_contained hok
    rw [owed, hreq]
    exact waits_update { pre with aidingDataForDeletion := mType }
  | report mStatus =>
    have hquiet := not_deletes_locEngReportStatus (d := pre) mStatus
    have hupdate := waits_update (pre.locEngReportStatus mStatus).1
    simp only [owed, LocEngData.reportStatus, List.foldl_append]
    rw [foldl_unpaid_of_not_deletes hquiet]
    exact hupdate
  | down =>
    -- nothing waits, so the engine can be reported as off
    have hnone : pre.aidingDataForDeletion = 0 := hok
    have hquiet : ∀ mask, ¬ Deletes pre.handleEngineDown.2 mask := by
      intro mask hmem
      rcases List.mem_append.mp hmem with hmem | hmem
      · obtain ⟨o, -, heq⟩ := List.mem_map.mp hmem
        cases heq
      · exact not_deletes_locEngReportStatus engineOff mask hmem
    rw [owed, foldl_unpaid_of_not_deletes hquiet]
    exact ⟨rfl, fun _ => hnone⟩
  | ni label ni o hni =>
    have hquiet : ∀ mask, ¬ Deletes (o.map Out.ni) mask := by
      intro mask hmem
      obtain ⟨o, -, heq⟩ := List.mem_map.mp hmem
      cases heq
    rw [owed, foldl_unpaid_of_not_deletes hquiet]
    exact ⟨rfl, hoff⟩
  | quiet hdel hrep hdown hquiet =>
    have hreq : requested pre.aidingDataForDeletion msg = pre.aidingDataForDeletion := by
      cases msg with
      | delAidData mType => exact absurd rfl (hdel mType)
      | _ => rfl
    rw [owed, foldl_unpaid_of_not_deletes hquiet.not_deletes, hreq]
    refine ⟨hquiet.aidingDataForDeletion, fun hstatus => ?_⟩
    rw [hquiet.aidingDataForDeletion]
    exact hoff (hquiet.engineStatus ▸ hstatus)

/-- **No deletion is lost.** In a run whose messages all keep what waits, every bit of every
request is in a mask that is passed to `deleteAidingData` by the time the engine is next known
not to be on. -/
theorem deletion_run {h h₁ h₂ : List (Event LocEngData Msg Out)} {e : Event LocEngData Msg Out}
    {d₀ : LocEngData} {mType : GpsAidingData} (h₀ : Fresh d₀) (hrun : Run machine d₀ h d)
    (hok : ∀ e ∈ h, KeepsWaiting e.pre e.label) (hh : h = h₁ ++ e :: h₂)
    (hreq : e.label = .delAidData mType) (hb : b < 16) (hbit : mType.getLsbD b = true)
    {g₁ g₂ : List (Event LocEngData Msg Out)} {e' : Event LocEngData Msg Out}
    (hg : e :: h₂ = g₁ ++ e' :: g₂) (hoff : e'.post.engineStatus ≠ engineOn) :
    ∃ e'' ∈ g₁ ++ [e'], ∃ mask, Deletes e''.out mask ∧ mask.getLsbD b = true := by
  -- the run up to the report that the engine is not on
  have hsplit : h = (h₁ ++ (g₁ ++ [e'])) ++ g₂ := by
    rw [hh, hg]
    simp
  subst hsplit
  obtain ⟨s, hrun₁, hrun₂⟩ := Run.split hrun
  have hlast : s = e'.post := by
    rw [← List.append_assoc] at hrun₁
    exact Run.eq_post hrun₁
  have hwaits : Waits (watch owed 0 (h₁ ++ (g₁ ++ [e']))) s := by
    refine Run.watched_invariant (Q := fun _ e => KeepsWaiting e.pre e.label) Waits
      ⟨h₀.2.2.1, fun _ => h₀.2.2.1⟩ (fun v e hI hQ hs => hI.step hQ hs) hrun₁ ?_
    exact watched_const.mpr fun e he => hok e (List.mem_append_left _ he)
  have hzero : watch owed 0 (h₁ ++ (g₁ ++ [e'])) = 0 := by
    rw [← hwaits.field]
    exact hwaits.off (hlast ▸ hoff)
  -- the request is the first message of that part
  obtain ⟨g, hcons⟩ : ∃ g, g₁ ++ [e'] = e :: g := by
    cases g₁ with
    | nil =>
      obtain ⟨rfl, -⟩ := List.cons.inj hg
      exact ⟨[], rfl⟩
    | cons x g₁ =>
      obtain ⟨rfl, -⟩ := List.cons.inj hg
      exact ⟨g₁ ++ [e'], rfl⟩
  rw [hcons] at hzero ⊢
  have hasked : (requested (watch owed 0 h₁) e.label).getLsbD b = true := by
    simp [hreq, requested, hbit]
  rcases owed_or_deletes hb hasked g with hstill | hdel
  · rw [watch, List.foldl_append] at hzero
    rw [watch, watch, hzero] at hstill
    simp at hstill
  · exact hdel

/-- Two requests while the engine is on, and the second one asks for what waits already: the
bit of the first one is passed with it when the engine is off. -/
theorem deletion_run_both :
    ∃ e₀ e₁ e₂ e₃ d, Run machine afterInit [e₀, e₁, e₂, e₃] d ∧ e₁.label = .delAidData 1 ∧
      e₂.label = .delAidData 3 ∧ e₃.post.engineStatus = engineOff ∧
      ∃ e ∈ [e₁, e₂, e₃], ∃ mask, Deletes e.out mask ∧ mask.getLsbD 0 = true := by
  obtain ⟨h, d, hrun, hl, hcheck⟩ := machine.exists_run afterInit
    [.reportStatus engineOn, .delAidData 1, .delAidData 3, .reportStatus engineOff]
    (fun h d => h.all (fun e => decide (KeepsWaiting e.pre e.label)) &&
      decide (d.engineStatus = engineOff)) (by decide +kernel)
  obtain ⟨hkeeps, hoff⟩ := Bool.and_eq_true_iff.mp hcheck
  obtain ⟨e₀, t, rfl, -, ht⟩ := List.map_eq_cons_iff.mp hl
  obtain ⟨e₁, t, rfl, h₁, ht⟩ := List.map_eq_cons_iff.mp ht
  obtain ⟨e₂, t, rfl, h₂, ht⟩ := List.map_eq_cons_iff.mp ht
  obtain ⟨e₃, t, rfl, -, ht⟩ := List.map_eq_cons_iff.mp ht
  obtain rfl := List.map_eq_nil_iff.mp ht
  have hpost : e₃.post.engineStatus = engineOff := by
    rw [← Run.eq_post (h := [e₀, e₁, e₂]) hrun]
    exact of_decide_eq_true hoff
  refine ⟨e₀, e₁, e₂, e₃, d, hrun, h₁, h₂, hpost, ?_⟩
  exact deletion_run ⟨rfl, rfl, rfl, rfl, rfl⟩ hrun
    (fun e he => of_decide_eq_true (List.all_eq_true.mp hkeeps e he))
    (show [e₀, e₁, e₂, e₃] = [e₀] ++ e₁ :: [e₂, e₃] from rfl) h₁ (by decide) (by decide)
    (show e₁ :: [e₂, e₃] = [e₁, e₂] ++ e₃ :: [] from rfl) (by rw [hpost]; decide)

/-- The second request overwrites the first, and the bit of the first is never passed. -/
theorem deletion_overwritten :
    ∃ e₀ e₁ e₂ e₃ d, Run machine afterInit [e₀, e₁, e₂, e₃] d ∧ e₁.label = .delAidData 1 ∧
      e₂.label = .delAidData 2 ∧ e₃.post.engineStatus = engineOff ∧
      ∀ e ∈ [e₁, e₂, e₃], ∀ mask, Deletes e.out mask → mask.getLsbD 0 = false := by
  obtain ⟨h, d, hrun, hl, hcheck⟩ := machine.exists_run afterInit
    [.reportStatus engineOn, .delAidData 1, .delAidData 2, .reportStatus engineOff]
    (fun h d => h.all (fun e => e.out.all fun o => decide (o ≠ .deleteAidingData 2 → o.isCallback))
      && decide (d.engineStatus = engineOff)) (by decide +kernel)
  obtain ⟨hmasks, hoff⟩ := Bool.and_eq_true_iff.mp hcheck
  obtain ⟨e₀, t, rfl, -, ht⟩ := List.map_eq_cons_iff.mp hl
  obtain ⟨e₁, t, rfl, h₁, ht⟩ := List.map_eq_cons_iff.mp ht
  obtain ⟨e₂, t, rfl, h₂, ht⟩ := List.map_eq_cons_iff.mp ht
  obtain ⟨e₃, t, rfl, -, ht⟩ := List.map_eq_cons_iff.mp ht
  obtain rfl := List.map_eq_nil_iff.mp ht
  refine ⟨e₀, e₁, e₂, e₃, d, hrun, h₁, h₂, ?_, fun e he mask hmem => ?_⟩
  · rw [← Run.eq_post (h := [e₀, e₁, e₂]) hrun]
    exact of_decide_eq_true hoff
  · have hout := List.all_eq_true.mp (List.all_eq_true.mp hmasks e (List.mem_cons_of_mem _ he))
      _ hmem
    by_cases heq : mask = 2
    · rw [heq]
      rfl
    · exact absurd (of_decide_eq_true hout fun h => heq (Out.deleteAidingData.inj h))
        Bool.false_ne_true

end OppoA37.LocEng
