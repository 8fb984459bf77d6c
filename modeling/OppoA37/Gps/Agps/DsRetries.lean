import OppoA37.Gps.Agps.DsReleased

/-!
# Does every attempt get its retries?

A busy servicer is asked again after a while, `MAX_START_DATA_CALL_RETRIES` times at
most. `mRetries` counts the busy answers. Only a denial sets it back to zero, so what it
counts is the busy answers since the last denial (`Counts`), and an attempt that ends
in another way leaves its busy answers to the next one.

* `next` — the monitor: the attempt that is under way in released, with the retries it
  was given and the connections that want it, and the busy answers since a denial;
* `Retried` — an attempt begins with `mRetries` at zero, and is denied for a busy
  servicer after the last of its retries, not before;
* `retried_iff` — this holds of exactly the runs in which every new attempt finds no
  busy answer since the last denial.
-/

namespace OppoA37.Agps

open Lts

/-! ## What virtual calls keep, events keep -/

namespace AgpsStateMachine

variable {σ W : Type} [SubscriberOps σ] {vt : Virtuals σ W} {I : W → Prop}

/-- The world is changed by virtual calls only. -/
structure KeptByVirtuals (vt : Virtuals σ W) (I : W → Prop) : Prop where
  /-- telling a subscriber a status keeps `I` -/
  inform : ∀ sm s status w, I w → I (vt.inform sm s status w)
  /-- and so does setting it inactive -/
  informInactive : ∀ s w, I w → I (vt.informInactive s w)
  /-- and so does a request -/
  sendRsrcRequest : ∀ sm action, I sm.world → I (vt.sendRsrcRequest sm action).2

namespace KeptByVirtuals

variable (hI : KeptByVirtuals vt I) {sm : AgpsStateMachine σ W}
include hI

/-- One subscriber that decides whether to tell its client. -/
theorem notifyRsrcStatus (n : Notification σ) (s : σ) (sm' : AgpsStateMachine σ W) {w : W}
    (h : I w) : I (Agps.notifyRsrcStatus (vt.inform sm') n s w).2 := by
  unfold Agps.notifyRsrcStatus
  split
  · exact hI.inform sm' s n.rsrcStatus w h
  · exact h

/-- A notification that is told. -/
theorem notifySubscribers {n : Notification σ} (htold : n.rsrcStatus.isTold = true)
    (h : I sm.world) : I (sm.notifySubscribers vt n).world := by
  rw [world_notifySubscribers vt sm n htold]
  generalize sm.world = w at h ⊢
  induction sm.mSubscribers.filter (forMe n) generalizing w with
  | nil => exact h
  | cons s l ih => exact ih _ (hI.inform sm s n.rsrcStatus w h)

omit [SubscriberOps σ] in
/-- A request. -/
theorem request (action : AGpsStatusValue) (h : I sm.world) : I (sm.request vt action).2.world :=
  hI.sendRsrcRequest sm action h

omit hI in
/-- Adding a subscriber leaves the world alone. -/
theorem addSubscriber (s : σ) (h : I sm.world) : I (sm.addSubscriber s).world := by
  rcases addSubscriber_cases sm s with ⟨-, he⟩ | ⟨-, he⟩ <;> rw [he] <;> exact h

/-- Closing a listed subscriber. -/
theorem closeSubscriber (position : ℕ) (h : I sm.world) :
    I (sm.closeSubscriber vt position).world := by
  unfold AgpsStateMachine.closeSubscriber
  rcases sm.mSubscribers[position]? with _ | s
  · exact h
  · simp only
    split
    · exact hI.informInactive s sm.world h
    · exact hI.notifySubscribers rfl h

/-- Releasing the resource when nobody uses it. -/
theorem releaseIfUnused (this : AgpsState) (h : I sm.world) :
    I (sm.releaseIfUnused vt this).2.world := by
  unfold AgpsStateMachine.releaseIfUnused
  split
  · exact hI.request _ h
  · split
    · exact hI.request _ h
    · exact h

/-- The close of the releasing state. -/
theorem closeComplete {event : AgpsRsrcStatus} (htold : event.isTold = true) (h : I sm.world) :
    I (sm.closeComplete vt event).2.world := by
  have hsm' : I (sm.notifySubscribers vt (.broadcast .broadcastInactive event true)).world :=
    hI.notifySubscribers htold h
  unfold AgpsStateMachine.closeComplete
  simp only
  split
  · exact hI.request _ hsm'
  · exact hsm'

/-- Every event of a state object keeps `I`. -/
theorem dispatch (event : RsrcEvent σ) (h : I sm.world) : I (sm.dispatch vt event).world := by
  unfold AgpsStateMachine.dispatch
  rcases sm.mStatePtr with _ | _ | _ | _
  · -- released
    cases event with
    | rsrcSubscribe s => exact hI.request _ (addSubscriber s h)
    | rsrcUnsubscribe position =>
      simp only [releasedOnRsrcEvent]
      split
      · exact h
      · exact hI.notifyRsrcStatus _ _ sm h
    | rsrcGranted | rsrcReleased | rsrcDenied => exact h
  · -- pending
    cases event with
    | rsrcSubscribe s => exact addSubscriber s h
    | rsrcUnsubscribe position => exact hI.releaseIfUnused _ (hI.closeSubscriber position h)
    | rsrcGranted | rsrcDenied => exact hI.notifySubscribers rfl h
    | rsrcReleased => exact h
  · -- acquired
    cases event with
    | rsrcSubscribe s =>
      simp only [acquiredOnRsrcEvent]
      apply addSubscriber s
      exact hI.notifyRsrcStatus _ s sm h
    | rsrcUnsubscribe position => exact hI.releaseIfUnused _ (hI.closeSubscriber position h)
    | rsrcGranted | rsrcDenied => exact h
    | rsrcReleased => exact hI.notifySubscribers rfl h
  · -- releasing
    cases event with
    | rsrcSubscribe s => exact addSubscriber s h
    | rsrcUnsubscribe position => exact hI.closeSubscriber position h
    | rsrcGranted => exact h
    | rsrcReleased | rsrcDenied => exact hI.closeComplete rfl h

end KeptByVirtuals

end AgpsStateMachine

/-! ## What `mRetries` counts -/

/-- The busy answers since the last denial, after one more call of the machine. -/
def countBusy (n : ℕ) : DsOutput → ℕ
  | .dataCallCb .gpsRequestAgpsDataConn ret => if ret = errEngineBusy then n + 1 else n
  | .informStatus .rsrcDenied _ => 0
  | _ => n

namespace DSStateMachine

/-- The counter of a machine that began with `n`: it counts the busy answers since the last
denial, and never gets past the maximum. -/
structure Counts (n : ℕ) (w : DsWorld) : Prop where
  eq : w.mRetries.toNat = w.out.foldl countBusy n
  le : w.mRetries.toNat ≤ maxStartDataCallRetries.toNat

variable {n : ℕ} {w : DsWorld}

/-- Telling a connection a status. -/
theorem Counts.informStatus (h : Counts n w) (status : AgpsRsrcStatus) (ID : UInt32) :
    Counts n (informStatus status ID w) := by
  have hout : (DSStateMachine.informStatus status ID w).out =
      w.out ++ .informStatus status ID :: adapterCalls ID status := rfl
  cases status with
  | rsrcDenied => exact ⟨by rw [hout, List.foldl_append]; rfl, Nat.zero_le _⟩
  | rsrcSubscribe | rsrcUnsubscribe | rsrcGranted | rsrcReleased | rsrcStatusMax =>
    refine ⟨?_, h.le⟩
    rw [hout, List.foldl_append, ← h.eq]
    rfl

/-- A request: a busy answer is counted, and the one past the maximum is a denial. -/
theorem Counts.sendRsrcRequest {env : DsEnv} {sm : DSStateMachine} (h : Counts n sm.world)
    (action : AGpsStatusValue) : Counts n (sendRsrcRequest env sm action).2 := by
  -- the machine with the call noted
  have hcalled {ret : ℤ} (hret : ret ≠ errEngineBusy) :
      Counts n { sm.world with out := sm.world.out ++ [.dataCallCb action ret] } := by
    refine ⟨?_, h.le⟩
    rw [List.foldl_append, ← h.eq]
    cases action <;> simp [countBusy, hret]
  unfold DSStateMachine.sendRsrcRequest
  simp only
  split
  · next hbusy =>
    -- only a request to start is answered with busy
    have haction : action = .gpsRequestAgpsDataConn := by
      cases action with
      | gpsRequestAgpsDataConn => rfl
      | gpsReleaseAgpsDataConn => exact absurd hbusy (by simp [dataCallCb, errEngineBusy])
    have hsucc : (sm.world.mRetries + 1).toNat = sm.world.mRetries.toNat + 1 := by
      have hle : sm.world.mRetries.toNat ≤ 4 := h.le
      rw [UInt8.toNat_add]
      exact Nat.mod_eq_of_lt (by simp; omega)
    have heq : (sm.world.mRetries + 1).toNat = (sm.world.out ++
        [DsOutput.dataCallCb action (dataCallCb env action)]).foldl countBusy n := by
      rw [hsucc, h.eq, List.foldl_append, hbusy, haction]
      simp [countBusy]
    split
    · exact ⟨by rw [DSStateMachine.informStatus, List.foldl_append]; rfl, Nat.zero_le _⟩
    · next hmax =>
      have hle : (sm.world.mRetries + 1).toNat ≤ maxStartDataCallRetries.toNat :=
        UInt8.le_iff_toNat_le.mp (UInt8.not_lt.mp hmax)
      split
      · exact ⟨heq, hle⟩
      · exact ⟨heq, hle⟩
  · next hbusy =>
    split
    · exact (hcalled hbusy).informStatus _ _
    · split
      · exact hcalled hbusy
      · split
        · exact (hcalled hbusy).informStatus _ _
        · exact hcalled hbusy

/-- All virtual calls keep the count. -/
theorem Counts.kept (env : DsEnv) (n : ℕ) :
    AgpsStateMachine.KeptByVirtuals (virtuals env) (Counts n) where
  inform _ s status _ h := h.informStatus status s.ID
  informInactive s _ h := h.informStatus .rsrcUnsubscribe s.ID
  sendRsrcRequest _ action h := h.sendRsrcRequest action

/-- A call of the machine keeps the count. -/
theorem Counts.call {sm : DSStateMachine} (env : DsEnv) (c : DsCall) (h : Counts n sm.world) :
    Counts n (sm.call env c).world := by
  have hkept := Counts.kept env n
  cases c with
  | requestSuplEs ID =>
    simp only [DSStateMachine.call, AgpsStateMachine.subscribeRsrc]
    split
    · exact hkept.notifyRsrcStatus _ _ sm h
    · exact hkept.dispatch _ h
  | releaseATL ID =>
    simp only [DSStateMachine.call, AgpsStateMachine.unsubscribeRsrc]
    split
    · exact hkept.dispatch _ h
    · exact h
  | suplEsOpened => exact hkept.dispatch _ h
  | suplEsClosed =>
    simp only [DSStateMachine.call, onRsrcEvent]
    split
    · exact hkept.dispatch _ h
    · exact hkept.dispatch _ (hkept.dispatch _ h)

end DSStateMachine

namespace DsNif

/-! ## Attempts -/

/-- An attempt to start the data call that waits for its next retry. -/
structure Attempt where
  /-- the retries it was given so far -/
  retries : ℕ
  /-- the connections that asked for the data call and did not unsubscribe -/
  wanting : List UInt32

/-- What the monitor knows. -/
structure Seen where
  /-- the attempt that is under way in released -/
  attempt : Option Attempt
  /-- the busy answers since the last denial -/
  busy : ℕ

/-- Before the first step. -/
def Seen.none : Seen := ⟨Option.none, 0⟩

/-- The connection that a step subscribes in released. -/
def asks (d : DsNif) (l : DsLabel) : Option UInt32 :=
  if d.sm.mStatePtr = .released then subscribes d l else none

/-- A retry was scheduled in a step. -/
def Scheduled (e : Event DsNif DsLabel DsOutput) : Prop :=
  e.post.sm.world.timers = e.pre.sm.world.timers + 1

instance (e : Event DsNif DsLabel DsOutput) : Decidable (Scheduled e) :=
  inferInstanceAs (Decidable (_ = _))

/-- A connection asks for the data call in released: it begins an attempt or takes part in
the one that is under way, and the attempt goes on if the servicer is busy and a retry
was scheduled. -/
def afterStart (ID : UInt32) (a : Option Attempt) (e : Event DsNif DsLabel DsOutput) :
    Option Attempt :=
  if e.label.env.start = .engineBusy ∧ Scheduled e then
    match a with
    | none => some ⟨1, [ID]⟩
    | some a => some ⟨a.retries + 1, ID :: a.wanting⟩
  else none

/-- A connection unsubscribes: without anybody who wants it the attempt is abandoned. -/
def afterRelease (ID : UInt32) (a : Option Attempt) : Option Attempt :=
  a.bind fun a =>
    let wanting := a.wanting.filter (· ≠ ID)
    if wanting = [] then none else some { a with wanting := wanting }

/-- The attempt after a step. -/
def attemptAfter (a : Option Attempt) (e : Event DsNif DsLabel DsOutput) : Option Attempt :=
  match asks e.pre e.label with
  | some ID => afterStart ID a e
  | none =>
    match unsubscribes e.label.msg with
    | some ID => afterRelease ID a
    | none => a

/-- The monitor. -/
def next (v : Seen) (e : Event DsNif DsLabel DsOutput) : Seen :=
  ⟨attemptAfter v.attempt e, e.out.foldl countBusy v.busy⟩

/-- The retries that the attempt under way was given. -/
def Seen.retries (v : Seen) : ℕ := (v.attempt.map Attempt.retries).getD 0

/-- A connection was told to fall back to normal ATL. -/
def Denied (e : Event DsNif DsLabel DsOutput) : Prop :=
  ∃ ID, .informStatus .rsrcDenied ID ∈ e.out

/-- A start in released gets what the attempt is entitled to. -/
structure Retried (v : Seen) (e : Event DsNif DsLabel DsOutput) : Prop where
  /-- a new attempt begins with the counter at zero -/
  afresh : (asks e.pre e.label).isSome → v.attempt.isNone → e.pre.sm.world.mRetries = 0
  /-- no attempt is retried more often than the maximum -/
  atMost : (asks e.pre e.label).isSome →
    v.retries ≤ DSStateMachine.maxStartDataCallRetries.toNat
  /-- for a busy servicer it is denied after the last retry, and not before -/
  denied : (asks e.pre e.label).isSome → e.label.env.start = .engineBusy →
    (Denied e ↔ v.retries = DSStateMachine.maxStartDataCallRetries.toNat)
  /-- before, it is retried if a timer can be started -/
  retried : (asks e.pre e.label).isSome → e.label.env.start = .engineBusy →
    v.retries < DSStateMachine.maxStartDataCallRetries.toNat → e.label.env.timer = true →
    Scheduled e

/-- A new attempt finds no busy answer since the last denial. -/
def BeginsUnspent (v : Seen) (e : Event DsNif DsLabel DsOutput) : Prop :=
  (asks e.pre e.label).isSome → v.attempt.isNone → v.busy = 0

instance (v : Seen) (e : Event DsNif DsLabel DsOutput) : Decidable (BeginsUnspent v e) :=
  inferInstanceAs (Decidable (_ → _ → _))

/-- The invariant: the counter counts the busy answers, and all of them were answers to the
attempt that is under way, if one is. -/
structure Spent (v : Seen) (d : DsNif) : Prop where
  single : d.sm.mEnforceSingleSubscriber = false
  counts : d.sm.world.mRetries.toNat = v.busy
  le : v.busy ≤ DSStateMachine.maxStartDataCallRetries.toNat
  attempt : ∀ a, v.attempt = some a → a.retries = v.busy
  released : v.attempt.isSome → d.sm.mStatePtr = .released

theorem spent_init : Spent .none init := ⟨rfl, rfl, Nat.zero_le _, nofun, nofun⟩

/-! ## One step -/

variable {v : Seen} {e : Event DsNif DsLabel DsOutput}

/-- The counter after a step counts on. -/
theorem counts_step (hI : Spent v e.pre) (hs : machine.step e.pre e.label = some (e.post, e.out)) :
    e.post.sm.world.mRetries.toNat = e.out.foldl countBusy v.busy ∧
      e.out.foldl countBusy v.busy ≤ DSStateMachine.maxStartDataCallRetries.toNat := by
  have hcalled (d : DsNif) (c : DsCall) (hd : d.sm.world.mRetries = e.pre.sm.world.mRetries)
      (hc : d.called e.label.env c = (e.post, e.out)) :
      e.post.sm.world.mRetries.toNat = e.out.foldl countBusy v.busy ∧
        e.out.foldl countBusy v.busy ≤ DSStateMachine.maxStartDataCallRetries.toNat := by
    have hquiet : DSStateMachine.Counts v.busy d.sm.quiet.world := by
      refine ⟨?_, ?_⟩
      · exact (congrArg UInt8.toNat hd).trans hI.counts
      · exact ((congrArg UInt8.toNat hd).trans hI.counts).trans_le hI.le
    have hcount := hquiet.call e.label.env c
    obtain ⟨hpost, hout⟩ := Prod.mk.inj hc
    have hretries : e.post.sm.world.mRetries =
        (d.sm.quiet.call e.label.env c).world.mRetries := by rw [← hpost]; rfl
    rw [hretries, ← hout]
    exact ⟨hcount.eq, hcount.eq ▸ hcount.le⟩
  rcases hm : e.label.msg with c | _ | _
  · simp only [machine, hm, Option.some.injEq] at hs
    exact hcalled e.pre c rfl hs
  · simp only [machine, hm] at hs
    split at hs
    · cases hs
    · obtain ⟨hpost, hout⟩ := Prod.mk.inj (Option.some.inj hs)
      rw [← hpost, ← hout]
      exact ⟨hI.counts, hI.le⟩
  · simp only [machine, hm] at hs
    rcases hq : e.pre.queued with _ | ⟨ID, rest⟩ <;> rw [hq] at hs
    · cases hs
    · exact hcalled { e.pre with queued := rest } _ rfl (Option.some.inj hs)

/-- Only the notes of a step matter to the count. -/
theorem foldl_countBusy (out : List DsOutput) (n : ℕ) :
    out.foldl countBusy n = (notes out).foldl countBusy n := by
  induction out generalizing n with
  | nil => rfl
  | cons o out ih =>
    rw [List.foldl_cons, ih]
    rcases o with ⟨_ | _, _⟩ | ⟨_ | _ | _ | _ | _ | _, _⟩ | _ | _ | _ | _ <;> rfl

/-- A step in released that asks for nothing changes nothing that matters. -/
theorem released_of_not_asks (hsingle : e.pre.sm.mEnforceSingleSubscriber = false)
    (hs : machine.step e.pre e.label = some (e.post, e.out))
    (hst : e.pre.sm.mStatePtr = .released) (hno : asks e.pre e.label = none) :
    e.post.sm.mStatePtr = .released ∧ notes e.out = [] := by
  rcases step_cases hsingle hs with ⟨c, hc, hmove, -⟩ | ⟨-, -, hst', -, -, -, hout⟩
  swap
  · exact ⟨hst'.trans hst, by rw [hout]; rfl⟩
  rw [Moves] at hmove
  generalize e.post.sm.mStatePtr = state at hmove ⊢
  generalize e.post.sm.mSubscribers = subs at hmove
  generalize e.post.sm.world.timers = timers at hmove
  generalize notes e.out = out at hmove ⊢
  cases hmove with
  | started => simp [asks, hst, subscribes, hc] at hno
  | ignored hst₀ hign => exact ⟨hst₀.symm.trans hst, rfl⟩
  | joined hst₀ hne | marked hst₀ hne => exact absurd (hst₀.symm.trans hst) hne
  | granted hst₀ | closed hst₀ | reopened hst₀ =>
    rw [hst] at hst₀
    cases hst₀
  | markedLast hst₀ => rcases hst₀ with h | h <;> rw [hst] at h <;> cases h
  | ended hst₀ => rcases hst₀ with ⟨h, -⟩ | ⟨h, -⟩ <;> rw [hst] at h <;> cases h

/-- A start in released, by its outcome. -/
theorem asked (hsingle : e.pre.sm.mEnforceSingleSubscriber = false)
    (hs : machine.step e.pre e.label = some (e.post, e.out)) {ID : UInt32}
    (hasks : asks e.pre e.label = some ID) :
    let outcome := DSStateMachine.startOutcome e.label.env e.pre.sm.world.mRetries
    (Scheduled e ↔ outcome = .retried) ∧ (Denied e ↔ outcome = .refused) ∧
      (outcome = .retried → e.post.sm.mStatePtr = .released ∧
        notes e.out = [.dataCallCb .gpsRequestAgpsDataConn e.label.env.start.value]) := by
  have hst : e.pre.sm.mStatePtr = .released := by
    by_contra hne
    simp [asks, hne] at hasks
  have hsub : subscribes e.pre e.label = some ID := by simpa [asks, hst] using hasks
  rcases step_cases hsingle hs with ⟨c, hc, hmove, -⟩ | ⟨hm, -⟩
  swap
  · simp [subscribes, callOf, hm] at hsub
  obtain rfl : c = .requestSuplEs ID := by
    rw [subscribes, hc] at hsub
    cases c with
    | requestSuplEs ID' => exact congrArg _ (Option.some.inj hsub)
    | releaseATL _ | suplEsOpened | suplEsClosed => cases hsub
  obtain ⟨hstate, -, htimers, hnotes⟩ := started_inv hst hmove
  refine ⟨?_, ?_, fun hretried => ⟨by rw [hstate, hretried]; rfl, ?_⟩⟩
  · rw [Scheduled, htimers]
    split <;> simp_all
  · have hmem (ID : UInt32) : .informStatus .rsrcDenied ID ∈ e.out ↔
        .informStatus .rsrcDenied ID ∈ notes e.out := (mem_notes rfl).symm
    simp only [Denied, hmem, hnotes]
    constructor
    · rintro ⟨ID', hID'⟩
      by_contra hne
      exact not_denied_of_startNotes hne ID' hID'
    · exact fun hrefused => ⟨_, denied_of_startNotes hrefused⟩
  · have hne : StartOutcome.retried ≠ StartOutcome.refused := by decide
    rw [hnotes, DSStateMachine.startNotes, hretried, if_neg hne]

/-- What becomes of a start that finds the servicer busy. -/
theorem startOutcome_busy {env : DsEnv} {mRetries : UInt8} (hbusy : env.start = .engineBusy)
    (hle : mRetries.toNat ≤ DSStateMachine.maxStartDataCallRetries.toNat) :
    (DSStateMachine.startOutcome env mRetries = .refused ↔
      mRetries.toNat = DSStateMachine.maxStartDataCallRetries.toNat) ∧
    (DSStateMachine.startOutcome env mRetries = .retried ↔
      mRetries.toNat ≠ DSStateMachine.maxStartDataCallRetries.toNat ∧ env.timer = true) := by
  have hle' : mRetries.toNat ≤ 4 := hle
  have hmax : mRetries + 1 > DSStateMachine.maxStartDataCallRetries ↔
      mRetries.toNat = DSStateMachine.maxStartDataCallRetries.toNat := by
    have hsucc : (mRetries + 1).toNat = mRetries.toNat + 1 := by
      rw [UInt8.toNat_add]
      exact Nat.mod_eq_of_lt (by simp; omega)
    rw [gt_iff_lt, UInt8.lt_iff_toNat_lt, hsucc]
    change 4 < mRetries.toNat + 1 ↔ mRetries.toNat = 4
    omega
  simp only [DSStateMachine.startOutcome, hbusy]
  by_cases h : mRetries + 1 > DSStateMachine.maxStartDataCallRetries
  · simp [h, hmax.mp h]
  · rw [if_neg h]
    rcases env.timer <;> simp [mt hmax.mpr h]

/-- A new attempt that is unspent has the whole counter to itself. -/
theorem Spent.retries_eq (hI : Spent v e.pre) (hok : BeginsUnspent v e)
    (hasks : (asks e.pre e.label).isSome) : v.retries = v.busy := by
  rcases ha : v.attempt with _ | a
  · rw [Seen.retries, ha, hok hasks (by rw [ha]; rfl)]
    rfl
  · rw [Seen.retries, ha]
    exact hI.attempt a ha

/-- An attempt that is under way after a step that asks for nothing was so before. -/
theorem attempt_of_not_asks (hno : asks e.pre e.label = none) {a : Attempt}
    (ha : attemptAfter v.attempt e = some a) :
    ∃ a₀, v.attempt = some a₀ ∧ a.retries = a₀.retries := by
  simp only [attemptAfter, hno] at ha
  split at ha
  · rw [afterRelease, Option.bind_eq_some_iff] at ha
    obtain ⟨a₀, ha₀, ha⟩ := ha
    simp only at ha
    split at ha
    · cases ha
    · rw [← Option.some.inj ha]
      exact ⟨a₀, ha₀, rfl⟩
  · exact ⟨a, ha, rfl⟩

/-- An attempt that is under way after a start was given one more retry. -/
theorem attempt_of_asks {ID : UInt32} (hasks : asks e.pre e.label = some ID) {a : Attempt}
    (ha : attemptAfter v.attempt e = some a) :
    e.label.env.start = .engineBusy ∧ Scheduled e ∧ a.retries = v.retries + 1 := by
  simp only [attemptAfter, hasks, afterStart] at ha
  split at ha
  · next hbusy =>
    refine ⟨hbusy.1, hbusy.2, ?_⟩
    rcases hv : v.attempt with _ | a₀
    · rw [hv] at ha
      rw [← Option.some.inj ha, Seen.retries, hv]
      rfl
    · rw [hv] at ha
      rw [← Option.some.inj ha, Seen.retries, hv]
      rfl
  · cases ha

/-- A step that asks for nothing keeps the invariant. -/
theorem Spent.step_quiet (hI : Spent v e.pre) (hno : asks e.pre e.label = none)
    (hs : machine.step e.pre e.label = some (e.post, e.out)) : Spent (next v e) e.post := by
  obtain ⟨hcount, hle⟩ := counts_step hI hs
  refine ⟨single_step hI.single hs, hcount, hle, ?_, ?_⟩
  · intro a ha
    obtain ⟨a₀, ha₀, hretries⟩ := attempt_of_not_asks hno ha
    have hst := hI.released (by rw [ha₀]; rfl)
    rw [hretries, hI.attempt a₀ ha₀, next, foldl_countBusy,
      (released_of_not_asks hI.single hs hst hno).2]
    rfl
  · intro hsome
    obtain ⟨a, ha⟩ := Option.isSome_iff_exists.mp hsome
    obtain ⟨a₀, ha₀, -⟩ := attempt_of_not_asks hno ha
    have hst := hI.released (by rw [ha₀]; rfl)
    exact (released_of_not_asks hI.single hs hst hno).1

/-- A start that meets the condition keeps the invariant. -/
theorem Spent.step_asks (hI : Spent v e.pre) (hok : BeginsUnspent v e) {ID : UInt32}
    (hasks : asks e.pre e.label = some ID)
    (hs : machine.step e.pre e.label = some (e.post, e.out)) : Spent (next v e) e.post := by
  obtain ⟨hcount, hle⟩ := counts_step hI hs
  obtain ⟨hscheduled, -, hretried⟩ := asked hI.single hs hasks
  refine ⟨single_step hI.single hs, hcount, hle, ?_, ?_⟩
  · intro a ha
    obtain ⟨hbusy, hsch, hretries⟩ := attempt_of_asks hasks ha
    obtain ⟨-, hnotes⟩ := hretried (hscheduled.mp hsch)
    rw [hretries, hI.retries_eq hok (by rw [hasks]; rfl), next, foldl_countBusy, hnotes, hbusy]
    rfl
  · intro hsome
    obtain ⟨a, ha⟩ := Option.isSome_iff_exists.mp hsome
    obtain ⟨-, hsch, -⟩ := attempt_of_asks hasks ha
    exact (hretried (hscheduled.mp hsch)).1

/-- A start that meets the condition gets what the attempt is entitled to. -/
theorem Spent.retried (hI : Spent v e.pre) (hok : BeginsUnspent v e)
    (hs : machine.step e.pre e.label = some (e.post, e.out)) : Retried v e := by
  have hmRetries : e.pre.sm.world.mRetries.toNat ≤
      DSStateMachine.maxStartDataCallRetries.toNat := hI.counts.trans_le hI.le
  have hretries (hasks : (asks e.pre e.label).isSome) :
      v.retries = e.pre.sm.world.mRetries.toNat :=
    (hI.retries_eq hok hasks).trans hI.counts.symm
  refine ⟨fun hasks hnone => ?_, fun hasks => ?_, fun hasks hbusy => ?_,
    fun hasks hbusy hlt htimer => ?_⟩
  · rw [← UInt8.toNat_inj, hI.counts, hok hasks hnone]
    rfl
  · rw [hretries hasks]
    exact hmRetries
  · obtain ⟨ID, hID⟩ := Option.isSome_iff_exists.mp hasks
    obtain ⟨-, hdenied, -⟩ := asked hI.single hs hID
    rw [hdenied, (startOutcome_busy hbusy hmRetries).1, hretries hasks]
  · obtain ⟨ID, hID⟩ := Option.isSome_iff_exists.mp hasks
    obtain ⟨hscheduled, -⟩ := asked hI.single hs hID
    rw [hretries hasks] at hlt
    exact hscheduled.mpr ((startOutcome_busy hbusy hmRetries).2.mpr ⟨hlt.ne, htimer⟩)

/-- **One step.** A step that meets the condition keeps the invariant and gives the attempt
what it is entitled to. -/
theorem Spent.step (hI : Spent v e.pre) (hok : BeginsUnspent v e)
    (hs : machine.step e.pre e.label = some (e.post, e.out)) :
    Spent (next v e) e.post ∧ Retried v e := by
  refine ⟨?_, hI.retried hok hs⟩
  rcases hasks : asks e.pre e.label with _ | ID
  · exact hI.step_quiet hasks hs
  · exact hI.step_asks hok hasks hs

/-- A new attempt that is not unspent begins with the counter above zero. -/
theorem not_retried_of_spent (hI : Spent v e.pre) (hno : ¬ BeginsUnspent v e) : ¬ Retried v e := by
  intro hretried
  apply hno
  intro hasks hnone
  rw [← hI.counts, hretried.afresh hasks hnone]
  rfl

/-! ## Whole runs -/

/-- **Which attempts get their retries.** Whatever the servicer answers and whenever timers
expire: every attempt of a run begins with the counter at zero, and is denied for a busy
servicer after the maximum of retries and not before, exactly when every new attempt
finds no busy answer since the last denial. -/
theorem retried_iff {h : List (Event DsNif DsLabel DsOutput)} {d : DsNif}
    (hrun : Run machine init h d) :
    Watched next .none BeginsUnspent h ↔ Watched next .none Retried h := by
  refine Run.watched_congr Spent (fun _ _ => True) spent_init ?_ ?_ hrun fun _ _ => trivial
  · exact fun v e hI _ hok hs => hI.step hok hs
  · exact fun v e hI _ hno _ => not_retried_of_spent hI hno

/-! ## Two runs -/

/-- A message while the servicer is busy and timers can be started. -/
def busy (m : DsMsg) : DsLabel := ⟨m, ⟨.engineBusy, true⟩⟩

/-- A busy servicer that never recovers: four retries, then the connection falls back. -/
theorem retried_four_times :
    ∃ h d, Run machine init h d ∧ h.length = 9 ∧ Watched next .none Retried h := by
  obtain ⟨h, d, hrun, -, hcheck⟩ := machine.exists_run init
    (busy (.call (.requestSuplEs 1)) ::
      (List.replicate 4 [busy .delayCallback, busy .retry]).flatten)
    (fun h _ => decide (h.length = 9) && checkWatched next
      (fun v e => decide (BeginsUnspent v e)) .none h)
    (by decide)
  obtain ⟨hlen, hok⟩ := Bool.and_eq_true_iff.mp hcheck
  refine ⟨h, d, hrun, of_decide_eq_true hlen, (retried_iff hrun).mp ?_⟩
  exact (watched_of_check hok).mono fun e _ v hv => of_decide_eq_true hv

/-- An attempt that succeeds at its first retry leaves one busy answer to the next attempt,
which is given three retries and not four. -/
theorem not_retried_after_success : ¬ ∀ (h : List (Event DsNif DsLabel DsOutput)) (d : DsNif),
    Run machine init h d → Watched next .none Retried h := by
  intro hall
  obtain ⟨h, e, hrun, -, -, hcheck⟩ := machine.exists_run_last init
    ([busy (.call (.requestSuplEs 1)), busy .delayCallback, ⟨.retry, ⟨.success, true⟩⟩,
      busy (.call .suplEsOpened), busy (.call (.releaseATL 1)), busy (.call .suplEsClosed),
      busy (.call (.requestSuplEs 1))] ++
      (List.replicate 2 [busy .delayCallback, busy .retry]).flatten ++ [busy .delayCallback])
    (busy .retry)
    (fun h e => decide ((asks e.pre e.label).isSome ∧ e.label.env = ⟨.engineBusy, true⟩ ∧
      (watch next .none h).retries = 3 ∧ ¬ Scheduled e)) (by decide)
  obtain ⟨hasks, henv, hthree, hno⟩ := of_decide_eq_true hcheck
  have hretried := hall _ _ hrun h e [] rfl
  apply hno
  exact hretried.retried hasks (by rw [henv]) (by rw [hthree]; decide) (by rw [henv])

end DsNif

end OppoA37.Agps
