import OppoA37.Gps.Agps.Subscriber

/-!
# The AGPS state machine

`AgpsStateMachine` of `loc_eng_agps.cpp`, generic in the type `σ` of its
subscribers and in the world `W` its virtual calls act on. The base machine and
`DSStateMachine` share everything in this module; what they override
(`sendRsrcRequest`, the effect of telling a subscriber something) comes in as
`Virtuals`.

The world is everything outside the subscriber list and the state pointer: the
callbacks made so far, the retry counter of a `DSStateMachine`. A virtual call
reads the machine and changes its world only, so the model has no re-entrance.
-/

namespace OppoA37.Agps

/-- The four state objects of a machine. -/
inductive AgpsState where
  | released
  | pending
  | acquired
  | releasing
  deriving DecidableEq, Repr

/-- The two requests a machine makes of connectivity: `GPS_REQUEST_AGPS_DATA_CONN`
and `GPS_RELEASE_AGPS_DATA_CONN`. -/
inductive AGpsStatusValue where
  | gpsRequestAgpsDataConn
  | gpsReleaseAgpsDataConn
  deriving DecidableEq, Repr

/-- `AGPS_TYPE_INVALID` -/
def agpsTypeInvalid : ℤ := -1

/-- `AGPS_APN_BEARER_INVALID` -/
def agpsApnBearerInvalid : ℤ := -1

/-- A state machine: one NIF and the clients that want it. -/
structure AgpsStateMachine (σ W : Type) where
  /-- the linked list of subscribers, head first -/
  mSubscribers : List σ
  /-- the current state -/
  mStatePtr : AgpsState
  /-- NIF type -/
  mType : ℤ
  /-- the active APN of the NIF, `none` for `NULL` -/
  mAPN : Option CString
  mBearer : ℤ
  mEnforceSingleSubscriber : Bool
  /-- what the virtual calls act on -/
  world : W

/-- An event of a state object with its `data`: the caller's subscriber, or the
position of the listed one. -/
inductive RsrcEvent (σ : Type) where
  | rsrcSubscribe (subscriber : σ)
  | rsrcUnsubscribe (position : ℕ)
  | rsrcGranted
  | rsrcReleased
  | rsrcDenied

/-- The virtual functions that the derived classes fill in. -/
structure Virtuals (σ W : Type) where
  /-- the effect of telling a subscriber a status -/
  inform : AgpsStateMachine σ W → σ → AgpsRsrcStatus → W → W
  /-- the effect of `setInactive` beyond the object -/
  informInactive : σ → W → W
  /-- `sendRsrcRequest` -/
  sendRsrcRequest : AgpsStateMachine σ W → AGpsStatusValue → ℤ × W

namespace AgpsStateMachine

variable {σ W : Type} [SubscriberOps σ]

/-! ## The subscriber list -/

/-- A search with `hasSubscriber`: the first subscriber a notification is for. -/
def search (notification : Notification σ) (list : List σ) : Option (ℕ × σ) :=
  (linkedListSearch (fun s1 (w : Unit) => (forMe notification s1, w)) false list ()).dataP

theorem search_eq_none {n : Notification σ} {l : List σ} :
    search n l = none ↔ ∀ s ∈ l, forMe n s = false :=
  linkedListSearch_dataP_eq_none (p := forMe n) (fun _ _ => rfl) false l ()

theorem search_eq_some {n : Notification σ} {l : List σ} {i : ℕ} {s : σ}
    (h : search n l = some (i, s)) : l[i]? = some s ∧ forMe n s = true :=
  linkedListSearch_dataP_eq_some (p := forMe n) (fun _ _ => rfl) false l () h

/-- A search succeeds iff the notification is for someone. -/
theorem search_isSome {n : Notification σ} {l : List σ} :
    (search n l).isSome = true ↔ ∃ s ∈ l, forMe n s = true := by
  rw [← Option.not_isNone, Bool.not_eq_true', ← Bool.not_eq_true, Option.isNone_iff_eq_none,
    search_eq_none]
  simp

/-- `hasSubscribers` -/
def hasSubscribers (sm : AgpsStateMachine σ W) : Bool := !linkedListEmpty sm.mSubscribers

/-- `hasActiveSubscribers` -/
def hasActiveSubscribers (sm : AgpsStateMachine σ W) : Bool :=
  (search (.pattern .broadcastActive) sm.mSubscribers).isSome

omit [SubscriberOps σ] in
theorem hasSubscribers_iff {sm : AgpsStateMachine σ W} :
    sm.hasSubscribers = true ↔ sm.mSubscribers ≠ [] := by
  simp [hasSubscribers, linkedListEmpty]

theorem hasActiveSubscribers_iff {sm : AgpsStateMachine σ W} :
    sm.hasActiveSubscribers = true ↔ ∃ s ∈ sm.mSubscribers, isInactive s = false := by
  simp [hasActiveSubscribers, search_isSome]

/-- `dropAllSubscribers` -/
def dropAllSubscribers (sm : AgpsStateMachine σ W) : AgpsStateMachine σ W :=
  { sm with mSubscribers := linkedListFlush sm.mSubscribers }

/-- `addSubscriber`: add a clone to the list, if no listed subscriber equals the new
one already. -/
def addSubscriber (sm : AgpsStateMachine σ W) (subscriber : σ) : AgpsStateMachine σ W :=
  match search (.patternTo subscriber) sm.mSubscribers with
  | none => { sm with mSubscribers := linkedListAdd sm.mSubscribers (clone subscriber) }
  | some _ => sm

/-- `notifySubscribers`: every subscriber decides whether the notification is for it;
with `postNotifyDelete` those it is for are unlinked. -/
def notifySubscribers (vt : Virtuals σ W) (sm : AgpsStateMachine σ W) (n : Notification σ) :
    AgpsStateMachine σ W :=
  let notifySubscriber (s1 : σ) (w : W) : Bool × W :=
    let r := notifyRsrcStatus (vt.inform sm) n s1 w
    (r.1 && n.postNotifyDelete, r.2)
  if n.postNotifyDelete then
    let r := searchAndDelete notifySubscriber (sm.mSubscribers.length + 1) sm.mSubscribers sm.world
    { sm with mSubscribers := r.1, world := r.2 }
  else
    let r := linkedListSearch notifySubscriber false sm.mSubscribers sm.world
    { sm with mSubscribers := r.list, world := r.world }

/-- Ask connectivity for the NIF, or tell it that it can release it. -/
def request (vt : Virtuals σ W) (sm : AgpsStateMachine σ W) (action : AGpsStatusValue) :
    ℤ × AgpsStateMachine σ W :=
  let r := vt.sendRsrcRequest sm action
  (r.1, { sm with world := r.2 })

/-! ## The state objects

Each `onRsrcEvent` returns the next state with the machine; the caller assigns
`mStatePtr`. -/

/-- `AgpsReleasedState::onRsrcEvent` -/
def releasedOnRsrcEvent (vt : Virtuals σ W) (sm : AgpsStateMachine σ W) :
    RsrcEvent σ → AgpsState × AgpsStateMachine σ W
  | .rsrcSubscribe subscriber =>
    -- no notification until we get RSRC_GRANTED
    let r := (sm.addSubscriber subscriber).request vt .gpsRequestAgpsDataConn
    (if r.1 = 0 then .pending else .released, r.2)
  | .rsrcUnsubscribe position =>
    -- only the client is told; the list is left alone
    match sm.mSubscribers[position]? with
    | none => (.released, sm)
    | some subscriber =>
      let r := notifyRsrcStatus (vt.inform sm) (.addressed subscriber .rsrcUnsubscribe false)
        subscriber sm.world
      (.released, { sm with world := r.2 })
  | .rsrcGranted | .rsrcReleased | .rsrcDenied => (.released, sm)

/-- The first half of every other `RSRC_UNSUBSCRIBE` branch: the listed subscriber
waits for its close, or is told and unlinked. -/
def closeSubscriber (vt : Virtuals σ W) (sm : AgpsStateMachine σ W) (position : ℕ) :
    AgpsStateMachine σ W :=
  match sm.mSubscribers[position]? with
  | none => sm
  | some subscriber =>
    if waitForCloseComplete subscriber then
      { sm with
        mSubscribers := sm.mSubscribers.set position (setInactive subscriber)
        world := vt.informInactive subscriber sm.world }
    else
      sm.notifySubscribers vt (.addressed subscriber .rsrcUnsubscribe true)

/-- The second half in the pending and in the acquired state: without active
subscribers the NIF can be released. -/
def releaseIfUnused (vt : Virtuals σ W) (sm : AgpsStateMachine σ W) (this : AgpsState) :
    AgpsState × AgpsStateMachine σ W :=
  if !sm.hasSubscribers then
    (.released, (sm.request vt .gpsReleaseAgpsDataConn).2)
  else if !sm.hasActiveSubscribers then
    (.releasing, (sm.request vt .gpsReleaseAgpsDataConn).2)
  else (this, sm)

/-- `AgpsPendingState::onRsrcEvent` -/
def pendingOnRsrcEvent (vt : Virtuals σ W) (sm : AgpsStateMachine σ W) :
    RsrcEvent σ → AgpsState × AgpsStateMachine σ W
  | .rsrcSubscribe subscriber => (.pending, sm.addSubscriber subscriber)
  | .rsrcUnsubscribe position => (sm.closeSubscriber vt position).releaseIfUnused vt .pending
  | .rsrcGranted =>
    (.acquired, sm.notifySubscribers vt (.broadcast .broadcastActive .rsrcGranted false))
  | .rsrcReleased => (.pending, sm)
  | .rsrcDenied =>
    (.released, sm.notifySubscribers vt (.broadcast .broadcastAll .rsrcDenied true))

/-- `AgpsAcquiredState::onRsrcEvent` -/
def acquiredOnRsrcEvent (vt : Virtuals σ W) (sm : AgpsStateMachine σ W) :
    RsrcEvent σ → AgpsState × AgpsStateMachine σ W
  | .rsrcSubscribe subscriber =>
    -- we have rsrc in hand, so grant it right away
    let r := notifyRsrcStatus (vt.inform sm) (.addressed subscriber .rsrcGranted false)
      subscriber sm.world
    (.acquired, { sm with world := r.2 }.addSubscriber subscriber)
  | .rsrcUnsubscribe position => (sm.closeSubscriber vt position).releaseIfUnused vt .acquired
  | .rsrcGranted => (.acquired, sm)
  | .rsrcReleased =>
    (.released, sm.notifySubscribers vt (.broadcast .broadcastAll .rsrcReleased true))
  | .rsrcDenied => (.acquired, sm)

/-- The common branch of the releasing state for `RSRC_DENIED` and `RSRC_RELEASED`:
the closing subscribers are done; new ones need the NIF again. -/
def closeComplete (vt : Virtuals σ W) (sm : AgpsStateMachine σ W) (event : AgpsRsrcStatus) :
    AgpsState × AgpsStateMachine σ W :=
  let sm' := sm.notifySubscribers vt (.broadcast .broadcastInactive event true)
  if sm'.hasActiveSubscribers then
    (.pending, (sm'.request vt .gpsRequestAgpsDataConn).2)
  else (.released, sm')

/-- `AgpsReleasingState::onRsrcEvent` -/
def releasingOnRsrcEvent (vt : Virtuals σ W) (sm : AgpsStateMachine σ W) :
    RsrcEvent σ → AgpsState × AgpsStateMachine σ W
  | .rsrcSubscribe subscriber => (.releasing, sm.addSubscriber subscriber)
  | .rsrcUnsubscribe position =>
    let sm' := sm.closeSubscriber vt position
    (if !sm'.hasSubscribers then .released else .releasing, sm')
  | .rsrcDenied => sm.closeComplete vt .rsrcDenied
  | .rsrcReleased => sm.closeComplete vt .rsrcReleased
  | .rsrcGranted => (.releasing, sm)

/-! ## The machine -/

/-- `mStatePtr = mStatePtr->onRsrcEvent(event, data)` -/
def dispatch (vt : Virtuals σ W) (sm : AgpsStateMachine σ W) (event : RsrcEvent σ) :
    AgpsStateMachine σ W :=
  let r := match sm.mStatePtr with
    | .released => sm.releasedOnRsrcEvent vt event
    | .pending => sm.pendingOnRsrcEvent vt event
    | .acquired => sm.acquiredOnRsrcEvent vt event
    | .releasing => sm.releasingOnRsrcEvent vt event
  { r.2 with mStatePtr := r.1 }

section Dispatch

variable {vt : Virtuals σ W} {sm : AgpsStateMachine σ W} (event : RsrcEvent σ)

theorem dispatch_released (hst : sm.mStatePtr = .released) : sm.dispatch vt event =
    { (sm.releasedOnRsrcEvent vt event).2 with
      mStatePtr := (sm.releasedOnRsrcEvent vt event).1 } := by rw [dispatch, hst]

theorem dispatch_pending (hst : sm.mStatePtr = .pending) : sm.dispatch vt event =
    { (sm.pendingOnRsrcEvent vt event).2 with
      mStatePtr := (sm.pendingOnRsrcEvent vt event).1 } := by rw [dispatch, hst]

theorem dispatch_acquired (hst : sm.mStatePtr = .acquired) : sm.dispatch vt event =
    { (sm.acquiredOnRsrcEvent vt event).2 with
      mStatePtr := (sm.acquiredOnRsrcEvent vt event).1 } := by rw [dispatch, hst]

theorem dispatch_releasing (hst : sm.mStatePtr = .releasing) : sm.dispatch vt event =
    { (sm.releasingOnRsrcEvent vt event).2 with
      mStatePtr := (sm.releasingOnRsrcEvent vt event).1 } := by rw [dispatch, hst]

end Dispatch

/-- `AgpsStateMachine::onRsrcEvent` -/
def onRsrcEvent (vt : Virtuals σ W) (sm : AgpsStateMachine σ W) :
    AgpsRsrcStatus → AgpsStateMachine σ W
  | .rsrcGranted => sm.dispatch vt .rsrcGranted
  | .rsrcReleased => sm.dispatch vt .rsrcReleased
  | .rsrcDenied => sm.dispatch vt .rsrcDenied
  | _ => sm

/-- `subscribeRsrc`: someone is asking for the NIF. -/
def subscribeRsrc (vt : Virtuals σ W) (sm : AgpsStateMachine σ W) (subscriber : σ) :
    AgpsStateMachine σ W :=
  if sm.mEnforceSingleSubscriber && sm.hasSubscribers then
    let r := notifyRsrcStatus (vt.inform sm) (.broadcast .broadcastAll .rsrcDenied true)
      subscriber sm.world
    { sm with world := r.2 }
  else sm.dispatch vt (.rsrcSubscribe subscriber)

/-- `unsubscribeRsrc`: someone is done with the NIF. Answers whether the subscriber
was listed. -/
def unsubscribeRsrc (vt : Virtuals σ W) (sm : AgpsStateMachine σ W) (subscriber : σ) :
    Bool × AgpsStateMachine σ W :=
  match search (.patternTo subscriber) sm.mSubscribers with
  | some (position, _) => (true, sm.dispatch vt (.rsrcUnsubscribe position))
  | none => (false, sm)

/-- `setAPN` -/
def setAPN (sm : AgpsStateMachine σ W) (apn : Option CString) : AgpsStateMachine σ W :=
  { sm with mAPN := apn }

/-- `setBearer` -/
def setBearer (sm : AgpsStateMachine σ W) (bearer : ℤ) : AgpsStateMachine σ W :=
  { sm with mBearer := bearer }

end AgpsStateMachine

end OppoA37.Agps
