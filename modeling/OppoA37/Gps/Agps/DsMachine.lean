import OppoA37.Gps.Agps.ListInvariants
import OppoA37.Lib.Monitor

/-!
# The `DSStateMachine` and its runs

The machine behind `ds_nif`: emergency connections of the modem, over a data call that
the adapter starts and stops. It differs from the base machine in three places:

* starting the data call can fail, and the machine then stays in released, or waits
  for a retry timer (`sendRsrcRequest`);
* all its subscribers wait for their close (`DSSubscriber`);
* a `RSRC_RELEASED` that changes nothing is taken for a `RSRC_DENIED` (`onRsrcEvent`).

A retry goes a long way round: the timer thread posts a `LocEngRequestSuplEs` message
for the first active subscriber, and that message subscribes it once more.

`DsMove` says once what a call does; the modules on top only use `call_move`.
-/

namespace OppoA37.Agps

open Lts

/-! ## Starting and stopping the data call -/

/-- `LOC_API_ADAPTER_ERR_SUCCESS` -/
def errSuccess : ℤ := 0

/-- `LOC_API_ADAPTER_ERR_UNSUPPORTED` -/
def errUnsupported : ℤ := 2

/-- `LOC_API_ADAPTER_ERR_ENGINE_BUSY` -/
def errEngineBusy : ℤ := 6

/-- The results of `openAndStartDataCall`; `-1` is the answer of an adapter that does
not implement it. -/
inductive StartResult where
  | success
  | engineBusy
  | unsupported
  | failed
  deriving DecidableEq, Repr

/-- The result as the `int` that `sendRsrcRequest` switches on. -/
def StartResult.value : StartResult → ℤ
  | .success => errSuccess
  | .engineBusy => errEngineBusy
  | .unsupported => errUnsupported
  | .failed => -1

/-- What the outside answers during one call. -/
structure DsEnv where
  /-- what `openAndStartDataCall` returns -/
  start : StartResult
  /-- whether `loc_timer_start` returns a handle -/
  timer : Bool
  deriving DecidableEq, Repr

/-- A call that leaves the machine, or that the machine makes of itself on behalf of a
subscriber (`informStatus`). -/
inductive DsOutput where
  /-- `dataCallCb`, with what it returned -/
  | dataCallCb (action : AGpsStatusValue) (ret : ℤ)
  /-- `informStatus` -/
  | informStatus (status : AgpsRsrcStatus) (ID : UInt32)
  /-- `LocEngAdapter::atlCloseStatus` -/
  | atlCloseStatus (handle : UInt32) (isSucc : Bool)
  /-- `LocEngAdapter::closeDataCall` -/
  | closeDataCall
  /-- `LocEngAdapter::requestATL` with `AGPS_TYPE_SUPL` -/
  | requestATL (connHandle : UInt32)
  /-- `LocEngAdapter::atlOpenStatus` -/
  | atlOpenStatus (handle : UInt32) (isSucc : Bool) (apn : Option CString) (bearer agpsType : ℤ)
  deriving DecidableEq, Repr

/-- What the virtual calls of a `DSStateMachine` act on. -/
structure DsWorld where
  /-- failed starts since the last fallback -/
  mRetries : UInt8
  /-- retry timers that are running -/
  timers : ℕ
  /-- the calls made so far -/
  out : List DsOutput

/-- The machine with what it acts on. -/
abbrev DSStateMachine : Type := AgpsStateMachine DSSubscriber DsWorld

namespace DSStateMachine

/-- `MAX_START_DATA_CALL_RETRIES` -/
def maxStartDataCallRetries : UInt8 := 4

/-- `connHandle` when nobody is active: `-1` -/
def noConnHandle : UInt32 := 0xffffffff

/-- `connHandle`: the connection of the first active subscriber. -/
def connHandle (l : List DSSubscriber) : UInt32 :=
  match AgpsStateMachine.search (.pattern .broadcastActive) l with
  | some (_, s) => s.ID
  | none => noConnHandle

/-- The adapter call of `informStatus`. -/
def adapterCalls (ID : UInt32) : AgpsRsrcStatus → List DsOutput
  | .rsrcUnsubscribe => [.atlCloseStatus ID true]
  | .rsrcReleased => [.closeDataCall]
  | .rsrcDenied => [.requestATL ID]
  | .rsrcGranted => [.atlOpenStatus ID true none agpsApnBearerInvalid agpsTypeInvalid]
  | .rsrcSubscribe | .rsrcStatusMax => []

/-- `informStatus`: only a denial touches the machine itself. -/
def informStatus (status : AgpsRsrcStatus) (ID : UInt32) (w : DsWorld) : DsWorld where
  mRetries := if status = .rsrcDenied then 0 else w.mRetries
  timers := w.timers
  out := w.out ++ .informStatus status ID :: adapterCalls ID status

/-- `dataCallCb`: only the request to start returns a success or a failure. -/
def dataCallCb (env : DsEnv) : AGpsStatusValue → ℤ
  | .gpsRequestAgpsDataConn => env.start.value
  | .gpsReleaseAgpsDataConn => 0

/-- `incRetries` -/
def incRetries (w : DsWorld) : DsWorld := { w with mRetries := w.mRetries + 1 }

/-- `DSStateMachine::sendRsrcRequest`. The handle that `loc_timer_start` returns is taken
for an error: with a running timer the result is `-1`, without one it stays busy. -/
def sendRsrcRequest (env : DsEnv) (sm : DSStateMachine) (action : AGpsStatusValue) : ℤ × DsWorld :=
  let connHandle := connHandle sm.mSubscribers
  let ret := dataCallCb env action
  let w := { sm.world with out := sm.world.out ++ [.dataCallCb action ret] }
  if ret = errEngineBusy then
    let w := incRetries w
    if w.mRetries > maxStartDataCallRetries then
      (ret, informStatus .rsrcDenied connHandle w)
    else if env.timer then
      (-1, { w with timers := w.timers + 1 })
    else (ret, w)
  else if ret = errUnsupported then (ret, informStatus .rsrcDenied connHandle w)
  else if ret = errSuccess then (ret, w)
  else if ret = -1 then (ret, informStatus .rsrcDenied connHandle w)
  else (ret, w)

/-- The virtual functions of the machine. -/
def virtuals (env : DsEnv) : Virtuals DSSubscriber DsWorld where
  inform _ s status w := informStatus status s.ID w
  informInactive s w := informStatus .rsrcUnsubscribe s.ID w
  sendRsrcRequest := sendRsrcRequest env

/-- `DSStateMachine::onRsrcEvent`: a release that changes no state is a denial. -/
def onRsrcEvent (env : DsEnv) (sm : DSStateMachine) : AgpsRsrcStatus → DSStateMachine
  | .rsrcGranted => sm.dispatch (virtuals env) .rsrcGranted
  | .rsrcReleased =>
    let sm' := sm.dispatch (virtuals env) .rsrcReleased
    if sm'.mStatePtr ≠ sm.mStatePtr then sm' else sm'.dispatch (virtuals env) .rsrcDenied
  | .rsrcDenied => sm.dispatch (virtuals env) .rsrcDenied
  | _ => sm

/-- `retryCallback`: whom to subscribe once more. -/
def retryCallback (sm : DSStateMachine) : Option UInt32 :=
  (AgpsStateMachine.search (.pattern .broadcastActive) sm.mSubscribers).map fun d => d.2.ID

/-- The constructor. -/
def init : DSStateMachine where
  mSubscribers := []
  mStatePtr := .released
  mType := agpsTypeInvalid
  mAPN := none
  mBearer := agpsApnBearerInvalid
  mEnforceSingleSubscriber := false
  world := ⟨0, 0, []⟩

end DSStateMachine

/-! ## What starting, stopping and telling leave behind -/

/-- The calls that the properties of this machine speak of: starts and stops of the data
call, and what a connection is told when its subscription ends. -/
def DsOutput.isNote : DsOutput → Bool
  | .dataCallCb _ _ => true
  | .informStatus .rsrcReleased _ | .informStatus .rsrcDenied _ => true
  | _ => false

/-- Those calls, in order. -/
def notes (out : List DsOutput) : List DsOutput := out.filter DsOutput.isNote

@[simp] theorem notes_append (a b : List DsOutput) : notes (a ++ b) = notes a ++ notes b :=
  List.filter_append ..

/-- What becomes of a request to start the data call. -/
inductive StartOutcome where
  /-- the servicer accepted it -/
  | accepted
  /-- the servicer is busy, and a timer will retry -/
  | retried
  /-- the servicer is busy, and no timer could be started -/
  | stalled
  /-- the connection has to fall back to normal ATL -/
  | refused
  deriving DecidableEq, Repr

namespace DSStateMachine

/-- The outcome of a start after some failed ones. -/
def startOutcome (env : DsEnv) (mRetries : UInt8) : StartOutcome :=
  match env.start with
  | .success => .accepted
  | .engineBusy =>
    if mRetries + 1 > maxStartDataCallRetries then .refused
    else if env.timer then .retried else .stalled
  | .unsupported | .failed => .refused

/-- The notes of a start. -/
def startNotes (env : DsEnv) (mRetries : UInt8) (l : List DSSubscriber) : List DsOutput :=
  .dataCallCb .gpsRequestAgpsDataConn env.start.value ::
    if startOutcome env mRetries = .refused then [.informStatus .rsrcDenied (connHandle l)] else []

variable {env : DsEnv} {sm : DSStateMachine}

/-- Starting the data call, by its outcome. -/
theorem sendRsrcRequest_start (env : DsEnv) (sm : DSStateMachine) :
    let w := { sm.world with
      out := sm.world.out ++ [.dataCallCb .gpsRequestAgpsDataConn env.start.value] }
    sendRsrcRequest env sm .gpsRequestAgpsDataConn =
      match startOutcome env sm.world.mRetries with
      | .accepted => (0, w)
      | .retried => (-1, { incRetries w with timers := w.timers + 1 })
      | .stalled => (errEngineBusy, incRetries w)
      | .refused => (env.start.value, informStatus .rsrcDenied (connHandle sm.mSubscribers) w) := by
  rcases env with ⟨_ | _ | _ | _, timer⟩
  · rfl
  · by_cases hmax : sm.world.mRetries + 1 > maxStartDataCallRetries
    · -- the denial resets the count of retries
      simp [sendRsrcRequest, dataCallCb, startOutcome, StartResult.value, incRetries, hmax,
        informStatus]
    · cases timer <;>
        simp [sendRsrcRequest, dataCallCb, startOutcome, StartResult.value, incRetries, hmax]
  · rfl
  · rfl

/-- A start moves on to pending only when the servicer accepted it. -/
theorem request_start_fst (sm : DSStateMachine) :
    (sm.request (virtuals env) .gpsRequestAgpsDataConn).1 = 0 ↔
      startOutcome env sm.world.mRetries = .accepted := by
  simp only [AgpsStateMachine.request, virtuals, sendRsrcRequest_start]
  rcases ho : startOutcome env sm.world.mRetries
  · simp
  · simp
  · simp [errEngineBusy]
  · have hrefused : env.start ≠ .success := by
      intro hs
      simp [startOutcome, hs] at ho
    rcases env with ⟨_ | _ | _ | _, timer⟩
    · exact absurd rfl hrefused
    · simp [StartResult.value, errEngineBusy]
    · simp [StartResult.value, errUnsupported]
    · simp [StartResult.value]

/-- Only a start that is retried leaves one more timer running. -/
theorem request_start_timers (sm : DSStateMachine) :
    (sm.request (virtuals env) .gpsRequestAgpsDataConn).2.world.timers = sm.world.timers +
      if startOutcome env sm.world.mRetries = .retried then 1 else 0 := by
  simp only [AgpsStateMachine.request, virtuals, sendRsrcRequest_start]
  rcases startOutcome env sm.world.mRetries <;> rfl

/-- What is noted of a start. -/
theorem request_start_notes (sm : DSStateMachine) :
    notes (sm.request (virtuals env) .gpsRequestAgpsDataConn).2.world.out =
      notes sm.world.out ++ startNotes env sm.world.mRetries sm.mSubscribers := by
  simp only [AgpsStateMachine.request, virtuals, sendRsrcRequest_start, startNotes]
  rcases startOutcome env sm.world.mRetries
  · exact notes_append _ _
  · exact notes_append _ _
  · exact notes_append _ _
  · simp only [informStatus, notes_append, List.append_assoc]
    rfl

/-- A stop of the data call changes nothing but the list of calls made. -/
theorem request_release_world (sm : DSStateMachine) :
    (sm.request (virtuals env) .gpsReleaseAgpsDataConn).2.world = { sm.world with
      out := sm.world.out ++ [.dataCallCb .gpsReleaseAgpsDataConn 0] } := by
  simp [AgpsStateMachine.request, virtuals, sendRsrcRequest, dataCallCb, errSuccess,
    errEngineBusy, errUnsupported]

/-- What is noted of telling a connection a status. -/
def statusNotes (status : AgpsRsrcStatus) (ID : UInt32) : List DsOutput :=
  if status = .rsrcReleased ∨ status = .rsrcDenied then [.informStatus status ID] else []

@[simp] theorem notes_informStatus (status : AgpsRsrcStatus) (ID : UInt32) (w : DsWorld) :
    notes (informStatus status ID w).out = notes w.out ++ statusNotes status ID := by
  simp only [informStatus, notes_append]
  cases status <;> rfl

/-- Telling a list of connections. -/
theorem foldl_informStatus (status : AgpsRsrcStatus) (l : List DSSubscriber) (w : DsWorld) :
    (l.foldl (fun w s => informStatus status s.ID w) w).timers = w.timers ∧
      (status ≠ .rsrcDenied →
        (l.foldl (fun w s => informStatus status s.ID w) w).mRetries = w.mRetries) ∧
      notes (l.foldl (fun w s => informStatus status s.ID w) w).out =
        notes w.out ++ l.flatMap fun s => statusNotes status s.ID := by
  induction l generalizing w with
  | nil => simp
  | cons s l ih =>
    obtain ⟨ht, hr, hn⟩ := ih (informStatus status s.ID w)
    refine ⟨ht, fun hne => ?_, ?_⟩
    · exact (hr hne).trans (if_neg hne)
    · rw [List.foldl_cons, hn]
      simp

end DSStateMachine

/-! ## Runs -/

/-- A call of the machine, by the message that makes it. -/
inductive DsCall where
  /-- `LocEngRequestSuplEs`: subscribe a connection -/
  | requestSuplEs (ID : UInt32)
  /-- `LocEngReleaseATL`: unsubscribe a connection -/
  | releaseATL (ID : UInt32)
  /-- `LocEngSuplEsOpened`: the data call is up -/
  | suplEsOpened
  /-- `LocEngSuplEsClosed`: the data call is down -/
  | suplEsClosed
  deriving DecidableEq, Repr

/-- A step of the system around the machine. -/
inductive DsMsg where
  /-- a message from outside -/
  | call (c : DsCall)
  /-- a retry timer expires: `delay_callback` -/
  | delayCallback
  /-- the next message that a retry timer posted -/
  | retry
  deriving DecidableEq, Repr

/-- A step with what the outside answers during it. -/
structure DsLabel where
  msg : DsMsg
  env : DsEnv
  deriving DecidableEq, Repr

/-- The machine and the messages its timers posted. -/
structure DsNif where
  /-- `ds_nif` -/
  sm : DSStateMachine
  /-- connections of the `LocEngRequestSuplEs` messages of expired timers -/
  queued : List UInt32

namespace DSStateMachine

/-- The machine after a call. -/
def call (env : DsEnv) (sm : DSStateMachine) : DsCall → DSStateMachine
  | .requestSuplEs ID => sm.subscribeRsrc (virtuals env) ⟨ID, false⟩
  | .releaseATL ID => (sm.unsubscribeRsrc (virtuals env) ⟨ID, false⟩).2
  | .suplEsOpened => onRsrcEvent env sm .rsrcGranted
  | .suplEsClosed => onRsrcEvent env sm .rsrcReleased

/-- The machine with an empty list of calls made. -/
def quiet (sm : DSStateMachine) : DSStateMachine := { sm with world := { sm.world with out := [] } }

end DSStateMachine

/-! ## What a call does -/

namespace DSStateMachine

/-- The calls that leave state and list alone. -/
def Ignores (sm : DSStateMachine) : DsCall → Prop
  | .requestSuplEs _ => False
  | .releaseATL ID => sm.mStatePtr = .released ∨ ∀ s ∈ sm.mSubscribers, s.ID ≠ ID
  | .suplEsOpened => sm.mStatePtr ≠ .pending
  | .suplEsClosed => sm.mStatePtr = .released

/-- The list after a connection subscribed. -/
def subscribed (l : List DSSubscriber) (ID : UInt32) : List DSSubscriber :=
  if ∃ s ∈ l, s.ID = ID then l else ⟨ID, false⟩ :: l

/-- The inactive subscribers of a list. -/
def inactive (l : List DSSubscriber) : List DSSubscriber := l.filter DSSubscriber.mIsInactive

/-- The active subscribers of a list. -/
def active (l : List DSSubscriber) : List DSSubscriber := l.filter fun s => !s.mIsInactive

/-- What a call does to a machine: the call, the state, the list and the running timers
after it, and the notes it made. -/
inductive DsMove (env : DsEnv) (sm : DSStateMachine) :
    DsCall → AgpsState → List DSSubscriber → ℕ → List DsOutput → Prop where
  /-- a connection asks for the data call -/
  | started {ID : UInt32} (hst : sm.mStatePtr = .released) :
      DsMove env sm (.requestSuplEs ID)
        (if startOutcome env sm.world.mRetries = .accepted then .pending else .released)
        (subscribed sm.mSubscribers ID)
        (sm.world.timers + if startOutcome env sm.world.mRetries = .retried then 1 else 0)
        (startNotes env sm.world.mRetries (subscribed sm.mSubscribers ID))
  /-- a connection joins -/
  | joined {ID : UInt32} {state : AgpsState} (hst : sm.mStatePtr = state)
      (hne : state ≠ .released) :
      DsMove env sm (.requestSuplEs ID) state (subscribed sm.mSubscribers ID) sm.world.timers []
  | ignored {c : DsCall} {state : AgpsState} (hst : sm.mStatePtr = state) (hc : Ignores sm c) :
      DsMove env sm c state sm.mSubscribers sm.world.timers []
  /-- a connection leaves and waits for its close -/
  | marked {ID : UInt32} {position : ℕ} {s : DSSubscriber} {state : AgpsState}
      (hst : sm.mStatePtr = state) (hne : state ≠ .released)
      (hpos : sm.mSubscribers[position]? = some s) (hID : s.ID = ID)
      (hactive : state ≠ .releasing →
        active (sm.mSubscribers.set position ⟨s.ID, true⟩) ≠ []) :
      DsMove env sm (.releaseATL ID) state
        (sm.mSubscribers.set position ⟨s.ID, true⟩) sm.world.timers []
  /-- the last active connection leaves -/
  | markedLast {ID : UInt32} {position : ℕ} {s : DSSubscriber}
      (hst : sm.mStatePtr = .pending ∨ sm.mStatePtr = .acquired)
      (hpos : sm.mSubscribers[position]? = some s) (hID : s.ID = ID)
      (hactive : active (sm.mSubscribers.set position ⟨s.ID, true⟩) = []) :
      DsMove env sm (.releaseATL ID) .releasing (sm.mSubscribers.set position ⟨s.ID, true⟩)
        sm.world.timers [.dataCallCb .gpsReleaseAgpsDataConn 0]
  | granted (hst : sm.mStatePtr = .pending) :
      DsMove env sm .suplEsOpened .acquired sm.mSubscribers sm.world.timers []
  /-- the data call is lost, or never came up -/
  | ended {status : AgpsRsrcStatus} (hst : sm.mStatePtr = .pending ∧ status = .rsrcDenied ∨
        sm.mStatePtr = .acquired ∧ status = .rsrcReleased) :
      DsMove env sm .suplEsClosed .released [] sm.world.timers
        (sm.mSubscribers.map fun s => .informStatus status s.ID)
  /-- the close is complete -/
  | closed (hst : sm.mStatePtr = .releasing) (hactive : active sm.mSubscribers = []) :
      DsMove env sm .suplEsClosed .released [] sm.world.timers
        ((inactive sm.mSubscribers).map fun s => .informStatus .rsrcReleased s.ID)
  /-- the close is complete and somebody wants the data call again -/
  | reopened (hst : sm.mStatePtr = .releasing) (hactive : active sm.mSubscribers ≠ []) :
      DsMove env sm .suplEsClosed .pending (active sm.mSubscribers)
        (sm.world.timers + if startOutcome env sm.world.mRetries = .retried then 1 else 0)
        ((inactive sm.mSubscribers).map (fun s => .informStatus .rsrcReleased s.ID) ++
          startNotes env sm.world.mRetries (active sm.mSubscribers))

variable {env : DsEnv} {sm : DSStateMachine}

/-- `addSubscriber` on a list of connections. -/
theorem mSubscribers_addSubscriber (sm : DSStateMachine) (ID : UInt32) :
    (sm.addSubscriber ⟨ID, false⟩).mSubscribers = subscribed sm.mSubscribers ID := by
  rcases AgpsStateMachine.addSubscriber_cases sm ⟨ID, false⟩ with ⟨⟨t, ht, heq⟩, h⟩ | ⟨hno, h⟩
  · have hex : ∃ s ∈ sm.mSubscribers, s.ID = ID := ⟨t, ht, eq_of_beq heq⟩
    rw [h, subscribed, if_pos hex]
  · have hnex : ¬ ∃ s ∈ sm.mSubscribers, s.ID = ID := by
      rintro ⟨t, ht, heq⟩
      have hne := hno t ht
      rw [show equals t (⟨ID, false⟩ : DSSubscriber) = true from beq_iff_eq.mpr heq] at hne
      cases hne
    rw [h, subscribed, if_neg hnex]
    rfl

theorem world_addSubscriber (sm : DSStateMachine) (ID : UInt32) :
    (sm.addSubscriber ⟨ID, false⟩).world = sm.world := by
  rcases AgpsStateMachine.addSubscriber_cases sm ⟨ID, false⟩ with ⟨-, h⟩ | ⟨-, h⟩ <;> rw [h]

/-- Somebody is active iff the list of active subscribers is not empty. -/
theorem hasActiveSubscribers_iff :
    sm.hasActiveSubscribers = true ↔ active sm.mSubscribers ≠ [] := by
  rw [AgpsStateMachine.hasActiveSubscribers_iff, active, Ne, List.filter_eq_nil_iff]
  simp [isInactive]

/-- What a notification leaves of the world. -/
theorem world_notifySubscribers (env : DsEnv) (sm : DSStateMachine) (n : Notification DSSubscriber)
    (htold : n.rsrcStatus.isTold = true) :
    (sm.notifySubscribers (virtuals env) n).world.timers = sm.world.timers ∧
      (n.rsrcStatus ≠ .rsrcDenied →
        (sm.notifySubscribers (virtuals env) n).world.mRetries = sm.world.mRetries) ∧
      notes (sm.notifySubscribers (virtuals env) n).world.out = notes sm.world.out ++
        (sm.mSubscribers.filter (forMe n)).flatMap fun s => statusNotes n.rsrcStatus s.ID := by
  rw [AgpsStateMachine.world_notifySubscribers (virtuals env) sm n htold]
  exact foldl_informStatus _ _ _

/-- Closing a listed connection marks it, and tells it so. -/
theorem closeSubscriber_eq (env : DsEnv) {position : ℕ} {s : DSSubscriber}
    (hpos : sm.mSubscribers[position]? = some s) :
    sm.closeSubscriber (virtuals env) position = { sm with
      mSubscribers := sm.mSubscribers.set position ⟨s.ID, true⟩
      world := informStatus .rsrcUnsubscribe s.ID sm.world } := by
  rw [AgpsStateMachine.closeSubscriber, hpos]
  rfl

theorem hasSubscribers_closeSubscriber (env : DsEnv) {position : ℕ} {s : DSSubscriber}
    (hpos : sm.mSubscribers[position]? = some s) :
    (sm.closeSubscriber (virtuals env) position).hasSubscribers = true := by
  rw [AgpsStateMachine.hasSubscribers_iff, closeSubscriber_eq env hpos]
  intro hnil
  have hlen := congrArg List.length hnil
  rw [List.length_set, List.length_nil] at hlen
  rw [List.eq_nil_of_length_eq_zero hlen] at hpos
  cases hpos

/-- Leaving in pending or acquired. -/
theorem releaseIfUnused_move {this : AgpsState} {position : ℕ} {s : DSSubscriber}
    (hout : notes sm.world.out = []) (hthis : this = .pending ∨ this = .acquired)
    (hst : sm.mStatePtr = this) (hpos : sm.mSubscribers[position]? = some s) :
    let r := (sm.closeSubscriber (virtuals env) position).releaseIfUnused (virtuals env) this
    DsMove env sm (.releaseATL s.ID) r.1 r.2.mSubscribers r.2.world.timers
      (notes r.2.world.out) := by
  have hsubs := hasSubscribers_closeSubscriber env hpos
  have hclose := closeSubscriber_eq env hpos
  have hnotes : notes (informStatus .rsrcUnsubscribe s.ID sm.world).out = [] := by
    rw [notes_informStatus, hout]
    rfl
  simp only [AgpsStateMachine.releaseIfUnused, hsubs, Bool.not_true, Bool.false_eq_true, if_false]
  by_cases hactive : (sm.closeSubscriber (virtuals env) position).hasActiveSubscribers = true
  · simp only [hactive, Bool.not_true, Bool.false_eq_true, if_false]
    rw [hasActiveSubscribers_iff, hclose] at hactive
    rw [hclose, hnotes]
    have hne : this ≠ .released := by rcases hthis with rfl | rfl <;> exact nofun
    exact DsMove.marked hst hne hpos rfl fun _ => hactive
  · simp only [hactive, Bool.not_false, if_true]
    rw [hasActiveSubscribers_iff, not_not, hclose] at hactive
    rw [request_release_world, notes_append, AgpsStateMachine.mSubscribers_request, hclose, hnotes]
    exact DsMove.markedLast (hst ▸ hthis) hpos rfl hactive

/-- The end of a close. -/
theorem closeComplete_move (hout : notes sm.world.out = []) (hst : sm.mStatePtr = .releasing) :
    let r := sm.closeComplete (virtuals env) .rsrcReleased
    DsMove env sm .suplEsClosed r.1 r.2.mSubscribers r.2.world.timers (notes r.2.world.out) := by
  obtain ⟨htimers, hretries, hnotes⟩ := world_notifySubscribers env sm
    (.broadcast .broadcastInactive .rsrcReleased true) rfl
  have hlist : (sm.notifySubscribers (virtuals env)
      (.broadcast .broadcastInactive .rsrcReleased true)).mSubscribers = active sm.mSubscribers :=
    AgpsStateMachine.mSubscribers_notifySubscribers_inactive rfl
  have hretries := hretries nofun
  have hnotes : notes (sm.notifySubscribers (virtuals env)
      (.broadcast .broadcastInactive .rsrcReleased true)).world.out =
      (inactive sm.mSubscribers).map fun s => .informStatus .rsrcReleased s.ID := by
    rw [hnotes, hout, List.nil_append, List.map_eq_flatMap]
    rfl
  have hactive_active : active (active sm.mSubscribers) = active sm.mSubscribers := by
    simp [active]
  simp only [AgpsStateMachine.closeComplete]
  split
  · next hactive =>
    rw [hasActiveSubscribers_iff, hlist, hactive_active] at hactive
    simp only [AgpsStateMachine.mSubscribers_request, request_start_timers, request_start_notes,
      htimers, hretries, hnotes, hlist]
    exact DsMove.reopened hst hactive
  · next hactive =>
    rw [hasActiveSubscribers_iff, hlist, hactive_active, not_not] at hactive
    simp only [htimers, hnotes, hlist, hactive]
    exact DsMove.closed hst hactive

/-- The end of all subscriptions at once. -/
theorem notifyAll_move {status : AgpsRsrcStatus} (hout : notes sm.world.out = [])
    (hst : sm.mStatePtr = .pending ∧ status = .rsrcDenied ∨
      sm.mStatePtr = .acquired ∧ status = .rsrcReleased) :
    let sm' := sm.notifySubscribers (virtuals env) (.broadcast .broadcastAll status true)
    DsMove env sm .suplEsClosed .released sm'.mSubscribers sm'.world.timers
      (notes sm'.world.out) := by
  have htold : status.isTold = true := by rcases hst with ⟨-, rfl⟩ | ⟨-, rfl⟩ <;> rfl
  have hstatus (s : DSSubscriber) : statusNotes status s.ID = [.informStatus status s.ID] := by
    rcases hst with ⟨-, rfl⟩ | ⟨-, rfl⟩ <;> rfl
  obtain ⟨htimers, -, hnotes⟩ := world_notifySubscribers env sm
    (.broadcast .broadcastAll status true) htold
  have hall : sm.mSubscribers.filter (forMe (.broadcast .broadcastAll status true)) =
      sm.mSubscribers := List.filter_eq_self.mpr fun _ _ => rfl
  have hnotes' : notes (sm.notifySubscribers (virtuals env)
      (.broadcast .broadcastAll status true)).world.out =
      sm.mSubscribers.map fun s => .informStatus status s.ID := by
    rw [hnotes, hout, hall, List.nil_append, List.map_eq_flatMap]
    exact congrArg (List.flatMap · sm.mSubscribers) (funext hstatus)
  simp only [htimers, hnotes', AgpsStateMachine.mSubscribers_notifySubscribers_all htold]
  exact DsMove.ended hst

/-- Subscribing, on a machine that may have several subscribers. -/
theorem requestSuplEs_move (ID : UInt32) (hout : notes sm.world.out = [])
    (hsingle : sm.mEnforceSingleSubscriber = false) :
    let sm' := sm.call env (.requestSuplEs ID)
    DsMove env sm (.requestSuplEs ID) sm'.mStatePtr sm'.mSubscribers sm'.world.timers
      (notes sm'.world.out) := by
  have hcall : sm.call env (.requestSuplEs ID) =
      sm.dispatch (virtuals env) (.rsrcSubscribe ⟨ID, false⟩) := by
    simp [call, AgpsStateMachine.subscribeRsrc, hsingle]
  have hlist := mSubscribers_addSubscriber sm ID
  have hworld := world_addSubscriber sm ID
  rw [hcall]
  rcases hst : sm.mStatePtr with _ | _ | _ | _
  · rw [AgpsStateMachine.dispatch_released _ hst]
    simp only [AgpsStateMachine.releasedOnRsrcEvent, request_start_fst, hworld,
      AgpsStateMachine.mSubscribers_request, hlist, request_start_timers, request_start_notes,
      hout, List.nil_append]
    exact DsMove.started hst
  · rw [AgpsStateMachine.dispatch_pending _ hst]
    simp only [AgpsStateMachine.pendingOnRsrcEvent, hlist, hworld, hout]
    exact DsMove.joined hst (by rintro ⟨⟩)
  · -- the connection is granted the data call at once
    rw [AgpsStateMachine.dispatch_acquired _ hst]
    have hinform : notifyRsrcStatus ((virtuals env).inform sm)
        (.addressed ⟨ID, false⟩ .rsrcGranted false) ⟨ID, false⟩ sm.world =
        (true, informStatus .rsrcGranted ID sm.world) := by
      rw [notifyRsrcStatus, forMe_addressed, LawfulSubscriber.equals_refl]
      rfl
    have hlist' (w : DsWorld) : ({ sm with world := w }.addSubscriber
        ⟨ID, false⟩).mSubscribers = subscribed sm.mSubscribers ID :=
      mSubscribers_addSubscriber { sm with world := w } ID
    have hworld' (w : DsWorld) : ({ sm with world := w }.addSubscriber ⟨ID, false⟩).world = w :=
      world_addSubscriber { sm with world := w } ID
    simp only [AgpsStateMachine.acquiredOnRsrcEvent, hinform, hlist', hworld',
      notes_informStatus, hout]
    exact DsMove.joined hst (by rintro ⟨⟩)
  · rw [AgpsStateMachine.dispatch_releasing _ hst]
    simp only [AgpsStateMachine.releasingOnRsrcEvent, hlist, hworld, hout]
    exact DsMove.joined hst (by rintro ⟨⟩)

/-- Unsubscribing. -/
theorem releaseATL_move (ID : UInt32) (hout : notes sm.world.out = []) :
    let sm' := sm.call env (.releaseATL ID)
    DsMove env sm (.releaseATL ID) sm'.mStatePtr sm'.mSubscribers sm'.world.timers
      (notes sm'.world.out) := by
  rcases hs : AgpsStateMachine.search (.patternTo ⟨ID, false⟩) sm.mSubscribers with _ | ⟨i, s⟩
  · have hcall : sm.call env (.releaseATL ID) = sm := by
      simp [call, AgpsStateMachine.unsubscribeRsrc, hs]
    simp only [hcall, hout]
    refine DsMove.ignored rfl (Or.inr fun s hs' heq => ?_)
    have hne := AgpsStateMachine.search_eq_none.mp hs s hs'
    rw [forMe_patternTo, show equals s (⟨ID, false⟩ : DSSubscriber) = true from
      beq_iff_eq.mpr heq] at hne
    cases hne
  · obtain ⟨hpos, hfor⟩ := AgpsStateMachine.search_eq_some hs
    have hcall : sm.call env (.releaseATL ID) =
        sm.dispatch (virtuals env) (.rsrcUnsubscribe i) := by
      simp [call, AgpsStateMachine.unsubscribeRsrc, hs]
    obtain rfl : s.ID = ID := eq_of_beq hfor
    rw [hcall]
    rcases hst : sm.mStatePtr with _ | _ | _ | _
    · -- released: only the client is told
      rw [AgpsStateMachine.dispatch_released _ hst]
      have hinform : notifyRsrcStatus ((virtuals env).inform sm)
          (.addressed s .rsrcUnsubscribe false) s sm.world =
          (true, informStatus .rsrcUnsubscribe s.ID sm.world) := by
        rw [notifyRsrcStatus, forMe_addressed, LawfulSubscriber.equals_refl]
        rfl
      simp only [AgpsStateMachine.releasedOnRsrcEvent, hpos, hinform, notes_informStatus, hout]
      exact DsMove.ignored hst (Or.inl hst)
    · rw [AgpsStateMachine.dispatch_pending _ hst]
      exact releaseIfUnused_move hout (Or.inl rfl) hst hpos
    · rw [AgpsStateMachine.dispatch_acquired _ hst]
      exact releaseIfUnused_move hout (Or.inr rfl) hst hpos
    · rw [AgpsStateMachine.dispatch_releasing _ hst]
      have hsubs := hasSubscribers_closeSubscriber env hpos
      simp only [AgpsStateMachine.releasingOnRsrcEvent, hsubs, Bool.not_true, Bool.false_eq_true,
        if_false]
      rw [closeSubscriber_eq env hpos, notes_informStatus, hout]
      exact DsMove.marked hst (by rintro ⟨⟩) hpos rfl fun hne => absurd rfl hne

/-- The data call is up. -/
theorem suplEsOpened_move (hout : notes sm.world.out = []) :
    let sm' := sm.call env .suplEsOpened
    DsMove env sm .suplEsOpened sm'.mStatePtr sm'.mSubscribers sm'.world.timers
      (notes sm'.world.out) := by
  simp only [call, onRsrcEvent]
  rcases hst : sm.mStatePtr with _ | _ | _ | _
  · rw [AgpsStateMachine.dispatch_released _ hst]
    simp only [AgpsStateMachine.releasedOnRsrcEvent, hout]
    exact DsMove.ignored hst (by rw [Ignores, hst]; rintro ⟨⟩)
  · rw [AgpsStateMachine.dispatch_pending _ hst]
    obtain ⟨htimers, -, hnotes⟩ := world_notifySubscribers env sm
      (.broadcast .broadcastActive .rsrcGranted false) rfl
    have hnotes' : notes (sm.notifySubscribers (virtuals env)
        (.broadcast .broadcastActive .rsrcGranted false)).world.out = [] := by
      rw [hnotes, hout]
      exact List.flatMap_eq_nil_iff.mpr fun _ _ => rfl
    simp only [AgpsStateMachine.pendingOnRsrcEvent, htimers, hnotes',
      AgpsStateMachine.mSubscribers_notifySubscribers_granted]
    exact DsMove.granted hst
  · rw [AgpsStateMachine.dispatch_acquired _ hst]
    simp only [AgpsStateMachine.acquiredOnRsrcEvent, hout]
    exact DsMove.ignored hst (by rw [Ignores, hst]; rintro ⟨⟩)
  · rw [AgpsStateMachine.dispatch_releasing _ hst]
    simp only [AgpsStateMachine.releasingOnRsrcEvent, hout]
    exact DsMove.ignored hst (by rw [Ignores, hst]; rintro ⟨⟩)

/-- The data call is down. -/
theorem suplEsClosed_move (hout : notes sm.world.out = []) :
    let sm' := sm.call env .suplEsClosed
    DsMove env sm .suplEsClosed sm'.mStatePtr sm'.mSubscribers sm'.world.timers
      (notes sm'.world.out) := by
  -- a release that changes no state leaves the machine as it was, and is taken for a denial
  have hdenied (hsame : sm.dispatch (virtuals env) .rsrcReleased = sm) :
      sm.call env .suplEsClosed = sm.dispatch (virtuals env) .rsrcDenied := by
    simp [call, onRsrcEvent, hsame]
  have hmoved (hne : (sm.dispatch (virtuals env) .rsrcReleased).mStatePtr ≠ sm.mStatePtr) :
      sm.call env .suplEsClosed = sm.dispatch (virtuals env) .rsrcReleased := by
    simp [call, onRsrcEvent, hne]
  rcases hst : sm.mStatePtr with _ | _ | _ | _
  · have hsame (event : RsrcEvent DSSubscriber) (h : sm.releasedOnRsrcEvent (virtuals env) event =
        (.released, sm)) : sm.dispatch (virtuals env) event = sm := by
      rw [AgpsStateMachine.dispatch_released _ hst, h]
      simp only [← hst]
    rw [hdenied (hsame _ rfl), hsame _ rfl]
    simp only [hout, hst]
    exact DsMove.ignored hst hst
  · have hsame : sm.dispatch (virtuals env) .rsrcReleased = sm := by
      rw [AgpsStateMachine.dispatch_pending _ hst]
      simp only [AgpsStateMachine.pendingOnRsrcEvent, ← hst]
    rw [hdenied hsame, AgpsStateMachine.dispatch_pending _ hst]
    exact notifyAll_move hout (Or.inl ⟨hst, rfl⟩)
  · have hd : sm.dispatch (virtuals env) .rsrcReleased = _ :=
      AgpsStateMachine.dispatch_acquired .rsrcReleased hst
    rw [hmoved (by rw [hd, hst]; rintro ⟨⟩), hd]
    exact notifyAll_move hout (Or.inr ⟨hst, rfl⟩)
  · have hd : sm.dispatch (virtuals env) .rsrcReleased = _ :=
      AgpsStateMachine.dispatch_releasing .rsrcReleased hst
    have hne : (sm.closeComplete (virtuals env) .rsrcReleased).1 ≠ .releasing := by
      simp only [AgpsStateMachine.closeComplete]
      split <;> rintro ⟨⟩
    rw [hmoved (by rw [hd, hst]; exact hne), hd]
    exact closeComplete_move hout hst

/-- **What a call does.** Every call of a machine that has made no calls yet is one of
the moves. -/
theorem call_move (env : DsEnv) (sm : DSStateMachine) (c : DsCall) (hout : notes sm.world.out = [])
    (hsingle : sm.mEnforceSingleSubscriber = false) :
    DsMove env sm c (sm.call env c).mStatePtr (sm.call env c).mSubscribers
      (sm.call env c).world.timers (notes (sm.call env c).world.out) := by
  cases c with
  | requestSuplEs ID => exact requestSuplEs_move ID hout hsingle
  | releaseATL ID => exact releaseATL_move ID hout
  | suplEsOpened => exact suplEsOpened_move hout
  | suplEsClosed => exact suplEsClosed_move hout

/-- No call makes the machine enforce a single subscriber. -/
theorem mEnforceSingleSubscriber_call (env : DsEnv) (sm : DSStateMachine) (c : DsCall) :
    (sm.call env c).mEnforceSingleSubscriber = sm.mEnforceSingleSubscriber := by
  cases c with
  | requestSuplEs ID => exact AgpsStateMachine.mEnforceSingleSubscriber_subscribeRsrc _
  | releaseATL ID => exact AgpsStateMachine.mEnforceSingleSubscriber_unsubscribeRsrc _
  | suplEsOpened => exact AgpsStateMachine.mEnforceSingleSubscriber_dispatch _
  | suplEsClosed =>
    simp only [call, onRsrcEvent]
    split
    · exact AgpsStateMachine.mEnforceSingleSubscriber_dispatch _
    · rw [AgpsStateMachine.mEnforceSingleSubscriber_dispatch,
        AgpsStateMachine.mEnforceSingleSubscriber_dispatch]

end DSStateMachine

namespace DsNif

/-- Nothing happened yet. -/
def init : DsNif := ⟨.init, []⟩

/-- A retry is under way: a timer is running, or its message was not read yet. -/
def RetryPending (d : DsNif) : Prop := 0 < d.sm.world.timers ∨ d.queued ≠ []

instance (d : DsNif) : Decidable d.RetryPending := inferInstanceAs (Decidable (_ ∨ _))

/-- The system after a call, with the calls the machine made. -/
def called (d : DsNif) (env : DsEnv) (c : DsCall) : DsNif × List DsOutput :=
  let sm := d.sm.quiet.call env c
  ({ d with sm := sm.quiet }, sm.world.out)

/-- The runs of the machine, its timers and their messages. -/
def machine : Machine DsNif DsLabel DsOutput where
  step d l :=
    match l.msg with
    | .call c => some (d.called l.env c)
    | .delayCallback =>
      if d.sm.world.timers = 0 then none
      else
        let sm := { d.sm with world := { d.sm.world with timers := d.sm.world.timers - 1 } }
        some (⟨sm, d.queued ++ (DSStateMachine.retryCallback sm).toList⟩, [])
    | .retry =>
      match d.queued with
      | [] => none
      | ID :: rest => some ({ d with queued := rest }.called l.env (.requestSuplEs ID))

/-! ## What a step does -/

/-- The calls made before do not matter to a move. -/
theorem dsMove_of_quiet {env : DsEnv} {sm : DSStateMachine} {c : DsCall} {state : AgpsState}
    {l : List DSSubscriber} {timers : ℕ} {out : List DsOutput}
    (h : DSStateMachine.DsMove env sm.quiet c state l timers out) :
    DSStateMachine.DsMove env sm c state l timers out := by
  cases h with
  | started hst => exact .started hst
  | joined hst hne => exact .joined hst hne
  | ignored hst hc => exact .ignored hst hc
  | marked hst hne hpos hID hactive => exact .marked hst hne hpos hID hactive
  | markedLast hst hpos hID hactive => exact .markedLast hst hpos hID hactive
  | granted hst => exact .granted hst
  | ended hst => exact .ended hst
  | closed hst hactive => exact .closed hst hactive
  | reopened hst hactive => exact .reopened hst hactive

/-- The move from one system to another, with the calls made. -/
def Moves (env : DsEnv) (d : DsNif) (c : DsCall) (d' : DsNif) (out : List DsOutput) : Prop :=
  DSStateMachine.DsMove env d.sm c d'.sm.mStatePtr d'.sm.mSubscribers d'.sm.world.timers
    (notes out)

theorem called_moves (d : DsNif) (env : DsEnv) (c : DsCall)
    (hsingle : d.sm.mEnforceSingleSubscriber = false) :
    Moves env d c (d.called env c).1 (d.called env c).2 :=
  dsMove_of_quiet (DSStateMachine.call_move env d.sm.quiet c rfl hsingle)

/-- The calls of a step, as far as the machine is concerned: a retry is one more
subscription. -/
def callOf (d : DsNif) (l : DsLabel) : Option DsCall :=
  match l.msg with
  | .call c => some c
  | .delayCallback => none
  | .retry => d.queued.head?.map .requestSuplEs

/-- A step is a move, or the end of a retry timer. -/
theorem step_cases {d d' : DsNif} {l : DsLabel} {out : List DsOutput}
    (hsingle : d.sm.mEnforceSingleSubscriber = false)
    (hs : machine.step d l = some (d', out)) :
    (∃ c, callOf d l = some c ∧ Moves l.env d c d' out ∧
      ((l.msg = .call c ∧ d'.queued = d.queued) ∨
        (l.msg = .retry ∧ d'.queued = d.queued.tail ∧ d.queued ≠ []))) ∨
    (l.msg = .delayCallback ∧ 0 < d.sm.world.timers ∧ d'.sm.mStatePtr = d.sm.mStatePtr ∧
      d'.sm.mSubscribers = d.sm.mSubscribers ∧ d'.sm.world.timers = d.sm.world.timers - 1 ∧
      d'.queued = d.queued ++ (DSStateMachine.retryCallback d.sm).toList ∧ out = []) := by
  rcases hm : l.msg with c | _ | _
  · simp only [machine, hm] at hs
    obtain ⟨rfl, rfl⟩ := Prod.mk.inj (Option.some.inj hs)
    refine Or.inl ⟨c, ?_, called_moves d l.env c hsingle, Or.inl ⟨rfl, rfl⟩⟩
    simp only [callOf, hm]
  · simp only [machine, hm] at hs
    split at hs
    · cases hs
    · next hpos =>
      obtain ⟨rfl, rfl⟩ := Prod.mk.inj (Option.some.inj hs)
      exact Or.inr ⟨rfl, Nat.pos_of_ne_zero hpos, rfl, rfl, rfl, rfl, rfl⟩
  · simp only [machine, hm] at hs
    rcases hq : d.queued with _ | ⟨ID, rest⟩ <;> rw [hq] at hs
    · cases hs
    · obtain ⟨rfl, rfl⟩ := Prod.mk.inj (Option.some.inj hs)
      refine Or.inl ⟨.requestSuplEs ID, ?_, ?_, Or.inr ⟨rfl, rfl, nofun⟩⟩
      · simp only [callOf, hm, hq, List.head?_cons, Option.map_some]
      · exact called_moves { d with queued := rest } l.env (.requestSuplEs ID) hsingle

/-- No step makes the machine enforce a single subscriber. -/
theorem single_step {d d' : DsNif} {l : DsLabel} {out : List DsOutput}
    (hsingle : d.sm.mEnforceSingleSubscriber = false)
    (hs : machine.step d l = some (d', out)) : d'.sm.mEnforceSingleSubscriber = false := by
  have hcall (d : DsNif) (c : DsCall) (hsingle : d.sm.mEnforceSingleSubscriber = false) :
      (d.called l.env c).1.sm.mEnforceSingleSubscriber = false :=
    (DSStateMachine.mEnforceSingleSubscriber_call l.env d.sm.quiet c).trans hsingle
  rcases hm : l.msg with c | _ | _
  · simp only [machine, hm] at hs
    obtain ⟨rfl, -⟩ := Prod.mk.inj (Option.some.inj hs)
    exact hcall d c hsingle
  · simp only [machine, hm] at hs
    split at hs
    · cases hs
    · obtain ⟨rfl, -⟩ := Prod.mk.inj (Option.some.inj hs)
      exact hsingle
  · simp only [machine, hm] at hs
    rcases hq : d.queued with _ | ⟨ID, rest⟩ <;> rw [hq] at hs
    · cases hs
    · obtain ⟨rfl, -⟩ := Prod.mk.inj (Option.some.inj hs)
      exact hcall { d with queued := rest } _ hsingle

end DsNif

end OppoA37.Agps
