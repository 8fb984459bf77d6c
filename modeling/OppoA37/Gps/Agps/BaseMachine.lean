import OppoA37.Gps.Agps.ListInvariants
import OppoA37.Lib.Machine

/-!
# The base `AgpsStateMachine` and its runs

The machines behind `agnss_nif`, `internet_nif` and `wifi_nif`: subscribers of the
BIT, ATL and WIFI classes, and the framework's callback as servicer. A run is any
order of calls of the public functions; each step hands out the callbacks it made.

The last section proves what the four state handlers rely on and one of them
says it could not repair: after every call the subscriber list is what the state
claims (`subscribers_match_state`).
-/

namespace OppoA37.Agps

open Lts

/-! ## What the machine tells the outside -/

/-- The results the daemon's clients are told, `GPSONE_LOC_API_IF_*`. -/
inductive DataConnStatus where
  | ifRequestSuccess
  | ifReleaseSuccess
  | ifFailure
  deriving DecidableEq, Repr

/-- `LOC_ENG_IF_REQUEST_SENDER_ID_GPSONE_DAEMON` -/
def senderIdGpsoneDaemon : UInt32 := 3

/-- The socket address of a request: cleared, or only its family set to `AF_INET6`. -/
inductive SockAddr where
  | zeroed
  | afInet6
  deriving DecidableEq, Repr

/-- The request handed to the framework. -/
structure AGpsExtStatus where
  type : ℤ
  status : AGpsStatusValue
  /-- `none` where the source leaves the field unset -/
  ipv4Addr : Option UInt32
  addr : SockAddr
  ssid : CString
  password : CString
  deriving DecidableEq, Repr

/-- A call that leaves the machine. -/
inductive Output where
  /-- the framework callback, with the subscribers listed at that moment -/
  | agpsStatusCb (nifRequest : AGpsExtStatus) (listed : List Subscriber)
  /-- `loc_eng_dmn_conn_loc_api_server_data_conn` -/
  | locApiServerDataConn (senderId : UInt32) (status : DataConnStatus)
  /-- `LocEngAdapter::atlOpenStatus` -/
  | atlOpenStatus (handle : UInt32) (isSucc : Bool) (apn : Option CString) (bearer agpsType : ℤ)
  /-- `LocEngAdapter::atlCloseStatus` -/
  | atlCloseStatus (handle : UInt32) (isSucc : Bool)
  deriving DecidableEq, Repr

/-- A base machine; its world is the list of calls it made so far. -/
abbrev BaseMachine : Type := AgpsStateMachine Subscriber (List Output)

/-- The switch of `BITSubscriber::notifyRsrcStatus`. -/
def BITSubscriber.told : AgpsRsrcStatus → List Output
  | .rsrcUnsubscribe | .rsrcReleased =>
    [.locApiServerDataConn senderIdGpsoneDaemon .ifReleaseSuccess]
  | .rsrcDenied => [.locApiServerDataConn senderIdGpsoneDaemon .ifFailure]
  | .rsrcGranted => [.locApiServerDataConn senderIdGpsoneDaemon .ifRequestSuccess]
  | _ => []

/-- The switch of `ATLSubscriber::notifyRsrcStatus`. -/
def ATLSubscriber.told (sm : BaseMachine) (ID : UInt32) (mBackwardCompatibleMode : Bool) :
    AgpsRsrcStatus → List Output
  | .rsrcUnsubscribe | .rsrcReleased => [.atlCloseStatus ID true]
  | .rsrcDenied => [.atlOpenStatus ID false sm.mAPN sm.mBearer
      (if mBackwardCompatibleMode then agpsTypeInvalid else sm.mType)]
  | .rsrcGranted => [.atlOpenStatus ID true sm.mAPN sm.mBearer
      (if mBackwardCompatibleMode then agpsTypeInvalid else sm.mType)]
  | _ => []

/-- The switch of `WIFISubscriber::notifyRsrcStatus`. -/
def WIFISubscriber.told (senderId : UInt32) : AgpsRsrcStatus → List Output
  | .rsrcUnsubscribe => []
  | .rsrcReleased => [.locApiServerDataConn senderId .ifReleaseSuccess]
  | .rsrcDenied => [.locApiServerDataConn senderId .ifFailure]
  | .rsrcGranted => [.locApiServerDataConn senderId .ifRequestSuccess]
  | _ => []

/-- What a subscriber of the base machine is told, by its class. -/
def Subscriber.told (sm : BaseMachine) (s : Subscriber) (status : AgpsRsrcStatus) : List Output :=
  match s.dynClass with
  | .bitSubscriber => BITSubscriber.told status
  | .atlSubscriber mBackwardCompatibleMode =>
    ATLSubscriber.told sm s.ID mBackwardCompatibleMode status
  | .wifiSubscriber _ _ _ => WIFISubscriber.told s.ID status

namespace BaseMachine

/-- The request built for the framework; `s` is the first active subscriber. -/
def nifRequest (sm : BaseMachine) (action : AGpsStatusValue) : Option Subscriber → AGpsExtStatus
  | none => ⟨sm.mType, action, some inaddrNone, .zeroed, [], []⟩
  | some s => ⟨sm.mType, action, none, .afInet6, s.setWifiInfo.1, s.setWifiInfo.2⟩

/-- `AgpsStateMachine::sendRsrcRequest`: a request needs an active subscriber, a release
needs that there is none; otherwise nothing is sent. -/
def sendRsrcRequest (sm : BaseMachine) (action : AGpsStatusValue) : ℤ × List Output :=
  let s := (AgpsStateMachine.search (.pattern .broadcastActive) sm.mSubscribers).map Prod.snd
  if s.isNone == (action == .gpsReleaseAgpsDataConn) then
    (0, sm.world ++ [.agpsStatusCb (nifRequest sm action s) sm.mSubscribers])
  else (0, sm.world)

/-- The virtual functions of the base machine. -/
def virtuals : Virtuals Subscriber (List Output) where
  inform sm s status w := w ++ s.told sm status
  informInactive _ w := w
  sendRsrcRequest := sendRsrcRequest

/-- The constructor. -/
def init (type : ℤ) (enforceSingleSubscriber : Bool) : BaseMachine where
  mSubscribers := []
  mStatePtr := .released
  mType := type
  mAPN := none
  mBearer := agpsApnBearerInvalid
  mEnforceSingleSubscriber := enforceSingleSubscriber
  world := []

end BaseMachine

/-! ## Runs -/

/-- A call of a public function. -/
inductive Call where
  | subscribeRsrc (subscriber : Subscriber)
  | unsubscribeRsrc (subscriber : Subscriber)
  | onRsrcEvent (event : AgpsRsrcStatus)
  | setAPN (apn : Option CString)
  | setBearer (bearer : ℤ)
  | dropAllSubscribers

/-- The subscriber a call passes, if it passes one, is of the kind `Q`. -/
def Call.Of (Q : Subscriber → Prop) : Call → Prop
  | .subscribeRsrc s | .unsubscribeRsrc s => Q s
  | _ => True

namespace BaseMachine

/-- The machine after a call. -/
def call (sm : BaseMachine) : Call → BaseMachine
  | .subscribeRsrc s => sm.subscribeRsrc virtuals s
  | .unsubscribeRsrc s => (sm.unsubscribeRsrc virtuals s).2
  | .onRsrcEvent event => sm.onRsrcEvent virtuals event
  | .setAPN apn => sm.setAPN apn
  | .setBearer bearer => sm.setBearer bearer
  | .dropAllSubscribers => sm.dropAllSubscribers

/-- The runs of a base machine: one call a step, handing out what the call sent. -/
def machine : Machine BaseMachine Call Output where
  step sm c :=
    let sm' := call { sm with world := [] } c
    some ({ sm' with world := [] }, sm'.world)

/-- The event of the state object that a call turns into, if it gets that far. -/
def raises (sm : BaseMachine) : Call → Option (RsrcEvent Subscriber)
  | .subscribeRsrc s =>
    if sm.mEnforceSingleSubscriber && sm.hasSubscribers then none else some (.rsrcSubscribe s)
  | .unsubscribeRsrc s =>
    (AgpsStateMachine.search (.patternTo s) sm.mSubscribers).map fun d => .rsrcUnsubscribe d.1
  | .onRsrcEvent .rsrcGranted => some .rsrcGranted
  | .onRsrcEvent .rsrcReleased => some .rsrcReleased
  | .onRsrcEvent .rsrcDenied => some .rsrcDenied
  | _ => none

/-- A call that raises an event is that event of the state object. -/
theorem call_of_raises {sm : BaseMachine} {c : Call} {event : RsrcEvent Subscriber}
    (h : raises sm c = some event) : sm.call c = sm.dispatch virtuals event := by
  cases c with
  | subscribeRsrc s =>
    simp only [raises] at h
    simp only [call, AgpsStateMachine.subscribeRsrc]
    split at h
    · cases h
    · next hsingle =>
      rw [if_neg hsingle]
      rw [Option.some.inj h]
  | unsubscribeRsrc s =>
    obtain ⟨d, hd, rfl⟩ := Option.map_eq_some_iff.mp h
    simp only [call, AgpsStateMachine.unsubscribeRsrc, hd]
  | onRsrcEvent status =>
    cases status with
    | rsrcGranted | rsrcReleased | rsrcDenied => rw [← Option.some.inj h]; rfl
    | rsrcSubscribe | rsrcUnsubscribe | rsrcStatusMax => cases h
  | setAPN | setBearer | dropAllSubscribers => cases h

/-- Any other call leaves the state alone, and the list as well unless it drops all
subscribers. -/
theorem call_of_raises_none {sm : BaseMachine} {c : Call} (h : raises sm c = none) :
    (sm.call c).mStatePtr = sm.mStatePtr ∧
      (c ≠ .dropAllSubscribers → (sm.call c).mSubscribers = sm.mSubscribers) := by
  cases c with
  | subscribeRsrc s =>
    simp only [raises] at h
    simp only [call, AgpsStateMachine.subscribeRsrc]
    split at h
    · next hsingle => simp [hsingle]
    · cases h
  | unsubscribeRsrc s =>
    have hd := Option.map_eq_none_iff.mp h
    simp [call, AgpsStateMachine.unsubscribeRsrc, hd]
  | onRsrcEvent status =>
    cases status with
    | rsrcGranted | rsrcReleased | rsrcDenied => cases h
    | rsrcSubscribe | rsrcUnsubscribe | rsrcStatusMax => exact ⟨rfl, fun _ => rfl⟩
  | setAPN | setBearer => exact ⟨rfl, fun _ => rfl⟩
  | dropAllSubscribers => exact ⟨rfl, fun hno => absurd rfl hno⟩

/-- No call changes whether a single subscriber is enforced. -/
theorem mEnforceSingleSubscriber_call (sm : BaseMachine) (c : Call) :
    (sm.call c).mEnforceSingleSubscriber = sm.mEnforceSingleSubscriber := by
  cases c with
  | subscribeRsrc s => exact AgpsStateMachine.mEnforceSingleSubscriber_subscribeRsrc _
  | unsubscribeRsrc s => exact AgpsStateMachine.mEnforceSingleSubscriber_unsubscribeRsrc _
  | onRsrcEvent status =>
    cases status with
    | rsrcGranted | rsrcReleased | rsrcDenied =>
      exact AgpsStateMachine.mEnforceSingleSubscriber_dispatch _
    | rsrcSubscribe | rsrcUnsubscribe | rsrcStatusMax => rfl
  | setAPN | setBearer | dropAllSubscribers => rfl

/-- Only a subscribe raises a subscribe, with the subscriber it passes. -/
theorem raises_subscribe {sm : BaseMachine} {c : Call} {s : Subscriber}
    (h : raises sm c = some (.rsrcSubscribe s)) : c = .subscribeRsrc s := by
  cases c with
  | subscribeRsrc t =>
    simp only [raises] at h
    split at h
    · cases h
    · rw [RsrcEvent.rsrcSubscribe.inj (Option.some.inj h)]
  | unsubscribeRsrc t =>
    obtain ⟨d, -, hd⟩ := Option.map_eq_some_iff.mp h
    cases hd
  | onRsrcEvent status => cases status <;> cases h
  | setAPN | setBearer | dropAllSubscribers => cases h

/-- Starting the NIF always answers `0` on a base machine. -/
theorem sendRsrcRequest_fst (sm : BaseMachine) (action : AGpsStatusValue) :
    (virtuals.sendRsrcRequest sm action).1 = 0 := by
  simp only [virtuals, sendRsrcRequest]
  split <;> rfl

end BaseMachine

/-! ## The list is what the state says, on machines of one class -/

namespace Subscriber

/-- Whether an unsubscribe waits is a matter of the class. -/
theorem waitForCloseComplete_eq (s : Subscriber) :
    Agps.waitForCloseComplete s = decide (s.className = .wifi) := by
  rcases s with ⟨id, ip, _ | _ | _⟩ <;> rfl

end Subscriber

namespace BaseMachine

section Kind

variable {Q : Subscriber → Prop} {sm : BaseMachine} {c : Call}

/-- The state matches a list of subscribers of one kind. -/
structure MatchesOf (Q : Subscriber → Prop) (sm : BaseMachine) : Prop where
  /-- the list is what the state says -/
  state : StateMatches sm.mStatePtr sm.mSubscribers
  /-- all of one kind -/
  all : ∀ s ∈ sm.mSubscribers, Q s

variable (hclone : ∀ s, Q s → Q (clone s)) (hset : ∀ s, Q s → Q (setInactive s))

include hclone hset in
/-- One call keeps the state matching, if the kind agrees on waiting for a close. -/
theorem MatchesOf.call
    (hwait : ∀ a b, Q a → Q b → waitForCloseComplete a = waitForCloseComplete b)
    (hc : c.Of Q) (hdrop : c ≠ .dropAllSubscribers) (h : MatchesOf Q sm) :
    MatchesOf Q (sm.call c) := by
  rcases hr : raises sm c with _ | event
  · obtain ⟨hst, hl⟩ := call_of_raises_none hr
    have hl := hl hdrop
    exact ⟨by rw [hst, hl]; exact h.state, by rw [hl]; exact h.all⟩
  · rw [call_of_raises hr]
    refine ⟨h.state.dispatch hwait h.all (sendRsrcRequest_fst · _), ?_⟩
    refine (AgpsStateMachine.dispatch_listMove _ _ _).forall hclone hset (fun s hs => ?_) h.all
    subst hs
    rw [raises_subscribe hr] at hc
    exact hc

include hclone hset in
/-- One call keeps the list distinct, if equality is symmetric on the kind. -/
theorem distinct_call (hcomm : ∀ a b, Q a → Q b → equals a b = equals b a)
    (hc : c.Of Q) (hdrop : c ≠ .dropAllSubscribers) (h : DistinctOf Q sm.mSubscribers) :
    DistinctOf Q (sm.call c).mSubscribers := by
  rcases hr : raises sm c with _ | event
  · rwa [(call_of_raises_none hr).2 hdrop]
  · rw [call_of_raises hr]
    refine h.move (AgpsStateMachine.dispatch_listMove _ _ _) hclone hset hcomm fun s hs => ?_
    subst hs
    rw [raises_subscribe hr] at hc
    exact hc

end Kind

/-- What a state handler may assume about its machine. -/
structure WellFormed (sm : BaseMachine) : Prop where
  /-- the list is what the state says -/
  state : StateMatches sm.mStatePtr sm.mSubscribers
  /-- no two listed subscribers are equal -/
  distinct : Distinct sm.mSubscribers

/-- The invariant of a machine of one class. -/
structure WellFormedOf (k : ClassName) (sm : BaseMachine) : Prop where
  state : MatchesOf (fun s => s.className = k) sm
  list : DistinctOf (fun s : Subscriber => s.className = k) sm.mSubscribers

/-- One call keeps a machine of one class well formed. -/
theorem WellFormedOf.call {k : ClassName} {sm : BaseMachine} {c : Call}
    (hc : c.Of fun s => s.className = k) (hdrop : c ≠ .dropAllSubscribers)
    (h : WellFormedOf k sm) : WellFormedOf k (sm.call c) := by
  have hclone (s : Subscriber) (hs : s.className = k) : (clone s).className = k :=
    (Subscriber.className_clone s).trans hs
  have hset (s : Subscriber) (hs : s.className = k) : (setInactive s).className = k :=
    (Subscriber.className_setInactive s).trans hs
  have hwait (a b : Subscriber) (ha : a.className = k) (hb : b.className = k) :
      waitForCloseComplete a = waitForCloseComplete b := by
    rw [Subscriber.waitForCloseComplete_eq, Subscriber.waitForCloseComplete_eq, ha, hb]
  have hcomm (a b : Subscriber) (ha : a.className = k) (hb : b.className = k) :
      equals a b = equals b a := Subscriber.equals_comm (ha.trans hb.symm)
  exact ⟨h.state.call hclone hset hwait hc hdrop, distinct_call hclone hset hcomm hc hdrop h.list⟩

/-- **The subscriber list is what the state says.** After every call of every run of a
machine that holds one class of subscribers, and drops none behind its own back: the
list is empty in released, holds an active subscriber in pending and in acquired, an
inactive one in releasing, and never holds two equal subscribers. -/
theorem subscribers_match_state (k : ClassName) (type : ℤ) (enforceSingleSubscriber : Bool)
    {h : List (Event BaseMachine Call Output)} {sm : BaseMachine}
    (hrun : Run machine (init type enforceSingleSubscriber) h sm)
    (hclass : ∀ e ∈ h, e.label.Of fun s => s.className = k)
    (hdrop : ∀ e ∈ h, e.label ≠ .dropAllSubscribers) : WellFormed sm := by
  have hnil : ∀ s ∈ (init type enforceSingleSubscriber).mSubscribers, s.className = k :=
    fun _ hs => absurd hs List.not_mem_nil
  have h₀ : WellFormedOf k (init type enforceSingleSubscriber) :=
    ⟨⟨rfl, hnil⟩, DistinctOf.nil⟩
  have hinv : WellFormedOf k sm := by
    refine Run.invariant_of (WellFormedOf k)
      (fun _ c => c.Of (fun s => s.className = k) ∧ c ≠ .dropAllSubscribers)
      h₀ ?_ hrun fun e he => ⟨hclass e he, hdrop e he⟩
    rintro sm c sm' out hsm ⟨hc, hd⟩ hs
    obtain ⟨rfl, -⟩ := Prod.mk.inj (Option.some.inj hs)
    have hsm₀ : WellFormedOf k { sm with world := [] } :=
      ⟨⟨hsm.state.state, hsm.state.all⟩, hsm.list⟩
    have hcall := hsm₀.call hc hd
    exact ⟨⟨hcall.state.state, hcall.state.all⟩, hcall.list⟩
  exact ⟨hinv.state.state, hinv.list.distinct⟩

/-- A WIFI subscriber that leaves an acquired machine is still listed, and inactive. -/
theorem subscribers_match_state_releasing :
    ∃ h sm, Run machine (init 4 true) h sm ∧ sm.mStatePtr = .releasing ∧ WellFormed sm := by
  let s : Subscriber := ⟨4, Vector.replicate 16 0, .wifiSubscriber none none false⟩
  obtain ⟨h, sm, hrun, hl, hst⟩ := machine.exists_run (init 4 true)
    [.subscribeRsrc s, .onRsrcEvent .rsrcGranted, .unsubscribeRsrc s]
    (fun _ sm => decide (sm.mStatePtr = .releasing)) (by decide)
  refine ⟨h, sm, hrun, of_decide_eq_true hst, ?_⟩
  exact subscribers_match_state .wifi 4 true hrun
    (forall_label (P := Call.Of fun s => s.className = .wifi) hl
      (by simp [Call.Of, Subscriber.className, s]))
    (forall_label (P := (· ≠ .dropAllSubscribers)) hl (by simp))

end BaseMachine

end OppoA37.Agps
