import Mathlib.Data.Int.Notation
import Mathlib.Data.List.Basic
import Mathlib.Tactic.Common

/-!
# `ds_client_open_call`

The call opens a QMI client for the WDS service, asks for the profiles and their settings until
one supports emergency calls, closes the client, and gets a DSI handle for the new session. Every
step can fail:

* `Outcomes` says how, for each call of `malloc`, QMI and DSI;
* `Atomic` is what one would want: a new handle and success, or the old handle and nothing left
  behind;
* `atomic_iff` says for which outcomes it is so. The label `err` frees the responses and nothing
  else, neither the client nor the session.
-/

namespace OppoA37.DsClient

/-! ## Outcomes -/

/-- What `ds_client_open_call` returns. -/
inductive Status where
  | success
  | failureGeneral
  | failureTimeout
  | failureInternal
  | failureNotEnoughMemory
  | retryLater
  deriving DecidableEq

/-- `WDS_PDP_TYPE_PDP_*` -/
inductive PdpType where
  | ipv4
  | ipv6
  | ipv4v6
  | other (value : ℤ)

/-- `DSI_IP_VERSION_*` -/
inductive IpVersion where
  | v4
  | v6
  | v4v6

/-- A turn of the loop that waits for the service: both answers of `qmi_client_get_service_list`,
with the number of services unless they are errors. -/
structure ServiceTurn where
  /-- before the wait -/
  first : Option ℕ
  /-- the wait ends without a signal -/
  timedOut : Bool
  /-- after the wait -/
  second : Option ℕ

/-- `wds_get_profile_settings_resp_msg_v01` -/
structure Settings where
  /-- `resp.error` is an error -/
  error : Bool
  /-- `support_emergency_calls_valid` -/
  supportEmergencyCallsValid : Bool
  /-- `support_emergency_calls` -/
  supportEmergencyCalls : Bool
  /-- `pdp_type_valid` -/
  pdpTypeValid : Bool
  /-- `pdp_type` -/
  pdpType : PdpType

/-- How the calls end, in the order in which they are made. -/
structure Outcomes where
  /-- `wds_get_service_object_v01` finds the service object -/
  serviceObject : Bool
  /-- the first answer of `qmi_client_get_service_list`, unless it is an error -/
  firstList : Option ℕ
  /-- `qmi_client_notifier_init` succeeds -/
  notifierInit : Bool
  /-- the turns of the loop that waits -/
  turns : ℕ → ServiceTurn
  /-- `malloc` for the service information -/
  serviceInfo : Bool
  /-- `qmi_client_get_service_list` with the service information succeeds -/
  serviceList : Bool
  /-- `qmi_client_init` succeeds -/
  clientInit : Bool
  /-- `qmi_client_release` of the notifier succeeds -/
  notifierRelease : Bool
  /-- `calloc` for the response with the profiles -/
  profileListResp : Bool
  /-- `calloc` for the request of the profiles -/
  profileListReq : Bool
  /-- `qmi_client_send_msg_sync` for the profiles succeeds -/
  profileListSent : Bool
  /-- `resp.error` of the response with the profiles is an error -/
  profileListError : Bool
  /-- the indexes in `profile_list` -/
  profileList : List UInt8
  /-- `calloc` for the response with the settings -/
  profileSettingsResp : Bool
  /-- `qmi_client_send_msg_sync` for the settings of a profile succeeds -/
  profileSettingsSent : ℕ → Bool
  /-- the settings of a profile -/
  settings : ℕ → Settings
  /-- `qmi_client_release` of the WDS client succeeds -/
  clientRelease : Bool
  /-- the address that `calloc` returns for the session, if any -/
  session : Option ℕ
  /-- what `dsi_get_data_srvc_hndl` returns, unless it is `NULL` -/
  dsiHandle : Option ℕ

/-- What is allocated, registered or opened. -/
inductive Resource where
  | serviceInfo
  | notifier
  | wdsClient
  | profileListResp
  | profileListReq
  | profileSettingsResp
  | sessionData
  deriving DecidableEq

/-- `ds_client_session_data` -/
structure Session where
  /-- `dsi_net_handle` -/
  dsiNetHandle : Option ℕ
  /-- `caller_data.event_cb` -/
  eventCb : ℕ
  /-- `caller_data.caller_cookie` -/
  callerCookie : ℕ

/-- What the call changes. -/
structure World where
  /-- `*client_handle` -/
  clientHandle : Option ℕ
  /-- `*profile_index`, once it is set -/
  profileIndex : Option UInt8
  /-- `*pdp_type`, once it is set -/
  pdpType : Option IpVersion
  /-- the session data, once there are any -/
  session : Option Session
  /-- what the call has allocated and not freed again -/
  alive : List Resource

namespace World

/-- Before the call. -/
def before (handle : Option ℕ) : World := ⟨handle, none, none, none, []⟩

/-- One more resource. -/
def alloc (w : World) (r : Resource) : World := { w with alive := r :: w.alive }

/-- One resource less, if it is there. -/
def free (w : World) (r : Resource) : World := { w with alive := w.alive.erase r }

end World

/-! ## The client -/

/-- The loop that waits for the service: the number of services unless there is an error, and
`no_signal`. -/
def waitForService (turns : ℕ → ServiceTurn) (timeout : ℕ) (noSignal : Bool) : Option ℕ × Bool :=
  let turn := turns (timeout / 4000)
  let r := match turn.first with
    | some numServices => (some numServices, noSignal)
    | none => (if turn.timedOut then none else turn.second, turn.timedOut)
  if timeout + 4000 < 40000 ∧ r.2 = true ∧ r.1 = none then
    waitForService turns (timeout + 4000) r.2
  else r
  termination_by 40000 - timeout

/-- The part of `ds_client_qmi_ctrl_point_init` that looks for the service: the number of services
unless there is an error, and `no_signal`; `none` if the notifier cannot be registered. -/
def findService (o : Outcomes) (w : World) : Option ((Option ℕ × Bool) × World) :=
  match o.firstList with
  | some numServices => some ((some numServices, false), w)
  | none =>
    if o.notifierInit then some (waitForService o.turns 0 false, w.alloc .notifier) else none

/-- The part of `ds_client_qmi_ctrl_point_init` that opens the client. -/
def initClient (o : Outcomes) (w : World) : Status × World :=
  if o.serviceInfo = false then (.failureInternal, w)
  else
    let w := w.alloc .serviceInfo
    if o.serviceList = false then (.failureInternal, w.free .serviceInfo)
    else if o.clientInit = false then (.failureInternal, w.free .serviceInfo)
    else
      let w := w.alloc .wdsClient
      let w := if o.notifierRelease then w.free .notifier else w
      (.success, w.free .serviceInfo)

/-- `ds_client_qmi_ctrl_point_init` -/
def qmiCtrlPointInit (o : Outcomes) (w : World) : Status × World :=
  if o.serviceObject = false then (.failureInternal, w)
  else match findService o w with
  | none => (.failureInternal, w)
  | some ((numServices, noSignal), w) =>
    if numServices = none ∨ numServices = some 0 then
      (if noSignal then .failureTimeout else .failureInternal, w)
    else initClient o w

/-! ## The profiles -/

/-- `ds_client_convert_qmi_response` -/
def convertQmiResponse (error : Bool) : Status := if error then .failureGeneral else .success

/-- `ds_client_send_qmi_sync_req`, for a request that it knows. -/
def sendQmiSyncReq (sent error : Bool) : Status :=
  if sent then convertQmiResponse error else .failureInternal

/-- `ds_client_get_profile_list`: without memory for the request, the response stays empty and the
call succeeds. -/
def getProfileList (o : Outcomes) (w : World) : Status × List UInt8 × World :=
  if o.profileListReq = false then (.success, [], w)
  else
    let w := w.alloc .profileListReq
    (sendQmiSyncReq o.profileListSent o.profileListError, o.profileList, w.free .profileListReq)

/-- `ds_client_get_profile_settings` -/
def getProfileSettings (o : Outcomes) (i : ℕ) : Status :=
  sendQmiSyncReq (o.profileSettingsSent i) (o.settings i).error

/-- The `switch` over `*pdp_type`. -/
def PdpType.version : PdpType → IpVersion
  | .ipv4 => .v4
  | .ipv6 => .v6
  | .ipv4v6 => .v4v6
  | .other _ => .v4

/-- The loop over the profiles from the one with number `i` on: the index and type of the first one
that supports emergency calls. -/
def findProfile (o : Outcomes) : List UInt8 → ℕ → Status × Option (UInt8 × IpVersion)
  | [], _ => (.success, none)
  | profileIndex :: rest, i =>
    let ret := getProfileSettings o i
    if ret ≠ .success then (ret, none)
    else if (o.settings i).supportEmergencyCallsValid ∧ (o.settings i).supportEmergencyCalls then
      (.success, some (profileIndex,
        if (o.settings i).pdpTypeValid then (o.settings i).pdpType.version else .v4))
    else findProfile o rest (i + 1)

/-- The part of `ds_client_open_call` that looks for the profile. -/
def queryProfiles (o : Outcomes) (w : World) : Status × Option (UInt8 × IpVersion) × World :=
  if o.profileListResp = false then (.failureNotEnoughMemory, none, w)
  else
    let w := w.alloc .profileListResp
    let (ret, profiles, w) := getProfileList o w
    if ret ≠ .success then (ret, none, w)
    else if o.profileSettingsResp = false then (.failureNotEnoughMemory, none, w)
    else
      let w := w.alloc .profileSettingsResp
      let (ret, found) := findProfile o profiles 0
      (ret, found, found.elim w fun profile => { w with pdpType := some profile.2 })

/-! ## The session -/

/-- The arguments of `ds_client_open_call`; the pointers for the profile are never `NULL`. -/
structure Args where
  /-- `callback->event_cb`, unless `callback` is `NULL` -/
  callback : Option ℕ
  /-- `client_handle` is not `NULL` -/
  hasHandle : Bool
  /-- `cookie` -/
  cookie : ℕ

/-- The part of `ds_client_open_call` that makes the session, with what it returned so far. -/
def makeSession (o : Outcomes) (eventCb cookie : ℕ) (index : UInt8) (ret : Status) (w : World) :
    Status × World :=
  let w := { w with profileIndex := some index, clientHandle := o.session }
  match o.session with
  | none => (.failureNotEnoughMemory, w)
  | some _ =>
    let w := { w.alloc .sessionData with session := some ⟨none, eventCb, cookie⟩ }
    match o.dsiHandle with
    | none => (.retryLater, w)
    | some dsiHandle => (ret, { w with session := some ⟨some dsiHandle, eventCb, cookie⟩ })

/-- `ds_client_open_call` up to the label `err`. -/
def openCallBody (o : Outcomes) (args : Args) (w : World) : Status × World :=
  match args.callback with
  | none => (.failureGeneral, w)
  | some eventCb =>
    if args.hasHandle = false then (.failureGeneral, w)
    else
      let (ret, w) := qmiCtrlPointInit o w
      if ret ≠ .success then (ret, w)
      else
        let (ret, found, w) := queryProfiles o w
        if ret ≠ .success then (ret, w)
        else
          let (ret, w) := if o.clientRelease then (ret, w.free .wdsClient) else (.failureGeneral, w)
          match found with
          | none => (.failureGeneral, w)
          | some (index, _) => makeSession o eventCb args.cookie index ret w

/-- `ds_client_open_call` -/
def openCall (o : Outcomes) (args : Args) (w : World) : Status × World :=
  let (ret, w) := openCallBody o args w
  (ret, (w.free .profileListResp).free .profileSettingsResp)

/-! ## What the outcomes come to -/

namespace Outcomes

variable (o : Outcomes)

/-- The notifier is registered. -/
def Registers : Prop := o.serviceObject = true ∧ o.firstList = none ∧ o.notifierInit = true

/-- The number of services unless there is an error, and `no_signal`. -/
def services : Option ℕ × Bool :=
  match o.firstList with
  | some numServices => (some numServices, false)
  | none => waitForService o.turns 0 false

/-- The WDS client is opened. -/
def Connects : Prop :=
  o.serviceObject = true ∧ (o.firstList = none → o.notifierInit = true) ∧
    ¬ (o.services.1 = none ∨ o.services.1 = some 0) ∧ o.serviceInfo = true ∧
    o.serviceList = true ∧ o.clientInit = true

/-- The notifier stays registered although the client is opened. -/
def KeepsNotifier : Prop := o.Registers ∧ o.notifierRelease = false

/-- The profiles that are asked for. -/
def profiles : List UInt8 := if o.profileListReq then o.profileList else []

/-- The profile that is found. -/
def found : Option (UInt8 × IpVersion) := (findProfile o o.profiles 0).2

/-- All questions about profiles are answered. -/
def Answers : Prop :=
  o.profileListResp = true ∧
    (o.profileListReq = true → o.profileListSent = true ∧ o.profileListError = false) ∧
    o.profileSettingsResp = true ∧ (findProfile o o.profiles 0).1 = .success

instance : Decidable o.Registers := inferInstanceAs (Decidable (_ ∧ _))

instance : Decidable o.Connects := inferInstanceAs (Decidable (_ ∧ _))

instance : Decidable o.KeepsNotifier := inferInstanceAs (Decidable (_ ∧ _))

end Outcomes

variable {o : Outcomes} {args : Args} {handle : Option ℕ} {w : World}

/-- The service is looked for, with a notifier unless it is there at once. -/
theorem findService_eq (hinit : o.firstList = none → o.notifierInit = true) :
    findService o (.before handle) = some (o.services,
      { World.before handle with alive := if o.firstList = none then [.notifier] else [] }) := by
  rw [findService, Outcomes.services]
  rcases hfirst : o.firstList with _ | n
  · dsimp only
    rw [hinit hfirst]
    rfl
  · rfl

/-- Opening the client. -/
theorem initClient_eq (w : World) :
    initClient o w =
      if o.serviceInfo = true ∧ o.serviceList = true ∧ o.clientInit = true then
        (.success, { w with alive := .wdsClient ::
          if o.notifierRelease then w.alive.erase .notifier else w.alive })
      else (.failureInternal, w) := by
  rw [initClient]
  rcases o.serviceInfo with _ | _ <;> rcases o.serviceList with _ | _ <;>
    rcases o.clientInit with _ | _ <;> rcases o.notifierRelease with _ | _ <;>
    simp [World.alloc, World.free]

/-- A client that cannot be opened leaves the notifier behind. -/
theorem qmiCtrlPointInit_fails (h : ¬ o.Connects) :
    (qmiCtrlPointInit o (.before handle)).1 ≠ .success ∧
      (qmiCtrlPointInit o (.before handle)).2 =
        { World.before handle with alive := if o.Registers then [.notifier] else [] } := by
  rw [qmiCtrlPointInit]
  split
  · next hobject =>
    have hregisters : ¬ o.Registers := fun hr => absurd (hobject.symm.trans hr.1) (by decide)
    rw [if_neg hregisters]
    exact ⟨by simp, rfl⟩
  next hobject =>
  by_cases hinit : o.firstList = none → o.notifierInit = true
  · rw [findService_eq hinit]
    have hregisters : o.Registers ↔ o.firstList = none :=
      ⟨fun hr => hr.2.1, fun hfirst => ⟨by simpa using hobject, hfirst, hinit hfirst⟩⟩
    simp only [hregisters]
    split
    · exact ⟨by split <;> simp, rfl⟩
    · next hservices =>
      rw [initClient_eq, if_neg fun hc => h ⟨by simpa using hobject, hinit, hservices, hc⟩]
      exact ⟨by simp, rfl⟩
  · obtain ⟨hfirst, hnot⟩ := Classical.not_imp.mp hinit
    have hregisters : ¬ o.Registers := fun hr => hnot hr.2.2
    rw [findService, hfirst]
    dsimp only
    rw [if_neg hnot, if_neg hregisters]
    exact ⟨by simp, rfl⟩

/-- A client that is opened. -/
theorem qmiCtrlPointInit_connects (h : o.Connects) :
    qmiCtrlPointInit o (.before handle) = (.success,
      { World.before handle with
        alive := .wdsClient :: if o.KeepsNotifier then [.notifier] else [] }) := by
  obtain ⟨hobject, hinit, hservices, hclient⟩ := h
  have hregisters : o.Registers ↔ o.firstList = none :=
    ⟨fun hr => hr.2.1, fun hfirst => ⟨hobject, hfirst, hinit hfirst⟩⟩
  rw [qmiCtrlPointInit, if_neg (by simp [hobject]), findService_eq hinit]
  dsimp only
  rw [if_neg hservices, initClient_eq, if_pos hclient]
  simp only [Outcomes.KeepsNotifier, hregisters]
  by_cases hfirst : o.firstList = none <;> rcases o.notifierRelease with _ | _ <;> simp [hfirst]

/-- What `ds_client_get_profile_list` returns. -/
def Outcomes.listStatus (o : Outcomes) : Status :=
  if o.profileListReq then sendQmiSyncReq o.profileListSent o.profileListError else .success

theorem listStatus_eq_success : o.listStatus = .success ↔
    (o.profileListReq = true → o.profileListSent = true ∧ o.profileListError = false) := by
  rw [Outcomes.listStatus]
  rcases o.profileListReq with _ | _ <;> rcases o.profileListSent with _ | _ <;>
    rcases o.profileListError with _ | _ <;> simp [sendQmiSyncReq, convertQmiResponse]

theorem getProfileList_eq (w : World) : getProfileList o w = (o.listStatus, o.profiles, w) := by
  rw [getProfileList, Outcomes.listStatus, Outcomes.profiles]
  rcases o.profileListReq with _ | _ <;> simp [World.alloc, World.free]

/-- Questions that are answered. -/
theorem queryProfiles_answers (h : o.Answers) (w : World) : queryProfiles o w = (.success, o.found,
    { w with
      alive := .profileSettingsResp :: .profileListResp :: w.alive
      pdpType := o.found.elim w.pdpType fun profile => some profile.2 }) := by
  obtain ⟨hlistResp, hlist, hsettingsResp, hloop⟩ := h
  have hstatus := listStatus_eq_success.mpr hlist
  rw [queryProfiles, if_neg (by simp [hlistResp])]
  simp only [getProfileList_eq, hstatus, hsettingsResp, hloop]
  rw [Outcomes.found]
  rcases (findProfile o o.profiles 0).2 with _ | profile <;> simp [World.alloc]

/-- Questions that are not answered leave the client open. -/
theorem queryProfiles_fails (h : ¬ o.Answers) (hopen : .wdsClient ∈ w.alive) :
    (queryProfiles o w).1 ≠ .success ∧ .wdsClient ∈ (queryProfiles o w).2.2.alive := by
  rw [queryProfiles]
  split
  · exact ⟨by simp, hopen⟩
  next hlistResp =>
  simp only [getProfileList_eq]
  split
  · next hstatus => exact ⟨hstatus, List.mem_cons_of_mem _ hopen⟩
  next hstatus =>
  have hlist := listStatus_eq_success.mp (not_not.mp hstatus)
  split
  · exact ⟨by simp, List.mem_cons_of_mem _ hopen⟩
  next hsettingsResp =>
  refine ⟨fun hloop => h ⟨by simpa using hlistResp, hlist, by simpa using hsettingsResp, hloop⟩, ?_⟩
  rcases (findProfile o o.profiles 0).2 with _ | profile <;>
    exact List.mem_cons_of_mem _ (List.mem_cons_of_mem _ hopen)

/-! ## What is left behind -/

/-- A new handle: its session has a DSI handle, and the outputs are those of the profile that was
found. -/
structure Opened (o : Outcomes) (w : World) : Prop where
  handle : ∃ a, o.session = some a ∧ w.clientHandle = some a ∧ .sessionData ∈ w.alive
  dsiHandle : ∃ s h, w.session = some s ∧ o.dsiHandle = some h ∧ s.dsiNetHandle = some h
  profile : ∃ f, o.found = some f ∧ w.profileIndex = some f.1 ∧ w.pdpType = some f.2

/-- The call succeeds exactly if there is a new handle, and otherwise keeps the old one and leaves
nothing behind. -/
structure Atomic (o : Outcomes) (args : Args) (handle : Option ℕ) : Prop where
  success : (openCall o args (.before handle)).1 = .success ↔
    Opened o (openCall o args (.before handle)).2
  failure : (openCall o args (.before handle)).1 ≠ .success →
    (openCall o args (.before handle)).2.clientHandle = handle ∧
      (openCall o args (.before handle)).2.alive = []

/-- The outcomes for which it is so. -/
inductive Clean (o : Outcomes) (args : Args) (handle : Option ℕ) : Prop
  /-- an argument is `NULL` -/
  | arguments (h : args.callback = none ∨ args.hasHandle = false)
  /-- the client is not opened, and there is no notifier -/
  | unconnected (hc : ¬ o.Connects) (hr : ¬ o.Registers)
  /-- everything succeeds -/
  | opened (hc : o.Connects) (ha : o.Answers) (hr : o.clientRelease = true)
    (hf : o.found.isSome) (hs : o.session.isSome) (hd : o.dsiHandle.isSome)
  /-- no profile supports emergency calls, and the notifier is released -/
  | notFound (hc : o.Connects) (ha : o.Answers) (hr : o.clientRelease = true)
    (hn : ¬ o.KeepsNotifier) (hf : o.found = none)
  /-- there is no memory for the session, and there was no handle -/
  | noMemory (hc : o.Connects) (ha : o.Answers) (hr : o.clientRelease = true)
    (hn : ¬ o.KeepsNotifier) (hs : o.session = none) (hh : handle = none)

/-- The label `err` frees the responses only. -/
theorem mem_alive_openCall {r : Resource} (hlist : r ≠ .profileListResp)
    (hsettings : r ≠ .profileSettingsResp)
    (h : r ∈ (openCallBody o args w).2.alive) : r ∈ (openCall o args w).2.alive :=
  (List.mem_erase_of_ne hsettings).mpr ((List.mem_erase_of_ne hlist).mpr h)

/-- A call that fails and leaves something behind. -/
theorem not_atomic {r : Resource} (hret : (openCall o args (.before handle)).1 ≠ .success)
    (hr : r ∈ (openCall o args (.before handle)).2.alive) : ¬ Atomic o args handle := by
  intro h
  rw [(h.failure hret).2] at hr
  exact absurd hr List.not_mem_nil

/-- A call that fails and leaves nothing behind. -/
theorem atomic_iff_of_failed (hret : (openCall o args (.before handle)).1 ≠ .success) :
    Atomic o args handle ↔ (openCall o args (.before handle)).2.clientHandle = handle ∧
      (openCall o args (.before handle)).2.alive = [] := by
  constructor
  · exact fun h => h.failure hret
  · intro h
    refine ⟨⟨fun hsuccess => absurd hsuccess hret, fun hopened => ?_⟩, fun _ => h⟩
    -- the session would be left
    obtain ⟨a, -, -, hmem⟩ := hopened.handle
    rw [h.2] at hmem
    exact absurd hmem List.not_mem_nil

/-- What is alive before the session is made. -/
def Outcomes.answered (o : Outcomes) : List Resource :=
  .profileSettingsResp :: .profileListResp :: ((if o.clientRelease then [] else [.wdsClient]) ++
    if o.KeepsNotifier then [.notifier] else [])

/-- The call up to the session. -/
theorem openCallBody_answers {eventCb : ℕ} (hcallback : args.callback = some eventCb)
    (hhandle : args.hasHandle = true) (hc : o.Connects) (ha : o.Answers) :
    openCallBody o args (.before handle) =
      match o.found with
      | none => (.failureGeneral, { World.before handle with alive := o.answered })
      | some (index, version) =>
        makeSession o eventCb args.cookie index
          (if o.clientRelease then .success else .failureGeneral)
          { World.before handle with alive := o.answered, pdpType := some version } := by
  rw [openCallBody, hcallback]
  dsimp only
  rw [if_neg (by simp [hhandle]), qmiCtrlPointInit_connects hc]
  simp only [queryProfiles_answers ha, Outcomes.answered]
  rcases o.clientRelease with _ | _ <;> rcases o.found with _ | ⟨index, version⟩ <;>
    simp [World.free, World.before]

/-- Without a profile, the notifier may be left, and the client if it could not be released. -/
theorem atomic_notFound {eventCb : ℕ} (hcallback : args.callback = some eventCb)
    (hhandle : args.hasHandle = true) (hc : o.Connects) (ha : o.Answers) (hf : o.found = none) :
    Atomic o args handle ↔ o.clientRelease = true ∧ ¬ o.KeepsNotifier := by
  have hcall : openCall o args (.before handle) = (.failureGeneral, { World.before handle with
      alive := (if o.clientRelease then [] else [.wdsClient]) ++
        if o.KeepsNotifier then [.notifier] else [] }) := by
    rw [openCall, openCallBody_answers hcallback hhandle hc ha, hf]
    simp [World.free, Outcomes.answered]
  rw [atomic_iff_of_failed (by rw [hcall]; simp), hcall]
  rcases o.clientRelease with _ | _ <;> by_cases hk : o.KeepsNotifier <;> simp [hk, World.before]

/-- Without memory for the session, the old handle is gone besides. -/
theorem atomic_noMemory {eventCb : ℕ} (hcallback : args.callback = some eventCb)
    (hhandle : args.hasHandle = true) (hc : o.Connects) (ha : o.Answers) (hf : o.found.isSome)
    (hs : o.session = none) :
    Atomic o args handle ↔ o.clientRelease = true ∧ ¬ o.KeepsNotifier ∧ handle = none := by
  obtain ⟨⟨index, version⟩, hfound⟩ := Option.isSome_iff_exists.mp hf
  have hcall : openCall o args (.before handle) = (.failureNotEnoughMemory,
      { World.before none with
        alive := (if o.clientRelease then [] else [.wdsClient]) ++
          if o.KeepsNotifier then [.notifier] else []
        pdpType := some version
        profileIndex := some index }) := by
    rw [openCall, openCallBody_answers hcallback hhandle hc ha, hfound]
    simp [makeSession, hs, World.free, Outcomes.answered, World.before]
  rw [atomic_iff_of_failed (by rw [hcall]; simp), hcall]
  rcases o.clientRelease with _ | _ <;> by_cases hk : o.KeepsNotifier <;>
    simp [hk, World.before, @eq_comm _ none handle]

/-- With a session, everything has to succeed. -/
theorem atomic_session {eventCb : ℕ} (hcallback : args.callback = some eventCb)
    (hhandle : args.hasHandle = true) (hc : o.Connects) (ha : o.Answers) (hf : o.found.isSome)
    (hs : o.session.isSome) :
    Atomic o args handle ↔ o.clientRelease = true ∧ o.dsiHandle.isSome := by
  obtain ⟨⟨index, version⟩, hfound⟩ := Option.isSome_iff_exists.mp hf
  obtain ⟨a, hsession⟩ := Option.isSome_iff_exists.mp hs
  rcases hd : o.dsiHandle with _ | dsiHandle
  · -- the session is left behind
    have hcall : (openCall o args (.before handle)).1 = .retryLater ∧
        .sessionData ∈ (openCall o args (.before handle)).2.alive := by
      rw [openCall, openCallBody_answers hcallback hhandle hc ha, hfound]
      simp [makeSession, hsession, hd, World.alloc, World.free, Outcomes.answered]
    refine iff_of_false (not_atomic ?_ hcall.2) (by simp)
    rw [hcall.1]
    decide
  · have hcall : openCall o args (.before handle) =
        (if o.clientRelease then .success else .failureGeneral,
          ⟨some a, some index, some version, some ⟨some dsiHandle, eventCb, args.cookie⟩,
            .sessionData :: ((if o.clientRelease then [] else [.wdsClient]) ++
              if o.KeepsNotifier then [.notifier] else [])⟩) := by
      rw [openCall, openCallBody_answers hcallback hhandle hc ha, hfound]
      simp [makeSession, hsession, hd, World.alloc, World.free, Outcomes.answered, World.before]
    rcases hrelease : o.clientRelease with _ | _
    · -- a new handle, and no success
      rw [hrelease] at hcall
      refine iff_of_false (not_atomic (r := .sessionData) ?_ ?_) (by simp)
      · rw [hcall]
        simp
      · rw [hcall]
        exact List.mem_cons_self
    · rw [hrelease] at hcall
      refine iff_of_true ⟨?_, ?_⟩ ⟨rfl, rfl⟩
      · rw [hcall]
        refine iff_of_true rfl ⟨⟨a, hsession, rfl, List.mem_cons_self⟩, ?_, ?_⟩
        · exact ⟨_, dsiHandle, rfl, hd, rfl⟩
        · exact ⟨_, hfound, rfl, rfl⟩
      · rw [hcall]
        exact fun hno => absurd rfl hno

/-- A `NULL` argument. -/
theorem atomic_arguments (h : args.callback = none ∨ args.hasHandle = false) :
    Atomic o args handle := by
  have hcall : openCall o args (.before handle) = (.failureGeneral, .before handle) := by
    rw [openCall, openCallBody]
    rcases hcallback : args.callback with _ | eventCb
    · rfl
    · rw [h.resolve_left (by simp [hcallback])]
      rfl
  rw [atomic_iff_of_failed (by rw [hcall]; simp), hcall]
  exact ⟨rfl, rfl⟩

/-- A client that cannot be opened. -/
theorem atomic_unconnected {eventCb : ℕ} (hcallback : args.callback = some eventCb)
    (hhandle : args.hasHandle = true) (hc : ¬ o.Connects) :
    Atomic o args handle ↔ ¬ o.Registers := by
  obtain ⟨hret, hworld⟩ : (qmiCtrlPointInit o (.before handle)).1 ≠ .success ∧
      (qmiCtrlPointInit o (.before handle)).2 =
        { World.before handle with alive := if o.Registers then [.notifier] else [] } :=
    qmiCtrlPointInit_fails hc
  have hbody : openCallBody o args (.before handle) = qmiCtrlPointInit o (.before handle) := by
    rw [openCallBody, hcallback]
    dsimp only
    rw [if_neg (by simp [hhandle]), if_pos hret]
  have hret' : (openCall o args (.before handle)).1 ≠ .success := by
    rw [openCall, hbody]
    exact hret
  have hworld' : (openCall o args (.before handle)).2 =
      { World.before handle with alive := if o.Registers then [.notifier] else [] } := by
    rw [openCall, hbody]
    dsimp only
    rw [hworld]
    by_cases hr : o.Registers <;> simp [hr, World.free]
  rw [atomic_iff_of_failed hret', hworld']
  by_cases hr : o.Registers <;> simp [hr, World.before]

/-- Questions that are not answered. -/
theorem not_atomic_unanswered {eventCb : ℕ} (hcallback : args.callback = some eventCb)
    (hhandle : args.hasHandle = true) (hc : o.Connects) (ha : ¬ o.Answers) :
    ¬ Atomic o args handle := by
  have hopen : Resource.wdsClient ∈ ({ World.before handle with
      alive := .wdsClient :: if o.KeepsNotifier then [.notifier] else [] } : World).alive :=
    List.mem_cons_self
  obtain ⟨hret, hmem⟩ := queryProfiles_fails ha hopen
  have hbody : openCallBody o args (.before handle) =
      ((queryProfiles o { World.before handle with
        alive := .wdsClient :: if o.KeepsNotifier then [.notifier] else [] }).1,
      (queryProfiles o { World.before handle with
        alive := .wdsClient :: if o.KeepsNotifier then [.notifier] else [] }).2.2) := by
    rw [openCallBody, hcallback]
    dsimp only
    rw [if_neg (by simp [hhandle]), qmiCtrlPointInit_connects hc]
    dsimp only
    rw [if_neg (by simp), if_pos hret]
  refine not_atomic (r := .wdsClient) ?_ (mem_alive_openCall (by decide) (by decide) ?_)
  · rw [openCall, hbody]
    exact hret
  · rw [hbody]
    exact hmem

/-- **The call is atomic** if and only if the outcomes are of these kinds. -/
theorem atomic_iff (o : Outcomes) (args : Args) (handle : Option ℕ) :
    Atomic o args handle ↔ Clean o args handle := by
  by_cases hargs : args.callback = none ∨ args.hasHandle = false
  · exact iff_of_true (atomic_arguments hargs) (.arguments hargs)
  obtain ⟨hno, hhas⟩ := not_or.mp hargs
  obtain ⟨eventCb, hcallback⟩ := Option.ne_none_iff_exists'.mp hno
  have hhandle : args.hasHandle = true := by simpa using hhas
  by_cases hc : o.Connects
  · by_cases ha : o.Answers
    · rcases hf : o.found with _ | profile
      · rw [atomic_notFound hcallback hhandle hc ha hf]
        constructor
        · rintro ⟨hr, hn⟩
          exact .notFound hc ha hr hn hf
        · rintro (h | ⟨hc', -⟩ | ⟨-, -, -, hf', -, -⟩ | ⟨-, -, hr, hn, -⟩ | ⟨-, -, hr, hn, -, -⟩)
          · exact absurd h hargs
          · exact absurd hc hc'
          · simp [hf] at hf'
          · exact ⟨hr, hn⟩
          · exact ⟨hr, hn⟩
      · have hfound : o.found.isSome := by simp [hf]
        rcases hs : o.session with _ | a
        · rw [atomic_noMemory hcallback hhandle hc ha hfound hs]
          constructor
          · rintro ⟨hr, hn, hh⟩
            exact .noMemory hc ha hr hn hs hh
          · rintro (h | ⟨hc', -⟩ | ⟨-, -, -, -, hs', -⟩ | ⟨-, -, -, -, hf'⟩ | ⟨-, -, hr, hn, -, hh⟩)
            · exact absurd h hargs
            · exact absurd hc hc'
            · simp [hs] at hs'
            · simp [hf] at hf'
            · exact ⟨hr, hn, hh⟩
        · have hsession : o.session.isSome := by simp [hs]
          rw [atomic_session hcallback hhandle hc ha hfound hsession]
          constructor
          · rintro ⟨hr, hd⟩
            exact .opened hc ha hr hfound hsession hd
          · rintro (h | ⟨hc', -⟩ | ⟨-, -, hr, -, -, hd⟩ | ⟨-, -, -, -, hf'⟩ | ⟨-, -, -, -, hs', -⟩)
            · exact absurd h hargs
            · exact absurd hc hc'
            · exact ⟨hr, hd⟩
            · simp [hf] at hf'
            · simp [hs] at hs'
    · refine iff_of_false (not_atomic_unanswered hcallback hhandle hc ha) ?_
      rintro (h | ⟨hc', -⟩ | ⟨-, ha', -⟩ | ⟨-, ha', -⟩ | ⟨-, ha', -⟩)
      · exact hargs h
      · exact hc' hc
      all_goals exact ha ha'
  · rw [atomic_unconnected hcallback hhandle hc]
    constructor
    · exact .unconnected hc
    · rintro (h | ⟨-, hr⟩ | ⟨hc', -⟩ | ⟨hc', -⟩ | ⟨hc', -⟩)
      · exact absurd h hargs
      · exact hr
      all_goals exact absurd hc' hc

/-- The service is there, one profile supports emergency calls, and then there is no DSI handle. -/
def noDsiHandle : Outcomes where
  serviceObject := true
  firstList := some 1
  notifierInit := true
  turns _ := ⟨none, true, none⟩
  serviceInfo := true
  serviceList := true
  clientInit := true
  notifierRelease := true
  profileListResp := true
  profileListReq := true
  profileListSent := true
  profileListError := false
  profileList := [5]
  profileSettingsResp := true
  profileSettingsSent _ := true
  settings _ := ⟨false, true, true, true, .ipv4⟩
  clientRelease := true
  session := some 100
  dsiHandle := none

/-- The call says that one should retry later, and the handle is one of a session without DSI
handle, which is left behind. -/
theorem not_atomic_noDsiHandle : ¬ Atomic noDsiHandle ⟨some 7, true, 0⟩ none ∧
    (openCall noDsiHandle ⟨some 7, true, 0⟩ (.before none)).1 = .retryLater ∧
    (openCall noDsiHandle ⟨some 7, true, 0⟩ (.before none)).2.clientHandle = some 100 ∧
    (openCall noDsiHandle ⟨some 7, true, 0⟩ (.before none)).2.alive = [.sessionData] := by
  have hcall : (openCall noDsiHandle ⟨some 7, true, 0⟩ (.before none)).1 = .retryLater ∧
      (openCall noDsiHandle ⟨some 7, true, 0⟩ (.before none)).2.clientHandle = some 100 ∧
      (openCall noDsiHandle ⟨some 7, true, 0⟩ (.before none)).2.alive = [.sessionData] := by
    refine ⟨rfl, rfl, ?_⟩
    decide
  refine ⟨fun h => ?_, hcall⟩
  have hkept := (h.failure (by rw [hcall.1]; decide)).1
  rw [hcall.2.1] at hkept
  cases hkept

end OppoA37.DsClient
