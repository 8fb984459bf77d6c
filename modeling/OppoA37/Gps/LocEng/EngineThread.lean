import OppoA37.Gps.Ni.Sessions
import OppoA37.Lib.Monitor

/-!
# The engine thread of `loc_eng.cpp`

The messages of the GPS engine are handled one after another by one thread. The ones modelled
here use four things they share: the status of the engine, the aiding data that waits for the
engine to be off before it can be deleted, whether the session is muted, and whether a fix is
navigating. A message is a label of the machine; what `proc()` hands to the framework or to the
adapter is its output.

The steps of the NI sessions are labels as well: only the request handler touches the engine,
when it mutes a session, but whether it does depends on the sessions.
-/

namespace OppoA37.LocEng

open Lts

/-- `GpsStatusValue`. -/
abbrev GpsStatusValue := UInt16

/-- `GPS_STATUS_NONE` -/
abbrev statusNone : GpsStatusValue := 0

/-- `GPS_STATUS_SESSION_BEGIN` -/
abbrev sessionBegin : GpsStatusValue := 1

/-- `GPS_STATUS_SESSION_END` -/
abbrev sessionEnd : GpsStatusValue := 2

/-- `GPS_STATUS_ENGINE_ON` -/
abbrev engineOn : GpsStatusValue := 3

/-- `GPS_STATUS_ENGINE_OFF` -/
abbrev engineOff : GpsStatusValue := 4

/-- `GpsAidingData`, a mask. -/
abbrev GpsAidingData := BitVec 16

/-- `LocPosTechMask` -/
abbrev LocPosTechMask := BitVec 32

/-- `LOC_POS_TECH_MASK_SATELLITE | LOC_POS_TECH_MASK_SENSORS | LOC_POS_TECH_MASK_HYBRID` -/
def finalTechMask : LocPosTechMask := 0x00000001 ||| 0x00000008 ||| 0x00000080

/-- `loc_sess_status` -/
inductive SessStatus where
  | success
  | intermediate
  | failure
  deriving DecidableEq, Repr

/-- `loc_mute_session_e_type` -/
inductive MuteSession where
  | none
  | wait
  | inSession
  deriving DecidableEq, Repr

/-- What the handlers read and write of `loc_eng_data_s_type` and its adapter. -/
structure LocEngData where
  /-- `location_cb` is set -/
  locationCb : Bool
  /-- `sv_status_cb` is set -/
  svStatusCb : Bool
  /-- `status_cb` is set -/
  statusCb : Bool
  /-- `gps_measurement_cb` is set -/
  gpsMeasurementCb : Bool := false
  /-- `intermediateFix`, from `INTERMEDIATE_POS` -/
  intermediateFix : ℕ := 0
  /-- `ACCURACY_THRES` -/
  accuracyThres : ℕ := 0
  /-- `engine_status` -/
  engineStatus : GpsStatusValue := statusNone
  /-- `fix_session_status` -/
  fixSessionStatus : GpsStatusValue := statusNone
  /-- `aiding_data_for_deletion` -/
  aidingDataForDeletion : GpsAidingData := 0
  /-- `mute_session_state` -/
  muteSessionState : MuteSession := .none
  /-- `adapter->isInSession()` -/
  isInSession : Bool := false
  /-- `adapter->getPositionMode().recurrence` is `GPS_POSITION_RECURRENCE_SINGLE` -/
  singleShot : Bool := false
  /-- `loc_eng_ni_data` -/
  ni : Ni.Sys := {}

/-- What a message shows to the outside. -/
inductive Out where
  /-- `location_cb`, without a location if the fix has failed -/
  | location (failed : Bool)
  /-- `sv_status_cb` -/
  | svStatus
  /-- `gps_measurement_cb` -/
  | measurement
  /-- `status_cb` -/
  | status (status : GpsStatusValue)
  /-- `adapter->deleteAidingData` -/
  | deleteAidingData (mask : GpsAidingData)
  /-- `adapter->startFix` -/
  | startFix
  /-- `adapter->stopFix` -/
  | stopFix
  /-- a `LocEngStartFix` message is sent -/
  | sendStartFix
  /-- a step of the NI sessions -/
  | ni (out : Ni.Out)
  deriving DecidableEq, Repr

/-- The messages of the engine thread, and the steps of others that it depends on. -/
inductive Msg where
  /-- `LocEngReportPosition`; `accuracy` is there if `GPS_LOCATION_HAS_ACCURACY` is -/
  | reportPosition (mStatus : SessStatus) (mTechMask : LocPosTechMask) (accuracy : Option ℚ)
  /-- `LocEngReportSv` -/
  | reportSv
  /-- `LocEngReportGpsMeasurement` -/
  | reportGpsMeasurement
  /-- `LocEngReportStatus` -/
  | reportStatus (mStatus : GpsStatusValue)
  /-- `LocEngDelAidData` -/
  | delAidData (mType : GpsAidingData)
  /-- `LocEngStartFix`, with what `startFix` returns -/
  | startFix (ret : ℕ)
  /-- `LocEngStopFix` -/
  | stopFix
  /-- `LocEngPositionMode` -/
  | positionMode (singleShot : Bool)
  /-- `LocEngDown` -/
  | engineDown
  /-- `LocEngUp` -/
  | engineUp
  /-- `loc_eng_gps_measurement_init` and `loc_eng_gps_measurement_close` -/
  | gpsMeasurementCb (isSet : Bool)
  /-- `loc_eng_ni_init` -/
  | niInit
  /-- a step of the NI sessions -/
  | ni (label : Ni.Label)
  deriving DecidableEq

namespace LocEngData

variable (d : LocEngData)

/-- `update_aiding_data_for_deletion` -/
def updateAidingDataForDeletion : LocEngData × List Out :=
  if d.engineStatus ≠ engineOn ∧ d.aidingDataForDeletion ≠ 0 then
    ({ d with aidingDataForDeletion := 0 }, [.deleteAidingData d.aidingDataForDeletion])
  else (d, [])

/-- `LocEngDelAidData::proc` -/
def delAidData (mType : GpsAidingData) : LocEngData × List Out :=
  updateAidingDataForDeletion { d with aidingDataForDeletion := mType }

/-- `mute_session_state` after the two switches of `loc_eng_report_status`. -/
def switchedMute (status : GpsStatusValue) : MuteSession :=
  let muted :=
    if (status = sessionBegin ∨ status = engineOn) ∧ d.muteSessionState = .wait then .inSession
    else d.muteSessionState
  if muted = .inSession ∧ (status = sessionEnd ∨ status = engineOff) then .none else muted

/-- `loc_inform_gps_status` -/
def informGpsStatus (status : GpsStatusValue) : List Out :=
  if d.statusCb then [.status status] else []

/-- `loc_eng_report_status` -/
def locEngReportStatus (status : GpsStatusValue) : LocEngData × List Out :=
  let mute := d.switchedMute status
  let out :=
    if status ≠ statusNone ∧ ¬ (status = sessionEnd ∧ d.isInSession) ∧
        ¬ (status = sessionBegin ∧ !d.isInSession) ∧ mute ≠ .inSession then
      d.informGpsStatus status
    else []
  ({ d with
      muteSessionState := mute
      engineStatus :=
        if status = engineOn ∨ status = engineOff then status else d.engineStatus
      fixSessionStatus :=
        if status = sessionBegin ∨ status = sessionEnd then status else d.fixSessionStatus },
    out)

/-- `LocEngReportStatus::proc` -/
def reportStatus (mStatus : GpsStatusValue) : LocEngData × List Out :=
  let (d, out) := d.locEngReportStatus mStatus
  let (d, out') := d.updateAidingDataForDeletion
  (d, out ++ out')

/-- Is the fix handed to `location_cb`? -/
def accepts (mStatus : SessStatus) (mTechMask : LocPosTechMask) (accuracy : Option ℚ) : Bool :=
  d.locationCb &&
    (mStatus = .failure ||
      (mStatus = .success && mTechMask &&& finalTechMask != 0) ||
      -- LOC_SESS_INTERMEDIATE
      (d.intermediateFix = 1 &&
        !(d.accuracyThres ≠ 0 && accuracy.any fun a => decide (a > (d.accuracyThres : ℚ)))))

/-- `LocEngReportPosition::proc` -/
def reportPosition (mStatus : SessStatus) (mTechMask : LocPosTechMask) (accuracy : Option ℚ) :
    LocEngData × List Out :=
  if d.muteSessionState ≠ .inSession then
    if d.accepts mStatus mTechMask accuracy then
      if d.singleShot then
        ({ d with isInSession := false },
          .location (mStatus = .failure) :: if mStatus = .intermediate then [.stopFix] else [])
      else (d, [.location (mStatus = .failure)])
    else (d, [])
  else (d, [])

/-- `LocEngReportSv::proc` -/
def reportSv : List Out :=
  if d.muteSessionState ≠ .inSession ∧ d.svStatusCb then [.svStatus] else []

/-- `LocEngReportGpsMeasurement::proc` -/
def reportGpsMeasurement : List Out :=
  if d.muteSessionState ≠ .inSession ∧ d.gpsMeasurementCb then [.measurement] else []

/-- `loc_eng_start_handler`: these errors start a session as well. -/
def startHandler (ret : ℕ) : LocEngData × List Out :=
  if d.isInSession then (d, [])
  else
    -- LOC_API_ADAPTER_ERR_SUCCESS, _PHONE_OFFLINE and _ENGINE_DOWN, _INTERNAL
    ({ d with isInSession := decide (ret = 0 ∨ ret = 7 ∨ ret = 10) }, [.startFix])

/-- `loc_eng_stop_handler` -/
def stopHandler : LocEngData × List Out :=
  if d.isInSession then ({ d with isInSession := false }, [.stopFix]) else (d, [])

/-- `loc_eng_handle_engine_down` -/
def handleEngineDown : LocEngData × List Out :=
  let (ni, out) := d.ni.resetOnEngineRestart
  let (d, out') := locEngReportStatus { d with ni } engineOff
  (d, out.map .ni ++ out')

/-- `loc_eng_handle_engine_up`: a fix that was navigating is started again. -/
def handleEngineUp : LocEngData × List Out :=
  if d.isInSession then ({ d with isInSession := false }, [.sendStartFix]) else (d, [])

/-- A step of the NI sessions. They are reset by `handleEngineDown` only. -/
def niStep (label : Ni.Label) : Option (LocEngData × List Out) :=
  if label = .restart then none
  else (Ni.machine.step d.ni label).map fun (ni, out) =>
    ({ d with
        ni
        muteSessionState := if .mute ∈ out then .wait else d.muteSessionState },
      out.map .ni)

end LocEngData

/-- The machine of the engine thread. -/
def machine : Machine LocEngData Msg Out where
  step d
    | .reportPosition mStatus mTechMask accuracy =>
      some (d.reportPosition mStatus mTechMask accuracy)
    | .reportSv => some (d, d.reportSv)
    | .reportGpsMeasurement => some (d, d.reportGpsMeasurement)
    | .reportStatus mStatus => some (d.reportStatus mStatus)
    | .delAidData mType => some (d.delAidData mType)
    | .startFix ret => some (d.startHandler ret)
    | .stopFix => some d.stopHandler
    | .positionMode singleShot => some ({ d with singleShot }, [])
    | .engineDown => some d.handleEngineDown
    | .engineUp => some d.handleEngineUp
    | .gpsMeasurementCb isSet => some ({ d with gpsMeasurementCb := isSet }, [])
    | .niInit => some ({ d with ni := d.ni.niInit }, [])
    | .ni label => d.niStep label

/-- A state that `loc_eng_init` leaves behind: no status, nothing to delete, not muted. -/
def Fresh (d : LocEngData) : Prop :=
  d.engineStatus = statusNone ∧ d.fixSessionStatus = statusNone ∧ d.aidingDataForDeletion = 0 ∧
    d.muteSessionState = .none ∧ d.isInSession = false

/-- An engine with all three callbacks of `loc_eng_init`. -/
def afterInit : LocEngData where
  locationCb := true
  svStatusCb := true
  statusCb := true

/-! ## What a message can do -/

/-- A position, SV, measurement or status callback to the framework. -/
def Out.isCallback : Out → Bool
  | .location _ | .svStatus | .measurement | .status _ => true
  | .deleteAidingData _ | .startFix | .stopFix | .sendStartFix | .ni _ => false

/-- A mask is passed to `deleteAidingData`. -/
def Deletes (out : List Out) (mask : GpsAidingData) : Prop := Out.deleteAidingData mask ∈ out

/-- What the messages do that only report or steer a fix: the status of the engine, the mute
state and the aiding data stay, and a muted session hears nothing. -/
structure Quiet (d d' : LocEngData) (out : List Out) : Prop where
  engineStatus : d'.engineStatus = d.engineStatus
  aidingDataForDeletion : d'.aidingDataForDeletion = d.aidingDataForDeletion
  muteSessionState : d'.muteSessionState = d.muteSessionState
  not_deletes : ∀ mask, ¬ Deletes out mask
  muted : d.muteSessionState = .inSession → ∀ o ∈ out, o.isCallback = false

section

variable {d d' : LocEngData} {msg : Msg} {out : List Out}

/-- A message that changes nothing here and shows nothing. -/
theorem Quiet.silent (h : d'.engineStatus = d.engineStatus)
    (h' : d'.aidingDataForDeletion = d.aidingDataForDeletion)
    (h'' : d'.muteSessionState = d.muteSessionState) : Quiet d d' [] :=
  ⟨h, h', h'', fun _ hmem => absurd hmem List.not_mem_nil,
    fun _ _ hmem => absurd hmem List.not_mem_nil⟩

theorem quiet_reportPosition (mStatus : SessStatus) (mTechMask : LocPosTechMask)
    (accuracy : Option ℚ) : Quiet d (d.reportPosition mStatus mTechMask accuracy).1
      (d.reportPosition mStatus mTechMask accuracy).2 := by
  rw [LocEngData.reportPosition]
  split_ifs with hmute
  all_goals first
    | exact Quiet.silent rfl rfl rfl
    | exact ⟨rfl, rfl, rfl, by simp [Deletes], fun h => absurd h hmute⟩

theorem quiet_reportSv : Quiet d d d.reportSv := by
  rw [LocEngData.reportSv]
  split_ifs with hmute
  · exact ⟨rfl, rfl, rfl, by simp [Deletes], fun h => absurd h hmute.1⟩
  · exact Quiet.silent rfl rfl rfl

theorem quiet_reportGpsMeasurement : Quiet d d d.reportGpsMeasurement := by
  rw [LocEngData.reportGpsMeasurement]
  split_ifs with hmute
  · exact ⟨rfl, rfl, rfl, by simp [Deletes], fun h => absurd h hmute.1⟩
  · exact Quiet.silent rfl rfl rfl

theorem quiet_startHandler (ret : ℕ) : Quiet d (d.startHandler ret).1 (d.startHandler ret).2 := by
  rw [LocEngData.startHandler]
  split_ifs
  · exact Quiet.silent rfl rfl rfl
  · exact ⟨rfl, rfl, rfl, by simp [Deletes], fun _ => by simp [Out.isCallback]⟩

theorem quiet_stopHandler : Quiet d d.stopHandler.1 d.stopHandler.2 := by
  rw [LocEngData.stopHandler]
  split_ifs
  · exact ⟨rfl, rfl, rfl, by simp [Deletes], fun _ => by simp [Out.isCallback]⟩
  · exact Quiet.silent rfl rfl rfl

theorem quiet_handleEngineUp : Quiet d d.handleEngineUp.1 d.handleEngineUp.2 := by
  rw [LocEngData.handleEngineUp]
  split_ifs
  · exact ⟨rfl, rfl, rfl, by simp [Deletes], fun _ => by simp [Out.isCallback]⟩
  · exact Quiet.silent rfl rfl rfl

/-- The messages by what they do. -/
inductive Handles (d : LocEngData) : Msg → LocEngData → List Out → Prop where
  /-- aiding data is to be deleted -/
  | request (mType : GpsAidingData) :
    Handles d (.delAidData mType) (d.delAidData mType).1 (d.delAidData mType).2
  /-- a status report -/
  | report (mStatus : GpsStatusValue) :
    Handles d (.reportStatus mStatus) (d.reportStatus mStatus).1 (d.reportStatus mStatus).2
  /-- the modem restarts -/
  | down : Handles d .engineDown d.handleEngineDown.1 d.handleEngineDown.2
  /-- a step of the NI sessions -/
  | ni (label : Ni.Label) (ni : Ni.Sys) (out : List Ni.Out)
    (hs : Ni.machine.step d.ni label = some (ni, out)) :
    Handles d (.ni label)
      { d with ni, muteSessionState := if .mute ∈ out then .wait else d.muteSessionState }
      (out.map .ni)
  /-- any other message -/
  | quiet {msg : Msg} {d' : LocEngData} {out : List Out}
    (hdel : ∀ mType, msg ≠ .delAidData mType) (hrep : ∀ mStatus, msg ≠ .reportStatus mStatus)
    (hdown : msg ≠ .engineDown) (hquiet : Quiet d d' out) : Handles d msg d' out

/-- Every message is one of these. -/
theorem handles_of_step (hs : machine.step d msg = some (d', out)) : Handles d msg d' out := by
  have hquiet {p : LocEngData × List Out} (hdel : ∀ mType, msg ≠ .delAidData mType)
      (hrep : ∀ mStatus, msg ≠ .reportStatus mStatus) (hdown : msg ≠ .engineDown)
      (heq : p = (d', out)) (h : Quiet d p.1 p.2) : Handles d msg d' out := by
    subst heq
    exact .quiet hdel hrep hdown h
  cases msg with
  | delAidData mType =>
    obtain ⟨rfl, rfl⟩ := Prod.mk.inj (Option.some.inj hs)
    exact .request mType
  | reportStatus mStatus =>
    obtain ⟨rfl, rfl⟩ := Prod.mk.inj (Option.some.inj hs)
    exact .report mStatus
  | engineDown =>
    obtain ⟨rfl, rfl⟩ := Prod.mk.inj (Option.some.inj hs)
    exact .down
  | ni label =>
    have hs' : d.niStep label = some (d', out) := hs
    rw [LocEngData.niStep] at hs'
    split at hs'
    · cases hs'
    · obtain ⟨⟨ni, o⟩, hni, heq⟩ := Option.map_eq_some_iff.mp hs'
      obtain ⟨rfl, rfl⟩ := Prod.mk.inj heq
      exact .ni label ni o hni
  | reportPosition mStatus mTechMask accuracy =>
    exact hquiet (by simp) (by simp) (by simp) (Option.some.inj hs)
      (quiet_reportPosition mStatus mTechMask accuracy)
  | reportSv => exact hquiet (by simp) (by simp) (by simp) (Option.some.inj hs) quiet_reportSv
  | reportGpsMeasurement =>
    exact hquiet (by simp) (by simp) (by simp) (Option.some.inj hs) quiet_reportGpsMeasurement
  | startFix ret =>
    exact hquiet (by simp) (by simp) (by simp) (Option.some.inj hs) (quiet_startHandler ret)
  | stopFix => exact hquiet (by simp) (by simp) (by simp) (Option.some.inj hs) quiet_stopHandler
  | engineUp =>
    exact hquiet (by simp) (by simp) (by simp) (Option.some.inj hs) quiet_handleEngineUp
  | positionMode _ | gpsMeasurementCb _ | niInit =>
    exact hquiet (by simp) (by simp) (by simp) (Option.some.inj hs) (.silent rfl rfl rfl)

/-- A status report hands out no mask by itself. -/
theorem not_deletes_locEngReportStatus (status : GpsStatusValue) (mask : GpsAidingData) :
    ¬ Deletes (d.locEngReportStatus status).2 mask := by
  simp only [Deletes, LocEngData.locEngReportStatus, LocEngData.informGpsStatus]
  split_ifs <;> simp

end

end OppoA37.LocEng
