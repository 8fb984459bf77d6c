import OppoA37.Hidl.Radio.Types

/-!
# The radio wrapper: requests of version 1.5

The wrapper announces version 1.5. A real radio of an older version gets what it can do, and
the framework is told of the rest that it is not supported.

* `Radio.request` is the methods that version 1.5 added, and those of earlier ones that they end
  in or that their answers depend on;
* `RadioResponse.answer` is how the answers to the calls that reach a real radio of version 1.0
  come up again;
* `radioMachine` closes the system. The framework has handed over its callbacks, and gives
  every request a serial of its own; only the two methods that set reporting criteria may be
  called again with the serial of their last call.
-/

namespace OppoA37.Hidl

open Lts

variable {R : Type}

/-- A request of the framework, without its serial. -/
inductive Request (R : Type) where
  | setSignalStrengthReportingCriteria_1_5 (signalThresholdInfo : R) (accessNetwork : ℤ)
  | setLinkCapacityReportingCriteria_1_5 (hysteresisMs hysteresisDlKbps hysteresisUlKbps : ℤ)
    (thresholdsDownlinkKbps thresholdsUplinkKbps : List ℤ) (accessNetwork : ℤ)
  | enableUiccApplications (enable : Bool)
  | areUiccApplicationsEnabled
  | setSystemSelectionChannels_1_5 (specifyChannels : Bool) (specifiers : List R)
  | startNetworkScan_1_5 (request : R)
  | setupDataCall_1_5 (accessNetwork : ℤ) (dataProfileInfo : V1_5.DataProfileInfo)
    (roamingAllowed : Bool) (reason : ℤ) (addresses : List LinkAddress) (dnses : List String)
  | setInitialAttachApn_1_5 (dataProfileInfo : V1_5.DataProfileInfo)
  | setDataProfile_1_5 (profiles : List V1_5.DataProfileInfo)
  | setRadioPower_1_5 (powerOn forEmergencyCall preferredForEmergencyCall : Bool)
  | setIndicationFilter_1_5 (indicationFilter : ℕ)
  | getBarringInfo
  | getVoiceRegistrationState_1_5
  | getDataRegistrationState_1_5
  | setNetworkSelectionModeManual_1_5 (operatorNumeric : String) (ran : ℤ)
  | sendCdmaSmsExpectMore (sms : R)
  | supplySimDepersonalization (persoType : ℤ) (controlKey : String)
  /- those of earlier versions -/
  | setupDataCall_1_4 (accessNetwork : ℤ) (dataProfileInfo : V1_4.DataProfileInfo)
    (roamingAllowed : Bool) (reason : ℤ) (addresses dnses : List String)
  | setInitialAttachApn_1_4 (dataProfileInfo : V1_4.DataProfileInfo)
  | setDataProfile_1_4 (profiles : List V1_4.DataProfileInfo)
  | getDataRegistrationState
  | getOperator
  deriving DecidableEq

/-- A call of the real radio, without its serial. -/
inductive RealCall (R : Type) where
  /-- the method that the framework called, on a real radio that has it -/
  | same (request : Request R)
  | setupDataCall_1_2 (accessNetwork : ℤ) (dataProfileInfo : V1_0.DataProfileInfo)
    (modemCognitive roamingAllowed isRoaming : Bool) (reason : ℤ) (addresses dnses : List String)
  | setupDataCall (radioTechnology : ℤ) (dataProfileInfo : V1_0.DataProfileInfo)
    (modemCognitive roamingAllowed isRoaming : Bool)
  | setInitialAttachApn (dataProfileInfo : V1_0.DataProfileInfo) (modemCognitive isRoaming : Bool)
  | setDataProfile (profiles : List V1_0.DataProfileInfo) (isRoaming : Bool)
  | setRadioPower (on : Bool)
  | setIndicationFilter (indicationFilter : ℕ)
  | getVoiceRegistrationState
  | getDataRegistrationState
  | getOperator
  | setNetworkSelectionModeManual (operatorNumeric : String)
  deriving DecidableEq

/-- An answer of a real radio of version 1.0, without its head. -/
inductive RealAnswer (R : Type) where
  | setupDataCallResponse (dcResponse : V1_0.SetupDataCallResult)
  | setInitialAttachApnResponse
  | setDataProfileResponse
  | setRadioPowerResponse
  | setIndicationFilterResponse
  | getVoiceRegistrationStateResponse (voiceRegResponse : V1_0.RegStateResult R)
  | getDataRegistrationStateResponse (dataRegResponse : V1_0.RegStateResult R)
  | getOperatorResponse (longName shortName numeric : String)
  | setNetworkSelectionModeManualResponse
  deriving DecidableEq

/-- An answer to the framework, without its head. -/
inductive Response (R : Type) where
  | setSignalStrengthReportingCriteriaResponse_1_5
  | setLinkCapacityReportingCriteriaResponse_1_5
  | enableUiccApplicationsResponse
  | areUiccApplicationsEnabledResponse (enabled : Bool)
  | setSystemSelectionChannelsResponse_1_5
  | startNetworkScanResponse_1_5
  | setupDataCallResponse_1_5 (dcResponse : V1_5.SetupDataCallResult)
  | setInitialAttachApnResponse_1_5
  | setDataProfileResponse_1_5
  | setRadioPowerResponse_1_5
  | setIndicationFilterResponse_1_5
  | getBarringInfoResponse (cellIdentity : V1_5.CellIdentity R) (barringInfos : List R)
  | getVoiceRegistrationStateResponse_1_5 (voiceRegResponse : V1_5.RegStateResult R)
  | getDataRegistrationStateResponse_1_5 (dataRegResponse : V1_5.RegStateResult R)
  | getOperatorResponse (longName shortName numeric : String)
  | setNetworkSelectionModeManualResponse_1_5
  /-- with an empty `SendSmsResult` -/
  | sendCdmaSmsExpectMoreResponse
  | supplySimDepersonalizationResponse (persoType remainingRetries : ℤ)
  deriving DecidableEq

/-- What the wrapper shows. -/
inductive RadioOut (R : Type) where
  /-- a call of the real radio -/
  | call (serial : ℤ) (realCall : RealCall R)
  /-- an answer to the framework -/
  | respond (info : RadioResponseInfo) (response : Response R)
  /-- the caller gets `EX_ILLEGAL_STATE` -/
  | illegalState
  deriving DecidableEq

/-- What `Radio` and `RadioResponse` remember. -/
structure RadioState where
  /-- `mLastSignalCriteriaSerial` -/
  mLastSignalCriteriaSerial : ℤ := -1
  /-- `mLastLinkCapacitySerial` -/
  mLastLinkCapacitySerial : ℤ := -1
  /-- `mRat` -/
  mRat : ℤ := RadioTechnology.UNKNOWN
  /-- `mDataRoaming` -/
  mDataRoaming : Bool := false
  /-- `mOperatorNumeric` -/
  mOperatorNumeric : String := ""
  deriving DecidableEq, Repr

/-! ## Requests -/

/-- `NotSupported` -/
def NotSupported (serial : ℤ) : RadioResponseInfo :=
  ⟨SOLICITED, serial, RadioError.REQUEST_NOT_SUPPORTED⟩

namespace Radio

/-- `V1_2::IRadio::castFrom(mRealRadio)` -/
def getRealRadio_V1_2 (radio : Radio) : Option RealRadio :=
  radio.mRealRadio.filter fun realRadio => decide (2 ≤ realRadio.minor)

/-- `V1_5::IRadio::castFrom(mRealRadio)` -/
def getRealRadio_V1_5 (radio : Radio) : Option RealRadio :=
  radio.mRealRadio.filter fun realRadio => decide (5 ≤ realRadio.minor)

/-- `WRAP_V1_0_CALL` -/
def wrap (radio : Radio) (serial : ℤ) (realCall : RealCall R) : List (RadioOut R) :=
  match radio.mRealRadio with
  | some _ => [.call serial realCall]
  | none => [.illegalState]

/-- `Radio::setupDataCall_1_4` -/
def setupDataCall_1_4 (radio : Radio) (m : RadioState) (serial accessNetwork : ℤ)
    (dataProfileInfo : V1_4.DataProfileInfo) (roamingAllowed : Bool) (reason : ℤ)
    (addresses dnses : List String) : List (RadioOut R) :=
  match radio.getRealRadio_V1_4, radio.getRealRadio_V1_2 with
  | some _, _ => [.call serial (.same (.setupDataCall_1_4 accessNetwork dataProfileInfo
      roamingAllowed reason addresses dnses))]
  | none, some _ => [.call serial (.setupDataCall_1_2 accessNetwork
      (Get1_0DataProfileInfo dataProfileInfo) dataProfileInfo.persistent roamingAllowed
      m.mDataRoaming reason addresses dnses)]
  | none, none => radio.wrap serial (.setupDataCall m.mRat (Get1_0DataProfileInfo dataProfileInfo)
      dataProfileInfo.persistent roamingAllowed m.mDataRoaming)

/-- `Radio::setInitialAttachApn_1_4` -/
def setInitialAttachApn_1_4 (radio : Radio) (m : RadioState) (serial : ℤ)
    (dataProfileInfo : V1_4.DataProfileInfo) : List (RadioOut R) :=
  match radio.getRealRadio_V1_4 with
  | some _ => [.call serial (.same (.setInitialAttachApn_1_4 dataProfileInfo))]
  | none => radio.wrap serial (.setInitialAttachApn (Get1_0DataProfileInfo dataProfileInfo)
      dataProfileInfo.persistent m.mDataRoaming)

/-- The profiles that `setDataProfile_1_4` hands on. -/
def legacyProfiles (profiles : List V1_4.DataProfileInfo) : List V1_0.DataProfileInfo :=
  (profiles.filter (·.persistent)).map Get1_0DataProfileInfo

/-- `Radio::setDataProfile_1_4` -/
def setDataProfile_1_4 (radio : Radio) (m : RadioState) (serial : ℤ)
    (profiles : List V1_4.DataProfileInfo) : List (RadioOut R) :=
  match radio.getRealRadio_V1_4 with
  | some _ => [.call serial (.same (.setDataProfile_1_4 profiles))]
  | none =>
    if legacyProfiles profiles ≠ [] then
      radio.wrap serial (.setDataProfile (legacyProfiles profiles) m.mDataRoaming)
    -- `return Void()`: nobody answers
    else []

/-- How both methods that set criteria go on behind `MAYBE_WRAP_V1_5_CALL`; `last` is the serial
that the method remembers, and comes back as it is then. -/
def reportingCriteria (last serial : ℤ) (response : Response R) : ℤ × List (RadioOut R) :=
  if serial = last then (last, []) else (serial, [.respond (NotSupported serial) response])

/-- What the methods of version 1.5 do behind `MAYBE_WRAP_V1_5_CALL`, and those of earlier
versions. -/
def older (radio : Radio) (m : RadioState) (serial : ℤ) :
    Request R → RadioState × List (RadioOut R)
  | .setSignalStrengthReportingCriteria_1_5 _ _ =>
    let r := reportingCriteria m.mLastSignalCriteriaSerial serial
      .setSignalStrengthReportingCriteriaResponse_1_5
    ({ m with mLastSignalCriteriaSerial := r.1 }, r.2)
  | .setLinkCapacityReportingCriteria_1_5 _ _ _ _ _ _ =>
    let r := reportingCriteria m.mLastLinkCapacitySerial serial
      .setLinkCapacityReportingCriteriaResponse_1_5
    ({ m with mLastLinkCapacitySerial := r.1 }, r.2)
  | .enableUiccApplications _ =>
    (m, [.respond (NotSupported serial) .enableUiccApplicationsResponse])
  | .areUiccApplicationsEnabled =>
    (m, [.respond (NotSupported serial) (.areUiccApplicationsEnabledResponse true)])
  | .setSystemSelectionChannels_1_5 _ _ =>
    (m, [.respond (NotSupported serial) .setSystemSelectionChannelsResponse_1_5])
  | .startNetworkScan_1_5 _ =>
    (m, [.respond (NotSupported serial) .startNetworkScanResponse_1_5])
  | .setupDataCall_1_5 accessNetwork dataProfileInfo roamingAllowed reason addresses dnses =>
    (m, radio.setupDataCall_1_4 m serial accessNetwork (To1_4DataProfileInfo dataProfileInfo)
      roamingAllowed reason (addresses.map (·.address)) dnses)
  | .setInitialAttachApn_1_5 dataProfileInfo =>
    (m, radio.setInitialAttachApn_1_4 m serial (To1_4DataProfileInfo dataProfileInfo))
  | .setDataProfile_1_5 profiles =>
    (m, radio.setDataProfile_1_4 m serial (profiles.map To1_4DataProfileInfo))
  | .setRadioPower_1_5 powerOn _ _ => (m, radio.wrap serial (.setRadioPower powerOn))
  | .setIndicationFilter_1_5 indicationFilter =>
    (m, radio.wrap serial (.setIndicationFilter (indicationFilter &&& 0x1F)))
  | .getBarringInfo =>
    (m, [.respond (NotSupported serial) (.getBarringInfoResponse .noinit [])])
  | .getVoiceRegistrationState_1_5 => (m, radio.wrap serial .getVoiceRegistrationState)
  | .getDataRegistrationState_1_5 => (m, radio.wrap serial .getDataRegistrationState)
  | .setNetworkSelectionModeManual_1_5 operatorNumeric _ =>
    (m, radio.wrap serial (.setNetworkSelectionModeManual operatorNumeric))
  | .sendCdmaSmsExpectMore _ =>
    (m, [.respond (NotSupported serial) .sendCdmaSmsExpectMoreResponse])
  | .supplySimDepersonalization persoType _ =>
    (m, [.respond (NotSupported serial) (.supplySimDepersonalizationResponse persoType (-1))])
  | .setupDataCall_1_4 accessNetwork dataProfileInfo roamingAllowed reason addresses dnses =>
    (m, radio.setupDataCall_1_4 m serial accessNetwork dataProfileInfo roamingAllowed reason
      addresses dnses)
  | .setInitialAttachApn_1_4 dataProfileInfo =>
    (m, radio.setInitialAttachApn_1_4 m serial dataProfileInfo)
  | .setDataProfile_1_4 profiles => (m, radio.setDataProfile_1_4 m serial profiles)
  | .getDataRegistrationState => (m, radio.wrap serial .getDataRegistrationState)
  | .getOperator => (m, radio.wrap serial .getOperator)

/-- Did an earlier version have the method? -/
def isOlder : Request R → Bool
  | .setupDataCall_1_4 .. | .setInitialAttachApn_1_4 _ | .setDataProfile_1_4 _
  | .getDataRegistrationState | .getOperator => true
  | _ => false

/-- A method of `Radio`. -/
def request (radio : Radio) (m : RadioState) (serial : ℤ) (request : Request R) :
    RadioState × List (RadioOut R) :=
  -- `MAYBE_WRAP_V1_5_CALL` comes first in every method that 1.5 added
  if radio.getRealRadio_V1_5.isSome ∧ isOlder request = false then
    (m, [.call serial (.same request)])
  else radio.older m serial request

end Radio

/-! ## Answers -/

/-- A callback of `RadioResponse`. -/
def RadioResponse.answer (m : RadioState) (info : RadioResponseInfo) :
    RealAnswer R → RadioState × List (RadioOut R)
  | .setupDataCallResponse dcResponse =>
    (m, [.respond info (.setupDataCallResponse_1_5 (Create1_5SetupDataCallResult dcResponse))])
  | .setInitialAttachApnResponse => (m, [.respond info .setInitialAttachApnResponse_1_5])
  | .setDataProfileResponse => (m, [.respond info .setDataProfileResponse_1_5])
  | .setRadioPowerResponse => (m, [.respond info .setRadioPowerResponse_1_5])
  | .setIndicationFilterResponse => (m, [.respond info .setIndicationFilterResponse_1_5])
  | .getVoiceRegistrationStateResponse voiceRegResponse =>
    (m, [.respond info
      (.getVoiceRegistrationStateResponse_1_5 (voiceRegResponse.raise m.mOperatorNumeric))])
  | .getDataRegistrationStateResponse dataRegResponse =>
    -- the error of `info` is not looked at
    ({ m with mDataRoaming := dataRegResponse.regState = .regRoaming, mRat := dataRegResponse.rat },
      [.respond info
        (.getDataRegistrationStateResponse_1_5 (dataRegResponse.raise m.mOperatorNumeric))])
  | .getOperatorResponse longName shortName numeric =>
    ({ m with mOperatorNumeric := if numeric ≠ "" then numeric else m.mOperatorNumeric },
      [.respond info (.getOperatorResponse longName shortName numeric)])
  | .setNetworkSelectionModeManualResponse =>
    (m, [.respond info .setNetworkSelectionModeManualResponse_1_5])

/-! ## The closed system -/

/-- The methods of a real radio of version 1.0 that the wrapper calls. -/
inductive RealMethod where
  | setupDataCall
  | setInitialAttachApn
  | setDataProfile
  | setRadioPower
  | setIndicationFilter
  | getVoiceRegistrationState
  | getDataRegistrationState
  | getOperator
  | setNetworkSelectionModeManual
  deriving DecidableEq, Repr

/-- The method that is called, when version 1.0 has it. -/
def RealCall.method : RealCall R → Option RealMethod
  | .same _ => none
  | .setupDataCall_1_2 .. => none
  | .setupDataCall .. => some .setupDataCall
  | .setInitialAttachApn .. => some .setInitialAttachApn
  | .setDataProfile .. => some .setDataProfile
  | .setRadioPower _ => some .setRadioPower
  | .setIndicationFilter _ => some .setIndicationFilter
  | .getVoiceRegistrationState => some .getVoiceRegistrationState
  | .getDataRegistrationState => some .getDataRegistrationState
  | .getOperator => some .getOperator
  | .setNetworkSelectionModeManual _ => some .setNetworkSelectionModeManual

/-- The method that is answered. -/
def RealAnswer.method : RealAnswer R → RealMethod
  | .setupDataCallResponse _ => .setupDataCall
  | .setInitialAttachApnResponse => .setInitialAttachApn
  | .setDataProfileResponse => .setDataProfile
  | .setRadioPowerResponse => .setRadioPower
  | .setIndicationFilterResponse => .setIndicationFilter
  | .getVoiceRegistrationStateResponse _ => .getVoiceRegistrationState
  | .getDataRegistrationStateResponse _ => .getDataRegistrationState
  | .getOperatorResponse .. => .getOperator
  | .setNetworkSelectionModeManualResponse => .setNetworkSelectionModeManual

/-- A call that a real radio of version 1.0 will answer. -/
def RadioOut.awaited : RadioOut R → Option (ℤ × RealMethod)
  | .call serial realCall => realCall.method.map fun method => (serial, method)
  | _ => none

/-- The serial of an answer to the framework. -/
def RadioOut.answers : RadioOut R → Option ℤ
  | .respond info _ => some info.serial
  | _ => none

/-- The two methods that set reporting criteria. -/
inductive Criteria where
  | signalStrength
  | linkCapacity
  deriving DecidableEq, Repr

/-- Which criteria does a request set? -/
def Request.criteria : Request R → Option Criteria
  | .setSignalStrengthReportingCriteria_1_5 .. => some .signalStrength
  | .setLinkCapacityReportingCriteria_1_5 .. => some .linkCapacity
  | _ => none

/-- The serial that the wrapper remembers of the last criteria. -/
def RadioState.last (m : RadioState) : Criteria → ℤ
  | .signalStrength => m.mLastSignalCriteriaSerial
  | .linkCapacity => m.mLastLinkCapacitySerial

/-- The wrapper between the framework and the real radio. -/
structure RadioService where
  /-- what the wrapper remembers -/
  state : RadioState := {}
  /-- the serials the framework has used -/
  requested : List ℤ := []
  /-- the serial of the last call that set criteria -/
  lastCriteria : Criteria → Option ℤ := fun _ => none
  /-- the calls of the real radio that have no answer yet -/
  pending : List (ℤ × RealMethod) := []

/-- Who acts: the framework asks, or the real radio answers. -/
inductive RadioLabel (R : Type) where
  /-- a request -/
  | request (serial : ℤ) (request : Request R)
  /-- an answer -/
  | answer (info : RadioResponseInfo) (answer : RealAnswer R)
  deriving DecidableEq

/-- May the framework make the request with that serial? -/
def RadioService.Legal (w : RadioService) (serial : ℤ) (request : Request R) : Prop :=
  serial ∉ w.requested ∨ ∃ c ∈ request.criteria, w.lastCriteria c = some serial

instance (w : RadioService) (serial : ℤ) (request : Request R) :
    Decidable (w.Legal serial request) :=
  inferInstanceAs (Decidable (_ ∨ _))

/-- The last calls that set criteria, after a request. -/
def RadioService.note (w : RadioService) (serial : ℤ) (request : Request R) (c : Criteria) :
    Option ℤ :=
  if request.criteria = some c then some serial else w.lastCriteria c

/-- One step of the closed system. -/
def radioStep (radio : Radio) (w : RadioService) :
    RadioLabel R → Option (RadioService × List (RadioOut R))
  | .request serial request =>
    if w.Legal serial request then
      let r := radio.request w.state serial request
      some (⟨r.1, w.requested.insert serial, w.note serial request,
        r.2.filterMap RadioOut.awaited ++ w.pending⟩, r.2)
    else none
  | .answer info answer =>
    if (info.serial, answer.method) ∈ w.pending then
      let r := RadioResponse.answer w.state info answer
      some ({ w with state := r.1, pending := w.pending.erase (info.serial, answer.method) }, r.2)
    else none

/-- The wrapper over a given real radio. -/
def radioMachine (radio : Radio) : Machine RadioService (RadioLabel R) (RadioOut R) where
  step := radioStep radio

/-- The wrapper over a real radio of version 1.0. -/
def radioV1_0 : Radio := ⟨some ⟨0⟩⟩

@[simp] theorem wrap_radioV1_0 (serial : ℤ) (realCall : RealCall R) :
    radioV1_0.wrap serial realCall = [.call serial realCall] := rfl

/-- A real radio of version 1.0 is spared the newer methods. -/
@[simp] theorem request_radioV1_0 (m : RadioState) (serial : ℤ) (request : Request R) :
    radioV1_0.request m serial request = radioV1_0.older m serial request := rfl

/-- Profiles are handed on when one of them is persistent, and then the persistent ones. -/
theorem setDataProfile_1_4_radioV1_0 (m : RadioState) (serial : ℤ)
    (profiles : List V1_4.DataProfileInfo) :
    radioV1_0.setDataProfile_1_4 (R := R) m serial profiles =
      if ∃ p ∈ profiles, p.persistent = true then
        [.call serial (.setDataProfile (Radio.legacyProfiles profiles) m.mDataRoaming)]
      else [] := by
  have hdef : radioV1_0.setDataProfile_1_4 (R := R) m serial profiles =
      if Radio.legacyProfiles profiles ≠ [] then
        [.call serial (.setDataProfile (Radio.legacyProfiles profiles) m.mDataRoaming)]
      else [] := rfl
  have hne : Radio.legacyProfiles profiles ≠ [] ↔ ∃ p ∈ profiles, p.persistent = true := by
    simp [Radio.legacyProfiles]
  rw [hdef]
  exact if_congr hne rfl rfl

/-- An answer of the real radio comes up as one answer, with the same head. -/
theorem answer_out (m : RadioState) (info : RadioResponseInfo) (answer : RealAnswer R) :
    ∃ response, (RadioResponse.answer m info answer).2 = [.respond info response] := by
  cases answer <;> exact ⟨_, rfl⟩

/-! ## What a step does -/

section

variable {radio : Radio} {w w' : RadioService} {out : List (RadioOut R)}

/-- Inversion of a request. -/
theorem step_request_inv {serial : ℤ} {request : Request R}
    (hs : (radioMachine radio).step w (.request serial request) = some (w', out)) :
    w.Legal serial request ∧ out = (radio.request w.state serial request).2 ∧
      w' = ⟨(radio.request w.state serial request).1, w.requested.insert serial,
        w.note serial request, out.filterMap RadioOut.awaited ++ w.pending⟩ := by
  simp only [radioMachine, radioStep, Option.ite_none_right_eq_some, Option.some.injEq,
    Prod.mk.injEq] at hs
  obtain ⟨hlegal, rfl, rfl⟩ := hs
  exact ⟨hlegal, rfl, rfl⟩

/-- Inversion of an answer. -/
theorem step_answer_inv {info : RadioResponseInfo} {answer : RealAnswer R}
    (hs : (radioMachine radio).step w (.answer info answer) = some (w', out)) :
    (info.serial, answer.method) ∈ w.pending ∧
      out = (RadioResponse.answer w.state info answer).2 ∧
      w' = { w with state := (RadioResponse.answer w.state info answer).1, pending :=
        w.pending.erase (info.serial, answer.method) } := by
  simp only [radioMachine, radioStep, Option.ite_none_right_eq_some, Option.some.injEq,
    Prod.mk.injEq] at hs
  obtain ⟨hmem, rfl, rfl⟩ := hs
  exact ⟨hmem, rfl, rfl⟩

/-- Setting criteria makes their serial the last one. -/
@[simp] theorem reportingCriteria_fst (last serial : ℤ) (response : Response R) :
    (Radio.reportingCriteria last serial response).1 = serial := by
  rw [Radio.reportingCriteria]
  split
  · next heq => exact heq.symm
  · rfl

/-- What a request leaves of the serials that are remembered. -/
theorem last_request (m : RadioState) (serial : ℤ) (request : Request R) (c : Criteria) :
    (radioV1_0.request m serial request).1.last c =
      if request.criteria = some c then serial else m.last c := by
  rw [request_radioV1_0]
  cases request <;> cases c <;>
    simp [Radio.older, RadioState.last, Request.criteria]

/-- An answer leaves them alone. -/
theorem last_answer (m : RadioState) (info : RadioResponseInfo) (answer : RealAnswer R)
    (c : Criteria) : (RadioResponse.answer m info answer).1.last c = m.last c := by
  cases answer <;> cases c <;> rfl

end

end OppoA37.Hidl
