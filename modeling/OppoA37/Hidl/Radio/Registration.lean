import OppoA37.Hidl.Radio.Requests
import OppoA37.Lib.Monitor

/-!
# Which registration does a data call carry?

A real radio of version 1.0 wants to be told the radio technology and whether the device
roams when it sets up a data call. The framework does not say so any more, and the wrapper
takes both from the last answer about the data registration — whether or not that answer
reported an error, when it has nothing to tell.

A monitor keeps the last answer and the last one without an error. `carried_iff` says that the
calls of the real radio carry the latter exactly when the two agree at every request that
needs them.
-/

namespace OppoA37.Hidl

open Lts

variable {R : Type}

/-- What a data call has to know of the registration. -/
@[ext] structure Registration where
  /-- the radio technology -/
  rat : ℤ := RadioTechnology.UNKNOWN
  /-- the device roams -/
  roaming : Bool := false
  deriving DecidableEq, Repr

/-- What an answer says of it. -/
def V1_0.RegStateResult.registration (r : V1_0.RegStateResult R) : Registration :=
  ⟨r.rat, r.regState = .regRoaming⟩

/-- What the wrapper remembers of it. -/
def RadioState.registration (m : RadioState) : Registration := ⟨m.mRat, m.mDataRoaming⟩

/-- The answers about the data registration. -/
structure Registrations where
  /-- the last one -/
  last : Registration := {}
  /-- the last one without an error -/
  sound : Registration := {}
  deriving DecidableEq, Repr

/-- The answers after one more step. -/
def Registrations.next (v : Registrations)
    (e : Event RadioService (RadioLabel R) (RadioOut R)) : Registrations :=
  match e.label with
  | .answer info (.getDataRegistrationStateResponse dataRegResponse) =>
    ⟨dataRegResponse.registration,
      if info.error = RadioError.NONE then dataRegResponse.registration else v.sound⟩
  | _ => v

/-- A call of the real radio carries the registration `g`, or what it wants of it. -/
def RealCall.Carries (g : Registration) : RealCall R → Prop
  | .setupDataCall radioTechnology _ _ _ isRoaming =>
    radioTechnology = g.rat ∧ isRoaming = g.roaming
  | .setupDataCall_1_2 _ _ _ _ isRoaming _ _ _ => isRoaming = g.roaming
  | .setInitialAttachApn _ _ isRoaming => isRoaming = g.roaming
  | .setDataProfile _ isRoaming => isRoaming = g.roaming
  | _ => True

/-- The registrations `l` and `g` agree in what a request needs of them. -/
def Request.Agree (l g : Registration) : Request R → Prop
  | .setupDataCall_1_5 .. | .setupDataCall_1_4 .. => l = g
  | .setInitialAttachApn_1_5 _ | .setInitialAttachApn_1_4 _ => l.roaming = g.roaming
  | .setDataProfile_1_5 profiles =>
    (∃ p ∈ profiles, p.persistent = true) → l.roaming = g.roaming
  | .setDataProfile_1_4 profiles =>
    (∃ p ∈ profiles, p.persistent = true) → l.roaming = g.roaming
  | _ => True

/-- The calls of a step carry the registration of the last answer without an error. -/
def Carried (v : Registrations) (e : Event RadioService (RadioLabel R) (RadioOut R)) : Prop :=
  ∀ serial realCall, .call serial realCall ∈ e.out → realCall.Carries v.sound

/-- A request finds that the last answer agrees with the last one without an error. -/
def Current (v : Registrations) (e : Event RadioService (RadioLabel R) (RadioOut R)) : Prop :=
  match e.label with
  | .request _ request => request.Agree v.last v.sound
  | .answer _ _ => True

/-! ## What the calls carry -/

/-- What holds of every call in the list of one. -/
theorem forall_call {p : RealCall R → Prop} {serial : ℤ} {realCall : RealCall R} :
    (∀ s c, .call s c ∈ [RadioOut.call serial realCall] → p c) ↔ p realCall := by
  simp

/-- Profiles carry the roaming flag, if any of them is handed on. -/
theorem setDataProfile_carries (m : RadioState) (serial : ℤ) (g : Registration)
    (profiles : List V1_4.DataProfileInfo) :
    (∀ s c, .call s c ∈ radioV1_0.setDataProfile_1_4 (R := R) m serial profiles → c.Carries g) ↔
      ((∃ p ∈ profiles, p.persistent = true) → m.mDataRoaming = g.roaming) := by
  rw [setDataProfile_1_4_radioV1_0]
  split_ifs with hsome
  · rw [forall_call, forall_prop_of_true hsome]
    rfl
  · simp [hsome]

/-- **What a request carries** is what the wrapper remembers. -/
theorem request_carries (m : RadioState) (serial : ℤ) (request : Request R) (g : Registration) :
    (∀ s c, .call s c ∈ (radioV1_0.request m serial request).2 → c.Carries g) ↔
      request.Agree m.registration g := by
  rw [request_radioV1_0]
  cases request with
  | setupDataCall_1_5 | setupDataCall_1_4 =>
    apply forall_call.trans
    simp [RealCall.Carries, Request.Agree, RadioState.registration, Registration.ext_iff]
  | setInitialAttachApn_1_5 | setInitialAttachApn_1_4 => exact forall_call
  | setDataProfile_1_5 profiles =>
    refine (setDataProfile_carries ..).trans ?_
    simp [Request.Agree, RadioState.registration]
  | setDataProfile_1_4 profiles => exact setDataProfile_carries ..
  -- criteria make no call
  | setSignalStrengthReportingCriteria_1_5 | setLinkCapacityReportingCriteria_1_5 =>
    refine iff_of_true ?_ trivial
    intro s c hmem
    simp only [Radio.older, Radio.reportingCriteria] at hmem
    split at hmem <;> simp at hmem
  | enableUiccApplications | areUiccApplicationsEnabled | setSystemSelectionChannels_1_5
  | startNetworkScan_1_5 | getBarringInfo | sendCdmaSmsExpectMore | supplySimDepersonalization =>
    refine iff_of_true ?_ trivial
    simp [Radio.older]
  -- the others carry nothing of it
  | setRadioPower_1_5 | setIndicationFilter_1_5 | getVoiceRegistrationState_1_5
  | getDataRegistrationState_1_5 | setNetworkSelectionModeManual_1_5 | getDataRegistrationState
  | getOperator =>
    exact forall_call

/-- What an answer leaves of the registration that is remembered. -/
theorem registration_answer (v : Registrations) (w : RadioService)
    (e : Event RadioService (RadioLabel R) (RadioOut R))
    (info : RadioResponseInfo) (answer : RealAnswer R) (hl : e.label = .answer info answer)
    (hI : w.state.registration = v.last) :
    (RadioResponse.answer w.state info answer).1.registration = (v.next e).last := by
  rw [Registrations.next, hl]
  cases answer with
  | getDataRegistrationStateResponse dataRegResponse => rfl
  | _ => exact hI

/-- A request leaves it alone. -/
theorem registration_request (m : RadioState) (serial : ℤ) (request : Request R) :
    (radioV1_0.request m serial request).1.registration = m.registration := by
  cases request <;> rfl

section

variable {w : RadioService} {h : List (Event RadioService (RadioLabel R) (RadioOut R))}

/-- The wrapper remembers the last answer, and a step carries the last one without an error
exactly when it finds the two to agree. -/
theorem step_carried {v : Registrations} {e : Event RadioService (RadioLabel R) (RadioOut R)}
    (hI : e.pre.state.registration = v.last)
    (hs : (radioMachine radioV1_0).step e.pre e.label = some (e.post, e.out)) :
    e.post.state.registration = (v.next e).last ∧ (Carried v e ↔ Current v e) := by
  rcases hl : e.label with ⟨serial, request⟩ | ⟨info, answer⟩
  · rw [hl] at hs
    obtain ⟨-, hout, hpost⟩ := step_request_inv hs
    constructor
    · rw [hpost, Registrations.next, hl]
      exact (registration_request ..).trans hI
    · rw [Carried, Current, hout, hl, request_carries, hI]
  · rw [hl] at hs
    obtain ⟨-, hout, hpost⟩ := step_answer_inv hs
    constructor
    · rw [hpost]
      exact registration_answer v e.pre e info answer hl hI
    · -- an answer makes no call
      obtain ⟨response, hresponse⟩ := answer_out e.pre.state info answer
      rw [Carried, Current, hout, hl, hresponse]
      simp

/-- **Data calls carry the real registration** exactly when every request that needs it finds
that the last answer about it, if that one reported an error, says the same as the last one
without an error. -/
theorem carried_iff (hr : Run (radioMachine radioV1_0) {} h w) :
    Watched Registrations.next {} Current h ↔ Watched Registrations.next {} Carried h := by
  refine hr.watched_congr (fun v w => w.state.registration = v.last) (fun _ _ => True) rfl
    ?_ ?_ fun _ _ => trivial
  · intro v e hI _ hcurrent hs
    obtain ⟨hpost, hiff⟩ := step_carried hI hs
    exact ⟨hpost, hiff.mpr hcurrent⟩
  · intro v e hI _ hstale hs
    exact mt (step_carried hI hs).2.mp hstale

end

/-- Where no cell is known. -/
def noCell : V1_0.CellIdentity Unit := ⟨[], [], [], [], []⟩

/-- The device roams, an answer says so, and the attach profile does. -/
theorem carried_roaming : ∃ h w, Run (radioMachine radioV1_0) {} h w ∧ h.map Event.label =
      [.request 1 .getDataRegistrationState_1_5,
        .answer ⟨SOLICITED, 1, RadioError.NONE⟩
          (.getDataRegistrationStateResponse ⟨.regRoaming, 14, 0, noCell⟩),
        .request 2 (.setInitialAttachApn_1_5 (internetProfile true))] ∧
      Watched Registrations.next {} Carried h := by
  obtain ⟨h, w, hr, hl, hcheck⟩ := (radioMachine radioV1_0).exists_run {}
    [.request 1 .getDataRegistrationState_1_5,
      .answer ⟨SOLICITED, 1, RadioError.NONE⟩
        (.getDataRegistrationStateResponse ⟨.regRoaming, 14, 0, noCell⟩),
      .request 2 (.setInitialAttachApn_1_5 (internetProfile true))]
    (fun h _ => checkWatched Registrations.next (fun v _ => decide (v.last = v.sound)) {} h)
    (by decide)
  refine ⟨h, w, hr, hl, (carried_iff hr).mp ((watched_of_check hcheck).mono fun e _ v heq => ?_)⟩
  rw [Current, of_decide_eq_true heq]
  split
  · next request _ => cases request <;> simp [Request.Agree]
  · trivial

/-- On LTE, an answer fails with nothing to tell. The data call that follows names an unknown
technology. -/
theorem failed_answer_carried : ∃ h w, Run (radioMachine radioV1_0) {} h w ∧
      h.map Event.label =
        [.request 1 .getDataRegistrationState_1_5,
          .answer ⟨SOLICITED, 1, RadioError.NONE⟩
            (.getDataRegistrationStateResponse ⟨.regHome, 14, 0, noCell⟩),
          .request 2 .getDataRegistrationState_1_5,
          .answer ⟨SOLICITED, 2, RadioError.RADIO_NOT_AVAILABLE⟩
            (.getDataRegistrationStateResponse ⟨.unknown, 0, 0, noCell⟩),
          .request 3 (.setupDataCall_1_5 3 (internetProfile true) true 1 [] [])] ∧
      ¬ Watched Registrations.next {} Carried h := by
  obtain ⟨h, e, hr, hl, hlast, hcheck⟩ := (radioMachine radioV1_0).exists_run_last {}
    [.request 1 .getDataRegistrationState_1_5,
      .answer ⟨SOLICITED, 1, RadioError.NONE⟩
        (.getDataRegistrationStateResponse ⟨.regHome, 14, 0, noCell⟩),
      .request 2 .getDataRegistrationState_1_5,
      .answer ⟨SOLICITED, 2, RadioError.RADIO_NOT_AVAILABLE⟩
        (.getDataRegistrationStateResponse ⟨.unknown, 0, 0, noCell⟩)]
    (.request 3 (.setupDataCall_1_5 3 (internetProfile true) true 1 [] []))
    (fun h e => decide ((watch Registrations.next {} h).sound = ⟨14, false⟩) &&
      decide (e.out = [.call 3 (.setupDataCall RadioTechnology.UNKNOWN
        (Get1_0DataProfileInfo (To1_4DataProfileInfo (internetProfile true))) true true false)]))
    (by decide)
  simp only [Bool.and_eq_true, decide_eq_true_iff] at hcheck
  refine ⟨h ++ [e], _, hr, by simp [hl, hlast], ?_⟩
  intro hall
  have hcarried := (watched_snoc.mp hall).2
  rw [Carried, hcheck.1, hcheck.2, forall_call] at hcarried
  exact absurd hcarried.1 (by decide)

end OppoA37.Hidl
