import OppoA37.Gps.LocEng.EngineThread

/-!
# A muted session stays muted

An NI request with `GPS_NI_PRIVACY_OVERRIDE` mutes the next session: the mute state waits for a
session to begin or the engine to go on, and from then on until the session ends or the engine
goes off no position, SV, measurement or status is to reach the framework.

The NI handler does not look at the mute state before it sets it back to waiting. So a second
such request, while the session is muted already, lets the framework hear it again. That is
the only way: `muted_run` says so of every run without such a request.
-/

namespace OppoA37.LocEng

open Lts

variable {d d' : LocEngData} {msg : Msg} {out : List Out}

/-- Messages that report the end of a session, or that the engine is off. -/
def ends : Msg → Bool
  | .reportStatus mStatus => mStatus = sessionEnd || mStatus = engineOff
  | .engineDown => true
  | _ => false

/-- Messages that report the begin of a session, or that the engine is on. -/
def begins : Msg → Bool
  | .reportStatus mStatus => mStatus = sessionBegin || mStatus = engineOn
  | _ => false

theorem ends_reportStatus (mStatus : GpsStatusValue) : ends (.reportStatus mStatus) =
    (decide (mStatus = sessionEnd) || decide (mStatus = engineOff)) := rfl

theorem begins_reportStatus (mStatus : GpsStatusValue) : begins (.reportStatus mStatus) =
    (decide (mStatus = sessionBegin) || decide (mStatus = engineOn)) := rfl

/-- Is there a muted session, which began when the mute state was waiting for it? -/
def muted (v : Bool) (e : Event LocEngData Msg Out) : Bool :=
  !ends e.label && (v || (begins e.label && e.pre.muteSessionState = .wait))

/-- An NI request that mutes a session while one is muted already. -/
def MutesAgain (d : LocEngData) (msg : Msg) : Prop :=
  d.muteSessionState = .inSession ∧ ∃ notif, msg = .ni (.request notif) ∧
    notif.privacyOverride = true ∧ d.ni.niNotifyCb = true ∧ d.ni.pSession notif ≠ none

/-- A payload is freed or placed in a message; nobody is muted. -/
theorem not_mute_of_takes {r : ℕ} {v : Ni.Response} {raw : Option ℕ}
    {m : Option (Ni.Response × ℕ)} {o : List Ni.Out} (h : Ni.Takes r v raw m o) :
    Ni.Out.mute ∉ o := by
  cases h <;> simp

/-- Of all moves only a request that is accepted and overrides privacy mutes a session. -/
theorem request_of_mute_move {s s' : Ni.Sys} {label : Ni.Label} {o : List Ni.Out}
    (hmove : Ni.Move s label s' o) (hmute : Ni.Out.mute ∈ o) :
    ∃ notif, label = .request notif ∧ notif.privacyOverride = true ∧
      s.pSession notif ≠ none := by
  cases hmove with
  | accepted notif w hw i hi =>
    refine ⟨notif, rfl, ?_, by simp [hw]⟩
    by_contra hno
    simp [hno] at hmute
  | leaves r w pc timedOut v msg out ht hpc hv htakes =>
    have := not_mute_of_takes htakes
    simp [this] at hmute
  | _ => simp at hmute

/-- The same of the steps, for which the callback has to be set as well. -/
theorem request_of_mute {s s' : Ni.Sys} {label : Ni.Label} {o : List Ni.Out}
    (hs : Ni.machine.step s label = some (s', o)) (hmute : Ni.Out.mute ∈ o) :
    ∃ notif, label = .request notif ∧ notif.privacyOverride = true ∧ s.niNotifyCb = true ∧
      s.pSession notif ≠ none := by
  by_cases hcb : s.niNotifyCb = true
  · obtain ⟨notif, hl, hoverride, hw⟩ := request_of_mute_move (Ni.move_of_step hcb hs) hmute
    exact ⟨notif, hl, hoverride, hcb, hw⟩
  · -- without a callback a request and a restart do nothing, and the rest are moves still
    have hcb' : (!s.niNotifyCb) = true := by simpa using hcb
    exfalso
    cases label with
    | request notif =>
      have hs' : s.requestHandler notif = (s', o) := Option.some.inj hs
      simp only [Ni.Sys.requestHandler, hcb', if_true, Prod.mk.injEq] at hs'
      simp [← hs'.2] at hmute
    | restart =>
      have hs' : s.resetOnEngineRestart = (s', o) := Option.some.inj hs
      simp only [Ni.Sys.resetOnEngineRestart, hcb', if_true, Prod.mk.injEq] at hs'
      simp [← hs'.2] at hmute
    | deliver =>
      have hs' : s.deliver = some (s', o) := hs
      rw [Ni.Sys.deliver] at hs'
      split at hs'
      · cases hs'
      · obtain ⟨-, rfl⟩ := Prod.mk.inj (Option.some.inj hs')
        simp at hmute
    | respond c id v =>
      simp only [Ni.machine] at hs
      split at hs
      · obtain ⟨-, rfl⟩ := Prod.mk.inj (Option.some.inj hs)
        simp at hmute
      · cases hs
    | call c =>
      obtain ⟨_, hl, -⟩ := request_of_mute_move (Ni.move_call hs) hmute
      cases hl
    | run r =>
      obtain ⟨_, hl, -⟩ := request_of_mute_move (Ni.move_thread false hs) hmute
      cases hl
    | timeOut r =>
      obtain ⟨_, hl, -⟩ := request_of_mute_move (Ni.move_thread true hs) hmute
      cases hl

/-! ## What a message does to a muted session -/

/-- Once a session is muted, `mute_session_state` says so. -/
def InSession (v : Bool) (d : LocEngData) : Prop := v = true → d.muteSessionState = .inSession

/-- A status report that neither ends nor is needed to begin a muted session: it stays muted. -/
theorem switchedMute_of_inSession (h : d.muteSessionState = .inSession) {status : GpsStatusValue}
    (hend : status ≠ sessionEnd) (hoff : status ≠ engineOff) :
    d.switchedMute status = .inSession := by
  simp [LocEngData.switchedMute, h, hend, hoff]

/-- A status report that begins the session that was waited for. -/
theorem switchedMute_of_wait (h : d.muteSessionState = .wait) {status : GpsStatusValue}
    (hbegin : status = sessionBegin ∨ status = engineOn) :
    d.switchedMute status = .inSession := by
  have hends : ¬ (status = sessionEnd ∨ status = engineOff) := by
    rcases hbegin with rfl | rfl <;> decide
  simp [LocEngData.switchedMute, h, hbegin, hends]

/-- A status report is not handed on while the session is muted. -/
theorem locEngReportStatus_of_muted {status : GpsStatusValue}
    (h : d.switchedMute status = .inSession) : (d.locEngReportStatus status).2 = [] := by
  simp [LocEngData.locEngReportStatus, h]

/-- Deleting aiding data is no callback. -/
theorem not_isCallback_update (d : LocEngData) :
    ∀ o ∈ d.updateAidingDataForDeletion.2, o.isCallback = false := by
  rw [LocEngData.updateAidingDataForDeletion]
  split_ifs <;> simp [Out.isCallback]

/-- Deleting aiding data leaves the mute state. -/
@[simp] theorem muteSessionState_update (d : LocEngData) :
    d.updateAidingDataForDeletion.1.muteSessionState = d.muteSessionState := by
  rw [LocEngData.updateAidingDataForDeletion]
  split_ifs <;> rfl

/-- Only a status report begins a muted session. -/
theorem muted_of_not_report {v : Bool} {e : Event LocEngData Msg Out} (h : muted v e = true)
    (hrep : ∀ mStatus, e.label ≠ .reportStatus mStatus) : v = true := by
  have hbegins : begins e.label = false := by
    cases hl : e.label with
    | reportStatus mStatus => exact absurd hl (hrep mStatus)
    | _ => rfl
  rw [muted, hbegins, Bool.false_and, Bool.or_false] at h
  exact (Bool.and_eq_true_iff.mp h).2

/-- A status report with which a session is muted leaves it muted. -/
theorem switchedMute_of_muted {v : Bool} {e : Event LocEngData Msg Out} (hI : InSession v e.pre)
    {mStatus : GpsStatusValue} (hl : e.label = .reportStatus mStatus) (h : muted v e = true) :
    e.pre.switchedMute mStatus = .inSession := by
  rw [muted, hl, ends_reportStatus, begins_reportStatus] at h
  simp only [Bool.and_eq_true, Bool.not_eq_true', Bool.or_eq_false_iff,
    decide_eq_false_iff_not, Bool.or_eq_true, decide_eq_true_eq] at h
  obtain ⟨⟨hend, hoff⟩, hv | ⟨hbegin, hwait⟩⟩ := h
  · exact switchedMute_of_inSession (hI hv) hend hoff
  · exact switchedMute_of_wait hwait hbegin

/-- **One message.** A message that does not mute a muted session again leaves it muted and
makes no callback, unless it ends the session. -/
theorem InSession.step {v : Bool} {e : Event LocEngData Msg Out} (hI : InSession v e.pre)
    (hok : ¬ MutesAgain e.pre e.label) (hs : machine.step e.pre e.label = some (e.post, e.out)) :
    InSession (muted v e) e.post ∧ (muted v e = true → ∀ o ∈ e.out, o.isCallback = false) := by
  have hswitched {mStatus : GpsStatusValue} (hl : e.label = .reportStatus mStatus)
      (h : muted v e = true) : e.pre.switchedMute mStatus = .inSession :=
    switchedMute_of_muted hI hl h
  have hstay (hrep : ∀ mStatus, e.label ≠ .reportStatus mStatus) (h : muted v e = true) :
      e.pre.muteSessionState = .inSession := hI (muted_of_not_report h hrep)
  obtain ⟨pre, msg, out, post⟩ := e
  have hmove : Handles pre msg post out := handles_of_step hs
  cases hmove with
  | request mType =>
    refine ⟨fun h => ?_, fun _ => not_isCallback_update _⟩
    have hin := hstay (by simp) h
    rw [← hin]
    exact muteSessionState_update { pre with aidingDataForDeletion := mType }
  | report mStatus =>
    refine ⟨fun h => ?_, fun h o ho => ?_⟩
    · have hin := hswitched rfl h
      rw [← hin]
      exact muteSessionState_update (pre.locEngReportStatus mStatus).1
    · -- only aiding data may be deleted
      have hsilent : o ∉ (pre.locEngReportStatus mStatus).2 := by
        rw [locEngReportStatus_of_muted (hswitched rfl h)]
        exact List.not_mem_nil
      rcases List.mem_append.mp ho with ho | ho
      · exact absurd ho hsilent
      · exact not_isCallback_update _ o ho
  | down =>
    -- the session ends here
    have hends : muted v ⟨pre, .engineDown, pre.handleEngineDown.2, pre.handleEngineDown.1⟩ =
        false := rfl
    rw [hends]
    exact ⟨fun h => absurd h Bool.false_ne_true, fun h => absurd h Bool.false_ne_true⟩
  | ni label ni o hni =>
    refine ⟨fun h => ?_, fun _ => by simp [Out.isCallback]⟩
    have hin := hstay (by simp) h
    have hno : Ni.Out.mute ∉ o := by
      intro hmute
      obtain ⟨notif, rfl, hoverride, hcb, hw⟩ := request_of_mute hni hmute
      exact hok ⟨hin, notif, rfl, hoverride, hcb, hw⟩
    simp only [if_neg hno]
    exact hin
  | quiet hdel hrep hdown hquiet =>
    refine ⟨fun h => ?_, fun h => hquiet.muted (hstay hrep h)⟩
    rw [hquiet.muteSessionState]
    exact hstay hrep h

/-- **A muted session stays muted.** In a run in which no request mutes a session that is muted
already, no position, SV, measurement or status callback is made while a session is muted. -/
theorem muted_run {h : List (Event LocEngData Msg Out)} {d₀ : LocEngData}
    (hrun : Run machine d₀ h d) (hok : ∀ e ∈ h, ¬ MutesAgain e.pre e.label) :
    Watched muted false (fun v e => muted v e = true → ∀ o ∈ e.out, o.isCallback = false) h := by
  refine Run.watched_of (Q := fun _ e => ¬ MutesAgain e.pre e.label) InSession ?_ ?_ hrun
    (watched_const.mpr hok)
  · intro hno
    cases hno
  · exact fun v e hI hQ hs => hI.step hQ hs

/-- A request that overrides privacy, of any type. -/
def overrides (niType : Ni.NiType) : Msg := .ni (.request ⟨niType, true, 0⟩)

/-- A request mutes the session that begins when the engine goes on, and its satellites are not
reported. -/
theorem muted_run_sv : ∃ h e, Run machine afterInit (h ++ [e]) e.post ∧
    h.map Event.label = [.niInit, overrides .umtsSupl, .reportStatus engineOn] ∧
    e.label = .reportSv ∧ muted (watch muted false h) e = true ∧
    ∀ o ∈ e.out, o.isCallback = false := by
  obtain ⟨h, e, hrun, hl, hle, hcheck⟩ := machine.exists_run_last afterInit
    [.niInit, overrides .umtsSupl, .reportStatus engineOn] .reportSv
    (fun h e => muted (watch muted false h) e &&
      (h ++ [e]).all fun e => e.pre.muteSessionState != .inSession || e.label == .reportSv)
    (by decide +kernel)
  obtain ⟨hmuted, hall⟩ := Bool.and_eq_true_iff.mp hcheck
  refine ⟨h, e, hrun, hl, hle, hmuted, muted_run hrun ?_ h e [] rfl hmuted⟩
  rintro e' he' ⟨hin, notif, hni, -⟩
  have hno := List.all_eq_true.mp hall e' he'
  simp [hin, hni] at hno

/-- A second request, of an emergency, comes in while the session is muted: the satellites are
reported. -/
theorem muted_session_heard : ∃ h e, Run machine afterInit (h ++ [e]) e.post ∧
    h.map Event.label = [.niInit, overrides .umtsSupl, .reportStatus engineOn,
      overrides .emergencySupl] ∧
    e.label = .reportSv ∧ muted (watch muted false h) e = true ∧ Out.svStatus ∈ e.out := by
  obtain ⟨h, e, hrun, hl, hle, hcheck⟩ := machine.exists_run_last afterInit
    [.niInit, overrides .umtsSupl, .reportStatus engineOn, overrides .emergencySupl] .reportSv
    (fun h e => muted (watch muted false h) e && decide (Out.svStatus ∈ e.out))
    (by decide +kernel)
  obtain ⟨hmuted, hheard⟩ := Bool.and_eq_true_iff.mp hcheck
  exact ⟨h, e, hrun, hl, hle, hmuted, of_decide_eq_true hheard⟩

end OppoA37.LocEng
