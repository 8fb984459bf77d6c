import OppoA37.Gps.Core.LocApiBase
import OppoA37.Lib.BitMask

/-!
# The event mask of `LocApiV02`

The modem reports the events of a mask that it was given with `locClientOpen` or
`locClientRegisterEventMask`. The mask is `convertMask` of what the adapters ask for, and without a
session the bits for tracking are taken out of it:

* `open` opens the client, or registers the new mask if it is open;
* `startFix` and `stopFix` begin and end a session; `stopFix` leaves the mask alone while the
  engine is on, so that its end is reported;
* the message about the engine's end takes the bits out then;
* `close` closes the client, when the modem restarts.

All calls of the client succeed here. What `open` asks the modem besides is left out.
-/

namespace OppoA37.LocApiV02

open Lts BitMask OppoA37.LocCore

/-- `locClientEventMaskType` -/
abbrev QmiMask : Type := BitVec 64

/-- `LOC_API_ADAPTER_BIT_STATUS_REPORT` -/
def LOC_API_ADAPTER_BIT_STATUS_REPORT : EventMask := 1 <<< 8

/-- `QMI_LOC_EVENT_MASK_POSITION_REPORT_V02` -/
def QMI_LOC_EVENT_MASK_POSITION_REPORT_V02 : QmiMask := 0x00000001

/-- `QMI_LOC_EVENT_MASK_GNSS_SV_INFO_V02` -/
def QMI_LOC_EVENT_MASK_GNSS_SV_INFO_V02 : QmiMask := 0x00000002

/-- `QMI_LOC_EVENT_MASK_NMEA_V02` -/
def QMI_LOC_EVENT_MASK_NMEA_V02 : QmiMask := 0x00000004

/-- `QMI_LOC_EVENT_MASK_ENGINE_STATE_V02` -/
def QMI_LOC_EVENT_MASK_ENGINE_STATE_V02 : QmiMask := 0x00000080

/-- `QMI_LOC_EVENT_MASK_GNSS_MEASUREMENT_REPORT_V02` -/
def QMI_LOC_EVENT_MASK_GNSS_MEASUREMENT_REPORT_V02 : QmiMask := 0x01000000

/-- The tests of `convertMask`, and the bits that they add. -/
def convertRows : List (EventMask × QmiMask) :=
  [(1 <<< 0, QMI_LOC_EVENT_MASK_POSITION_REPORT_V02), -- PARSED_POSITION_REPORT
    (1 <<< 1, QMI_LOC_EVENT_MASK_GNSS_SV_INFO_V02), -- SATELLITE_REPORT
    (1 <<< 3 ||| 1 <<< 2, QMI_LOC_EVENT_MASK_NMEA_V02), -- NMEA_POSITION_REPORT, NMEA_1HZ_REPORT
    (1 <<< 4, 0x00000008), -- NI_NOTIFY_VERIFY_REQUEST
    (1 <<< 5, 0x00000020 ||| 0x00000010 ||| 0x00000040), -- ASSISTANCE_DATA_REQUEST
    (LOC_API_ADAPTER_BIT_STATUS_REPORT, QMI_LOC_EVENT_MASK_ENGINE_STATE_V02),
    (1 <<< 6, 0x00002000), -- LOCATION_SERVER_REQUEST
    -- four tests are made with the index of an event, and not with its bit
    (9, 0x00000200), -- REQUEST_WIFI
    (10, 0x00000400), -- SENSOR_STATUS
    (11, 0x00000800), -- REQUEST_TIME_SYNC
    (12, 0x00001000), -- REPORT_SPI
    (1 <<< 13, 0x00004000), -- REPORT_NI_GEOFENCE
    (1 <<< 14, 0x00008000), -- GEOFENCE_GEN_ALERT
    (1 <<< 15, 0x00010000), -- REPORT_GENFENCE_BREACH
    (1 <<< 21, 0x00400000), -- BATCHED_GENFENCE_BREACH_REPORT
    (1 <<< 26, 0x20000000), -- REPORT_GENFENCE_DWELL
    -- and so are these three
    (16, 0x00020000), -- PEDOMETER_CTRL
    (17, 0x00040000), -- MOTION_CTRL
    (18, 0x00200000), -- REQUEST_WIFI_AP_DATA
    (1 <<< 19, 0x00080000), -- BATCH_FULL
    (1 <<< 20, 0x00100000), -- BATCHED_POSITION_REPORT
    (1 <<< 22, 0x08000000), -- GDT_UPLOAD_BEGIN_REQ
    (1 <<< 23, 0x10000000), -- GDT_UPLOAD_END_REQ
    (1 <<< 24, QMI_LOC_EVENT_MASK_GNSS_MEASUREMENT_REPORT_V02), -- GNSS_MEASUREMENT
    (1 <<< 25, 0x40000000)] -- REQUEST_TIMEZONE

/-- `convertMask` -/
def convertMask (mask : EventMask) : QmiMask := translate convertRows mask 0

/-- `clearMask` in `adjustMaskForNoSession` -/
def clearMask : QmiMask :=
  QMI_LOC_EVENT_MASK_POSITION_REPORT_V02 ||| QMI_LOC_EVENT_MASK_GNSS_SV_INFO_V02 |||
    QMI_LOC_EVENT_MASK_NMEA_V02 ||| QMI_LOC_EVENT_MASK_ENGINE_STATE_V02 |||
    QMI_LOC_EVENT_MASK_GNSS_MEASUREMENT_REPORT_V02

/-- `adjustMaskForNoSession` -/
def adjustMaskForNoSession (qmiMask : QmiMask) : QmiMask := qmiMask &&& ~~~clearMask

/-- Whoever asks for the status is told of the engine. -/
theorem engineState_within_convertMask {mask : EventMask}
    (h : mask &&& LOC_API_ADAPTER_BIT_STATUS_REPORT ≠ 0) :
    Within QMI_LOC_EVENT_MASK_ENGINE_STATE_V02 (convertMask mask) := by
  have hrow : (LOC_API_ADAPTER_BIT_STATUS_REPORT, QMI_LOC_EVENT_MASK_ENGINE_STATE_V02) ∈
      convertRows := by simp [convertRows]
  exact within_translate hrow h

/-- The end of the engine is one of the events for tracking. -/
theorem engineState_not_within_adjusted (qmiMask : QmiMask) :
    ¬ Within QMI_LOC_EVENT_MASK_ENGINE_STATE_V02 (adjustMaskForNoSession qmiMask) :=
  not_within_and_not (by decide) (by decide)

/-! ## The calls -/

/-- `LocApiV02`, without the members that do not concern the mask. -/
structure LocApi where
  /-- `mMask` -/
  mMask : EventMask := 0
  /-- `clientHandle` is valid -/
  isOpen : Bool := false
  /-- `mQmiMask` -/
  mQmiMask : QmiMask := 0
  /-- `mInSession` -/
  mInSession : Bool := false
  /-- `mEngineOn` -/
  mEngineOn : Bool := false
  deriving DecidableEq

/-- A call, or a message of the engine. -/
inductive LocCall where
  /-- `open` -/
  | openClient (mask : EventMask)
  /-- `startFix` -/
  | startFix
  /-- `stopFix` -/
  | stopFix
  /-- `MsgUpdateEngineState` -/
  | updateEngineState (engineOn : Bool)
  /-- `close` -/
  | close
  deriving DecidableEq

/-- A call of the client that concerns the mask. -/
inductive ClientCall where
  /-- `locClientOpen` -/
  | locClientOpen (qmiMask : QmiMask)
  /-- `locClientRegisterEventMask` -/
  | locClientRegisterEventMask (qmiMask : QmiMask)
  /-- `locClientClose` -/
  | locClientClose
  deriving DecidableEq

namespace LocApi

variable (mExcludedMask : EventMask) (this : LocApi)

/-- `registerEventMask` -/
def registerEventMask (qmiMask : QmiMask) : List ClientCall :=
  [.locClientRegisterEventMask
    (if this.mInSession then qmiMask else adjustMaskForNoSession qmiMask)]

/-- `newMask` in `open` -/
def newMask (mask : EventMask) : EventMask := this.mMask ||| (mask &&& ~~~mExcludedMask)

/-- `open` -/
def openClient (mask : EventMask) : LocApi × List ClientCall :=
  let newMask := this.newMask mExcludedMask mask
  let qmiMask := convertMask newMask
  if !this.isOpen then
    ({ this with isOpen := true, mMask := newMask, mQmiMask := qmiMask },
      [.locClientOpen (adjustMaskForNoSession qmiMask)])
  else if newMask ≠ this.mMask then
    ({ this with mMask := newMask, mQmiMask := qmiMask }, this.registerEventMask qmiMask)
  else (this, [])

/-- `close` -/
def close : LocApi × List ClientCall :=
  ({ this with mMask := 0, isOpen := false }, if this.isOpen then [.locClientClose] else [])

/-- `startFix` -/
def startFix : LocApi × List ClientCall :=
  let this := { this with mInSession := true }
  (this, this.registerEventMask this.mQmiMask)

/-- `stopFix` -/
def stopFix : LocApi × List ClientCall :=
  let this := { this with mInSession := false }
  (this, if !this.mEngineOn then this.registerEventMask this.mQmiMask else [])

/-- `MsgUpdateEngineState::proc` -/
def updateEngineState (engineOn : Bool) : LocApi × List ClientCall :=
  ({ this with mEngineOn := engineOn },
    if this.mEngineOn && !this.mInSession && !engineOn then this.registerEventMask this.mQmiMask
    else [])

/-- A call. -/
def run : LocCall → LocApi × List ClientCall
  | .openClient mask => this.openClient mExcludedMask mask
  | .startFix => this.startFix
  | .stopFix => this.stopFix
  | .updateEngineState engineOn => this.updateEngineState engineOn
  | .close => this.close

/-- The machine of the calls. -/
def machine : Machine LocApi LocCall ClientCall where
  step this call := some (this.run mExcludedMask call)

end LocApi

/-! ## What the mask should be -/

/-- What the calls so far amount to. -/
structure View where
  /-- the mask that the client was given last -/
  mask : QmiMask := 0
  /-- `startFix` was called, and `stopFix` not after it -/
  inSession : Bool := false
  /-- the engine was last reported to be on -/
  engineOn : Bool := false
  /-- the engine was on when `stopFix` was called, and still is -/
  windingDown : Bool := false
  deriving DecidableEq

/-- The mask after a call of the client. -/
def passed (mask : QmiMask) : ClientCall → QmiMask
  | .locClientOpen qmiMask => qmiMask
  | .locClientRegisterEventMask qmiMask => qmiMask
  | .locClientClose => mask

/-- The view after a call that passes on the mask `mask`. -/
def View.after (v : View) (mask : QmiMask) : LocCall → View
  | .openClient _ => { v with mask }
  | .startFix => { v with mask, inSession := true, windingDown := false }
  | .stopFix => { v with mask, inSession := false, windingDown := v.engineOn }
  | .updateEngineState engineOn =>
    { v with mask, engineOn, windingDown := v.windingDown && engineOn }
  | .close => { v with mask }

/-- The view after one more event. -/
def next (v : View) (e : Event LocApi LocCall ClientCall) : View :=
  v.after (e.out.foldl passed v.mask) e.label

/-- The adapters ask for the status. -/
def AsksStatus (mask : EventMask) : Prop := mask &&& LOC_API_ADAPTER_BIT_STATUS_REPORT ≠ 0

instance (mask : EventMask) : Decidable (AsksStatus mask) := inferInstanceAs (Decidable (_ ≠ _))

/-- The mask of an open client follows the session. -/
structure Follows (v : View) (this : LocApi) : Prop where
  /-- the client is given nothing that was not asked for -/
  within : Within v.mask (convertMask this.mMask)
  /-- all of it in a session -/
  session : v.inSession = true → v.mask = convertMask this.mMask
  /-- all but tracking without a session, when the engine is off -/
  idle : v.inSession = false → v.engineOn = false →
    v.mask = adjustMaskForNoSession (convertMask this.mMask)
  /-- the end of the engine, while that is still to come -/
  winding : v.windingDown = true → AsksStatus this.mMask →
    Within QMI_LOC_EVENT_MASK_ENGINE_STATE_V02 v.mask

/-- A call at which the mask does not go wrong. -/
def Keeps (mExcludedMask : EventMask) (v : View) (this : LocApi) : LocCall → Prop
  | .openClient mask =>
    -- the client is given another mask
    this.isOpen = false ∨ this.newMask mExcludedMask mask ≠ this.mMask →
      (this.isOpen = false → v.inSession = true →
        convertMask (this.newMask mExcludedMask mask) &&& clearMask = 0) ∧
      (v.windingDown = true → ¬ AsksStatus (this.newMask mExcludedMask mask))
  | .stopFix =>
    this.isOpen = true → v.inSession = false → v.engineOn = true → v.windingDown = false →
      ¬ AsksStatus this.mMask
  | _ => True

instance (mExcludedMask : EventMask) (v : View) (this : LocApi) (call : LocCall) :
    Decidable (Keeps mExcludedMask v this call) := by
  cases call with
  | openClient mask => exact inferInstanceAs (Decidable (_ → _))
  | stopFix => exact inferInstanceAs (Decidable (_ → _))
  | startFix => exact isTrue trivial
  | updateEngineState _ => exact isTrue trivial
  | close => exact isTrue trivial

/-- What the view and the object have in common. -/
structure Agrees (v : View) (this : LocApi) : Prop where
  inSession : v.inSession = this.mInSession
  engineOn : v.engineOn = this.mEngineOn
  windingDown : v.windingDown = true → v.inSession = false ∧ v.engineOn = true
  qmiMask : this.isOpen = true → this.mQmiMask = convertMask this.mMask
  session : this.isOpen = true → v.inSession = true → v.mask = convertMask this.mMask
  idle : this.isOpen = true → v.inSession = false → v.windingDown = false →
    v.mask = adjustMaskForNoSession (convertMask this.mMask)
  winding : this.isOpen = true → v.windingDown = true →
    Within v.mask (convertMask this.mMask) ∧
      (AsksStatus this.mMask → Within QMI_LOC_EVENT_MASK_ENGINE_STATE_V02 v.mask)

theorem adjusted_within (qmiMask : QmiMask) : Within (adjustMaskForNoSession qmiMask) qmiMask :=
  and_not_within _ _

variable {v : View} {this : LocApi} {mExcludedMask mask : EventMask}

/-- With the engine off nothing is winding down. -/
theorem Agrees.not_windingDown (hI : Agrees v this) (hoff : v.engineOn = false) :
    v.windingDown = false := by
  by_contra hno
  have hon : v.engineOn = true := (hI.windingDown (Bool.not_eq_false _ ▸ hno)).2
  exact Bool.false_ne_true (hoff.symm.trans hon)

/-- An open client has the mask it should have. -/
theorem Agrees.follows (hI : Agrees v this) (hopen : this.isOpen = true) : Follows v this where
  within := by
    by_cases hsession : v.inSession = true
    · rw [hI.session hopen hsession]
      exact within_refl _
    · by_cases hwinding : v.windingDown = true
      · exact (hI.winding hopen hwinding).1
      · rw [hI.idle hopen (Bool.not_eq_true _ ▸ hsession) (Bool.not_eq_true _ ▸ hwinding)]
        exact adjusted_within _
  session := hI.session hopen
  idle hno hoff := hI.idle hopen hno (hI.not_windingDown hoff)
  winding hwinding := (hI.winding hopen hwinding).2

/-- The view after a call. -/
def View.run (mExcludedMask : EventMask) (v : View) (this : LocApi) (call : LocCall) : View :=
  v.after ((this.run mExcludedMask call).2.foldl passed v.mask) call

/-- `open` of a closed client, or with more events. -/
theorem run_openClient
    (hother : this.isOpen = false ∨ this.newMask mExcludedMask mask ≠ this.mMask) :
    (this.run mExcludedMask (.openClient mask)).1 =
      { this with
        isOpen := true
        mMask := this.newMask mExcludedMask mask
        mQmiMask := convertMask (this.newMask mExcludedMask mask) } := by
  cases hopen : this.isOpen with
  | false => simp [LocApi.run, LocApi.openClient, hopen]
  | true =>
    have hnew := hother.resolve_left (by simp [hopen])
    simp [LocApi.run, LocApi.openClient, hopen, hnew]

/-- Only an open client is given the whole mask in a session. -/
theorem mask_openClient (hsession : v.inSession = this.mInSession)
    (hother : this.isOpen = false ∨ this.newMask mExcludedMask mask ≠ this.mMask) :
    (View.run mExcludedMask v this (.openClient mask)).mask =
      if this.isOpen && v.inSession then convertMask (this.newMask mExcludedMask mask)
      else adjustMaskForNoSession (convertMask (this.newMask mExcludedMask mask)) := by
  cases hopen : this.isOpen with
  | false => simp [View.run, View.after, LocApi.run, LocApi.openClient, hopen, passed]
  | true =>
    have hnew := hother.resolve_left (by simp [hopen])
    simp [View.run, View.after, LocApi.run, LocApi.openClient, hopen, hnew,
      LocApi.registerEventMask, passed, hsession]

/-- `open`, with another mask for the client. -/
theorem Agrees.openClient (hI : Agrees v this)
    (hother : this.isOpen = false ∨ this.newMask mExcludedMask mask ≠ this.mMask)
    (hkeeps : Keeps mExcludedMask v this (.openClient mask)) :
    Agrees (View.run mExcludedMask v this (.openClient mask))
      (this.run mExcludedMask (.openClient mask)).1 := by
  obtain ⟨hsession, hwinding⟩ := hkeeps hother
  have hmask := mask_openClient hI.inSession hother
  rw [run_openClient hother]
  refine ⟨hI.inSession, hI.engineOn, hI.windingDown, fun _ => rfl, fun _ hin => ?_,
    fun _ hout _ => ?_, fun _ hdown => ?_⟩
  · have hin' : v.inSession = true := hin
    rw [hmask, hin']
    cases hopen : this.isOpen with
    | true => rfl
    | false => exact and_not_eq_self_iff.mpr (hsession hopen hin)
  · have hout' : v.inSession = false := hout
    rw [hmask, hout', Bool.and_false]
    rfl
  · have hout : v.inSession = false := (hI.windingDown hdown).1
    rw [hmask, hout, Bool.and_false]
    exact ⟨adjusted_within _, fun hasks => absurd hasks (hwinding hdown)⟩

/-- `stopFix` when the engine is off. -/
theorem Agrees.stopFix_off (hI : Agrees v this) (hoff : v.engineOn = false) :
    Agrees (View.run mExcludedMask v this .stopFix) (this.run mExcludedMask .stopFix).1 := by
  have hmask : (View.run mExcludedMask v this .stopFix).mask =
      adjustMaskForNoSession this.mQmiMask := by
    simp [View.run, View.after, LocApi.run, LocApi.stopFix, LocApi.registerEventMask, passed,
      ← hI.engineOn, hoff]
  refine ⟨rfl, hI.engineOn, fun hdown => absurd (hoff.symm.trans hdown) Bool.false_ne_true,
    hI.qmiMask, fun _ hin => absurd hin Bool.false_ne_true, fun hopen _ _ => ?_,
    fun _ hdown => absurd (hoff.symm.trans hdown) Bool.false_ne_true⟩
  rw [hmask, hI.qmiMask hopen]
  rfl

/-- `stopFix` when the engine is on. -/
theorem Agrees.stopFix_on (hI : Agrees v this) (hon : v.engineOn = true)
    (hkeeps : Keeps mExcludedMask v this .stopFix) :
    Agrees (View.run mExcludedMask v this .stopFix) (this.run mExcludedMask .stopFix).1 := by
  have hmask : (View.run mExcludedMask v this .stopFix).mask = v.mask := by
    simp [View.run, View.after, LocApi.run, LocApi.stopFix, ← hI.engineOn, hon]
  refine ⟨rfl, hI.engineOn, fun _ => ⟨rfl, hon⟩, hI.qmiMask,
    fun _ hin => absurd hin Bool.false_ne_true,
    fun _ _ hdown => absurd (hon.symm.trans hdown) Bool.false_ne_true.symm, fun hopen _ => ?_⟩
  rw [hmask]
  change Within v.mask (convertMask this.mMask) ∧ (AsksStatus this.mMask → _)
  refine ⟨(hI.follows hopen).within, fun hasks => ?_⟩
  by_cases hsession : v.inSession = true
  · rw [hI.session hopen hsession]
    exact engineState_within_convertMask hasks
  · by_cases hdown : v.windingDown = true
    · exact (hI.winding hopen hdown).2 hasks
    · exact absurd hasks
        (hkeeps hopen (Bool.not_eq_true _ ▸ hsession) hon (Bool.not_eq_true _ ▸ hdown))

/-- The engine is reported to be on. -/
theorem Agrees.engine_on (hI : Agrees v this) :
    Agrees (View.run mExcludedMask v this (.updateEngineState true))
      (this.run mExcludedMask (.updateEngineState true)).1 := by
  have hv : View.run mExcludedMask v this (.updateEngineState true) =
      { v with engineOn := true } := by
    simp [View.run, View.after, LocApi.run, LocApi.updateEngineState]
  rw [hv]
  exact ⟨hI.inSession, rfl, fun hdown => ⟨(hI.windingDown hdown).1, rfl⟩, hI.qmiMask, hI.session,
    hI.idle, hI.winding⟩

/-- The engine is reported to be off. -/
theorem Agrees.engine_off (hI : Agrees v this) :
    Agrees (View.run mExcludedMask v this (.updateEngineState false))
      (this.run mExcludedMask (.updateEngineState false)).1 := by
  by_cases hend : v.engineOn = true ∧ v.inSession = false
  · -- the events for tracking are not needed any more
    have hmask : (View.run mExcludedMask v this (.updateEngineState false)).mask =
        adjustMaskForNoSession this.mQmiMask := by
      simp [View.run, View.after, LocApi.run, LocApi.updateEngineState, LocApi.registerEventMask,
        passed, ← hI.inSession, ← hI.engineOn, hend]
    refine ⟨hI.inSession, rfl, fun hdown => absurd hdown (by simp [View.run, View.after]),
      hI.qmiMask, fun _ hin => absurd (hend.2.symm.trans hin) Bool.false_ne_true,
      fun hopen _ _ => ?_, fun _ hdown => absurd hdown (by simp [View.run, View.after])⟩
    rw [hmask, hI.qmiMask hopen]
    rfl
  · have hv : View.run mExcludedMask v this (.updateEngineState false) =
        { v with engineOn := false, windingDown := false } := by
      have hno : (this.mEngineOn && !this.mInSession) = false := by
        rw [← hI.inSession, ← hI.engineOn]
        by_contra hyes
        simp only [Bool.not_eq_false, Bool.and_eq_true, Bool.not_eq_true'] at hyes
        exact hend hyes
      simp [View.run, View.after, LocApi.run, LocApi.updateEngineState, hno]
    rw [hv]
    refine ⟨hI.inSession, rfl, fun hdown => absurd hdown Bool.false_ne_true, hI.qmiMask,
      hI.session, fun hopen hout _ => hI.idle hopen hout (hI.not_windingDown ?_),
      fun _ hdown => absurd hdown Bool.false_ne_true⟩
    exact Bool.not_eq_true _ ▸ fun hon => hend ⟨hon, hout⟩

/-- A call keeps the view and the object together. -/
theorem Agrees.run (hI : Agrees v this) {call : LocCall}
    (hkeeps : Keeps mExcludedMask v this call) :
    Agrees (View.run mExcludedMask v this call) (this.run mExcludedMask call).1 := by
  cases call with
  | openClient mask =>
    by_cases hopen : this.isOpen = true
    · by_cases hnew : this.newMask mExcludedMask mask ≠ this.mMask
      · exact hI.openClient (Or.inr hnew) hkeeps
      · simpa [View.run, View.after, LocApi.run, LocApi.openClient, hopen, hnew] using hI
    · exact hI.openClient (Or.inl (Bool.not_eq_true _ ▸ hopen)) hkeeps
  | startFix =>
    exact ⟨rfl, hI.engineOn, fun h => absurd h Bool.false_ne_true, hI.qmiMask,
      fun hopen _ => hI.qmiMask hopen, fun _ h => absurd h.symm Bool.false_ne_true,
      fun _ h => absurd h Bool.false_ne_true⟩
  | stopFix =>
    cases hon : v.engineOn with
    | false => exact hI.stopFix_off hon
    | true => exact hI.stopFix_on hon hkeeps
  | updateEngineState engineOn =>
    cases engineOn with
    | true => exact hI.engine_on
    | false => exact hI.engine_off
  | close =>
    exact ⟨hI.inSession, hI.engineOn, hI.windingDown, fun h => absurd h Bool.false_ne_true,
      fun h => absurd h Bool.false_ne_true, fun h => absurd h Bool.false_ne_true,
      fun h => absurd h Bool.false_ne_true⟩

/-- A mask that follows the session after the call is kept by it. -/
theorem Agrees.keeps (hI : Agrees v this) {call : LocCall}
    (hfollows : (this.run mExcludedMask call).1.isOpen = true →
      Follows (View.run mExcludedMask v this call) (this.run mExcludedMask call).1) :
    Keeps mExcludedMask v this call := by
  cases call with
  | openClient mask =>
    intro hother
    rw [run_openClient hother] at hfollows
    have hmask := mask_openClient hI.inSession hother
    refine ⟨fun hclosed hin => ?_, fun hdown hasks => ?_⟩
    · have heq := (hfollows rfl).session hin
      rw [hmask, hclosed] at heq
      exact and_not_eq_self_iff.mp heq
    · have hout : v.inSession = false := (hI.windingDown hdown).1
      have hwithin := (hfollows rfl).winding hdown hasks
      rw [hmask, hout, Bool.and_false] at hwithin
      exact engineState_not_within_adjusted _ hwithin
  | stopFix =>
    intro hopen hout hon hdown hasks
    have hwithin := (hfollows hopen).winding hon hasks
    have hmask : (View.run mExcludedMask v this .stopFix).mask = v.mask := by
      simp [View.run, View.after, LocApi.run, LocApi.stopFix, ← hI.engineOn, hon]
    rw [hmask, hI.idle hopen hout hdown] at hwithin
    exact engineState_not_within_adjusted _ hwithin
  | startFix => trivial
  | updateEngineState _ => trivial
  | close => trivial

/-! ## Runs -/

/-- **The runs in which the mask follows the session** are those whose calls all keep it. -/
theorem follows_iff {h : List (Event LocApi LocCall ClientCall)}
    (hr : Run (LocApi.machine mExcludedMask) {} h this) :
    Watched next {} (fun v e => Keeps mExcludedMask v e.pre e.label) h ↔
      Watched next {} (fun v e => e.post.isOpen = true → Follows (next v e) e.post) h := by
  refine Run.watched_congr Agrees (fun _ _ => True) ?_ ?_ ?_ hr fun _ _ => trivial
  · exact ⟨rfl, rfl, by simp, by simp, by simp, by simp, by simp⟩
  · rintro v ⟨this, call, out, this'⟩ hI - hkeeps hs
    have hrun : this.run mExcludedMask call = (this', out) := Option.some.inj hs
    have hI' := hI.run hkeeps
    rw [View.run, hrun] at hI'
    exact ⟨hI', hI'.follows⟩
  · rintro v ⟨this, call, out, this'⟩ hI - hno hs hfollows
    have hrun : this.run mExcludedMask call = (this', out) := Option.some.inj hs
    refine hno (hI.keeps ?_)
    rw [View.run, hrun]
    exact hfollows

/-- Positions and the status. -/
def tracking : EventMask := 1 ||| LOC_API_ADAPTER_BIT_STATUS_REPORT

/-- A session that is stopped while the engine is on, and a restart of the modem after it. -/
def session : List LocCall :=
  [.openClient tracking, .startFix, .updateEngineState true, .stopFix, .updateEngineState false,
    .close, .openClient tracking]

theorem follows_session : ∃ h this, Run (LocApi.machine 0) {} h this ∧
    h.map Event.label = session ∧
    Watched next {} (fun v e => e.post.isOpen = true → Follows (next v e) e.post) h := by
  obtain ⟨h, this, hr, hl, hcheck⟩ := (LocApi.machine 0).exists_run {} session
    (fun h _ => checkWatched next (fun v e => decide (Keeps 0 v e.pre e.label)) {} h)
    (by decide +kernel)
  refine ⟨h, this, hr, hl, (follows_iff hr).mp ?_⟩
  exact (watched_of_check hcheck).mono fun e _ v hkeeps => of_decide_eq_true hkeeps

/-- The modem restarts in a session: the new client is not given the events for tracking. -/
theorem restart_in_session : ∃ h this, Run (LocApi.machine 0) {} h this ∧
    h.map Event.label = [.openClient tracking, .startFix, .close, .openClient tracking] ∧
    ¬ Watched next {} (fun v e => e.post.isOpen = true → Follows (next v e) e.post) h := by
  obtain ⟨h, e, hr, hl, hle, hcheck⟩ := (LocApi.machine 0).exists_run_last {}
    [.openClient tracking, .startFix, .close] (.openClient tracking)
    (fun h e => e.post.isOpen && ((next (watch next {} h) e).inSession &&
      decide ((next (watch next {} h) e).mask ≠ convertMask e.post.mMask)))
    (by decide +kernel)
  simp only [Bool.and_eq_true, decide_eq_true_eq] at hcheck
  obtain ⟨hopen, hin, hne⟩ := hcheck
  refine ⟨h ++ [e], e.post, hr, by simp [hl, hle], fun hwatched => ?_⟩
  exact hne (((watched_snoc.mp hwatched).2 hopen).session hin)

end OppoA37.LocApiV02
