import OppoA37.Hidl.Thermal.Notifications

/-!
# The watcher thread of `thermal_watcher.cpp`

The thread sleeps until a uevent comes or a time is over, and lets the callback look at the
sensors. The time is short while the callback has asked for a look again soon. So a throttling
sensor is looked at every two seconds, as long as the callback sees all that are throttling:
`timeout_run` says so for every run of the thread.
-/

namespace OppoA37.Thermal

open Lts

variable {F : Type*} [FloatOps F]

/-- A `ThermalWatcher`, with what its callback stores. -/
structure Watcher where
  /-- `is_polling_` -/
  isPolling : Bool
  /-- `thermal_triggered_` -/
  thermalTriggered : Bool
  /-- `sensor_status_map_` -/
  sensorStatusMap : SensorStatusMap

/-- What comes while the thread sleeps. -/
structure Wakeup (F : Type*) where
  /-- `time_elapsed_ms` -/
  timeElapsedMs : ℕ
  /-- `pollOnce` returns an identifier, and whether it is for `uevent_fd_` -/
  fd : Option Bool
  /-- `parseUevent`: the monitored sensors that are named -/
  sensors : Finset String
  /-- what the files of the sensors read as -/
  file : String → Option F

/-- `kMinPollIntervalMs` -/
def kMinPollIntervalMs : ℕ := 2000

/-- `kUeventPollTimeoutMs` -/
def kUeventPollTimeoutMs : ℕ := 300000

/-- The call has returned `true`. -/
def Out.returnsTrue : Out F → Bool
  | .notify _ => false
  | .returns thermalTriggered => thermalTriggered

namespace Watcher

variable (w : Watcher)

/-- `timeout` -/
def timeout : ℕ :=
  if w.thermalTriggered || w.isPolling then kMinPollIntervalMs else kUeventPollTimeoutMs

/-- The call of `cb_` that `threadLoop` makes, if any. -/
def callOf (wakeup : Wakeup F) : Option (Call F) :=
  if wakeup.timeElapsedMs < w.timeout then
    match wakeup.fd with
    | none => some ⟨∅, wakeup.file⟩
    | some false => none
    | some true => if wakeup.sensors = ∅ then none else some ⟨wakeup.sensors, wakeup.file⟩
  else some ⟨∅, wakeup.file⟩

/-- `threadLoop` -/
def threadLoop (helper : ThermalHelper F) (wakeup : Wakeup F) : Watcher × List (Out F) :=
  match w.callOf wakeup with
  | none => (w, [])
  | some call =>
    let (sensorStatusMap, out) := helper.thermalWatcherCallbackFunc w.sensorStatusMap call
    ({ w with
        sensorStatusMap
        thermalTriggered := out.any Out.returnsTrue },
      out)

/-- The machine of the thread. -/
def machine (helper : ThermalHelper F) : Machine Watcher (Wakeup F) (Out F) where
  step w wakeup := some (w.threadLoop helper wakeup)

/-- A watcher that has just been registered; while it polls, `thermal_triggered_` does not
matter. -/
def registered (isPolling : Bool) : Watcher := ⟨isPolling, true, start⟩

/-- Some monitored sensor is throttling. -/
def Throttling (helper : ThermalHelper F) : Prop :=
  ∃ name ∈ helper.sensors, (helper.sensorInfoMap name).isMonitor = true ∧
    (w.sensorStatusMap name).severity ≠ .none

/-- The call that is made, if any, sees all that are throttling. -/
def SeesAll (helper : ThermalHelper F) (wakeup : Wakeup F) : Prop :=
  ∀ call ∈ w.callOf wakeup, helper.SeesThrottling w.sensorStatusMap call

/-- While some monitored sensor is throttling the thread sleeps for a short time only. -/
def Awake (helper : ThermalHelper F) : Prop :=
  w.Throttling helper → w.timeout = kMinPollIntervalMs

variable {w} {helper : ThermalHelper F} {w' : Watcher} {wakeup : Wakeup F} {out : List (Out F)}

/-- A turn of the thread that sees all that are throttling leaves it awake. -/
theorem Awake.step (hI : w.Awake helper) (hsees : w.SeesAll helper wakeup)
    (hs : (machine helper).step w wakeup = some (w', out)) : w'.Awake helper := by
  have heq : w.threadLoop helper wakeup = (w', out) := Option.some.inj hs
  rw [threadLoop] at heq
  cases hcall : w.callOf wakeup with
  | none =>
    rw [hcall] at heq
    obtain ⟨rfl, -⟩ := Prod.mk.inj heq
    exact hI
  | some call =>
    rw [hcall] at heq
    obtain ⟨rfl, rfl⟩ := Prod.mk.inj heq
    rintro ⟨name, hmem, hmonitor, hne⟩
    have hstep : helper.machine.step w.sensorStatusMap call =
        some (helper.thermalWatcherCallbackFunc w.sensorStatusMap call) := rfl
    have hreturns := ThermalHelper.fast_of_seesThrottling hstep (hsees call hcall) hmem hmonitor hne
    have hany : (helper.thermalWatcherCallbackFunc w.sensorStatusMap call).2.any Out.returnsTrue =
        true :=
      List.any_eq_true.mpr ⟨_, hreturns, rfl⟩
    rw [timeout]
    exact if_pos (Bool.or_eq_true_iff.mpr (Or.inl hany))

/-- **The thread.** While its calls see all that are throttling, it looks every two seconds at
a sensor that is. -/
theorem timeout_run {isPolling : Bool} {h : List (Event Watcher (Wakeup F) (Out F))}
    (hrun : Run (machine helper) (registered isPolling) h w)
    (hsees : ∀ e ∈ h, e.pre.SeesAll helper e.label) : w.Awake helper := by
  refine Run.invariant_of (Awake · helper) (SeesAll · helper) ?_ ?_ hrun hsees
  · exact fun _ => rfl
  · exact fun w wakeup w' out hI hsees hs => hI.step hsees hs

end Watcher

end OppoA37.Thermal
