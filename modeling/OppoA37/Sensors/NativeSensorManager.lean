import OppoA37.Lib.Monitor

/-!
# The sensors of `NativeSensorManager.cpp`

A hardware sensor has a driver; a virtual sensor is computed from the events of some hardware
sensors, its dependencies. Whoever is enabled, hardware or virtual, is registered as a listener
of the hardware it depends on (a hardware sensor depends on itself), and the hardware is driven
at the shortest delay that one of its listeners has asked for.

Sensors are known by the number of their context; `SENSORS_HANDLE` of it is the handle. What
never changes once the sensors were found is the `Device`, whose dependencies are well-formed;
`getDataInfo` is how it is found. Latencies are handled like delays.
-/

namespace OppoA37.Sensors

open Lts

/-! ## The sensors that are found -/

/-- The supported types of hardware sensors. -/
inductive SensorType where
  | accelerometer
  | magneticField
  | proximity
  | light
  | gyroscope
  | pressure
  | significantMotion
  deriving DecidableEq, Repr

/-- The virtual sensors that are built in. -/
inductive VirtualType where
  | pocket
  | orientation
  | linearAcceleration
  | rotationVector
  | gravity
  | magneticFieldUncalibrated
  deriving DecidableEq, Repr

/-- The classes of drivers. -/
inductive Driver where
  | accel
  | compass
  | proximity
  | light
  | virtual
  deriving DecidableEq, Repr

/-- What is read of a hardware sensor in sysfs. -/
structure HwSensor where
  /-- `type` -/
  type : SensorType
  /-- `flags` has `SENSOR_FLAG_ONE_SHOT_MODE` -/
  oneShot : Bool
  /-- `minDelay`, in microseconds -/
  minDelay : ℤ
  /-- `fifoMaxEventCount` -/
  fifoMaxEventCount : ℤ
  deriving DecidableEq, Repr

/-- What stays of a `SensorContext`. -/
structure SensorInfo where
  /-- the class of `driver`, `NULL` for a type without one -/
  driver : Option Driver
  /-- `flags` has `SENSOR_FLAG_ONE_SHOT_MODE` -/
  oneShot : Bool
  /-- `minDelay`, in microseconds -/
  minDelay : ℤ
  /-- `fifoMaxEventCount` -/
  fifoMaxEventCount : ℤ
  /-- `is_virtual` -/
  isVirtual : Bool
  /-- `dep_list` -/
  depList : List ℕ
  deriving DecidableEq, Repr

/-- The driver for a hardware sensor. -/
def SensorType.driver : SensorType → Option Driver
  | accelerometer => some .accel
  | magneticField => some .compass
  | proximity => some .proximity
  | light => some .light
  | gyroscope | pressure | significantMotion => none

/-- The context of the hardware sensor number `i`: it depends on itself. -/
def HwSensor.info (hw : HwSensor) (i : ℕ) : SensorInfo where
  driver := hw.type.driver
  oneShot := hw.oneShot
  minDelay := hw.minDelay
  fifoMaxEventCount := hw.fifoMaxEventCount
  isVirtual := false
  depList := [i]

/-- `addDependency` -/
def addDependency (depList : List ℕ) (dep : ℕ) : List ℕ :=
  if dep ∈ depList then depList else depList ++ [dep]

/-- The context of a virtual sensor of `virtualSensorList`. -/
def virtualInfo (minDelay : ℤ) (deps : List ℕ) : SensorInfo where
  driver := some .virtual
  oneShot := false
  minDelay := minDelay
  fifoMaxEventCount := 0
  isVirtual := true
  depList := deps.foldl addDependency []

/-- The last hardware sensor of a type, as `sensor_acc` and the like hold it. -/
def lastOf (hw : List HwSensor) (type : SensorType) : Option (ℕ × HwSensor) :=
  (hw.zipIdx.map fun p => (p.2, p.1)).reverse.find? fun p => p.2.type = type

/-- The virtual sensors that `getDataInfo` tries, in its order. There is never a gyroscope:
nothing sets `has_gyro`. -/
def virtualSensors (hw : List HwSensor) : List (VirtualType × SensorInfo) :=
  let acc := lastOf hw .accelerometer
  let mag := lastOf hw .magneticField
  (match lastOf hw .light, lastOf hw .proximity with
    | some (light, _), some (proximity, _) =>
      [(.pocket, virtualInfo 5000 [proximity, light])]
    | _, _ => []) ++
  (match acc, mag with
    | some (acc, _), some (mag, _) =>
      [(.orientation, virtualInfo 10000 [acc, mag]),
        (.linearAcceleration, virtualInfo 10000 [acc, mag]),
        (.rotationVector, virtualInfo 10000 [acc, mag]),
        (.gravity, virtualInfo 10000 [acc, mag])]
    | _, _ => []) ++
  match mag with
    | some (mag, hw) =>
      -- a copy of sensor_mag
      [(.magneticFieldUncalibrated, { virtualInfo hw.minDelay [mag] with
        oneShot := hw.oneShot, fifoMaxEventCount := hw.fifoMaxEventCount })]
    | none => []

/-- `getDataInfo`: the hardware sensors, and the virtual ones that have an algorithm. -/
def getDataInfo (hw : List HwSensor) (hasAlgo : VirtualType → Bool) : List SensorInfo :=
  hw.mapIdx (fun i hw => hw.info i) ++
    ((virtualSensors hw).filter fun p => hasAlgo p.1).map Prod.snd

/-- The dependencies of the sensors: hardware depends on itself alone, and nobody depends on a
virtual sensor, or on anything twice. -/
structure WellFormed (sensors : List SensorInfo) : Prop where
  self : ∀ (w : ℕ) (info : SensorInfo), sensors[w]? = some info → info.isVirtual = false →
    info.depList = [w]
  base : ∀ (s : ℕ) (info : SensorInfo), sensors[s]? = some info → ∀ w ∈ info.depList,
    ∃ base, sensors[w]? = some base ∧ base.isVirtual = false
  nodup : ∀ (s : ℕ) (info : SensorInfo), sensors[s]? = some info → info.depList.Nodup

/-- The sensors that were found. -/
structure Device where
  /-- the contexts -/
  sensors : List SensorInfo
  /-- their dependencies -/
  wellFormed : WellFormed sensors

theorem mem_addDependency {depList : List ℕ} {dep w : ℕ} :
    w ∈ addDependency depList dep ↔ w ∈ depList ∨ w = dep := by
  rw [addDependency]
  split_ifs with hmem
  · refine ⟨Or.inl, ?_⟩
    rintro (hw | rfl)
    · exact hw
    · exact hmem
  · simp

theorem nodup_addDependency {depList : List ℕ} (h : depList.Nodup) (dep : ℕ) :
    (addDependency depList dep).Nodup := by
  rw [addDependency]
  split_ifs with hmem
  · exact h
  · exact List.nodup_append.mpr ⟨h, List.nodup_singleton _, by
      rintro a ha b hb rfl
      exact hmem (List.mem_singleton.mp hb ▸ ha)⟩

/-- Dependencies that are added are there once. -/
theorem foldl_addDependency (deps : List ℕ) {depList : List ℕ} (h : depList.Nodup) :
    (deps.foldl addDependency depList).Nodup ∧
      ∀ w, w ∈ deps.foldl addDependency depList ↔ w ∈ depList ∨ w ∈ deps := by
  induction deps generalizing depList with
  | nil => simpa using h
  | cons dep deps ih =>
    obtain ⟨hnodup, hmem⟩ := ih (nodup_addDependency h dep)
    refine ⟨hnodup, fun w => ?_⟩
    rw [List.foldl_cons, hmem, mem_addDependency, List.mem_cons, or_assoc]

/-- A sensor that is found by its type is one of the hardware sensors. -/
theorem lt_of_lastOf {hw : List HwSensor} {type : SensorType} {p : ℕ × HwSensor}
    (h : lastOf hw type = some p) : p.1 < hw.length := by
  have hmem := List.mem_of_find?_eq_some h
  rw [List.mem_reverse, List.mem_map] at hmem
  obtain ⟨q, hq, rfl⟩ := hmem
  exact (List.mem_zipIdx' hq).1

/-- A virtual sensor that depends on hardware sensors. -/
theorem virtualInfo_spec {n : ℕ} {minDelay : ℤ} {deps : List ℕ} (h : ∀ w ∈ deps, w < n) :
    (virtualInfo minDelay deps).depList.Nodup ∧
      ∀ w ∈ (virtualInfo minDelay deps).depList, w < n := by
  obtain ⟨hnodup, hmem⟩ := foldl_addDependency deps List.nodup_nil
  refine ⟨hnodup, fun w hw => h w ?_⟩
  simpa using (hmem w).mp hw

/-- Every virtual sensor depends on hardware sensors, on none of them twice. -/
theorem virtualSensors_spec {hw : List HwSensor} {p : VirtualType × SensorInfo}
    (h : p ∈ virtualSensors hw) : p.2.isVirtual = true ∧ p.2.depList.Nodup ∧
      ∀ w ∈ p.2.depList, w < hw.length := by
  have hinfo {minDelay : ℤ} {deps : List ℕ} (hdeps : ∀ w ∈ deps, w < hw.length) :
      (virtualInfo minDelay deps).isVirtual = true ∧
        (virtualInfo minDelay deps).depList.Nodup ∧
        ∀ w ∈ (virtualInfo minDelay deps).depList, w < hw.length :=
    ⟨rfl, virtualInfo_spec hdeps⟩
  rw [virtualSensors] at h
  rcases List.mem_append.mp h with h | h
  · rcases List.mem_append.mp h with h | h
    · -- the pocket sensor
      cases hlight : lastOf hw .light with
      | none => simp [hlight] at h
      | some light =>
        cases hprox : lastOf hw .proximity with
        | none => simp [hlight, hprox] at h
        | some prox =>
          simp only [hlight, hprox, List.mem_singleton] at h
          subst h
          exact hinfo (by simp [lt_of_lastOf hlight, lt_of_lastOf hprox])
    · -- what is computed from acceleration and the magnetic field
      cases hacc : lastOf hw .accelerometer with
      | none => simp [hacc] at h
      | some acc =>
        cases hmag : lastOf hw .magneticField with
        | none => simp [hacc, hmag] at h
        | some mag =>
          have hboth : (virtualInfo 10000 [acc.1, mag.1]).isVirtual = true ∧ _ :=
            hinfo (by simp [lt_of_lastOf hacc, lt_of_lastOf hmag])
          simp only [hacc, hmag, List.mem_cons, List.not_mem_nil, or_false] at h
          rcases h with rfl | rfl | rfl | rfl
          all_goals exact hboth
  · cases hmag : lastOf hw .magneticField with
    | none => simp [hmag] at h
    | some mag =>
      have hcopied : (virtualInfo mag.2.minDelay [mag.1]).isVirtual = true ∧ _ :=
        hinfo (by simp [lt_of_lastOf hmag])
      simp only [hmag, List.mem_singleton] at h
      subst h
      exact hcopied

/-- The sensors that are found are well-formed. -/
theorem wellFormed_getDataInfo (hw : List HwSensor) (hasAlgo : VirtualType → Bool) :
    WellFormed (getDataInfo hw hasAlgo) := by
  have hhw {w : ℕ} (hlt : w < hw.length) : ∃ base, (getDataInfo hw hasAlgo)[w]? = some base ∧
      base.isVirtual = false := by
    refine ⟨(hw[w]).info w, ?_, rfl⟩
    rw [getDataInfo, List.getElem?_append_left (by simpa using hlt)]
    simp [hlt]
  -- a sensor is hardware, or one of the virtual sensors
  have hcases {w : ℕ} {info : SensorInfo} (h : (getDataInfo hw hasAlgo)[w]? = some info) :
      (w < hw.length ∧ info.isVirtual = false ∧ info.depList = [w]) ∨
        info.isVirtual = true ∧ info.depList.Nodup ∧ ∀ w ∈ info.depList, w < hw.length := by
    rw [getDataInfo, List.getElem?_append, List.length_mapIdx] at h
    split_ifs at h with hlt
    · rw [List.getElem?_mapIdx, List.getElem?_eq_getElem hlt] at h
      obtain rfl := Option.some.inj h
      exact Or.inl ⟨hlt, rfl, rfl⟩
    · obtain ⟨p, hp, rfl⟩ := List.mem_map.mp (List.mem_of_getElem? h)
      exact Or.inr (virtualSensors_spec (List.mem_filter.mp hp).1)
  refine ⟨fun w info h hvirtual => ?_, fun s info h w hw' => ?_, fun s info h => ?_⟩
  · rcases hcases h with ⟨-, -, hdep⟩ | ⟨hv, -⟩
    · exact hdep
    · exact absurd (hvirtual.symm.trans hv) Bool.false_ne_true
  · rcases hcases h with ⟨hlt, -, hdep⟩ | ⟨-, -, hlt⟩
    · rw [hdep, List.mem_singleton] at hw'
      exact hhw (hw' ▸ hlt)
    · exact hhw (hlt w hw')
  · rcases hcases h with ⟨-, -, hdep⟩ | ⟨-, hnodup, -⟩
    · rw [hdep]
      exact List.nodup_singleton _
    · exact hnodup

/-- The device that `getDataInfo` finds. -/
def Device.found (hw : List HwSensor) (hasAlgo : VirtualType → Bool) : Device :=
  ⟨getDataInfo hw hasAlgo, wellFormed_getDataInfo hw hasAlgo⟩

/-! ## What changes -/

/-- What changes of a `SensorContext`, with the state of its driver. -/
structure SensorContext where
  /-- `enable` -/
  enable : Bool := false
  /-- `delay_ns` -/
  delayNs : ℤ := 0
  /-- `latency_ns` -/
  latencyNs : ℤ := 0
  /-- `listener` -/
  listener : List ℕ := []
  /-- `driver->mEnabled` -/
  mEnabled : Bool := false
  /-- what `driver->setDelay` was called with last -/
  setDelay : Option ℤ := none
  /-- what `driver->setLatency` was called with last -/
  setLatency : Option ℤ := none
  deriving DecidableEq, Repr

/-- The contexts. -/
abbrev Contexts := ℕ → SensorContext

namespace Contexts

variable (s : Contexts)

/-- Change a context. -/
def modify (w : ℕ) (f : SensorContext → SensorContext) : Contexts :=
  Function.update s w (f (s w))

/-- `registerListener` -/
def registerListener (hw virt : ℕ) : Contexts :=
  if virt ∈ (s hw).listener then s
  else s.modify hw fun c => { c with listener := c.listener ++ [virt] }

/-- `unregisterListener` -/
def unregisterListener (hw virt : ℕ) : Contexts :=
  s.modify hw fun c => { c with listener := c.listener.erase virt }

/-- `driver->enable`; a driver of hardware first has to open its sysfs file, if it has to change
anything. -/
def driverEnable (driver : Option Driver) (opens : Bool) (w : ℕ) (enable : Bool) : Contexts × ℤ :=
  if driver = some .virtual ∨ opens = true then
    (s.modify w fun c => { c with mEnabled := enable }, 0)
  else if (s w).mEnabled = enable then (s, 0) else (s, -1)

end Contexts

/-- `min_ns` in `syncDelay`: the loop starts at the head, and passes over those that have asked
for nothing. -/
def minNs (delayNs : ℕ → ℤ) : List ℕ → ℤ
  | [] => 0
  | head :: rest =>
    (head :: rest).foldl
      (fun minNs w =>
        if delayNs w = 0 then minNs else if minNs > delayNs w then delayNs w else minNs)
      (delayNs head)

/-- `min_ns` in `syncLatency` -/
def minLatencyNs (latencyNs : ℕ → ℤ) : List ℕ → ℤ
  | [] => 0
  | head :: rest =>
    (head :: rest).foldl (fun minNs w => if minNs > latencyNs w then latencyNs w else minNs)
      (latencyNs head)

/-- `EINVAL` -/
def EINVAL : ℤ := 22

namespace Device

variable (dev : Device) (s : Contexts)

/-- `syncDelay`, for a sensor that exists -/
def syncDelay (w : ℕ) : Contexts :=
  if (s w).listener = [] then s
  else s.modify w fun c =>
    { c with setDelay := some (minNs (fun w => (s w).delayNs) c.listener) }

/-- `syncLatency`, for a sensor that exists -/
def syncLatency (w : ℕ) : Contexts :=
  if (s w).listener = [] then s
  else if (dev.sensors[w]?.map SensorInfo.fifoMaxEventCount).getD 0 = 0 then s
  else s.modify w fun c =>
    { c with setLatency := some (minLatencyNs (fun w => (s w).latencyNs) c.listener) }

/-- The driver of a context. -/
def driver (w : ℕ) : Option Driver := dev.sensors[w]?.bind SensorInfo.driver

/-- A turn of the loop in `activate`, at the background sensor `dep`. -/
def activateDep (opens : ℕ → Bool) (handle : ℕ) (enable : Bool) (s : Contexts) (dep : ℕ) :
    Contexts :=
  if enable then
    let s := s.registerListener dep handle
    let s := dev.syncLatency s dep
    let s := (s.driverEnable (dev.driver dep) (opens dep) dep true).1
    syncDelay s dep
  else
    let s :=
      if (s dep).listener ≠ [] then
        let s := s.unregisterListener dep handle
        let s := syncDelay s dep
        dev.syncLatency s dep
      else s
    if (s dep).listener = [] then (s.driverEnable (dev.driver dep) (opens dep) dep false).1 else s

/-- `activate` -/
def activate (opens : ℕ → Bool) (handle : ℕ) (enable : Bool) : Contexts × ℤ :=
  match dev.sensors[handle]? with
  | none => (s, -EINVAL)
  | some info =>
    let s := s.modify handle fun c => { c with enable := enable }
    if info.oneShot then s.driverEnable info.driver (opens handle) handle enable
    else
      let s := info.depList.foldl (dev.activateDep opens handle enable) s
      let s :=
        if info.isVirtual then (s.driverEnable info.driver (opens handle) handle enable).1 else s
      (s, 0)

/-- `setDelay` -/
def setDelay (handle : ℕ) (ns : ℤ) : Contexts × ℤ :=
  match dev.sensors[handle]? with
  | none => (s, -EINVAL)
  | some info =>
    if ns = 0 then (s, -EINVAL)
    else if info.oneShot then (s, 0)
    else
      let s := s.modify handle fun c =>
        { c with delayNs := if ns < info.minDelay * 1000 then info.minDelay * 1000 else ns }
      (info.depList.foldl syncDelay s, 0)

/-- `batch` -/
def batch (handle : ℕ) (sampleNs latencyNs : ℤ) : Contexts × ℤ :=
  if latencyNs ≠ 0 ∧ latencyNs < sampleNs then (s, -EINVAL)
  else
    match dev.sensors[handle]? with
    | none => (s, -EINVAL)
    | some info =>
      if info.oneShot then (s, 0)
      else
        let s := s.modify handle fun c => { c with delayNs := sampleNs, latencyNs := latencyNs }
        (info.depList.foldl (fun s dep => dev.syncLatency (syncDelay s dep) dep) s, 0)

/-- The call of `activate` would use a driver that is `NULL`. -/
def Crashes (handle : ℕ) : Prop :=
  ∃ info ∈ dev.sensors[handle]?, info.driver = none ∨ ∃ dep ∈ info.depList, dev.driver dep = none

instance (handle : ℕ) : Decidable (dev.Crashes handle) := inferInstanceAs (Decidable (∃ _ ∈ _, _))

end Device

/-- The calls of the framework. -/
inductive Call where
  /-- `activate`; `opens` says which sysfs files can be opened -/
  | activate (handle : ℕ) (enable : Bool) (opens : ℕ → Bool)
  /-- `setDelay` -/
  | setDelay (handle : ℕ) (ns : ℤ)
  /-- `batch` -/
  | batch (handle : ℕ) (sampleNs latencyNs : ℤ)

namespace Device

variable (dev : Device)

/-- The machine of the calls; their output is what they return. -/
def machine : Machine Contexts Call ℤ where
  step s
    | .activate handle enable opens =>
      if dev.Crashes handle then none
      else
        let (s, err) := dev.activate s opens handle enable
        some (s, [err])
    | .setDelay handle ns =>
      let (s, err) := dev.setDelay s handle ns
      some (s, [err])
    | .batch handle sampleNs latencyNs =>
      let (s, err) := dev.batch s handle sampleNs latencyNs
      some (s, [err])

/-- The state after the constructor: the drivers of accelerometers and compasses enable
themselves. -/
def start (opens : ℕ → Bool) : Contexts := fun w =>
  { mEnabled := decide (dev.driver w = some .accel ∨ dev.driver w = some .compass) && opens w }

end Device

end OppoA37.Sensors
