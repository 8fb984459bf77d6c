import OppoA37.Lib.KeyedLoop
import OppoA37.Lib.Monitor

/-!
# The watcher callback of `thermal-helper.cpp`

The watcher thread calls `thermalWatcherCallbackFunc` to look at the sensors: at all of them, or
at those a uevent has named. What a sensor reads as is turned into a severity for heat and one
for cold, with hysteresis against the severities before; when the larger of the two is not the
stored one, it is stored and the framework is told. The result asks for a look again soon.

The arithmetic of `float` is a parameter, and the files of a call are part of its label: a file
reads as nothing when it cannot be read or is empty.
-/

namespace OppoA37.Thermal

open Lts

/-- `ThrottlingSeverity` -/
inductive ThrottlingSeverity where
  | none
  | light
  | moderate
  | severe
  | critical
  | emergency
  | shutdown
  deriving DecidableEq, Repr

/-- `TemperatureType` -/
inductive TemperatureType where
  | unknown
  | cpu
  | gpu
  | battery
  | skin
  | usbPort
  | powerAmplifier
  | bclVoltage
  | bclCurrent
  | bclPercentage
  | npu
  deriving DecidableEq, Repr

/-- What the code uses of `float`. -/
class FloatOps (F : Type*) extends Add F, Sub F, Mul F where
  /-- `std::isnan` -/
  isnan : F → Bool
  /-- `<=` -/
  le : F → F → Bool
  /-- `<` -/
  lt : F → F → Bool

open FloatOps (isnan le lt)

namespace ThrottlingSeverity

/-- `static_cast<size_t>` -/
def toSize : ThrottlingSeverity → ℕ
  | none => 0
  | light => 1
  | moderate => 2
  | severe => 3
  | critical => 4
  | emergency => 5
  | shutdown => 6

/-- The severities above `NONE`, from the highest. -/
def aboveNone : List ThrottlingSeverity := [shutdown, emergency, critical, severe, moderate, light]

/-- The highest severity at which `p` holds, `NONE` without one. -/
def highest (p : ThrottlingSeverity → Bool) : ThrottlingSeverity := (aboveNone.find? p).getD none

/-- The severity of a sensor that is hot and cold. -/
def larger (hot cold : ThrottlingSeverity) : ThrottlingSeverity :=
  if hot.toSize > cold.toSize then hot else cold

end ThrottlingSeverity

/-- `ThrottlingArray` -/
abbrev ThrottlingArray (F : Type*) := ThrottlingSeverity → F

/-- What the callback reads of a `SensorInfo`. -/
structure SensorInfo (F : Type*) where
  /-- `type` -/
  type : TemperatureType
  /-- `hot_thresholds` -/
  hotThresholds : ThrottlingArray F
  /-- `cold_thresholds` -/
  coldThresholds : ThrottlingArray F
  /-- `hot_hysteresis` -/
  hotHysteresis : ThrottlingArray F
  /-- `cold_hysteresis` -/
  coldHysteresis : ThrottlingArray F
  /-- `multiplier` -/
  multiplier : F
  /-- `is_monitor` -/
  isMonitor : Bool

/-- `SensorStatus` -/
structure SensorStatus where
  /-- `severity` -/
  severity : ThrottlingSeverity := .none
  /-- `prev_hot_severity` -/
  prevHotSeverity : ThrottlingSeverity := .none
  /-- `prev_cold_severity` -/
  prevColdSeverity : ThrottlingSeverity := .none
  deriving DecidableEq, Repr

/-- `Temperature_2_0` -/
structure Temperature (F : Type*) where
  /-- `type` -/
  type : TemperatureType
  /-- `name` -/
  name : String
  /-- `value` -/
  value : F
  /-- `throttlingStatus` -/
  throttlingStatus : ThrottlingSeverity
  deriving DecidableEq

/-- `sensor_status_map_` -/
abbrev SensorStatusMap := String → SensorStatus

/-- A `ThermalHelper`. Its two maps have the same keys. -/
structure ThermalHelper (F : Type*) where
  /-- the keys of `sensor_info_map_` and `sensor_status_map_`, in their order -/
  sensors : List String
  /-- no key comes twice -/
  nodup : sensors.Nodup
  /-- `sensor_info_map_` -/
  sensorInfoMap : String → SensorInfo F

/-- A call of the callback. -/
structure Call (F : Type*) where
  /-- `uevent_sensors` -/
  ueventSensors : Finset String
  /-- what the files of the sensors read as -/
  file : String → Option F

/-- What a call shows. -/
inductive Out (F : Type*) where
  /-- `cb_` -/
  | notify (temps : List (Temperature F))
  /-- what the call returns -/
  | returns (thermalTriggered : Bool)
  deriving DecidableEq

variable {F : Type*} [FloatOps F]

/-- `getSeverityFromThresholds`; its one loop looks for four severities. What is `a >= b` there is
`b <= a` here. -/
def getSeverityFromThresholds (hotThresholds coldThresholds hotHysteresis coldHysteresis :
    ThrottlingArray F) (prevHotSeverity prevColdSeverity : ThrottlingSeverity) (value : F) :
    ThrottlingSeverity × ThrottlingSeverity :=
  let retHot := ThrottlingSeverity.highest fun i =>
    !isnan (hotThresholds i) && le (hotThresholds i) value
  let retHotHysteresis := ThrottlingSeverity.highest fun i =>
    !isnan (hotThresholds i) && lt (hotThresholds i - hotHysteresis i) value
  let retCold := ThrottlingSeverity.highest fun i =>
    !isnan (coldThresholds i) && le value (coldThresholds i)
  let retColdHysteresis := ThrottlingSeverity.highest fun i =>
    !isnan (coldThresholds i) && lt value (coldThresholds i + coldHysteresis i)
  (if retHot.toSize < prevHotSeverity.toSize then retHotHysteresis else retHot,
    if retCold.toSize < prevColdSeverity.toSize then retColdHysteresis else retCold)

namespace ThermalHelper

variable (this : ThermalHelper F)

/-- `readTemperature`, with the severities for hot and cold. -/
def readTemperature (sensorStatusMap : SensorStatusMap) (sensorName : String)
    (file : Option F) : Option (Temperature F × (ThrottlingSeverity × ThrottlingSeverity)) :=
  file.map fun temp =>
    let sensorInfo := this.sensorInfoMap sensorName
    let value := temp * sensorInfo.multiplier
    let status :=
      if sensorInfo.isMonitor then
        getSeverityFromThresholds sensorInfo.hotThresholds sensorInfo.coldThresholds
          sensorInfo.hotHysteresis sensorInfo.coldHysteresis
          (sensorStatusMap sensorName).prevHotSeverity
          (sensorStatusMap sensorName).prevColdSeverity value
      else (.none, .none)
    (⟨sensorInfo.type, sensorName, value, .larger status.1 status.2⟩, status)

/-- A turn of the loop in `thermalWatcherCallbackFunc`, at the sensor `name`, with `temps` and
`thermal_triggered`. -/
def checkSensor (call : Call F) (p : SensorStatusMap × (List (Temperature F) × Bool))
    (name : String) : SensorStatusMap × (List (Temperature F) × Bool) :=
  let (sensorStatusMap, temps, thermalTriggered) := p
  let sensorStatus := sensorStatusMap name
  if !(this.sensorInfoMap name).isMonitor then p
  else if call.ueventSensors.card ≠ 0 ∧ name ∉ call.ueventSensors then
    (sensorStatusMap, temps, thermalTriggered || sensorStatus.severity ≠ .none)
  else
    match this.readTemperature sensorStatusMap name (call.file name) with
    | none => p
    | some (temp, throttlingStatus) =>
      -- readTemperatureThreshold finds every sensor, and what it finds is not used
      let temps := if temp.throttlingStatus ≠ sensorStatus.severity then temps ++ [temp] else temps
      let sensorStatus : SensorStatus :=
        { severity := temp.throttlingStatus
          prevHotSeverity := throttlingStatus.1
          prevColdSeverity := throttlingStatus.2 }
      (Function.update sensorStatusMap name sensorStatus, temps,
        thermalTriggered || sensorStatus.severity ≠ .none)

/-- `thermalWatcherCallbackFunc`; `cb_` is always set. -/
def thermalWatcherCallbackFunc (sensorStatusMap : SensorStatusMap) (call : Call F) :
    SensorStatusMap × List (Out F) :=
  let (sensorStatusMap, temps, thermalTriggered) :=
    this.sensors.foldl (this.checkSensor call) (sensorStatusMap, [], false)
  (sensorStatusMap, (if temps.isEmpty then [] else [.notify temps]) ++ [.returns thermalTriggered])

/-- The machine of the calls. -/
def machine : Machine SensorStatusMap (Call F) (Out F) where
  step sensorStatusMap call := some (this.thermalWatcherCallbackFunc sensorStatusMap call)

end ThermalHelper

/-- `sensor_status_map_` as the constructor fills it. -/
def start : SensorStatusMap := fun _ => {}

end OppoA37.Thermal
