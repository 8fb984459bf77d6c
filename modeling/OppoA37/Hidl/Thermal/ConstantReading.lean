import OppoA37.Hidl.Thermal.Notifications
import OppoA37.Hidl.Thermal.SeverityHysteresis

/-!
# A reading that does not change

Once a sensor has been read, its severities are the ones that the next reading is compared to. If
that is the same reading, they should stay.

* `severities_eq_iff`: they do exactly when a side that is lowered keeps what is reached;
* `severities_thrice`: they do in any case from the second time on, and never go back and forth;
* `constant_reading_iff` adds what this means for a run of the watcher callback: as long as the
  readings of a sensor do not change, it is sent at most once.

The sensors of the configuration that comes with the device have no hysteresis: one that falls to
a threshold exactly is sent twice (`sent_twice`).
-/

namespace OppoA37.Thermal

open Lts

/-! ## Severities -/

namespace Side

variable {side : Side} {prev : ThrottlingSeverity}

/-- **One side**: the severity stays exactly when it was not lowered, or keeps what is reached. -/
theorem severity_severity_iff : side.severity (side.severity prev) = side.severity prev ↔
    side.NotLowered prev ∨ side.KeepsReached := by
  rw [notLowered_iff, keepsReached_iff]
  exact Hysteresis.settle_settle_iff

end Side

variable {F : Type*} [FloatOps F]

namespace SensorInfo

variable (info : SensorInfo F) (value : F)

/-- Each side is not lowered, or keeps what is reached. -/
def Settles (prev : ThrottlingSeverity × ThrottlingSeverity) : Prop :=
  ((info.hotSide value).NotLowered prev.1 ∨ (info.hotSide value).KeepsReached) ∧
    ((info.coldSide value).NotLowered prev.2 ∨ (info.coldSide value).KeepsReached)

instance (prev : ThrottlingSeverity × ThrottlingSeverity) : Decidable (info.Settles value prev) :=
  inferInstanceAs (Decidable (_ ∧ _))

variable {info value}

theorem severities_eq_iff {prev : ThrottlingSeverity × ThrottlingSeverity} :
    info.severities value (info.severities value prev) = info.severities value prev ↔
      info.Settles value prev := by
  rw [severities_eq, severities_eq, Prod.mk.injEq]
  exact and_congr Side.severity_severity_iff Side.severity_severity_iff

/-- A reading that comes again and again changes the severities twice at most. -/
theorem severities_thrice (prev : ThrottlingSeverity × ThrottlingSeverity) :
    info.severities value (info.severities value (info.severities value prev)) =
      info.severities value (info.severities value prev) := by
  simp only [severities_eq]
  exact congrArg₂ Prod.mk (Hysteresis.settle_thrice _ _ _) (Hysteresis.settle_thrice _ _ _)

end SensorInfo

/-- In a configuration with a hysteresis that fits its levels, every reading settles at once. -/
theorem settles_of_wellSpaced {K : Type} [Field K] [LinearOrder K] [IsStrictOrderedRing K]
    {stof : String → Option (WithNan K)} {sensors : Option (List (SensorJson (WithNan K)))}
    {parsed : List (String × ParsedSensor (WithNan K))}
    (hparse : ParseSensorInfo stof sensors = some parsed) {p : String × ParsedSensor (WithNan K)}
    (hp : p ∈ parsed) (hw : WellSpaced p.2.toSensorInfo) (value : WithNan K)
    (prev : ThrottlingSeverity × ThrottlingSeverity) : p.2.Settles value prev :=
  have hacc : Accepted p.2.toSensorInfo := accepted_of_mem hparse hp
  ⟨Or.inr (keepsReached_hot hacc hw), Or.inr (keepsReached_cold hacc hw)⟩

/-! ## Notifications -/

/-- The severities that the next reading is compared to. -/
def SensorStatus.prev (st : SensorStatus) : ThrottlingSeverity × ThrottlingSeverity :=
  (st.prevHotSeverity, st.prevColdSeverity)

/-- What a history sends of a sensor. -/
def sentOf (name : String) (h : List (Event SensorStatusMap (Call F) (Out F))) :
    List (Temperature F) :=
  (h.flatMap fun e => sent e.out).filter fun temp => temp.name = name

omit [FloatOps F] in
theorem sentOf_append (name : String)
    (h₁ h₂ : List (Event SensorStatusMap (Call F) (Out F))) :
    sentOf name (h₁ ++ h₂) = sentOf name h₁ ++ sentOf name h₂ := by
  rw [sentOf, List.flatMap_append, List.filter_append]
  rfl

namespace ThermalHelper

variable (this : ThermalHelper F) (name : String)

/-- Whatever a call reads of the sensor, it is `value`. -/
def Reads (value : F) (call : Call F) : Prop :=
  ∀ temp ∈ call.file name, temp * (this.sensorInfoMap name).multiplier = value

/-- The same reading leaves the sensor as it is. -/
structure Settled (value : F) (st : SensorStatus) : Prop where
  /-- its severities stay -/
  prev : (this.sensorInfoMap name).severities value st.prev = st.prev
  /-- and they are stored -/
  severity : st.severity = .larger st.prev.1 st.prev.2

variable {this name} {value : F} {call : Call F} {st : SensorStatus}

/-- A call that reads the sensor computes its severities from `value`. -/
theorem look_of_reads (hreads : this.Reads name value call) :
    this.look call name st = none ∨
      ∃ temp : Temperature F, temp.throttlingStatus =
          .larger ((this.sensorInfoMap name).severities value st.prev).1
            ((this.sensorInfoMap name).severities value st.prev).2 ∧
        this.look call name st =
          some (temp, (this.sensorInfoMap name).severities value st.prev) := by
  by_cases hchecked : this.IsChecked call name
  · rw [look_of_checked hchecked, readTemperature]
    cases hfile : call.file name with
    | none => exact Or.inl rfl
    | some temp =>
      right
      simp only [Option.map_some, hchecked.1, if_true, hreads temp hfile]
      exact ⟨_, rfl, rfl⟩
  · exact Or.inl (look_of_not_checked hchecked)

/-- What is sent of a sensor has its name. -/
theorem name_of_mem_sends {temp : Temperature F} (h : temp ∈ this.sends call name st) :
    temp.name = name := by
  obtain ⟨s, hlook, -⟩ := mem_sends.mp h
  exact (look_spec hlook).1

/-- Of what a call sends, only what is sent of the sensor has its name. -/
theorem filter_temps {names : List String} (hnames : names.Nodup) (map : SensorStatusMap) :
    (names.flatMap fun name' => this.sends call name' (map name')).filter
        (fun temp => temp.name = name) =
      if name ∈ names then this.sends call name (map name) else [] := by
  induction names with
  | nil => rfl
  | cons name' names ih =>
    obtain ⟨hname, hnames⟩ := List.nodup_cons.mp hnames
    rw [List.flatMap_cons, List.filter_append, ih hnames]
    by_cases heq : name = name'
    · subst heq
      rw [if_neg hname, if_pos List.mem_cons_self, List.append_nil]
      exact List.filter_eq_self.mpr fun temp htemp => decide_eq_true (name_of_mem_sends htemp)
    · have hother : (this.sends call name' (map name')).filter (fun temp => temp.name = name) =
          [] := by
        refine List.filter_eq_nil_iff.mpr fun temp htemp hdec => ?_
        exact heq ((of_decide_eq_true hdec).symm.trans (name_of_mem_sends htemp))
      rw [hother, List.nil_append]
      simp only [List.mem_cons, heq, false_or]

/-- **One call** that can only read `value`: the sensor is passed over, or its severities are
computed from `value`, and it is sent if they are new. -/
theorem step_of_reads {pre post : SensorStatusMap} {out : List (Out F)}
    (hreads : this.Reads name value call)
    (hs : this.machine.step pre call = some (post, out)) :
    post name = pre name ∧ sentOf name [⟨pre, call, out, post⟩] = [] ∨
      (post name).prev = (this.sensorInfoMap name).severities value (pre name).prev ∧
        (post name).severity = .larger (post name).prev.1 (post name).prev.2 ∧
        (sentOf name [⟨pre, call, out, post⟩]).length ≤ 1 ∧
        ((post name).severity = (pre name).severity →
          sentOf name [⟨pre, call, out, post⟩] = []) := by
  obtain ⟨hpost, hsent, -⟩ := step_spec hs
  have hof : sentOf name [⟨pre, call, out, post⟩] =
      if name ∈ this.sensors then this.sends call name (pre name) else [] := by
    rw [sentOf, List.flatMap_singleton, hsent, temps]
    exact filter_temps this.nodup pre
  rw [hof, hpost name]
  by_cases hmem : name ∈ this.sensors
  · rw [if_pos hmem, if_pos hmem]
    rcases look_of_reads hreads with hlook | ⟨temp, htemp, hlook⟩
    · exact Or.inl ⟨stores_of_none hlook, sends_of_none hlook⟩
    · right
      simp only [stores, sends, hlook]
      refine ⟨rfl, htemp, ?_, ?_⟩
      · split_ifs
        · exact le_rfl
        · exact Nat.zero_le _
      · exact fun hsame => if_neg (not_not.mpr hsame)
  · rw [if_neg hmem, if_neg hmem]
    exact Or.inl ⟨rfl, rfl⟩

/-- **Runs** that can only read `value` send the sensor once at most, and leave it settled. -/
theorem run_of_reads {h : List (Event SensorStatusMap (Call F) (Out F))}
    {map map' : SensorStatusMap} (hr : Run this.machine map h map')
    (hsettles : (this.sensorInfoMap name).Settles value (map name).prev)
    (hreads : ∀ e ∈ h, this.Reads name value e.label) :
    map' name = map name ∧ sentOf name h = [] ∨
      this.Settled name value (map' name) ∧ (sentOf name h).length ≤ 1 := by
  induction hr with
  | nil => exact Or.inl ⟨rfl, rfl⟩
  | @snoc h pre post call out hr hs ih =>
    simp only [List.forall_mem_append, List.forall_mem_singleton] at hreads
    have hstep := step_of_reads hreads.2 hs
    rw [sentOf_append]
    rcases ih hreads.1 with ⟨hpre, hnone⟩ | ⟨hsettled, honce⟩
    · rw [hnone, List.nil_append, ← hpre]
      rcases hstep with hover | ⟨hprev, hseverity, honce, -⟩
      · exact Or.inl hover
      · -- the first time that it is read
        right
        refine ⟨⟨?_, hseverity⟩, honce⟩
        rw [hprev]
        exact SensorInfo.severities_eq_iff.mpr (hpre ▸ hsettles)
    · right
      rcases hstep with ⟨hpost, hnone⟩ | ⟨hprev, hseverity, -, hnone⟩
      · rw [hnone, List.append_nil, hpost]
        exact ⟨hsettled, honce⟩
      · have hsame : (post name).prev = (pre name).prev := hprev.trans hsettled.prev
        rw [hsame, ← hsettled.severity] at hseverity
        rw [hnone hseverity, List.append_nil]
        refine ⟨⟨?_, ?_⟩, honce⟩
        · rw [hsame]
          exact hsettled.prev
        · rw [hsame, hseverity]
          exact hsettled.severity

end ThermalHelper

/-- **A constant reading settles at once** exactly when each side is not lowered, or keeps what is
reached. Then a sensor is sent at most once while its readings do not change. -/
theorem constant_reading_iff (info : SensorInfo F) (value : F)
    (prev : ThrottlingSeverity × ThrottlingSeverity) :
    (info.severities value (info.severities value prev) = info.severities value prev ↔
        info.Settles value prev) ∧
      (info.Settles value prev → ∀ (this : ThermalHelper F) (name : String) h map map',
        this.sensorInfoMap name = info → (map name).prev = prev → Run this.machine map h map' →
        (∀ e ∈ h, this.Reads name value e.label) → (sentOf name h).length ≤ 1) := by
  refine ⟨SensorInfo.severities_eq_iff, ?_⟩
  rintro hsettles this name h map map' rfl rfl hr hreads
  rcases ThermalHelper.run_of_reads hr hsettles hreads with ⟨-, hnone⟩ | ⟨-, honce⟩
  · rw [hnone]
    exact Nat.zero_le _
  · exact honce

/-- A device with one sensor. -/
def oneSensor (sensor : String × ParsedSensor (WithNan ℚ)) : ThermalHelper (WithNan ℚ) where
  sensors := [sensor.1]
  nodup := List.nodup_singleton _
  sensorInfoMap _ := sensor.2.toSensorInfo

/-- The watcher looks at all sensors, and all are as hot. -/
def lookAt (temp : ℚ) : Call (WithNan ℚ) := ⟨∅, fun _ => some (.num temp)⟩

/-- A sensor that has cooled down to 66 is sent once. -/
theorem sent_once : ∃ sensor ∈ (ParseSensorInfo stofNan (some [tsensTzSensor5])).getD [],
    ∃ h map, Run (oneSensor sensor).machine (fun _ => ⟨.emergency, .emergency, .none⟩) h map ∧
      h.map Event.label = [lookAt 66, lookAt 66] ∧ (sentOf sensor.1 h).length ≤ 1 := by
  obtain ⟨sensor, hmem, hsettles, hvalue, hexec⟩ :
      ∃ sensor ∈ (ParseSensorInfo stofNan (some [tsensTzSensor5])).getD [],
        sensor.2.Settles (.num 66) (.emergency, .none) ∧
          .num 66 * sensor.2.multiplier = .num 66 ∧
          ((oneSensor sensor).machine.exec (fun _ => ⟨.emergency, .emergency, .none⟩)
            [lookAt 66, lookAt 66]).any fun _ => true := by
    decide +kernel
  obtain ⟨h, map, hrun, hl, -⟩ := Machine.exists_run _ _ (fun _ _ => true) hexec
  refine ⟨sensor, hmem, h, map, hrun, hl, ?_⟩
  refine (constant_reading_iff sensor.2.toSensorInfo (.num 66) (.emergency, .none)).2 hsettles
    (oneSensor sensor) _ _ _ _ rfl rfl hrun ?_
  refine forall_label hl fun call hcall temp htemp => ?_
  obtain rfl : call = lookAt 66 := by simpa using hcall
  obtain rfl : .num 66 = temp := Option.some.inj htemp
  exact hvalue

/-- A sensor that has cooled down to 65 is sent as `NONE`, and then as `MODERATE`. -/
theorem sent_twice : ∃ sensor ∈ (ParseSensorInfo stofNan (some [tsensTzSensor5])).getD [],
    sensor.2.severities (.num 65) (.severe, .none) = (.none, .none) ∧
      sensor.2.severities (.num 65) (.none, .none) = (.moderate, .none) ∧
      ((oneSensor sensor).machine.exec (fun _ => ⟨.severe, .severe, .none⟩)
        [lookAt 65, lookAt 65]).any fun r =>
          (sentOf sensor.1 r.1).map Temperature.throttlingStatus = [.none, .moderate] := by
  decide +kernel

end OppoA37.Thermal
