import OppoA37.Hidl.Thermal.ThermalHelper

/-!
# What the watcher callback tells

A call works on every sensor by itself, so what it stores, sends and returns can be read off
what each sensor was before:

* a sensor is sent exactly when it is read and its new severity is not the stored one, so that
  what was sent last of a monitored sensor is what is stored of it;
* the call returns `true` when a sensor that a uevent has not named is throttling, or one that
  is read is.

A sensor that should be read and cannot be is in neither case: if it is the only one that is
throttling, the call returns `false`. `notified_iff` is exact about this.
-/

namespace OppoA37.Thermal

open Lts

variable {F : Type*} [FloatOps F]

namespace ThermalHelper

variable (this : ThermalHelper F) (call : Call F) {name : String} {st : SensorStatus}

/-! ## One sensor -/

/-- The call has to read the sensor. -/
def IsChecked (name : String) : Prop :=
  (this.sensorInfoMap name).isMonitor = true ∧
    (call.ueventSensors.card = 0 ∨ name ∈ call.ueventSensors)

/-- A uevent has named others, and a monitored sensor is passed over. -/
def IsPassedOver (name : String) : Prop :=
  (this.sensorInfoMap name).isMonitor = true ∧ call.ueventSensors.card ≠ 0 ∧
    name ∉ call.ueventSensors

instance : Decidable (this.IsChecked call name) := inferInstanceAs (Decidable (_ ∧ _))

instance : Decidable (this.IsPassedOver call name) := inferInstanceAs (Decidable (_ ∧ _))

/-- What a sensor in the state `st` is read as. -/
def look (name : String) (st : SensorStatus) :
    Option (Temperature F × (ThrottlingSeverity × ThrottlingSeverity)) :=
  if this.IsChecked call name then this.readTemperature (fun _ => st) name (call.file name)
  else none

/-- The severity that is computed for a sensor, if it is read. -/
def computed (name : String) (st : SensorStatus) : Option ThrottlingSeverity :=
  (this.look call name st).map fun r => r.1.throttlingStatus

/-- What is stored of a sensor. -/
def stores (name : String) (st : SensorStatus) : SensorStatus :=
  match this.look call name st with
  | none => st
  | some (temp, throttlingStatus) =>
    ⟨temp.throttlingStatus, throttlingStatus.1, throttlingStatus.2⟩

/-- What is sent of a sensor. -/
def sends (name : String) (st : SensorStatus) : List (Temperature F) :=
  match this.look call name st with
  | none => []
  | some (temp, _) => if temp.throttlingStatus ≠ st.severity then [temp] else []

/-- Does a sensor ask for a look again soon? -/
def Triggers (name : String) (st : SensorStatus) : Prop :=
  this.IsPassedOver call name ∧ st.severity ≠ .none ∨
    ∃ severity ∈ this.computed call name st, severity ≠ .none

instance : Decidable (this.Triggers call name st) := inferInstanceAs (Decidable (_ ∨ _))

/-- What a sensor adds to `temps` and `thermal_triggered`. -/
def adds (name : String) (st : SensorStatus) (p : List (Temperature F) × Bool) :
    List (Temperature F) × Bool :=
  (p.1 ++ this.sends call name st, p.2 || decide (this.Triggers call name st))

variable {this call}

theorem look_of_not_checked (h : ¬ this.IsChecked call name) : this.look call name st = none :=
  if_neg h

theorem look_of_checked (h : this.IsChecked call name) : this.look call name st =
    this.readTemperature (fun _ => st) name (call.file name) :=
  if_pos h

/-- A sensor that is not read stays as it is, and nothing is sent of it. -/
theorem stores_of_none (h : this.look call name st = none) : this.stores call name st = st := by
  rw [stores, h]

theorem sends_of_none (h : this.look call name st = none) : this.sends call name st = [] := by
  rw [sends, h]

theorem triggers_of_none (h : this.look call name st = none) :
    this.Triggers call name st ↔ this.IsPassedOver call name ∧ st.severity ≠ .none := by
  simp [Triggers, computed, h]

/-- A turn of the loop works on the cell of its sensor. -/
theorem checkSensor_eq (p : SensorStatusMap × (List (Temperature F) × Bool)) (name : String) :
    this.checkSensor call p name =
      KeyedLoop.turn (this.stores call) (this.adds call) p name := by
  obtain ⟨map, temps, triggered⟩ := p
  rw [KeyedLoop.turn, checkSensor, adds]
  by_cases hmonitor : (this.sensorInfoMap name).isMonitor = true
  · simp only [hmonitor, Bool.not_true, Bool.false_eq_true, if_false]
    by_cases hpassed : call.ueventSensors.card ≠ 0 ∧ name ∉ call.ueventSensors
    · -- not named by the uevent
      have hlook : this.look call name (map name) = none := by
        refine look_of_not_checked ?_
        rintro ⟨-, hcard | hmem⟩
        · exact hpassed.1 hcard
        · exact hpassed.2 hmem
      have hover : this.IsPassedOver call name := ⟨hmonitor, hpassed⟩
      rw [if_pos hpassed, stores_of_none hlook, sends_of_none hlook, Function.update_eq_self]
      simp [triggers_of_none hlook, hover]
    · have hover : ¬ this.IsPassedOver call name := fun h => hpassed h.2
      have hchecked : this.IsChecked call name := by
        refine ⟨hmonitor, ?_⟩
        by_contra hno
        exact hpassed (not_or.mp hno)
      rw [if_neg hpassed]
      have hlook : this.look call name (map name) =
          this.readTemperature map name (call.file name) := look_of_checked hchecked
      cases hread : this.readTemperature map name (call.file name) with
      | none =>
        rw [hread] at hlook
        simp [stores_of_none hlook, sends_of_none hlook, triggers_of_none hlook, hover]
      | some r =>
        rw [hread] at hlook
        simp only [stores, sends, Triggers, computed, hlook, hover, false_and, false_or]
        split_ifs <;> simp
  · have hlook : this.look call name (map name) = none :=
      look_of_not_checked fun h => hmonitor h.1
    have hover : ¬ this.IsPassedOver call name := fun h => hmonitor h.1
    simp [hmonitor, stores_of_none hlook, sends_of_none hlook, triggers_of_none hlook, hover]

/-! ## One call -/

theorem foldl_adds (map : SensorStatusMap) (names : List String) (temps : List (Temperature F))
    (triggered : Bool) :
    names.foldl (fun p name => this.adds call name (map name) p) (temps, triggered) =
      (temps ++ names.flatMap fun name => this.sends call name (map name),
        triggered || names.any fun name => this.Triggers call name (map name)) := by
  induction names generalizing temps triggered with
  | nil => simp
  | cons name names ih =>
    rw [List.foldl_cons, adds, ih]
    simp [Bool.or_assoc]

/-- The temperatures of a call. -/
def temps (this : ThermalHelper F) (map : SensorStatusMap) (call : Call F) :
    List (Temperature F) :=
  this.sensors.flatMap fun name => this.sends call name (map name)

/-- Every sensor is looked at once, as it was before the call. -/
theorem thermalWatcherCallbackFunc_eq (map : SensorStatusMap) :
    this.thermalWatcherCallbackFunc map call =
      (fun name => if name ∈ this.sensors then this.stores call name (map name) else map name,
        (if (this.temps map call).isEmpty then [] else [.notify (this.temps map call)]) ++
          [.returns (this.sensors.any fun name => this.Triggers call name (map name))]) := by
  have hturn : this.checkSensor call = KeyedLoop.turn (this.stores call) (this.adds call) :=
    funext₂ checkSensor_eq
  rw [thermalWatcherCallbackFunc, hturn, KeyedLoop.foldl_turn _ _ this.nodup, foldl_adds]
  rw [List.nil_append, Bool.false_or]
  rfl

/-- A sensor is sent under its name, with its new severity. -/
theorem mem_sends {temp : Temperature F} : temp ∈ this.sends call name st ↔
    ∃ s, this.look call name st = some (temp, s) ∧ temp.throttlingStatus ≠ st.severity := by
  rw [sends]
  cases hlook : this.look call name st with
  | none => simp
  | some r =>
    obtain ⟨temp', s⟩ := r
    by_cases hne : temp'.throttlingStatus ≠ st.severity
    · simp only [if_pos hne, List.mem_singleton]
      constructor
      · rintro rfl
        exact ⟨s, rfl, hne⟩
      · rintro ⟨s', heq, -⟩
        exact ((Prod.mk.inj (Option.some.inj heq)).1).symm
    · simp only [if_neg hne, List.not_mem_nil, false_iff]
      rintro ⟨s', heq, hne'⟩
      obtain ⟨rfl, -⟩ := Prod.mk.inj (Option.some.inj heq)
      exact hne hne'

/-- What a sensor is read as. -/
theorem look_spec {temp : Temperature F} {s : ThrottlingSeverity × ThrottlingSeverity}
    (h : this.look call name st = some (temp, s)) :
    temp.name = name ∧ temp.throttlingStatus = .larger s.1 s.2 := by
  rw [look] at h
  split_ifs at h
  obtain ⟨value, -, heq⟩ := Option.map_eq_some_iff.mp h
  obtain ⟨rfl, rfl⟩ := Prod.mk.inj heq
  exact ⟨rfl, rfl⟩

/-- A sensor that is checked is read, unless its file reads as nothing. -/
theorem look_eq_none (h : this.IsChecked call name) :
    this.look call name st = none ↔ call.file name = none := by
  rw [look_of_checked h, readTemperature, Option.map_eq_none_iff]

/-- What is stored of a sensor that is read is what was computed. -/
theorem stores_severity_of_computed {severity : ThrottlingSeverity}
    (h : this.computed call name st = some severity) :
    (this.stores call name st).severity = severity := by
  obtain ⟨⟨temp, s⟩, hlook, rfl⟩ := Option.map_eq_some_iff.mp h
  rw [stores, hlook]

/-- A monitored sensor is stored as throttling when it asks for a look again soon, or when it
could not be read. -/
theorem stores_severity_ne_none (hmonitor : (this.sensorInfoMap name).isMonitor = true) :
    (this.stores call name st).severity ≠ .none ↔ this.Triggers call name st ∨
      this.IsChecked call name ∧ call.file name = none ∧ st.severity ≠ .none := by
  by_cases hchecked : this.IsChecked call name
  · have hover : ¬ this.IsPassedOver call name := by
      rintro ⟨-, hcard, hmem⟩
      exact hchecked.2.elim hcard hmem
    cases hc : this.computed call name st with
    | none =>
      have hlook : this.look call name st = none := Option.map_eq_none_iff.mp hc
      rw [stores_of_none hlook, triggers_of_none hlook]
      simp [hover, hchecked, (look_eq_none hchecked).mp hlook]
    | some severity =>
      have hfile : call.file name ≠ none := by
        intro hno
        rw [computed, (look_eq_none hchecked).mpr hno] at hc
        cases hc
      simp [stores_severity_of_computed hc, Triggers, hover, hc, hfile]
  · -- a monitored sensor that is not checked is passed over
    have hlook : this.look call name st = none := look_of_not_checked hchecked
    have hover : this.IsPassedOver call name :=
      ⟨hmonitor, not_or.mp fun hor => hchecked ⟨hmonitor, hor⟩⟩
    rw [stores_of_none hlook, triggers_of_none hlook]
    simp [hover, hchecked]

end ThermalHelper

/-! ## Runs -/

/-- The temperatures in an output. -/
def Out.temps : Out F → List (Temperature F)
  | .notify temps => temps
  | .returns _ => []

/-- What a call sends. -/
def sent (out : List (Out F)) : List (Temperature F) := out.flatMap Out.temps

/-- A temperature is sent. -/
def tell (v : String → ThrottlingSeverity) (temp : Temperature F) : String → ThrottlingSeverity :=
  Function.update v temp.name temp.throttlingStatus

/-- The severities that were sent last, `NONE` of a sensor that was never sent. -/
def lastSent (v : String → ThrottlingSeverity) (e : Event SensorStatusMap (Call F) (Out F)) :
    String → ThrottlingSeverity :=
  (sent e.out).foldl tell v

namespace ThermalHelper

variable (this : ThermalHelper F)

/-- What the callback owes to the framework and the watcher, when `v` was sent last. -/
structure Tells (v : String → ThrottlingSeverity) (e : Event SensorStatusMap (Call F) (Out F)) :
    Prop where
  /-- a sensor is sent exactly if its severity is computed and not the stored one -/
  sent_iff : ∀ name severity,
    (∃ temp ∈ sent e.out, temp.name = name ∧ temp.throttlingStatus = severity) ↔
      name ∈ this.sensors ∧ this.computed e.label name (e.pre name) = some severity ∧
        severity ≠ (e.pre name).severity
  /-- no sensor is sent twice -/
  once : ((sent e.out).map Temperature.name).Nodup
  /-- what was sent last is what is stored -/
  last : ∀ name, lastSent v e name = (e.post name).severity
  /-- and so are the severities that the next readings are compared to -/
  prev : ∀ name, (e.post name).severity =
    .larger (e.post name).prevHotSeverity (e.post name).prevColdSeverity
  /-- the watcher looks again soon while a monitored sensor is throttling -/
  fast : (∃ name ∈ this.sensors, (this.sensorInfoMap name).isMonitor = true ∧
    (e.post name).severity ≠ .none) → Out.returns true ∈ e.out

/-- If a throttling sensor cannot be read, another one asks for a look again soon. -/
def SeesThrottling (map : SensorStatusMap) (call : Call F) : Prop :=
  (∃ name ∈ this.sensors, this.IsChecked call name ∧ call.file name = none ∧
    (map name).severity ≠ .none) →
  ∃ name ∈ this.sensors, this.Triggers call name (map name)

instance (map : SensorStatusMap) (call : Call F) : Decidable (this.SeesThrottling map call) :=
  inferInstanceAs (Decidable (_ → _))

/-- What was sent last is what is stored, and it is the larger one of the two severities. -/
structure UpToDate (v : String → ThrottlingSeverity) (map : SensorStatusMap) : Prop where
  last : ∀ name, v name = (map name).severity
  prev : ∀ name, (map name).severity =
    .larger (map name).prevHotSeverity (map name).prevColdSeverity

variable {this}

theorem upToDate_start : UpToDate (fun _ => .none) start := ⟨fun _ => rfl, fun _ => rfl⟩

variable {map map' : SensorStatusMap} {call : Call F} {out : List (Out F)}
  {v : String → ThrottlingSeverity}

/-- A call, by what it leaves behind, sends and returns. -/
theorem step_spec (hs : this.machine.step map call = some (map', out)) :
    (∀ name, map' name = if name ∈ this.sensors then this.stores call name (map name)
      else map name) ∧ sent out = this.temps map call ∧
      (Out.returns true ∈ out ↔ ∃ name ∈ this.sensors, this.Triggers call name (map name)) := by
  have heq : this.thermalWatcherCallbackFunc map call = (map', out) := Option.some.inj hs
  rw [thermalWatcherCallbackFunc_eq] at heq
  obtain ⟨rfl, rfl⟩ := Prod.mk.inj heq
  refine ⟨fun _ => rfl, ?_, ?_⟩
  · by_cases hempty : (this.temps map call).isEmpty
    · simp [sent, Out.temps, List.isEmpty_iff.mp hempty]
    · simp [hempty, sent, Out.temps]
  · split_ifs <;> simp [List.any_eq_true]

/-- What is sent of a sensor brings what was sent last up to date. -/
theorem foldl_tell_sends {name : String} {st : SensorStatus} (hv : v name = st.severity) :
    (this.sends call name st).foldl tell v =
      Function.update v name (this.stores call name st).severity := by
  cases hlook : this.look call name st with
  | none =>
    rw [sends_of_none hlook, stores_of_none hlook, ← hv, Function.update_eq_self]
    rfl
  | some r =>
    obtain ⟨hname, -⟩ : r.1.name = name ∧ r.1.throttlingStatus = .larger r.2.1 r.2.2 :=
      look_spec hlook
    by_cases hne : r.1.throttlingStatus = st.severity
    · simp [sends, stores, hlook, hne, ← hv]
    · simp [sends, stores, hlook, hne, tell, hname]

/-- What a call sends brings everything up to date that it works on. -/
theorem foldl_tell {names : List String} (hnames : names.Nodup)
    (hv : ∀ name ∈ names, v name = (map name).severity) :
    (names.flatMap fun name => this.sends call name (map name)).foldl tell v =
      fun name => if name ∈ names then (this.stores call name (map name)).severity
        else v name := by
  induction names generalizing v with
  | nil => simp
  | cons name names ih =>
    obtain ⟨hname, hnames⟩ := List.nodup_cons.mp hnames
    rw [List.flatMap_cons, List.foldl_append, foldl_tell_sends (hv name List.mem_cons_self),
      ih hnames ?_]
    · funext name'
      by_cases heq : name' = name
      · subst heq
        simp [hname]
      · simp [heq]
    · intro name' hmem
      rw [Function.update_of_ne ?_]
      · exact hv name' (List.mem_cons_of_mem _ hmem)
      · rintro rfl
        exact hname hmem

/-- The names that are sent come in the order of the sensors. -/
theorem names_sublist (names : List String) :
    ((names.flatMap fun name => this.sends call name (map name)).map
      Temperature.name).Sublist names := by
  induction names with
  | nil => exact List.Sublist.refl _
  | cons name names ih =>
    rw [List.flatMap_cons, List.map_append]
    have hone : ((this.sends call name (map name)).map Temperature.name).Sublist [name] := by
      cases hlook : this.look call name (map name) with
      | none => simp [sends_of_none hlook]
      | some r =>
        have hname : r.1.name = name := (look_spec hlook).1
        simp only [sends, hlook]
        split_ifs <;> simp [hname]
    exact hone.append ih

/-- A sensor is sent if its severity is computed and not the stored one. -/
theorem mem_temps {severity : ThrottlingSeverity} {name : String} :
    (∃ temp ∈ this.temps map call, temp.name = name ∧ temp.throttlingStatus = severity) ↔
      name ∈ this.sensors ∧ this.computed call name (map name) = some severity ∧
        severity ≠ (map name).severity := by
  constructor
  · rintro ⟨temp, htemp, rfl, rfl⟩
    obtain ⟨name, hmem, hsends⟩ := List.mem_flatMap.mp htemp
    obtain ⟨s, hlook, hne⟩ := mem_sends.mp hsends
    obtain rfl := (look_spec hlook).1
    exact ⟨hmem, by rw [computed, hlook]; rfl, hne⟩
  · rintro ⟨hmem, hc, hne⟩
    obtain ⟨⟨temp, s⟩, hlook, rfl⟩ := Option.map_eq_some_iff.mp hc
    exact ⟨temp, List.mem_flatMap.mpr ⟨name, hmem, mem_sends.mpr ⟨s, hlook, hne⟩⟩,
      (look_spec hlook).1, rfl⟩

/-- A call that sees all that are throttling returns `true` while one is. -/
theorem fast_of_seesThrottling (hs : this.machine.step map call = some (map', out))
    (hsees : this.SeesThrottling map call) {name : String} (hmem : name ∈ this.sensors)
    (hmonitor : (this.sensorInfoMap name).isMonitor = true)
    (hne : (map' name).severity ≠ .none) : Out.returns true ∈ out := by
  obtain ⟨hpost, -, hreturns⟩ := step_spec hs
  rw [hpost name, if_pos hmem] at hne
  apply hreturns.mpr
  rcases (stores_severity_ne_none hmonitor).mp hne with htriggers | hunread
  · exact ⟨name, hmem, htriggers⟩
  · exact hsees ⟨name, hmem, hunread⟩

/-- **One call.** It keeps everything up to date, and owes nothing but the look again. -/
theorem UpToDate.step {e : Event SensorStatusMap (Call F) (Out F)} (hI : UpToDate v e.pre)
    (hs : this.machine.step e.pre e.label = some (e.post, e.out)) :
    UpToDate (lastSent v e) e.post ∧
      (this.Tells v e ↔ this.SeesThrottling e.pre e.label) := by
  obtain ⟨hpost, hsent, hreturns⟩ := step_spec hs
  have hlast : ∀ name, lastSent v e name = (e.post name).severity := by
    intro name
    rw [lastSent, hsent, temps, foldl_tell this.nodup fun name _ => hI.last name, hpost name]
    by_cases hmem : name ∈ this.sensors
    · simp only [if_pos hmem]
    · simp only [if_neg hmem, hI.last]
  have hprev : ∀ name, (e.post name).severity =
      .larger (e.post name).prevHotSeverity (e.post name).prevColdSeverity := by
    intro name
    rw [hpost name]
    split_ifs with hmem
    · cases hlook : this.look e.label name (e.pre name) with
      | none =>
        rw [stores_of_none hlook]
        exact hI.prev name
      | some r =>
        have hlarger : r.1.throttlingStatus = .larger r.2.1 r.2.2 := (look_spec hlook).2
        simp only [stores, hlook, hlarger]
    · exact hI.prev name
  refine ⟨⟨hlast, hprev⟩, ⟨fun htells => ?_, fun hsees => ⟨?_, ?_, hlast, hprev, ?_⟩⟩⟩
  · -- the call returns true for the throttling sensor that was not read
    rintro ⟨name, hmem, hchecked, hfile, hne⟩
    refine hreturns.mp (htells.fast ⟨name, hmem, hchecked.1, ?_⟩)
    rw [hpost name, if_pos hmem]
    exact (stores_severity_ne_none hchecked.1).mpr (Or.inr ⟨hchecked, hfile, hne⟩)
  · intro name severity
    rw [hsent]
    exact mem_temps
  · rw [hsent]
    exact (names_sublist this.sensors).nodup this.nodup
  · rintro ⟨name, hmem, hmonitor, hne⟩
    exact fast_of_seesThrottling hs hsees hmem hmonitor hne

variable {h : List (Event SensorStatusMap (Call F) (Out F))}

/-- **The runs in which the callback tells everything** are those in which no call leaves out a
throttling sensor that cannot be read while nothing else asks for a look again soon. -/
theorem notified_iff (hrun : Run this.machine start h map) :
    (∀ e ∈ h, this.SeesThrottling e.pre e.label) ↔
      Watched lastSent (fun _ => .none) this.Tells h := by
  refine Run.watched_iff UpToDate (fun _ _ => True) this.SeesThrottling upToDate_start ?_ ?_ hrun
    fun _ _ => trivial
  · intro v e hI _ hsees hs
    obtain ⟨hI', htells⟩ := hI.step hs
    exact ⟨hI', htells.mpr hsees⟩
  · intro v e hI _ hno hs htells
    exact hno ((hI.step hs).2.mp htells)

end ThermalHelper

/-- Integers, none of them `NAN`. -/
instance : FloatOps ℤ where
  isnan _ := false
  le a b := a ≤ b
  lt a b := a < b

/-- A sensor that throttles lightly from 41 on, more with every degree, and is never cold. -/
def skinInfo : SensorInfo ℤ where
  type := .skin
  hotThresholds i := 40 + i.toSize
  coldThresholds _ := -100
  hotHysteresis _ := 1
  coldHysteresis _ := 0
  multiplier := 1
  isMonitor := true

/-- A helper with this sensor only. -/
def skinHelper : ThermalHelper ℤ where
  sensors := ["skin"]
  nodup := List.nodup_singleton _
  sensorInfoMap _ := skinInfo

/-- The watcher looks at all sensors. -/
def lookAtAll (file : Option ℤ) : Call ℤ := ⟨∅, fun _ => file⟩

/-- The sensor gets hot, stays so within its hysteresis, and cools down. -/
theorem notified_skin : ∃ h map, Run skinHelper.machine start h map ∧
    h.map Event.label = [lookAtAll (some 42), lookAtAll (some 41), lookAtAll (some 30)] ∧
    Watched lastSent (fun _ => .none) skinHelper.Tells h := by
  obtain ⟨h, map, hrun, hl, hcheck⟩ := skinHelper.machine.exists_run start
    [lookAtAll (some 42), lookAtAll (some 41), lookAtAll (some 30)]
    (fun h _ => h.all fun e => decide (skinHelper.SeesThrottling e.pre e.label))
    (by decide +kernel)
  refine ⟨h, map, hrun, hl, (ThermalHelper.notified_iff hrun).mp fun e he => ?_⟩
  exact of_decide_eq_true (List.all_eq_true.mp hcheck e he)

/-- The sensor gets hot, and cannot be read any more: it is still stored as throttling, and the
call returns `false`. -/
theorem unread_not_told : ∃ h map, Run skinHelper.machine start h map ∧
    h.map Event.label = [lookAtAll (some 42), lookAtAll none] ∧
    ¬ Watched lastSent (fun _ => .none) skinHelper.Tells h := by
  obtain ⟨h, e, hrun, hl, hle, hcheck⟩ := skinHelper.machine.exists_run_last start
    [lookAtAll (some 42)] (lookAtAll none)
    (fun _ e => decide ((e.post "skin").severity ≠ .none) && decide (Out.returns true ∉ e.out))
    (by decide +kernel)
  obtain ⟨hne, hout⟩ := Bool.and_eq_true_iff.mp hcheck
  refine ⟨h ++ [e], e.post, hrun, by simp [hl, hle], fun hwatched => ?_⟩
  have htells := (watched_snoc.mp hwatched).2
  exact of_decide_eq_true hout
    (htells.fast ⟨"skin", List.mem_singleton_self _, rfl, of_decide_eq_true hne⟩)

end OppoA37.Thermal
