import OppoA37.Hidl.Thermal.ThermalHelper

/-!
# `config_parser.cpp`: the sensors of a configuration

`ParseSensorInfo` reads the thresholds and the hysteresis of every sensor from a JSON document.
What the JSON library hands over is the input here. One sensor that is wrong makes the whole
configuration empty.

`WithNan K` is the arithmetic of `float` without its rounding: a number of an ordered field, or
`NAN`. `accepted_of_mem` says what is known of the tables of a sensor that was accepted: the
thresholds that are not `NAN` come in order, and no hysteresis is `NAN`. Nothing is known about
the sign or the size of a hysteresis.
-/

namespace OppoA37.Thermal

open FloatOps (isnan le lt)

/-! ## Numbers -/

/-- A number, or `NAN`. -/
inductive WithNan (K : Type) where
  | nan
  | num (x : K)
  deriving DecidableEq, Repr

namespace WithNan

/-- An operation on numbers. -/
def lift {K : Type} (f : K → K → K) : WithNan K → WithNan K → WithNan K
  | num x, num y => num (f x y)
  | _, _ => nan

/-- A comparison of numbers; `NAN` compares to nothing. -/
def compare {K : Type} (p : K → K → Bool) : WithNan K → WithNan K → Bool
  | num x, num y => p x y
  | _, _ => false

/-- `std::isnan` -/
def isNan {K : Type} : WithNan K → Bool
  | nan => true
  | num _ => false

end WithNan

/-- The constants of `float` that the code uses. -/
class FloatConsts (F : Type) extends FloatOps F where
  /-- `NAN` -/
  nan : F
  /-- `0.0` -/
  zero : F
  /-- `std::numeric_limits<float>::min()`, the least positive normal number -/
  min : F
  /-- `std::numeric_limits<float>::max()` -/
  max : F

instance {K : Type} [Field K] [LinearOrder K] : FloatConsts (WithNan K) where
  add := WithNan.lift (· + ·)
  sub := WithNan.lift (· - ·)
  mul := WithNan.lift (· * ·)
  isnan := WithNan.isNan
  le := WithNan.compare fun x y => decide (x ≤ y)
  lt := WithNan.compare fun x y => decide (x < y)
  nan := .nan
  zero := .num 0
  min := .num (2 ^ 126)⁻¹
  max := .num ((2 ^ 24 - 1) * 2 ^ 104)

namespace WithNan

variable {K : Type} [Field K] [LinearOrder K] (x y : K) (a : WithNan K)

@[simp] theorem isnan_nan : FloatOps.isnan (nan : WithNan K) = true := rfl

@[simp] theorem isnan_num : FloatOps.isnan (num x) = false := rfl

@[simp] theorem num_le_num : FloatOps.le (num x) (num y) = decide (x ≤ y) := rfl

@[simp] theorem num_lt_num : FloatOps.lt (num x) (num y) = decide (x < y) := rfl

@[simp] theorem nan_le : FloatOps.le nan a = false := rfl

@[simp] theorem le_nan : FloatOps.le a nan = false := by cases a <;> rfl

@[simp] theorem nan_lt : FloatOps.lt nan a = false := rfl

@[simp] theorem lt_nan : FloatOps.lt a nan = false := by cases a <;> rfl

@[simp] theorem num_sub_num : num x - num y = num (x - y) := rfl

@[simp] theorem num_add_num : num x + num y = num (x + y) := rfl

@[simp] theorem sub_nan : a - nan = nan := by cases a <;> rfl

@[simp] theorem add_nan : a + nan = nan := by cases a <;> rfl

end WithNan

/-! ## The document -/

/-- A value where a number is wanted. -/
inductive JsonNumber (F : Type) where
  /-- `isString()`, and `asString()` -/
  | string (asString : String)
  /-- anything else, and its `asFloat()`, unless that throws -/
  | other (asFloat : Option F)

/-- An element of `Sensors`, as the JSON library hands it over. -/
structure SensorJson (F : Type) where
  /-- `Name`, `asString()` -/
  name : String
  /-- `Type`, `asString()` -/
  type : String
  /-- `HotThreshold` -/
  hotThreshold : List (JsonNumber F)
  /-- `HotHysteresis` -/
  hotHysteresis : List (JsonNumber F)
  /-- `ColdThreshold` -/
  coldThreshold : List (JsonNumber F)
  /-- `ColdHysteresis` -/
  coldHysteresis : List (JsonNumber F)
  /-- `VrThreshold` -/
  vrThreshold : JsonNumber F
  /-- `Multiplier`, `asFloat()`, unless that throws -/
  multiplier : Option F
  /-- `Monitor`, if it is a `bool` -/
  monitor : Option Bool

/-- A whole `SensorInfo`. -/
structure ParsedSensor (F : Type) extends SensorInfo F where
  /-- `vr_threshold` -/
  vrThreshold : F

/-- Why a sensor is not parsed. -/
inductive ParseError where
  /-- the code gives up, with an empty result -/
  | invalid
  /-- `std::stof` or `asFloat()` throws -/
  | thrown
  deriving DecidableEq, Repr

/-! ## Parsing -/

variable {F : Type} [FloatConsts F] (stof : String → Option F)

/-- `toString` of a `TemperatureType` -/
def TemperatureType.toString : TemperatureType → String
  | unknown => "UNKNOWN"
  | cpu => "CPU"
  | gpu => "GPU"
  | battery => "BATTERY"
  | skin => "SKIN"
  | usbPort => "USB_PORT"
  | powerAmplifier => "POWER_AMPLIFIER"
  | bclVoltage => "BCL_VOLTAGE"
  | bclCurrent => "BCL_CURRENT"
  | bclPercentage => "BCL_PERCENTAGE"
  | npu => "NPU"

/-- `hidl_enum_range<TemperatureType>()` -/
def TemperatureType.range : List TemperatureType :=
  [unknown, cpu, gpu, battery, skin, usbPort, powerAmplifier, bclVoltage, bclCurrent,
    bclPercentage, npu]

/-- `getTypeFromString` -/
def getTypeFromString (str : String) : Except ParseError TemperatureType :=
  match TemperatureType.range.find? fun type => type.toString = str with
  | some type => .ok type
  | none => .error .invalid

/-- A call that may throw. -/
def mayThrow : Option F → Except ParseError F
  | some x => .ok x
  | none => .error .thrown

/-- `getFloatFromValue` -/
def getFloatFromValue : JsonNumber F → Except ParseError F
  | .string asString => mayThrow (stof asString)
  | .other asFloat => mayThrow asFloat

/-- `kThrottlingSeverityCount` -/
def kThrottlingSeverityCount : ℕ := 7

/-- A `ThrottlingArray` by its entries. -/
def toArray (fill : F) (values : List F) : ThrottlingArray F := fun i => values.getD i.toSize fill

/-- The loops over thresholds; `wrong` compares an entry to the last one before it that is not
`NAN`. -/
def parseThresholds (wrong : F → F → Bool) : F → List (JsonNumber F) → Except ParseError (List F)
  | _, [] => .ok []
  | last, value :: values => do
    let x ← getFloatFromValue stof value
    if isnan x then
      let xs ← parseThresholds wrong last values
      return x :: xs
    else if wrong x last then .error .invalid
    else
      let xs ← parseThresholds wrong x values
      return x :: xs

/-- The loops over hysteresis. -/
def parseHysteresis : List (JsonNumber F) → Except ParseError (List F)
  | [] => .ok []
  | value :: values => do
    let x ← getFloatFromValue stof value
    if isnan x then .error .invalid
    else
      let xs ← parseHysteresis values
      return x :: xs

/-- `HotThreshold` must be there. -/
def parseHotThreshold (values : List (JsonNumber F)) : Except ParseError (List F) :=
  if values.length ≠ kThrottlingSeverityCount then .error .invalid
  else parseThresholds stof (fun x min => lt x min) FloatConsts.min values

/-- `ColdThreshold` is all `NAN` by default. -/
def parseColdThreshold (values : List (JsonNumber F)) : Except ParseError (List F) :=
  if values.length ≠ kThrottlingSeverityCount then
    .ok (List.replicate kThrottlingSeverityCount FloatConsts.nan)
  else parseThresholds stof (fun x max => lt max x) FloatConsts.max values

/-- `HotHysteresis` and `ColdHysteresis` are all 0.0 by default. -/
def parseHysteresisOrZero (values : List (JsonNumber F)) : Except ParseError (List F) :=
  if values.length ≠ kThrottlingSeverityCount then
    .ok (List.replicate kThrottlingSeverityCount FloatConsts.zero)
  else parseHysteresis stof values

/-- A turn of the loop over the sensors, once the name is known to be good. -/
def parseSensor (sensor : SensorJson F) : Except ParseError (ParsedSensor F) := do
  let type ← getTypeFromString sensor.type
  let hotThresholds ← parseHotThreshold stof sensor.hotThreshold
  let hotHysteresis ← parseHysteresisOrZero stof sensor.hotHysteresis
  let coldThresholds ← parseColdThreshold stof sensor.coldThreshold
  let coldHysteresis ← parseHysteresisOrZero stof sensor.coldHysteresis
  let vrThreshold ← getFloatFromValue stof sensor.vrThreshold
  let multiplier ← mayThrow sensor.multiplier
  return {
    type := type
    hotThresholds := toArray FloatConsts.nan hotThresholds
    coldThresholds := toArray FloatConsts.nan coldThresholds
    hotHysteresis := toArray FloatConsts.zero hotHysteresis
    coldHysteresis := toArray FloatConsts.zero coldHysteresis
    multiplier := multiplier
    isMonitor := sensor.monitor.getD false
    vrThreshold := vrThreshold }

/-- The loop over the sensors, with `sensors_name_parsed`. -/
def parseSensors : List String → List (SensorJson F) →
    Except ParseError (List (String × ParsedSensor F))
  | _, [] => .ok []
  | namesParsed, sensor :: sensors => do
    if sensor.name = "" ∨ sensor.name ∈ namesParsed then .error .invalid
    else
      let info ← parseSensor stof sensor
      let parsed ← parseSensors (sensor.name :: namesParsed) sensors
      return (sensor.name, info) :: parsed

/-- `ParseSensorInfo`; the file is `none` when it cannot be read or parsed, and the result is when
an exception leaves the function. -/
def ParseSensorInfo (sensors : Option (List (SensorJson F))) :
    Option (List (String × ParsedSensor F)) :=
  match parseSensors stof [] (sensors.getD []) with
  | .ok sensorsParsed => some sensorsParsed
  | .error .invalid => some []
  | .error .thrown => none

/-! ## What is accepted -/

section Accepted

variable {K : Type} [Field K] [LinearOrder K]

/-- The numbers among `xs` come in an order. -/
def Ordered (r : K → K → Prop) (xs : List (WithNan K)) : Prop :=
  xs.Pairwise fun x y => ∀ a b, x = .num a → y = .num b → r a b

/-- What is known of the tables of a sensor that was accepted. -/
structure Accepted (info : SensorInfo (WithNan K)) : Prop where
  /-- higher levels of heat start at no lower temperature -/
  hotThresholds {i j : ThrottlingSeverity} (hle : i.toSize ≤ j.toSize) {a b : K}
    (ha : info.hotThresholds i = .num a) (hb : info.hotThresholds j = .num b) : a ≤ b
  /-- higher levels of cold start at no higher temperature -/
  coldThresholds {i j : ThrottlingSeverity} (hle : i.toSize ≤ j.toSize) {a b : K}
    (ha : info.coldThresholds i = .num a) (hb : info.coldThresholds j = .num b) : b ≤ a
  /-- every level of heat has a hysteresis -/
  hotHysteresis (i : ThrottlingSeverity) : isnan (info.hotHysteresis i) = false
  /-- every level of cold has a hysteresis -/
  coldHysteresis (i : ThrottlingSeverity) : isnan (info.coldHysteresis i) = false

variable {stof : String → Option (WithNan K)} {values : List (JsonNumber (WithNan K))}
  {xs : List (WithNan K)}

/-- The first step of a `do` block that succeeds has succeeded. -/
theorem bind_eq_ok {ε α β : Type} {x : Except ε α} {f : α → Except ε β} {b : β} :
    x >>= f = .ok b ↔ ∃ a, x = .ok a ∧ f a = .ok b := by
  cases x with
  | error e =>
    apply iff_of_false (fun h : Except.error e = .ok b => by cases h)
    rintro ⟨a, h, -⟩
    cases h
  | ok a =>
    constructor
    · exact fun h => ⟨a, rfl, h⟩
    · rintro ⟨a', h, hf⟩
      cases h
      exact hf

theorem parseThresholds_cons {wrong : WithNan K → WithNan K → Bool} {last : WithNan K}
    {value : JsonNumber (WithNan K)}
    (h : parseThresholds stof wrong last (value :: values) = .ok xs) :
    ∃ x ys, xs = x :: ys ∧ (isnan x = true ∧ parseThresholds stof wrong last values = .ok ys ∨
      isnan x = false ∧ wrong x last = false ∧ parseThresholds stof wrong x values = .ok ys) := by
  rw [parseThresholds] at h
  obtain ⟨x, -, h⟩ := bind_eq_ok.mp h
  by_cases hnan : isnan x = true
  · rw [if_pos hnan] at h
    obtain ⟨ys, hys, h⟩ := bind_eq_ok.mp h
    cases h
    exact ⟨x, ys, rfl, Or.inl ⟨hnan, hys⟩⟩
  · rw [if_neg hnan] at h
    by_cases hwrong : wrong x last = true
    · rw [if_pos hwrong] at h
      cases h
    · rw [if_neg hwrong] at h
      obtain ⟨ys, hys, h⟩ := bind_eq_ok.mp h
      cases h
      exact ⟨x, ys, rfl,
        Or.inr ⟨Bool.not_eq_true _ ▸ hnan, Bool.not_eq_true _ ▸ hwrong, hys⟩⟩

/-- Thresholds that are read come in order, after what came last. -/
theorem parseThresholds_ordered {wrong : WithNan K → WithNan K → Bool} {r : K → K → Prop}
    [IsTrans K r] (hwrong : ∀ a b, wrong (.num b) (.num a) = false → r a b) {last : K}
    (h : parseThresholds stof wrong (.num last) values = .ok xs) :
    xs.length = values.length ∧ Ordered r (.num last :: xs) := by
  induction values generalizing last xs with
  | nil =>
    rw [parseThresholds] at h
    cases h
    exact ⟨rfl, List.pairwise_singleton _ _⟩
  | cons value values ih =>
    obtain ⟨x, ys, rfl, ⟨hnan, hys⟩ | ⟨hnum, hlast, hys⟩⟩ := parseThresholds_cons h
    · -- an entry that is absent is passed over
      obtain ⟨hlen, hord⟩ := ih hys
      obtain ⟨hhead, htail⟩ := List.pairwise_cons.mp hord
      have hx : x = .nan := by
        cases x with
        | nan => rfl
        | num b => cases hnan
      subst hx
      refine ⟨congrArg (· + 1) hlen, List.pairwise_cons.mpr ⟨?_, ?_⟩⟩
      · intro y hy a b ha hb
        rcases List.mem_cons.mp hy with rfl | hy
        · cases hb
        · exact hhead y hy a b ha hb
      · refine List.pairwise_cons.mpr ⟨?_, htail⟩
        intro y _ a b ha
        cases ha
    · cases x with
      | nan => cases hnum
      | num c =>
        obtain ⟨hlen, hord⟩ := ih hys
        refine ⟨congrArg (· + 1) hlen, List.pairwise_cons.mpr ⟨?_, hord⟩⟩
        intro y hy a b ha hb
        cases ha
        have hfirst : r last c := hwrong last c hlast
        rcases List.mem_cons.mp hy with rfl | hy
        · cases hb
          exact hfirst
        · exact IsTrans.trans _ _ _ hfirst ((List.pairwise_cons.mp hord).1 y hy c b rfl hb)

/-- Without a hysteresis that is `NAN`, the hysteresis is read. -/
theorem parseHysteresis_spec (h : parseHysteresis stof values = .ok xs) :
    xs.length = values.length ∧ ∀ x ∈ xs, isnan x = false := by
  induction values generalizing xs with
  | nil =>
    rw [parseHysteresis] at h
    cases h
    exact ⟨rfl, List.forall_mem_nil _⟩
  | cons value values ih =>
    rw [parseHysteresis] at h
    obtain ⟨x, -, h⟩ := bind_eq_ok.mp h
    by_cases hnan : isnan x = true
    · rw [if_pos hnan] at h
      cases h
    · rw [if_neg hnan] at h
      obtain ⟨ys, hys, h⟩ := bind_eq_ok.mp h
      cases h
      obtain ⟨hlen, hnums⟩ := ih hys
      exact ⟨congrArg (· + 1) hlen, List.forall_mem_cons.mpr ⟨Bool.not_eq_true _ ▸ hnan, hnums⟩⟩

theorem toSize_lt (i : ThrottlingSeverity) : i.toSize < kThrottlingSeverityCount := by
  cases i <;> decide

omit [Field K] [LinearOrder K] in
/-- An entry of a full array is one of the values. -/
theorem toArray_eq {fill : WithNan K} (hlen : xs.length = kThrottlingSeverityCount)
    (i : ThrottlingSeverity) : toArray fill xs i = xs.get ⟨i.toSize, hlen ▸ toSize_lt i⟩ :=
  List.getD_eq_getElem _ _ _

omit [Field K] [LinearOrder K] in
theorem toArray_ordered {fill : WithNan K} {r : K → K → Prop} [Std.Refl r]
    (hlen : xs.length = kThrottlingSeverityCount) (hord : Ordered r xs)
    {i j : ThrottlingSeverity} (hle : i.toSize ≤ j.toSize) {a b : K}
    (ha : toArray fill xs i = .num a) (hb : toArray fill xs j = .num b) : r a b := by
  rw [toArray_eq hlen] at ha hb
  rcases hle.eq_or_lt with heq | hlt
  · simp only [heq] at ha
    cases ha.symm.trans hb
    exact Std.Refl.refl a
  · exact List.pairwise_iff_getElem.mp hord _ _ _ _ hlt a b ha hb

theorem parseHotThreshold_spec (h : parseHotThreshold stof values = .ok xs) :
    xs.length = kThrottlingSeverityCount ∧ Ordered (· ≤ ·) xs := by
  rw [parseHotThreshold] at h
  by_cases hcount : values.length ≠ kThrottlingSeverityCount
  · rw [if_pos hcount] at h
    cases h
  · rw [if_neg hcount] at h
    obtain ⟨hlen, hord⟩ := parseThresholds_ordered (r := (· ≤ ·))
      (fun a b hab => not_lt.mp (of_decide_eq_false hab)) h
    exact ⟨hlen.trans (not_ne_iff.mp hcount), hord.of_cons⟩

theorem parseColdThreshold_spec (h : parseColdThreshold stof values = .ok xs) :
    xs.length = kThrottlingSeverityCount ∧ Ordered (· ≥ ·) xs := by
  rw [parseColdThreshold] at h
  by_cases hcount : values.length ≠ kThrottlingSeverityCount
  · rw [if_pos hcount] at h
    cases h
    refine ⟨List.length_replicate, List.pairwise_replicate.mpr (Or.inr ?_)⟩
    intro a b ha
    cases ha
  · rw [if_neg hcount] at h
    obtain ⟨hlen, hord⟩ := parseThresholds_ordered (r := (· ≥ ·))
      (fun a b hab => not_lt.mp (of_decide_eq_false hab)) h
    exact ⟨hlen.trans (not_ne_iff.mp hcount), hord.of_cons⟩

theorem parseHysteresisOrZero_spec (h : parseHysteresisOrZero stof values = .ok xs)
    (i : ThrottlingSeverity) : isnan (toArray FloatConsts.zero xs i) = false := by
  rw [parseHysteresisOrZero] at h
  have hspec : xs.length = kThrottlingSeverityCount ∧ ∀ x ∈ xs, isnan x = false := by
    by_cases hcount : values.length ≠ kThrottlingSeverityCount
    · rw [if_pos hcount] at h
      cases h
      refine ⟨List.length_replicate, ?_⟩
      intro x hx
      rw [List.eq_of_mem_replicate hx]
      rfl
    · rw [if_neg hcount] at h
      obtain ⟨hlen, hnums⟩ := parseHysteresis_spec h
      exact ⟨hlen.trans (not_ne_iff.mp hcount), hnums⟩
  rw [toArray_eq hspec.1]
  exact hspec.2 _ (List.getElem_mem _)

theorem parseSensor_accepted {sensor : SensorJson (WithNan K)} {info : ParsedSensor (WithNan K)}
    (h : parseSensor stof sensor = .ok info) : Accepted info.toSensorInfo := by
  rw [parseSensor] at h
  obtain ⟨type, -, h⟩ := bind_eq_ok.mp h
  obtain ⟨hotThresholds, hhot, h⟩ := bind_eq_ok.mp h
  obtain ⟨hotHysteresis, hhotHyst, h⟩ := bind_eq_ok.mp h
  obtain ⟨coldThresholds, hcold, h⟩ := bind_eq_ok.mp h
  obtain ⟨coldHysteresis, hcoldHyst, h⟩ := bind_eq_ok.mp h
  obtain ⟨vrThreshold, -, h⟩ := bind_eq_ok.mp h
  obtain ⟨multiplier, -, h⟩ := bind_eq_ok.mp h
  cases h
  obtain ⟨hhotLen, hhotOrd⟩ := parseHotThreshold_spec hhot
  obtain ⟨hcoldLen, hcoldOrd⟩ := parseColdThreshold_spec hcold
  exact {
    hotThresholds := toArray_ordered hhotLen hhotOrd
    coldThresholds := toArray_ordered hcoldLen hcoldOrd
    hotHysteresis := parseHysteresisOrZero_spec hhotHyst
    coldHysteresis := parseHysteresisOrZero_spec hcoldHyst }

/-- A list of sensors is parsed one by one. -/
theorem parseSensors_cons_ok {namesParsed : List String} {sensor : SensorJson (WithNan K)}
    {sensors : List (SensorJson (WithNan K))} {parsed : List (String × ParsedSensor (WithNan K))}
    (h : parseSensors stof namesParsed (sensor :: sensors) = .ok parsed) :
    ∃ info rest, parseSensor stof sensor = .ok info ∧
      parseSensors stof (sensor.name :: namesParsed) sensors = .ok rest ∧
      parsed = (sensor.name, info) :: rest := by
  rw [parseSensors] at h
  split_ifs at h with hname
  obtain ⟨info, hinfo, h⟩ := bind_eq_ok.mp h
  obtain ⟨rest, hrest, h⟩ := bind_eq_ok.mp h
  exact ⟨info, rest, hinfo, hrest, (Except.ok.inj h).symm⟩

theorem parseSensors_accepted {namesParsed : List String} {sensors : List (SensorJson (WithNan K))}
    {parsed : List (String × ParsedSensor (WithNan K))}
    (h : parseSensors stof namesParsed sensors = .ok parsed) {p}
    (hp : p ∈ parsed) : Accepted p.2.toSensorInfo := by
  induction sensors generalizing namesParsed parsed with
  | nil =>
    rw [parseSensors] at h
    cases h
    cases hp
  | cons sensor sensors ih =>
    obtain ⟨info, rest, hinfo, hrest, rfl⟩ := parseSensors_cons_ok h
    rcases List.mem_cons.mp hp with rfl | hp
    · exact parseSensor_accepted hinfo
    · exact ih hrest hp

/-- **A sensor that is parsed** has its thresholds in order, and no hysteresis that is `NAN`. -/
theorem accepted_of_mem {sensors : Option (List (SensorJson (WithNan K)))}
    {parsed : List (String × ParsedSensor (WithNan K))}
    (h : ParseSensorInfo stof sensors = some parsed) {p} (hp : p ∈ parsed) :
    Accepted p.2.toSensorInfo := by
  rw [ParseSensorInfo] at h
  cases hsensors : parseSensors stof [] (sensors.getD []) with
  | ok sensorsParsed =>
    rw [hsensors] at h
    cases h
    exact parseSensors_accepted hsensors hp
  | error e =>
    rw [hsensors] at h
    cases e with
    | invalid =>
      cases h
      cases hp
    | thrown => cases h

end Accepted

end OppoA37.Thermal
