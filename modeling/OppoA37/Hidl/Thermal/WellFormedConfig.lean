import OppoA37.Hidl.Thermal.ConfigParser

/-!
# Which configurations `ParseSensorInfo` accepts

A configuration is well formed when its sensors have names and types, their thresholds come in
order, and no hysteresis is `NAN`. The code accepts less than that, and sometimes gives no answer:

* the thresholds of heat are compared to `std::numeric_limits<float>::min()` first, which is a
  small positive number, so that none may be 0 or negative;
* a value that cannot be converted makes it throw, unless something else was wrong before that.

`Part` is one of the things that are looked at in turn, so that "before" can be said of a
configuration; `accepts_iff` is the condition under which the well-formed ones are accepted and
the others are not. An infinity is a number beyond `std::numeric_limits<float>::max()` here.
-/

namespace OppoA37.Thermal

open FloatOps (isnan le lt)

variable {K : Type} [Field K] [LinearOrder K] (stof : String → Option (WithNan K))

/-! ## Well-formed configurations -/

/-- What a value is converted to. -/
def value : JsonNumber (WithNan K) → Option (WithNan K)
  | .string asString => stof asString
  | .other asFloat => asFloat

/-- What the values of an array are converted to. -/
def Values (values : List (JsonNumber (WithNan K))) (xs : List (WithNan K)) : Prop :=
  values.map (value stof) = xs.map some

/-- None of these is `NAN`. -/
def NoNan (xs : List (WithNan K)) : Prop := ∀ x ∈ xs, isnan x = false

/-- An array whose values are good. -/
def HasGood (good : List (WithNan K) → Prop) (values : List (JsonNumber (WithNan K))) : Prop :=
  ∃ xs, Values stof values xs ∧ good xs

/-- A sensor that is well formed. -/
structure WellFormedSensor (sensor : SensorJson (WithNan K)) : Prop where
  /-- the type is known -/
  type : ∃ type : TemperatureType, type.toString = sensor.type
  /-- there are seven thresholds of heat -/
  hotCount : sensor.hotThreshold.length = kThrottlingSeverityCount
  /-- they do not decrease -/
  hotThreshold : HasGood stof (Ordered (· ≤ ·)) sensor.hotThreshold
  /-- hysteresis of heat, if there is any, is not `NAN` -/
  hotHysteresis : sensor.hotHysteresis.length = kThrottlingSeverityCount →
    HasGood stof NoNan sensor.hotHysteresis
  /-- thresholds of cold, if there are any, do not increase -/
  coldThreshold : sensor.coldThreshold.length = kThrottlingSeverityCount →
    HasGood stof (Ordered (· ≥ ·)) sensor.coldThreshold
  /-- hysteresis of cold, if there is any, is not `NAN` -/
  coldHysteresis : sensor.coldHysteresis.length = kThrottlingSeverityCount →
    HasGood stof NoNan sensor.coldHysteresis
  /-- `VrThreshold` is a number, or `NAN` -/
  vrThreshold : ∃ x, value stof sensor.vrThreshold = some x
  /-- `Multiplier` is a number, or `NAN` -/
  multiplier : ∃ x, sensor.multiplier = some x

/-- A configuration that is well formed. -/
structure WellFormedConfig (sensors : List (SensorJson (WithNan K))) : Prop where
  /-- every sensor has a name -/
  named : ∀ sensor ∈ sensors, sensor.name ≠ ""
  /-- of its own -/
  nodup : (sensors.map SensorJson.name).Nodup
  /-- and is well formed -/
  sensor : ∀ sensor ∈ sensors, WellFormedSensor stof sensor

/-- The entries of a table: the values, or the default if there are not seven of them. -/
def Entries (fill : WithNan K) (values : List (JsonNumber (WithNan K)))
    (table : ThrottlingArray (WithNan K)) : Prop :=
  ∃ xs, table = toArray fill xs ∧
    if values.length = kThrottlingSeverityCount then Values stof values xs
    else xs = List.replicate kThrottlingSeverityCount fill

/-- An entry of the result that carries the values of a sensor. -/
structure Describes (sensor : SensorJson (WithNan K))
    (entry : String × ParsedSensor (WithNan K)) : Prop where
  /-- the key is the name -/
  name : entry.1 = sensor.name
  /-- `type` -/
  type : entry.2.type.toString = sensor.type
  /-- `hot_thresholds` -/
  hotThresholds : Entries stof .nan sensor.hotThreshold entry.2.hotThresholds
  /-- `hot_hysteresis` -/
  hotHysteresis : Entries stof (.num 0) sensor.hotHysteresis entry.2.hotHysteresis
  /-- `cold_thresholds` -/
  coldThresholds : Entries stof .nan sensor.coldThreshold entry.2.coldThresholds
  /-- `cold_hysteresis` -/
  coldHysteresis : Entries stof (.num 0) sensor.coldHysteresis entry.2.coldHysteresis
  /-- `vr_threshold` -/
  vrThreshold : value stof sensor.vrThreshold = some entry.2.vrThreshold
  /-- `multiplier` -/
  multiplier : sensor.multiplier = some entry.2.multiplier
  /-- `is_monitor` -/
  isMonitor : entry.2.isMonitor = sensor.monitor.getD false

/-! ## The parts of a configuration -/

/-- The first value that cannot be converted comes after good ones. -/
def Stuck (good : List (WithNan K) → Prop) (values : List (JsonNumber (WithNan K))) : Prop :=
  ∃ before v after, values = before ++ v :: after ∧ value stof v = none ∧
    HasGood stof good before

/-- Something that the code looks at. -/
structure Part where
  /-- it is as the code wants it -/
  fits : Prop
  /-- the code comes to a value in it that cannot be converted -/
  stuck : Prop

/-- When the parts are looked at in turn, the first that does not fit has a value that cannot be
converted. -/
def Reached (parts : List Part) : Prop :=
  ∃ before part after, parts = before ++ part :: after ∧ (∀ p ∈ before, p.fits) ∧ part.stuck

/-- Something that needs no conversion. -/
def Part.plain (fits : Prop) : Part := ⟨fits, False⟩

/-- An array that must have seven values. -/
def Part.required (good : List (WithNan K) → Prop) (values : List (JsonNumber (WithNan K))) :
    Part :=
  ⟨values.length = kThrottlingSeverityCount ∧ HasGood stof good values,
    values.length = kThrottlingSeverityCount ∧ Stuck stof good values⟩

/-- An array that is left aside unless it has seven values. -/
def Part.optional (good : List (WithNan K) → Prop) (values : List (JsonNumber (WithNan K))) :
    Part :=
  ⟨values.length = kThrottlingSeverityCount → HasGood stof good values,
    values.length = kThrottlingSeverityCount ∧ Stuck stof good values⟩

/-- A single value. -/
def Part.single (x : Option (WithNan K)) : Part := ⟨∃ a, x = some a, x = none⟩

/-- Thresholds of heat as the code wants them. -/
def HotGood (xs : List (WithNan K)) : Prop := Ordered (· ≤ ·) (FloatConsts.min :: xs)

/-- Thresholds of cold as the code wants them. -/
def ColdGood (xs : List (WithNan K)) : Prop := Ordered (· ≥ ·) (FloatConsts.max :: xs)

/-- The parts of a sensor, behind its name. -/
def sensorParts (sensor : SensorJson (WithNan K)) : List Part :=
  [.plain (∃ type : TemperatureType, type.toString = sensor.type),
    .required stof HotGood sensor.hotThreshold,
    .optional stof NoNan sensor.hotHysteresis,
    .optional stof ColdGood sensor.coldThreshold,
    .optional stof NoNan sensor.coldHysteresis,
    .single (value stof sensor.vrThreshold),
    .single sensor.multiplier]

/-- The parts of a configuration, when some names are taken. -/
def configParts : List String → List (SensorJson (WithNan K)) → List Part
  | _, [] => []
  | names, sensor :: sensors =>
    .plain (sensor.name ≠ "" ∧ sensor.name ∉ names) ::
      (sensorParts stof sensor ++ configParts (sensor.name :: names) sensors)

/-- No threshold of heat is below the least positive `float`, and no threshold of cold is
infinite. -/
structure InRange (sensor : SensorJson (WithNan K)) : Prop where
  /-- `std::numeric_limits<float>::min()` -/
  hotThreshold : ∀ xs, Values stof sensor.hotThreshold xs →
    ∀ x ∈ xs, lt x (FloatConsts.min : WithNan K) = false
  /-- `std::numeric_limits<float>::max()` -/
  coldThreshold : sensor.coldThreshold.length = kThrottlingSeverityCount →
    ∀ xs, Values stof sensor.coldThreshold xs →
      ∀ x ∈ xs, lt (FloatConsts.max : WithNan K) x = false

/-! ## Parts that are read in turn -/

variable {stof}

/-- A computation looks at these parts in turn. -/
structure Reads {α : Type} (x : Except ParseError α) (parts : List Part) : Prop where
  /-- it succeeds when they all fit -/
  ok : (∃ a, x = .ok a) ↔ ∀ p ∈ parts, p.fits
  /-- it throws when it comes to a value that cannot be converted -/
  thrown : x = .error .thrown ↔ Reached parts

/-- Another entry in front changes nothing about success. -/
theorem cons_reads {ε α : Type} {x : Except ε (List α)} {a : α} {e : ε} :
    ((∃ ys, (do let xs ← x; return a :: xs) = Except.ok ys) ↔ ∃ xs, x = .ok xs) ∧
      ((do let xs ← x; return a :: xs) = Except.error e ↔ x = .error e) := by
  cases x with
  | error e' =>
    refine ⟨iff_of_false ?_ ?_, Iff.of_eq ?_⟩
    · rintro ⟨ys, h⟩
      cases h
    · rintro ⟨xs, h⟩
      cases h
    · exact congrArg (· = Except.error e) rfl
  | ok xs =>
    exact ⟨iff_of_true ⟨a :: xs, rfl⟩ ⟨xs, rfl⟩,
      iff_of_false (fun h => by cases h) (fun h => by cases h)⟩

/-- The first step of a `do` block that fails has failed, or the rest has. -/
theorem bind_eq_error {ε α β : Type} {x : Except ε α} {f : α → Except ε β} {e : ε} :
    x >>= f = .error e ↔ x = .error e ∨ ∃ a, x = .ok a ∧ f a = .error e := by
  cases x with
  | error e' =>
    constructor
    · intro h
      cases h
      exact Or.inl rfl
    · rintro (h | ⟨a, h, -⟩)
      · cases h
        rfl
      · cases h
  | ok a =>
    rw [or_iff_right (fun h => by cases h)]
    constructor
    · exact fun h => ⟨a, rfl, h⟩
    · rintro ⟨a', h, hf⟩
      cases h
      exact hf

theorem not_reached_nil : ¬ Reached [] := by
  rintro ⟨before, part, after, h, -⟩
  exact List.append_ne_nil_of_right_ne_nil _ (List.cons_ne_nil _ _) h.symm

theorem reached_cons {part : Part} {parts : List Part} :
    Reached (part :: parts) ↔ part.stuck ∨ (part.fits ∧ Reached parts) := by
  constructor
  · rintro ⟨before, part', after, heq, hfits, hstuck⟩
    rcases List.cons_eq_append_iff.mp heq with ⟨rfl, hcons⟩ | ⟨before', rfl, hparts⟩
    · obtain ⟨rfl, -⟩ := List.cons.inj hcons
      exact Or.inl hstuck
    · obtain ⟨hpart, hbefore⟩ := List.forall_mem_cons.mp hfits
      exact Or.inr ⟨hpart, before', part', after, hparts, hbefore, hstuck⟩
  · rintro (hstuck | ⟨hpart, before, part', after, rfl, hfits, hstuck⟩)
    · exact ⟨[], part, parts, rfl, List.forall_mem_nil _, hstuck⟩
    · exact ⟨part :: before, part', after, rfl, List.forall_mem_cons.mpr ⟨hpart, hfits⟩, hstuck⟩

/-- Nothing is left to look at. -/
theorem Reads.pure {α : Type} (a : α) : Reads (.ok a) [] where
  ok := iff_of_true ⟨a, rfl⟩ (List.forall_mem_nil _)
  thrown := iff_of_false (fun h => by cases h) not_reached_nil

/-- A computation that looks at a single part. -/
theorem Reads.single {α : Type} {x : Except ParseError α} {part : Part}
    (hok : (∃ a, x = .ok a) ↔ part.fits) (hthrown : x = .error .thrown ↔ part.stuck) :
    Reads x [part] where
  ok := by rw [hok, List.forall_mem_singleton]
  thrown := by
    rw [hthrown, reached_cons, or_iff_left]
    exact fun h => not_reached_nil h.2

/-- The parts of one computation come before those of the next. -/
theorem Reads.bind {α β : Type} {x : Except ParseError α} {f : α → Except ParseError β}
    {parts parts' : List Part} (hx : Reads x parts) (hf : ∀ a, x = .ok a → Reads (f a) parts') :
    Reads (x >>= f) (parts ++ parts') where
  ok := by
    rw [List.forall_mem_append, ← hx.ok]
    constructor
    · rintro ⟨b, hb⟩
      obtain ⟨a, ha, hb⟩ := bind_eq_ok.mp hb
      exact ⟨⟨a, ha⟩, (hf a ha).ok.mp ⟨b, hb⟩⟩
    · rintro ⟨⟨a, ha⟩, hfits⟩
      obtain ⟨b, hb⟩ := (hf a ha).ok.mpr hfits
      exact ⟨b, bind_eq_ok.mpr ⟨a, ha, hb⟩⟩
  thrown := by
    have happend : ∀ parts, Reached (parts ++ parts') ↔
        Reached parts ∨ ((∀ p ∈ parts, p.fits) ∧ Reached parts') := by
      intro parts
      induction parts with
      | nil => simp [not_reached_nil]
      | cons part parts ih =>
        rw [List.cons_append, reached_cons, reached_cons, ih, List.forall_mem_cons]
        tauto
    rw [bind_eq_error, happend, hx.thrown, ← hx.ok]
    refine or_congr_right ?_
    constructor
    · rintro ⟨a, ha, hthrown⟩
      exact ⟨⟨a, ha⟩, (hf a ha).thrown.mp hthrown⟩
    · rintro ⟨⟨a, ha⟩, hreached⟩
      exact ⟨a, ha, (hf a ha).thrown.mpr hreached⟩

/-- A check before a computation. -/
theorem Reads.guard {α : Type} {x : Except ParseError α} {parts : List Part} (hx : Reads x parts)
    {p fits : Prop} [Decidable p] (hp : fits ↔ ¬ p) :
    Reads (if p then .error .invalid else x) (.plain fits :: parts) := by
  by_cases h : p
  · rw [if_pos h]
    have hfits : ¬ fits := fun hfits => hp.mp hfits h
    refine ⟨iff_of_false ?_ fun hall => hfits (hall _ List.mem_cons_self),
      iff_of_false (fun h => by cases h) ?_⟩
    · rintro ⟨a, h⟩
      cases h
    · rw [reached_cons]
      exact fun h => h.elim not_false fun h => hfits h.1
  · rw [if_neg h]
    have hfits : fits := hp.mpr h
    refine ⟨hx.ok.trans ?_, hx.thrown.trans ?_⟩
    · rw [List.forall_mem_cons]
      exact (and_iff_right hfits).symm
    · rw [reached_cons]
      exact ((or_iff_right not_false).trans (and_iff_right hfits)).symm

/-! ## The loops over arrays -/

variable {values : List (JsonNumber (WithNan K))} {xs : List (WithNan K)}

omit [Field K] [LinearOrder K] in
theorem getFloatFromValue_eq (v : JsonNumber (WithNan K)) :
    getFloatFromValue stof v = mayThrow (value stof v) := by
  cases v <;> rfl

omit [Field K] [LinearOrder K] in
theorem values_cons {v : JsonNumber (WithNan K)} {x : WithNan K} :
    Values stof (v :: values) (x :: xs) ↔ value stof v = some x ∧ Values stof values xs := by
  rw [Values, List.map_cons, List.map_cons, List.cons.injEq, Values]

omit [Field K] [LinearOrder K] in
theorem hasGood_nil {good : List (WithNan K) → Prop} : HasGood stof good [] ↔ good [] := by
  constructor
  · rintro ⟨xs, hxs, hgood⟩
    rw [Values, List.map_nil, eq_comm, List.map_eq_nil_iff] at hxs
    exact hxs ▸ hgood
  · exact fun h => ⟨[], rfl, h⟩

omit [Field K] [LinearOrder K] in
theorem hasGood_cons {good : List (WithNan K) → Prop} {v : JsonNumber (WithNan K)} :
    HasGood stof good (v :: values) ↔
      ∃ x, value stof v = some x ∧ HasGood stof (fun xs => good (x :: xs)) values := by
  constructor
  · rintro ⟨xs, hxs, hgood⟩
    cases xs with
    | nil => cases hxs
    | cons x xs =>
      obtain ⟨hx, hxs⟩ := values_cons.mp hxs
      exact ⟨x, hx, xs, hxs, hgood⟩
  · rintro ⟨x, hx, xs, hxs, hgood⟩
    exact ⟨x :: xs, values_cons.mpr ⟨hx, hxs⟩, hgood⟩

omit [Field K] [LinearOrder K] in
theorem not_stuck_nil {good : List (WithNan K) → Prop} : ¬ Stuck stof good [] := by
  rintro ⟨before, v, after, h, -⟩
  exact List.append_ne_nil_of_right_ne_nil _ (List.cons_ne_nil _ _) h.symm

omit [Field K] [LinearOrder K] in
theorem stuck_cons {good : List (WithNan K) → Prop} {v : JsonNumber (WithNan K)} :
    Stuck stof good (v :: values) ↔ (value stof v = none ∧ good []) ∨
      ∃ x, value stof v = some x ∧ Stuck stof (fun xs => good (x :: xs)) values := by
  constructor
  · rintro ⟨before, v', after, heq, hv, hgood⟩
    rcases List.cons_eq_append_iff.mp heq with ⟨rfl, hcons⟩ | ⟨before', rfl, hvalues⟩
    · obtain ⟨rfl, -⟩ := List.cons.inj hcons
      exact Or.inl ⟨hv, hasGood_nil.mp hgood⟩
    · obtain ⟨x, hx, hgood⟩ := hasGood_cons.mp hgood
      exact Or.inr ⟨x, hx, before', v', after, hvalues, hv, hgood⟩
  · rintro (⟨hv, hgood⟩ | ⟨x, hx, before, v', after, rfl, hv, hgood⟩)
    · exact ⟨[], v, values, rfl, hv, hasGood_nil.mpr hgood⟩
    · exact ⟨v :: before, v', after, rfl, hv, hasGood_cons.mpr ⟨x, hx, hgood⟩⟩

/-! ## Thresholds -/

omit [Field K] [LinearOrder K] in
theorem ordered_nan {r : K → K → Prop} {last : K} :
    Ordered r (.num last :: .nan :: xs) ↔ Ordered r (.num last :: xs) := by
  have hnan : Ordered r (.nan :: xs) ↔ Ordered r xs := by
    refine List.pairwise_cons.trans (and_iff_right ?_)
    intro y _ a b ha
    cases ha
  have hsnd : ∀ a b, (WithNan.num last : WithNan K) = .num a → (.nan : WithNan K) = .num b →
      r a b := by
    intro a b _ hb
    cases hb
  rw [Ordered, List.pairwise_cons, List.forall_mem_cons, and_iff_right hsnd, ← Ordered, hnan,
    Ordered, Ordered, List.pairwise_cons]

omit [Field K] [LinearOrder K] in
theorem ordered_num {r : K → K → Prop} [IsTrans K r] {last x : K} :
    Ordered r (.num last :: .num x :: xs) ↔ r last x ∧ Ordered r (.num x :: xs) := by
  constructor
  · intro h
    obtain ⟨hhead, htail⟩ := List.pairwise_cons.mp h
    exact ⟨hhead _ List.mem_cons_self last x rfl rfl, htail⟩
  · rintro ⟨hr, htail⟩
    refine List.pairwise_cons.mpr ⟨?_, htail⟩
    intro y hy a b ha hb
    cases ha
    rcases List.mem_cons.mp hy with rfl | hy
    · cases hb
      exact hr
    · exact IsTrans.trans _ _ _ hr ((List.pairwise_cons.mp htail).1 y hy x b rfl hb)

section Thresholds

variable {wrong : WithNan K → WithNan K → Bool} {v : JsonNumber (WithNan K)}

theorem parseThresholds_none {last : WithNan K} (hv : value stof v = none) :
    parseThresholds stof wrong last (v :: values) = .error .thrown := by
  rw [parseThresholds, getFloatFromValue_eq, hv]
  rfl

/-- An entry that is absent is passed over. -/
theorem parseThresholds_nan {last : WithNan K} (hv : value stof v = some .nan) :
    parseThresholds stof wrong last (v :: values) = (do
      let xs ← parseThresholds stof wrong last values
      return .nan :: xs) := by
  rw [parseThresholds, getFloatFromValue_eq, hv]
  rfl

theorem parseThresholds_num {last : WithNan K} {c : K} (hv : value stof v = some (.num c)) :
    parseThresholds stof wrong last (v :: values) =
      if wrong (.num c) last = true then .error .invalid
      else (do
        let xs ← parseThresholds stof wrong (.num c) values
        return .num c :: xs) := by
  rw [parseThresholds, getFloatFromValue_eq, hv]
  rfl

/-- The loop over thresholds succeeds when they come in order, and throws at the first that cannot
be converted, if those before it do. -/
theorem parseThresholds_iff {r : K → K → Prop} [IsTrans K r]
    (hwrong : ∀ a b, wrong (.num b) (.num a) = false ↔ r a b) {last : K} :
    ((∃ xs, parseThresholds stof wrong (.num last) values = .ok xs) ↔
        HasGood stof (fun xs => Ordered r (.num last :: xs)) values) ∧
      (parseThresholds stof wrong (.num last) values = .error .thrown ↔
        Stuck stof (fun xs => Ordered r (.num last :: xs)) values) := by
  induction values generalizing last with
  | nil =>
    rw [hasGood_nil]
    exact ⟨iff_of_true ⟨[], rfl⟩ (List.pairwise_singleton _ _),
      iff_of_false (fun h => by cases h) not_stuck_nil⟩
  | cons v values ih =>
    rw [hasGood_cons, stuck_cons]
    cases hv : value stof v with
    | none =>
      rw [parseThresholds_none hv]
      refine ⟨iff_of_false ?_ ?_, iff_of_true rfl (Or.inl ⟨rfl, List.pairwise_singleton _ _⟩)⟩
      · rintro ⟨xs, h⟩
        cases h
      · rintro ⟨x, h, -⟩
        cases h
    | some x =>
      simp only [Option.some.injEq, exists_eq_left', reduceCtorEq, false_and, false_or]
      cases x with
      | nan =>
        rw [parseThresholds_nan hv]
        simp only [ordered_nan, ← ih]
        exact cons_reads
      | num c =>
        rw [parseThresholds_num hv]
        simp only [ordered_num]
        by_cases hr : r last c
        · rw [if_neg (by rw [(hwrong last c).mpr hr]; exact Bool.false_ne_true)]
          simp only [hr, true_and, ← ih]
          exact cons_reads
        · have hw : wrong (.num c) (.num last) = true := by
            rw [← Bool.not_eq_false, hwrong]
            exact hr
          rw [if_pos hw]
          simp [hr, HasGood, Stuck]

/-- The values are those that were there. -/
theorem parseThresholds_values {last : WithNan K}
    (h : parseThresholds stof wrong last values = .ok xs) : Values stof values xs := by
  induction values generalizing last xs with
  | nil =>
    cases h
    rfl
  | cons v values ih =>
    cases hv : value stof v with
    | none =>
      rw [parseThresholds_none hv] at h
      cases h
    | some x =>
      cases x with
      | nan =>
        rw [parseThresholds_nan hv] at h
        obtain ⟨ys, hys, h⟩ := bind_eq_ok.mp h
        cases h
        exact values_cons.mpr ⟨hv, ih hys⟩
      | num c =>
        rw [parseThresholds_num hv] at h
        split_ifs at h
        obtain ⟨ys, hys, h⟩ := bind_eq_ok.mp h
        cases h
        exact values_cons.mpr ⟨hv, ih hys⟩

end Thresholds

/-! ## Hysteresis -/

theorem parseHysteresis_none {v : JsonNumber (WithNan K)} (hv : value stof v = none) :
    parseHysteresis stof (v :: values) = .error .thrown := by
  rw [parseHysteresis, getFloatFromValue_eq, hv]
  rfl

theorem parseHysteresis_some {v : JsonNumber (WithNan K)} {x : WithNan K}
    (hv : value stof v = some x) :
    parseHysteresis stof (v :: values) =
      if isnan x = true then .error .invalid
      else (do
        let xs ← parseHysteresis stof values
        return x :: xs) := by
  rw [parseHysteresis, getFloatFromValue_eq, hv]
  rfl

/-- The loop over hysteresis succeeds when none is `NAN`, and throws at the first that cannot be
converted, if none before it is. -/
theorem parseHysteresis_iff :
    ((∃ xs, parseHysteresis stof values = .ok xs) ↔ HasGood stof NoNan values) ∧
      (parseHysteresis stof values = .error .thrown ↔ Stuck stof NoNan values) := by
  induction values with
  | nil =>
    rw [hasGood_nil]
    exact ⟨iff_of_true ⟨[], rfl⟩ (List.forall_mem_nil _),
      iff_of_false (fun h => by cases h) not_stuck_nil⟩
  | cons v values ih =>
    rw [hasGood_cons, stuck_cons]
    cases hv : value stof v with
    | none =>
      rw [parseHysteresis_none hv]
      refine ⟨iff_of_false ?_ ?_, iff_of_true rfl (Or.inl ⟨rfl, List.forall_mem_nil _⟩)⟩
      · rintro ⟨xs, h⟩
        cases h
      · rintro ⟨x, h, -⟩
        cases h
    | some x =>
      have hcons : ∀ xs, NoNan (x :: xs) ↔ isnan x = false ∧ NoNan xs :=
        fun xs => List.forall_mem_cons
      rw [parseHysteresis_some hv]
      simp only [Option.some.injEq, exists_eq_left', reduceCtorEq, false_and, false_or, hcons]
      by_cases hnan : isnan x = true
      · rw [if_pos hnan]
        simp [hnan, HasGood, Stuck]
      · rw [if_neg hnan]
        simp only [Bool.not_eq_true _ ▸ hnan, true_and]
        rw [show HasGood stof (fun xs => NoNan xs) values ↔ _ from ih.1.symm,
          show Stuck stof (fun xs => NoNan xs) values ↔ _ from ih.2.symm]
        exact cons_reads

theorem parseHysteresis_values (h : parseHysteresis stof values = .ok xs) :
    Values stof values xs := by
  induction values generalizing xs with
  | nil =>
    cases h
    rfl
  | cons v values ih =>
    cases hv : value stof v with
    | none =>
      rw [parseHysteresis_none hv] at h
      cases h
    | some x =>
      rw [parseHysteresis_some hv] at h
      split_ifs at h
      obtain ⟨ys, hys, h⟩ := bind_eq_ok.mp h
      cases h
      exact values_cons.mpr ⟨hv, ih hys⟩

/-! ## Sensors -/

theorem parseHotThreshold_reads :
    Reads (parseHotThreshold stof values) [.required stof HotGood values] := by
  have hiff := @parseThresholds_iff K _ _ stof values (fun x min => lt x min) (· ≤ ·) _
    (fun a b => decide_eq_false_iff_not.trans not_lt) ((2 ^ 126)⁻¹ : K)
  by_cases hcount : values.length = kThrottlingSeverityCount
  · rw [parseHotThreshold, if_neg (not_not_intro hcount)]
    exact Reads.single (hiff.1.trans (and_iff_right hcount).symm)
      (hiff.2.trans (and_iff_right hcount).symm)
  · rw [parseHotThreshold, if_pos hcount]
    refine Reads.single (iff_of_false ?_ fun h => hcount h.1) (iff_of_false ?_ fun h => hcount h.1)
    · rintro ⟨xs, h⟩
      cases h
    · intro h
      cases h

theorem parseColdThreshold_reads :
    Reads (parseColdThreshold stof values) [.optional stof ColdGood values] := by
  have hiff := @parseThresholds_iff K _ _ stof values (fun x max => lt max x) (· ≥ ·) _
    (fun a b => decide_eq_false_iff_not.trans not_lt) ((2 ^ 24 - 1) * 2 ^ 104 : K)
  by_cases hcount : values.length = kThrottlingSeverityCount
  · rw [parseColdThreshold, if_neg (not_not_intro hcount)]
    exact Reads.single (hiff.1.trans ⟨fun h _ => h, fun h => h hcount⟩)
      (hiff.2.trans (and_iff_right hcount).symm)
  · rw [parseColdThreshold, if_pos hcount]
    exact Reads.single (iff_of_true ⟨_, rfl⟩ fun h => absurd h hcount)
      (iff_of_false (fun h => by cases h) fun h => hcount h.1)

theorem parseHysteresisOrZero_reads :
    Reads (parseHysteresisOrZero stof values) [.optional stof NoNan values] := by
  by_cases hcount : values.length = kThrottlingSeverityCount
  · rw [parseHysteresisOrZero, if_neg (not_not_intro hcount)]
    exact Reads.single (parseHysteresis_iff.1.trans ⟨fun h _ => h, fun h => h hcount⟩)
      (parseHysteresis_iff.2.trans (and_iff_right hcount).symm)
  · rw [parseHysteresisOrZero, if_pos hcount]
    exact Reads.single (iff_of_true ⟨_, rfl⟩ fun h => absurd h hcount)
      (iff_of_false (fun h => by cases h) fun h => hcount h.1)

omit [Field K] [LinearOrder K] in
theorem mayThrow_reads (x : Option (WithNan K)) : Reads (mayThrow x) [.single x] := by
  cases x with
  | none =>
    refine Reads.single (iff_of_false ?_ ?_) (iff_of_true rfl rfl)
    · rintro ⟨a, h⟩
      cases h
    · rintro ⟨a, h⟩
      cases h
  | some a =>
    exact Reads.single (iff_of_true ⟨a, rfl⟩ ⟨a, rfl⟩)
      (iff_of_false (fun h => by cases h) fun h => by cases h)

/-- The string of a type belongs to no other type. -/
theorem getTypeFromString_ok {str : String} {type : TemperatureType}
    (h : getTypeFromString str = .ok type) : type.toString = str := by
  rw [getTypeFromString] at h
  split at h
  · rename_i type' hfind
    cases h
    have hdec := List.find?_some hfind
    exact of_decide_eq_true hdec
  · cases h

theorem getTypeFromString_reads (str : String) :
    Reads (getTypeFromString str) [.plain (∃ type : TemperatureType, type.toString = str)] := by
  refine Reads.single ⟨?_, ?_⟩ (iff_of_false ?_ not_false)
  · exact fun ⟨type, h⟩ => ⟨type, getTypeFromString_ok h⟩
  · rintro ⟨type, rfl⟩
    cases type <;> exact ⟨_, rfl⟩
  · intro h
    rw [getTypeFromString] at h
    split at h <;> cases h

/-- A sensor is read part by part. -/
theorem parseSensor_reads (sensor : SensorJson (WithNan K)) :
    Reads (parseSensor stof sensor) (sensorParts stof sensor) := by
  rw [parseSensor]
  refine (getTypeFromString_reads sensor.type).bind fun type _ => ?_
  refine parseHotThreshold_reads.bind fun hotThresholds _ => ?_
  refine parseHysteresisOrZero_reads.bind fun hotHysteresis _ => ?_
  refine parseColdThreshold_reads.bind fun coldThresholds _ => ?_
  refine parseHysteresisOrZero_reads.bind fun coldHysteresis _ => ?_
  rw [getFloatFromValue_eq]
  refine (mayThrow_reads _).bind fun vrThreshold _ => ?_
  exact (mayThrow_reads sensor.multiplier).bind fun multiplier _ => Reads.pure _

/-- A configuration is read sensor by sensor. -/
theorem parseSensors_reads (names : List String) (sensors : List (SensorJson (WithNan K))) :
    Reads (parseSensors stof names sensors) (configParts stof names sensors) := by
  induction sensors generalizing names with
  | nil => exact Reads.pure _
  | cons sensor sensors ih =>
    have hsensors : ∀ info, parseSensor stof sensor = .ok info →
        Reads (do
          let parsed ← parseSensors stof (sensor.name :: names) sensors
          return (sensor.name, info) :: parsed) (configParts stof (sensor.name :: names) sensors) :=
      fun info _ => List.append_nil (configParts stof _ _) ▸
        (ih (sensor.name :: names)).bind fun parsed _ => Reads.pure _
    rw [parseSensors, configParts]
    exact ((parseSensor_reads sensor).bind hsensors).guard not_or.symm

/-! ## What is well formed and in range -/

omit [Field K] [LinearOrder K] in
/-- What comes first bounds the numbers behind it. -/
theorem ordered_bound {r : K → K → Prop} {bound : K} {beyond : WithNan K → Bool}
    (hbeyond : ∀ a, beyond (.num a) = false ↔ r bound a) (hnan : beyond .nan = false) :
    Ordered r (.num bound :: xs) ↔ (∀ x ∈ xs, beyond x = false) ∧ Ordered r xs := by
  refine List.pairwise_cons.trans (and_congr_left fun _ => ?_)
  refine forall₂_congr fun x _ => ?_
  cases x with
  | nan => exact iff_of_true (fun a b _ h => by cases h) hnan
  | num c =>
    rw [hbeyond]
    constructor
    · exact fun h => h bound c rfl rfl
    · intro h a b ha hb
      cases ha
      cases hb
      exact h

/-- Thresholds of heat must also be positive. -/
theorem hotGood_iff :
    HotGood xs ↔ (∀ x ∈ xs, lt x (FloatConsts.min : WithNan K) = false) ∧ Ordered (· ≤ ·) xs :=
  ordered_bound (fun _ => decide_eq_false_iff_not.trans not_lt) rfl

/-- Thresholds of cold must also be finite. -/
theorem coldGood_iff :
    ColdGood xs ↔ (∀ x ∈ xs, lt (FloatConsts.max : WithNan K) x = false) ∧ Ordered (· ≥ ·) xs :=
  ordered_bound (fun _ => decide_eq_false_iff_not.trans not_lt) rfl

omit [Field K] [LinearOrder K] in
/-- There is one list of values at most. -/
theorem values_unique {ys : List (WithNan K)} (h : Values stof values xs)
    (h' : Values stof values ys) : xs = ys :=
  List.map_injective_iff.mpr (Option.some_injective _) (h.symm.trans h')

omit [Field K] [LinearOrder K] in
/-- Good values and a bound on them. -/
theorem hasGood_and {good good' : List (WithNan K) → Prop} {bound : WithNan K → Prop}
    (hiff : ∀ xs, good' xs ↔ (∀ x ∈ xs, bound x) ∧ good xs) :
    HasGood stof good' values ↔ HasGood stof good values ∧
      ∀ xs, Values stof values xs → ∀ x ∈ xs, bound x := by
  constructor
  · rintro ⟨xs, hxs, hgood⟩
    obtain ⟨hbound, hgood⟩ := (hiff xs).mp hgood
    exact ⟨⟨xs, hxs, hgood⟩, fun ys hys => values_unique hxs hys ▸ hbound⟩
  · rintro ⟨⟨xs, hxs, hgood⟩, hbound⟩
    exact ⟨xs, hxs, (hiff xs).mpr ⟨hbound xs hxs, hgood⟩⟩

/-- The parts of a sensor fit when it is well formed and in range. -/
theorem sensorParts_fit {sensor : SensorJson (WithNan K)} :
    (∀ p ∈ sensorParts stof sensor, p.fits) ↔
      WellFormedSensor stof sensor ∧ InRange stof sensor := by
  have hhotGood := @hasGood_and K stof sensor.hotThreshold _ HotGood _ fun xs => hotGood_iff
  have hcoldGood := @hasGood_and K stof sensor.coldThreshold _ ColdGood _ fun xs => coldGood_iff
  simp only [sensorParts, List.forall_mem_cons, Part.plain, Part.required, Part.optional,
    Part.single, hhotGood, hcoldGood, imp_and]
  constructor
  · rintro ⟨htype, ⟨hcount, hhot, hhotRange⟩, hhotHyst, ⟨hcold, hcoldRange⟩, hcoldHyst, hvr, hmul,
      -⟩
    exact ⟨⟨htype, hcount, hhot, hhotHyst, hcold, hcoldHyst, hvr, hmul⟩, ⟨hhotRange, hcoldRange⟩⟩
  · rintro ⟨⟨htype, hcount, hhot, hhotHyst, hcold, hcoldHyst, hvr, hmul⟩, ⟨hhotRange, hcoldRange⟩⟩
    exact ⟨htype, ⟨hcount, hhot, hhotRange⟩, hhotHyst, ⟨hcold, hcoldRange⟩, hcoldHyst, hvr, hmul,
      List.forall_mem_nil _⟩

/-- The parts of a configuration fit when it is well formed and in range, and its names are not
taken. -/
theorem configParts_fit {names : List String} {sensors : List (SensorJson (WithNan K))} :
    (∀ p ∈ configParts stof names sensors, p.fits) ↔
      (∀ sensor ∈ sensors, sensor.name ∉ names) ∧ WellFormedConfig stof sensors ∧
        ∀ sensor ∈ sensors, InRange stof sensor := by
  induction sensors generalizing names with
  | nil =>
    exact iff_of_true (List.forall_mem_nil _) ⟨List.forall_mem_nil _,
      ⟨List.forall_mem_nil _, List.nodup_nil, List.forall_mem_nil _⟩, List.forall_mem_nil _⟩
  | cons sensor sensors ih =>
    simp only [configParts, List.forall_mem_cons, List.forall_mem_append, sensorParts_fit, ih,
      Part.plain]
    constructor
    · rintro ⟨⟨hname, hnew⟩, ⟨hwell, hrange⟩, hnames, hwells, hranges⟩
      have hnot : sensor.name ∉ sensors.map SensorJson.name := by
        intro hmem
        obtain ⟨other, hother, heq⟩ := List.mem_map.mp hmem
        exact hnames other hother (heq ▸ List.mem_cons_self)
      exact ⟨⟨hnew, fun other hother => List.not_mem_of_not_mem_cons (hnames other hother)⟩,
        ⟨List.forall_mem_cons.mpr ⟨hname, hwells.named⟩, List.nodup_cons.mpr ⟨hnot, hwells.nodup⟩,
          List.forall_mem_cons.mpr ⟨hwell, hwells.sensor⟩⟩, hrange, hranges⟩
    · rintro ⟨⟨hnew, hnames⟩, hwells, hrange, hranges⟩
      obtain ⟨hname, hnamed⟩ := List.forall_mem_cons.mp hwells.named
      obtain ⟨hnot, hnodup⟩ := List.nodup_cons.mp hwells.nodup
      obtain ⟨hwell, hsensor⟩ := List.forall_mem_cons.mp hwells.sensor
      refine ⟨⟨hname, hnew⟩, ⟨hwell, hrange⟩, ?_, ⟨hnamed, hnodup, hsensor⟩, hranges⟩
      intro other hother hmem
      rcases List.mem_cons.mp hmem with heq | hmem
      · exact hnot (List.mem_map.mpr ⟨other, hother, heq⟩)
      · exact hnames other hother hmem

/-! ## What the result holds -/

omit [Field K] [LinearOrder K] in
/-- A table that is read has the entries it should have. -/
theorem entries_of_parse {fill : WithNan K}
    {parse : List (JsonNumber (WithNan K)) → Except ParseError (List (WithNan K))}
    (hvalues : parse values = .ok xs → Values stof values xs)
    (h : (if values.length ≠ kThrottlingSeverityCount then
      .ok (List.replicate kThrottlingSeverityCount fill) else parse values) = .ok xs) :
    Entries stof fill values (toArray fill xs) := by
  refine ⟨xs, rfl, ?_⟩
  by_cases hcount : values.length = kThrottlingSeverityCount
  · rw [if_neg (not_not_intro hcount)] at h
    rw [if_pos hcount]
    exact hvalues h
  · rw [if_pos hcount] at h
    rw [if_neg hcount]
    cases h
    rfl

/-- A sensor that is read is described by its entry. -/
theorem parseSensor_describes {sensor : SensorJson (WithNan K)} {info : ParsedSensor (WithNan K)}
    (h : parseSensor stof sensor = .ok info) : Describes stof sensor (sensor.name, info) := by
  rw [parseSensor] at h
  obtain ⟨type, htype, h⟩ := bind_eq_ok.mp h
  obtain ⟨hotThresholds, hhot, h⟩ := bind_eq_ok.mp h
  obtain ⟨hotHysteresis, hhotHyst, h⟩ := bind_eq_ok.mp h
  obtain ⟨coldThresholds, hcold, h⟩ := bind_eq_ok.mp h
  obtain ⟨coldHysteresis, hcoldHyst, h⟩ := bind_eq_ok.mp h
  obtain ⟨vrThreshold, hvr, h⟩ := bind_eq_ok.mp h
  obtain ⟨multiplier, hmul, h⟩ := bind_eq_ok.mp h
  cases h
  have hmay : ∀ {x : Option (WithNan K)} {a}, mayThrow x = .ok a → x = some a := by
    intro x a hx
    cases x with
    | none => cases hx
    | some b =>
      cases hx
      rfl
  have hhotValues : Entries stof .nan sensor.hotThreshold (toArray .nan hotThresholds) := by
    rw [parseHotThreshold] at hhot
    split_ifs at hhot with hcount
    refine ⟨_, rfl, ?_⟩
    rw [if_pos (not_ne_iff.mp hcount)]
    exact parseThresholds_values hhot
  exact {
    name := rfl
    type := getTypeFromString_ok htype
    hotThresholds := hhotValues
    hotHysteresis := entries_of_parse parseHysteresis_values hhotHyst
    coldThresholds := entries_of_parse parseThresholds_values hcold
    coldHysteresis := entries_of_parse parseHysteresis_values hcoldHyst
    vrThreshold := hmay ((getFloatFromValue_eq sensor.vrThreshold).symm.trans hvr)
    multiplier := hmay hmul
    isMonitor := rfl }

theorem parseSensors_describes {names : List String} {sensors : List (SensorJson (WithNan K))}
    {parsed : List (String × ParsedSensor (WithNan K))}
    (h : parseSensors stof names sensors = .ok parsed) :
    List.Forall₂ (Describes stof) sensors parsed := by
  induction sensors generalizing names parsed with
  | nil =>
    cases h
    exact List.Forall₂.nil
  | cons sensor sensors ih =>
    obtain ⟨info, rest, hinfo, hrest, rfl⟩ := parseSensors_cons_ok h
    exact List.Forall₂.cons (parseSensor_describes hinfo) (ih hrest)

/-- **What is accepted.** A well-formed configuration gets an entry for every sensor, with its
values, and any other gets none, exactly when the well-formed configuration has all its thresholds
in range, and the code comes to no value that cannot be converted before something else is
wrong. -/
theorem accepts_iff (sensors : List (SensorJson (WithNan K))) :
    ((WellFormedConfig stof sensors → ∃ parsed, ParseSensorInfo stof (some sensors) = some parsed ∧
          List.Forall₂ (Describes stof) sensors parsed) ∧
        (¬ WellFormedConfig stof sensors → ParseSensorInfo stof (some sensors) = some [])) ↔
      (WellFormedConfig stof sensors → ∀ sensor ∈ sensors, InRange stof sensor) ∧
        ¬ Reached (configParts stof [] sensors) := by
  have hreads := @parseSensors_reads K _ _ stof [] sensors
  have hfit := (@configParts_fit K _ _ stof [] sensors).trans
    (and_iff_right fun _ _ => List.not_mem_nil)
  have hok := hreads.ok.trans hfit
  rw [ParseSensorInfo, Option.getD_some, ← hreads.thrown]
  cases hparse : parseSensors stof [] sensors with
  | ok parsed =>
    obtain ⟨hwell, hrange⟩ := hok.mp ⟨parsed, hparse⟩
    refine iff_of_true ⟨fun _ => ⟨parsed, rfl, parseSensors_describes hparse⟩,
      fun h => absurd hwell h⟩ ⟨fun _ => hrange, fun h => by cases h⟩
  | error e =>
    have hnot : ¬ ((WellFormedConfig stof sensors) ∧ ∀ sensor ∈ sensors, InRange stof sensor) := by
      intro h
      obtain ⟨parsed, hparsed⟩ := hok.mpr h
      cases hparse.symm.trans hparsed
    cases e with
    | thrown =>
      refine iff_of_false ?_ fun h => h.2 rfl
      rintro ⟨hwell, hill⟩
      by_cases h : WellFormedConfig stof sensors
      · obtain ⟨parsed, hparsed, -⟩ := hwell h
        cases hparsed
      · cases hill h
    | invalid =>
      constructor
      · rintro ⟨hwell, -⟩
        refine ⟨fun h => ?_, fun h => by cases h⟩
        obtain ⟨parsed, hparsed, hdescribes⟩ := hwell h
        cases hparsed
        cases hdescribes
        exact List.forall_mem_nil _
      · rintro ⟨hrange, -⟩
        exact ⟨fun h => absurd ⟨h, hrange h⟩ hnot, fun _ => rfl⟩

/-- A sensor of the skin whose first threshold is zero degrees. -/
def zeroDegrees : SensorJson (WithNan ℚ) where
  name := "skin"
  type := "SKIN"
  hotThreshold := [0, 10, 20, 30, 40, 50, 60].map fun x => .other (some (.num x))
  hotHysteresis := []
  coldThreshold := []
  coldHysteresis := []
  vrThreshold := .string "NAN"
  multiplier := some (.num (1 / 1000))
  monitor := some true

/-- It is well formed, and not accepted. -/
theorem zero_rejected :
    ¬ ((WellFormedConfig (fun _ => some .nan) [zeroDegrees] →
          ∃ parsed, ParseSensorInfo (fun _ => some .nan) (some [zeroDegrees]) = some parsed ∧
            List.Forall₂ (Describes fun _ => some .nan) [zeroDegrees] parsed) ∧
        (¬ WellFormedConfig (fun _ => some .nan) [zeroDegrees] →
          ParseSensorInfo (fun _ => some .nan) (some [zeroDegrees]) = some [])) := by
  have hsensor : WellFormedSensor (fun _ => some .nan) zeroDegrees := by
    have hnone : ¬ 0 = kThrottlingSeverityCount := by decide
    refine ⟨⟨.skin, rfl⟩, rfl, ⟨[0, 10, 20, 30, 40, 50, 60].map .num, rfl, ?_⟩, (absurd · hnone),
      (absurd · hnone), (absurd · hnone), ⟨_, rfl⟩, ⟨_, rfl⟩⟩
    refine List.pairwise_map.mpr (List.Pairwise.imp ?_
      (show List.Pairwise (· ≤ ·) [(0 : ℚ), 10, 20, 30, 40, 50, 60] by decide +kernel))
    intro x y hle a b ha hb
    cases ha
    cases hb
    exact hle
  have hwell : WellFormedConfig (fun _ => some .nan) [zeroDegrees] :=
    ⟨List.forall_mem_singleton.mpr (by decide), List.nodup_singleton _,
      List.forall_mem_singleton.mpr hsensor⟩
  have hlength : (ParseSensorInfo (fun _ => some .nan) (some [zeroDegrees])).map List.length =
      some 0 := by decide +kernel
  rintro ⟨h, -⟩
  obtain ⟨parsed, hparsed, hdescribes⟩ := h hwell
  rw [hparsed] at hlength
  cases hdescribes
  cases hlength

end OppoA37.Thermal
