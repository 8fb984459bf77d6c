import OppoA37.Lib.Hysteresis
import OppoA37.Hidl.Thermal.ConfigParser

/-!
# The hysteresis of `getSeverityFromThresholds`

Heat and cold are two sides that work alike. On each, a reading has *reached* some levels by their
thresholds, and *keeps* some by their thresholds and hysteresis. The highest level it has reached
is the new severity, but one that is lowered is set to the highest level that is kept.

* `SensorInfo.severities_eq`: both sides are `Hysteresis.settle`;
* `severity_justified_iff` is exact about when a severity lies between what the reading has
  reached and the larger of that and the severity before.

Reaching a threshold is enough for its level, but only what exceeds the threshold less its
hysteresis keeps it. Without a hysteresis, a reading that falls to a threshold exactly has reached
a level that it does not keep (`reached_not_kept`); `keepsReached_hot` needs every hysteresis to be
positive. And a hysteresis that is wider than the steps between the levels keeps a level
that was never entered; `keepsWithin_hot` needs the steps to be as wide.
-/

namespace OppoA37.Thermal

open FloatOps (isnan le lt)

namespace ThrottlingSeverity

/-! ## The order of severities -/

theorem toSize_injective : Function.Injective toSize := by
  intro i j h
  cases i <;> cases j <;> first | rfl | cases h

instance : LinearOrder ThrottlingSeverity := LinearOrder.lift' toSize toSize_injective

theorem none_le (i : ThrottlingSeverity) : none ≤ i := Nat.zero_le _

theorem le_none {i : ThrottlingSeverity} : i ≤ none ↔ i = none :=
  ⟨fun h => le_antisymm h (none_le i), fun h => h.le⟩

theorem aboveNone_pairwise : aboveNone.Pairwise (· > ·) := by decide

theorem mem_aboveNone {i : ThrottlingSeverity} : i ∈ aboveNone ↔ none < i := by
  cases i <;> decide

variable {p : ThrottlingSeverity → Bool} {i : ThrottlingSeverity}

theorem highest_eq_none_or (p : ThrottlingSeverity → Bool) :
    highest p = none ∨ p (highest p) = true := by
  rw [highest]
  cases hfind : aboveNone.find? p with
  | none => exact Or.inl rfl
  | some j => exact Or.inr (List.find?_some hfind)

/-- A level above `NONE` is no higher than the highest one. -/
theorem le_highest (hi : none < i) (hp : p i = true) : i ≤ highest p := by
  rw [highest]
  cases hfind : aboveNone.find? p with
  | none => exact absurd hp (List.find?_eq_none.mp hfind i (mem_aboveNone.mpr hi))
  | some j =>
    obtain ⟨-, before, after, hsplit, hbefore⟩ := List.find?_eq_some_iff_append.mp hfind
    have hmem : i ∈ before ++ j :: after := hsplit ▸ mem_aboveNone.mpr hi
    have hsorted : (before ++ j :: after).Pairwise (· > ·) := hsplit ▸ aboveNone_pairwise
    rcases List.mem_append.mp hmem with hfirst | hlast
    · -- the search would have stopped there
      have hno : (!p i) = true := hbefore i hfirst
      rw [hp] at hno
      cases hno
    · rcases List.mem_cons.mp hlast with rfl | hafter
      · exact le_rfl
      · have hgt := (List.pairwise_append.mp hsorted).2.1
        exact ((List.pairwise_cons.mp hgt).1 i hafter).le

/-- The highest level is at least as high as any one that there is. -/
theorem le_highest_iff : i ≤ highest p ↔ i = none ∨ ∃ j, i ≤ j ∧ p j = true := by
  constructor
  · intro hle
    rcases highest_eq_none_or p with hnone | hp
    · exact Or.inl (le_none.mp (hnone ▸ hle))
    · exact Or.inr ⟨highest p, hle, hp⟩
  · rintro (rfl | ⟨j, hle, hp⟩)
    · exact none_le _
    · rcases (none_le i).eq_or_lt with rfl | hlt
      · exact none_le _
      · exact hle.trans (le_highest (hlt.trans_le hle) hp)

theorem highest_le_iff : highest p ≤ i ↔ ∀ j, none < j → p j = true → j ≤ i := by
  constructor
  · exact fun hle j hj hp => (le_highest hj hp).trans hle
  · intro hall
    rcases highest_eq_none_or p with hnone | hp
    · rw [hnone]
      exact none_le _
    · rcases (none_le (highest p)).eq_or_lt with hnone | hlt
      · rw [← hnone]
        exact none_le _
      · exact hall _ hlt hp

end ThrottlingSeverity

/-! ## The two sides -/

/-- What a reading says on one side, of the levels above `NONE`. -/
structure Side where
  /-- the levels whose threshold is reached -/
  reached : ThrottlingSeverity → Bool
  /-- the levels that are kept -/
  kept : ThrottlingSeverity → Bool

namespace Side

variable (side : Side) (prev : ThrottlingSeverity)

/-- The highest level whose threshold is reached. -/
def raw : ThrottlingSeverity := .highest side.reached

/-- The highest level that is kept. -/
def held : ThrottlingSeverity := .highest side.kept

/-- The severity after `prev`. -/
def severity : ThrottlingSeverity := Hysteresis.settle side.raw side.held prev

/-- A severity after `prev` is neither below what is reached nor above what there is a reason
for. -/
def Justifies (severity : ThrottlingSeverity) : Prop :=
  side.raw ≤ severity ∧ severity ≤ max prev side.raw

/-- A level that is no lower than the one before is reached. -/
def NotLowered : Prop := prev = .none ∨ ∃ i, prev ≤ i ∧ side.reached i = true

/-- A level that is reached is kept, or a higher one is. -/
def KeepsReached : Prop :=
  ∀ j, .none < j → side.reached j = true → ∃ i, j ≤ i ∧ side.kept i = true

/-- No level above the one before is kept. -/
def KeepsWithin : Prop := ∀ i, .none < i → side.kept i = true → i ≤ prev

variable {side prev}

theorem notLowered_iff : side.NotLowered prev ↔ prev ≤ side.raw :=
  ThrottlingSeverity.le_highest_iff.symm

theorem keepsWithin_iff : side.KeepsWithin prev ↔ side.held ≤ prev :=
  ThrottlingSeverity.highest_le_iff.symm

theorem keepsReached_iff : side.KeepsReached ↔ side.raw ≤ side.held := by
  rw [raw, ThrottlingSeverity.highest_le_iff]
  refine forall₂_congr fun j hj => imp_congr_right fun _ => ?_
  rw [held, ThrottlingSeverity.le_highest_iff]
  exact (or_iff_right hj.ne').symm

/-- **One side**: the severity is justified exactly when it is not lowered, or what is kept lies
between what is reached and the severity before. -/
theorem justifies_severity_iff : side.Justifies prev (side.severity prev) ↔
    side.NotLowered prev ∨ side.KeepsReached ∧ side.KeepsWithin prev := by
  rw [notLowered_iff, keepsReached_iff, keepsWithin_iff]
  exact Hysteresis.settle_bounds_iff

instance (severity : ThrottlingSeverity) : Decidable (side.Justifies prev severity) :=
  inferInstanceAs (Decidable (_ ∧ _))

instance : Decidable (side.NotLowered prev) := decidable_of_iff _ notLowered_iff.symm

instance : Decidable side.KeepsReached := decidable_of_iff _ keepsReached_iff.symm

instance : Decidable (side.KeepsWithin prev) := decidable_of_iff _ keepsWithin_iff.symm

end Side

variable {F : Type*} [FloatOps F]

namespace SensorInfo

variable (info : SensorInfo F) (value : F)

/-- The side of heat. -/
def hotSide : Side where
  reached i := !isnan (info.hotThresholds i) && le (info.hotThresholds i) value
  kept i := !isnan (info.hotThresholds i) &&
    lt (info.hotThresholds i - info.hotHysteresis i) value

/-- The side of cold. -/
def coldSide : Side where
  reached i := !isnan (info.coldThresholds i) && le value (info.coldThresholds i)
  kept i := !isnan (info.coldThresholds i) &&
    lt value (info.coldThresholds i + info.coldHysteresis i)

/-- `getSeverityFromThresholds`, on the tables of a sensor. -/
def severities (prev : ThrottlingSeverity × ThrottlingSeverity) :
    ThrottlingSeverity × ThrottlingSeverity :=
  getSeverityFromThresholds info.hotThresholds info.coldThresholds info.hotHysteresis
    info.coldHysteresis prev.1 prev.2 value

/-- The sides do not depend on each other. -/
theorem severities_eq (prev : ThrottlingSeverity × ThrottlingSeverity) :
    info.severities value prev =
      ((info.hotSide value).severity prev.1, (info.coldSide value).severity prev.2) := rfl

end SensorInfo

/-- **The severities are justified** exactly when each side is not lowered, or what it keeps lies
between what is reached and the severity before. -/
theorem severity_justified_iff (info : SensorInfo F) (value : F)
    (prev : ThrottlingSeverity × ThrottlingSeverity) :
    ((info.hotSide value).Justifies prev.1 (info.severities value prev).1 ∧
        (info.coldSide value).Justifies prev.2 (info.severities value prev).2) ↔
      ((info.hotSide value).NotLowered prev.1 ∨
        (info.hotSide value).KeepsReached ∧ (info.hotSide value).KeepsWithin prev.1) ∧
      ((info.coldSide value).NotLowered prev.2 ∨
        (info.coldSide value).KeepsReached ∧ (info.coldSide value).KeepsWithin prev.2) := by
  rw [info.severities_eq]
  exact and_congr Side.justifies_severity_iff Side.justifies_severity_iff

/-! ## A sensor without a hysteresis -/

/-- `NAN` is the only string where a number is wanted. -/
def stofNan (str : String) : Option (WithNan ℚ) := if str = "NAN" then some .nan else none

/-- `tsens_tz_sensor5` of `thermal_info_config.json` -/
def tsensTzSensor5 : SensorJson (WithNan ℚ) where
  name := "tsens_tz_sensor5"
  type := "CPU"
  hotThreshold := [.string "NAN", .string "NAN", .other (some (.num 65)),
    .other (some (.num 70)), .other (some (.num 75)), .other (some (.num 80)),
    .other (some (.num 85))]
  hotHysteresis := []
  coldThreshold := []
  coldHysteresis := []
  vrThreshold := .string "NAN"
  multiplier := some (.num 1)
  monitor := some true

/-- A sensor that cools down to 65 has reached `MODERATE`, and is set to `NONE`. -/
theorem reached_not_kept :
    ∃ sensor ∈ (ParseSensorInfo stofNan (some [tsensTzSensor5])).getD [],
      (sensor.2.hotSide (.num 65)).raw = .moderate ∧
        sensor.2.severities (.num 65) (.severe, .none) = (.none, .none) ∧
        ¬ (sensor.2.hotSide (.num 65)).Justifies .severe
          (sensor.2.severities (.num 65) (.severe, .none)).1 := by
  decide +kernel

/-! ## Sensors with a hysteresis -/

section Accepted

variable {K : Type} [Field K] [LinearOrder K] {info : SensorInfo (WithNan K)}
  {value : WithNan K} {i : ThrottlingSeverity}

theorem hotSide_reached : (info.hotSide value).reached i = true ↔
    ∃ t v, info.hotThresholds i = .num t ∧ value = .num v ∧ t ≤ v := by
  cases ht : info.hotThresholds i <;> cases value <;> simp [SensorInfo.hotSide, ht]

theorem coldSide_reached : (info.coldSide value).reached i = true ↔
    ∃ t v, info.coldThresholds i = .num t ∧ value = .num v ∧ v ≤ t := by
  cases ht : info.coldThresholds i <;> cases value <;> simp [SensorInfo.coldSide, ht]

theorem hotSide_kept : (info.hotSide value).kept i = true ↔
    ∃ t h v, info.hotThresholds i = .num t ∧ info.hotHysteresis i = .num h ∧ value = .num v ∧
      t - h < v := by
  cases ht : info.hotThresholds i <;> cases hh : info.hotHysteresis i <;> cases value <;>
    simp [SensorInfo.hotSide, ht, hh]

theorem coldSide_kept : (info.coldSide value).kept i = true ↔
    ∃ t h v, info.coldThresholds i = .num t ∧ info.coldHysteresis i = .num h ∧ value = .num v ∧
      v < t + h := by
  cases ht : info.coldThresholds i <;> cases hh : info.coldHysteresis i <;> cases value <;>
    simp [SensorInfo.coldSide, ht, hh]

/-- Every hysteresis is positive, and the levels are at least as far apart. -/
structure WellSpaced (info : SensorInfo (WithNan K)) : Prop where
  /-- heat leaves a level below its threshold -/
  hot_pos {i : ThrottlingSeverity} {h : K} (hh : info.hotHysteresis i = .num h) : 0 < h
  /-- cold leaves a level above its threshold -/
  cold_pos {i : ThrottlingSeverity} {h : K} (hh : info.coldHysteresis i = .num h) : 0 < h
  /-- heat does not leave a level below a lower one -/
  hot_step {i j : ThrottlingSeverity} (hlt : j < i) {s t h : K}
    (hs : info.hotThresholds j = .num s) (ht : info.hotThresholds i = .num t)
    (hh : info.hotHysteresis i = .num h) : s ≤ t - h
  /-- cold does not leave a level above a lower one -/
  cold_step {i j : ThrottlingSeverity} (hlt : j < i) {s t h : K}
    (hs : info.coldThresholds j = .num s) (ht : info.coldThresholds i = .num t)
    (hh : info.coldHysteresis i = .num h) : t + h ≤ s

variable {prev : ThrottlingSeverity}

/-- A number that is known not to be `NAN`. -/
theorem exists_num {x : WithNan K} (h : isnan x = false) : ∃ a, x = .num a := by
  cases x with
  | nan => cases h
  | num a => exact ⟨a, rfl⟩

/-- A level above one that is no longer reached is not kept. -/
theorem keepsWithin_hot (hw : WellSpaced info) {s : K} (hs : info.hotThresholds prev = .num s)
    (hlow : ¬ (info.hotSide value).NotLowered prev) : (info.hotSide value).KeepsWithin prev := by
  intro i _ hkept
  by_contra hno
  obtain ⟨t, h, v, ht, hh, hv, hlt⟩ := hotSide_kept.mp hkept
  have hstep : s ≤ t - h := hw.hot_step (not_le.mp hno) hs ht hh
  apply hlow
  exact Or.inr ⟨prev, le_rfl, hotSide_reached.mpr ⟨s, v, hs, hv, hstep.trans hlt.le⟩⟩

theorem keepsWithin_cold (hw : WellSpaced info) {s : K} (hs : info.coldThresholds prev = .num s)
    (hlow : ¬ (info.coldSide value).NotLowered prev) :
    (info.coldSide value).KeepsWithin prev := by
  intro i _ hkept
  by_contra hno
  obtain ⟨t, h, v, ht, hh, hv, hlt⟩ := coldSide_kept.mp hkept
  have hstep : t + h ≤ s := hw.cold_step (not_le.mp hno) hs ht hh
  apply hlow
  exact Or.inr ⟨prev, le_rfl, coldSide_reached.mpr ⟨s, v, hs, hv, hlt.le.trans hstep⟩⟩

variable [IsStrictOrderedRing K]

/-- A level that is reached is kept. -/
theorem keepsReached_hot (hacc : Accepted info) (hw : WellSpaced info) :
    (info.hotSide value).KeepsReached := by
  intro j _ hreached
  obtain ⟨t, v, ht, hv, hle⟩ := hotSide_reached.mp hreached
  obtain ⟨h, hh⟩ := exists_num (hacc.hotHysteresis j)
  exact ⟨j, le_rfl, hotSide_kept.mpr ⟨t, h, v, ht, hh, hv, by linarith [hw.hot_pos hh]⟩⟩

theorem keepsReached_cold (hacc : Accepted info) (hw : WellSpaced info) :
    (info.coldSide value).KeepsReached := by
  intro j _ hreached
  obtain ⟨t, v, ht, hv, hle⟩ := coldSide_reached.mp hreached
  obtain ⟨h, hh⟩ := exists_num (hacc.coldHysteresis j)
  exact ⟨j, le_rfl, coldSide_kept.mpr ⟨t, h, v, ht, hh, hv, by linarith [hw.cold_pos hh]⟩⟩

/-- **A configuration with a hysteresis** that fits its levels justifies every severity, after
levels that it has. -/
theorem justified_of_wellSpaced {stof : String → Option (WithNan K)}
    {sensors : Option (List (SensorJson (WithNan K)))}
    {parsed : List (String × ParsedSensor (WithNan K))}
    (hparse : ParseSensorInfo stof sensors = some parsed) {p : String × ParsedSensor (WithNan K)}
    (hp : p ∈ parsed) (hw : WellSpaced p.2.toSensorInfo)
    {prev : ThrottlingSeverity × ThrottlingSeverity}
    (hhot : prev.1 = .none ∨ isnan (p.2.hotThresholds prev.1) = false)
    (hcold : prev.2 = .none ∨ isnan (p.2.coldThresholds prev.2) = false) :
    (p.2.hotSide value).Justifies prev.1 (p.2.severities value prev).1 ∧
      (p.2.coldSide value).Justifies prev.2 (p.2.severities value prev).2 := by
  have hacc : Accepted p.2.toSensorInfo := accepted_of_mem hparse hp
  rw [severity_justified_iff]
  constructor
  · by_cases hlow : (p.2.hotSide value).NotLowered prev.1
    · exact Or.inl hlow
    · obtain ⟨s, hs⟩ := exists_num (hhot.resolve_left fun h => hlow (Or.inl h))
      exact Or.inr ⟨keepsReached_hot hacc hw, keepsWithin_hot hw hs hlow⟩
  · by_cases hlow : (p.2.coldSide value).NotLowered prev.2
    · exact Or.inl hlow
    · obtain ⟨s, hs⟩ := exists_num (hcold.resolve_left fun h => hlow (Or.inl h))
      exact Or.inr ⟨keepsReached_cold hacc hw, keepsWithin_cold hw hs hlow⟩

end Accepted

end OppoA37.Thermal
