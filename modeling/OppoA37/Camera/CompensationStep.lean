import OppoA37.Lib.CInt
import OppoA37.Lib.Text

/-!
# The step of the exposure compensation

The legacy HAL gives the step of the exposure compensation as a decimal number.
`camera_convert_parameters` reads what is before and what is behind the point as two whole numbers,
drops the first, and publishes the second as millionths.

`stepRight_iff` says when that is the number: nothing may be before the point, and behind it there
are six digits, or there is nothing either.
-/

namespace OppoA37.Camera

open CInt Text

/-- `camera_metadata_rational` -/
structure Rational where
  /-- `numerator` -/
  numerator : ℤ
  /-- `denominator` -/
  denominator : ℤ
  deriving DecidableEq

/-- The number of a fraction. -/
def Rational.value (r : Rational) : ℚ := r.numerator / r.denominator

/-- `exposure_compensation_step`, of the parameter `exposure-compensation-step`, with what is in
memory for `numerator`; `none` if a number does not fit in an `int`. -/
def exposureCompensationStep (uninitialised : ℤ) (step : List Char) : Option Rational :=
  match scanPair '.' step with
  | [] => some ⟨uninitialised, 1000000⟩
  | [stub] => if IsInt stub then some ⟨uninitialised, 1000000⟩ else none
  | stub :: numerator :: _ =>
    if IsInt stub ∧ IsInt numerator then some ⟨numerator, 1000000⟩ else none

/-- What is published is the number that the text denotes, whatever is in memory. -/
def StepRight (step : List Char) : Prop :=
  ∀ uninitialised, ∃ r,
    exposureCompensationStep uninitialised step = some r ∧ r.value = readFixed step

variable {whole fraction : List Char} {m n : ℕ}

/-- What is published of a number with a point. -/
theorem exposureCompensationStep_point (hwhole : IsDecimal whole m)
    (hfraction : IsDecimal fraction n) (uninitialised : ℤ) :
    exposureCompensationStep uninitialised (whole ++ '.' :: fraction) =
      if IsInt m ∧ IsInt n then some ⟨n, 1000000⟩ else none := by
  have hpoint : '.'.isDigit = false := rfl
  simp only [exposureCompensationStep, scanPair_append hwhole hfraction hpoint]

/-- The number that is denoted. -/
theorem readFixed_decimal (hwhole : IsDecimal whole m) (hfraction : IsDecimal fraction n) :
    readFixed (whole ++ '.' :: fraction) = m + n / 10 ^ fraction.length := by
  obtain ⟨-, hdigits, rfl⟩ := hwhole
  obtain ⟨-, -, rfl⟩ := hfraction
  rw [readFixed_point (List.all_eq_true.mp hdigits), Nat.ofDigitChars_append,
    Nat.ofDigitChars_eq_ofDigitChars_zero]
  push_cast
  rw [add_div, mul_comm, mul_div_assoc, div_self (by positivity), mul_one]

/-- More than six digits never stand for as many millionths: a number would be divided by a power
of ten. -/
theorem eq_zero_of_millionths {j : ℕ} (hn : n < 10 ^ (j + 1 + 6))
    (h : n * 10 ^ (j + 1) = m * 10 ^ (j + 1 + 6) + n) : n = 0 := by
  have hcoprime : IsCoprime ((10 : ℤ) ^ (j + 1 + 6)) (10 ^ (j + 1) - 1) := by
    refine IsCoprime.pow_left ⟨10 ^ j, -1, ?_⟩
    ring
  have hdvd : (10 : ℤ) ^ (j + 1 + 6) ∣ n := by
    refine hcoprime.dvd_of_dvd_mul_right ⟨m, ?_⟩
    have hint : (n : ℤ) * 10 ^ (j + 1) = m * 10 ^ (j + 1 + 6) + n := by exact_mod_cast h
    linarith
  exact Nat.eq_zero_of_dvd_of_lt (by exact_mod_cast hdvd) hn

/-- Millionths are the right unit for six digits, or when there is nothing to count. -/
theorem millionths_iff {k : ℕ} (hn : n < 10 ^ k) :
    (n : ℚ) / 1000000 = m + n / 10 ^ k ↔ m = 0 ∧ (k = 6 ∨ n = 0) := by
  constructor
  · intro h
    have hzero : n = 0 → m = 0 := by
      rintro rfl
      simpa using h.symm
    rcases lt_trichotomy k 6 with hlt | rfl | hgt
    · -- with fewer digits the fraction alone is too large
      have hpow : (10 : ℚ) ^ k < 1000000 := by
        have hlt := pow_lt_pow_right₀ (by norm_num : (1 : ℚ) < 10) hlt
        norm_num at hlt ⊢
        exact hlt
      have hn : n = 0 := by
        by_contra hne
        have hpos : (0 : ℚ) < n := by exact_mod_cast Nat.pos_of_ne_zero hne
        have hless := div_lt_div_of_pos_left hpos (by positivity) hpow
        have hm : (0 : ℚ) ≤ m := m.cast_nonneg
        linarith
      exact ⟨hzero hn, Or.inr hn⟩
    · have hm : (m : ℚ) = 0 := by
        norm_num at h
        exact_mod_cast h
      exact ⟨by exact_mod_cast hm, Or.inl rfl⟩
    · obtain ⟨j, rfl⟩ : ∃ j, k = j + 1 + 6 := ⟨k - 7, by omega⟩
      have hmul : n * 10 ^ (j + 1) = m * 10 ^ (j + 1 + 6) + n := by
        have hmul : (n : ℚ) / 1000000 * 10 ^ (j + 1 + 6) =
            (m + n / 10 ^ (j + 1 + 6)) * 10 ^ (j + 1 + 6) := by rw [h]
        rw [add_mul, div_mul_cancel₀ _ (by positivity), pow_add, ← mul_assoc] at hmul
        have hmillion : (n : ℚ) / 1000000 * 10 ^ (j + 1) * 10 ^ 6 = n * 10 ^ (j + 1) := by ring
        rw [hmillion, ← pow_add] at hmul
        exact_mod_cast hmul
      have hn := eq_zero_of_millionths hn hmul
      exact ⟨hzero hn, Or.inr hn⟩
  · rintro ⟨rfl, rfl | rfl⟩
    · norm_num
    · simp

/-- **When the step is right.** Nothing is before the point, and behind it there are six digits, or
there is nothing either. -/
theorem stepRight_iff (hwhole : IsDecimal whole m) (hfraction : IsDecimal fraction n) :
    StepRight (whole ++ '.' :: fraction) ↔ m = 0 ∧ (fraction.length = 6 ∨ n = 0) := by
  have hlt := hfraction.lt_pow
  rw [← millionths_iff hlt]
  constructor
  · intro h
    obtain ⟨r, hr, hvalue⟩ := h 0
    rw [exposureCompensationStep_point hwhole hfraction] at hr
    split_ifs at hr
    obtain rfl := Option.some.inj hr
    rw [readFixed_decimal hwhole hfraction] at hvalue
    exact_mod_cast hvalue
  · intro h uninitialised
    have hint : IsInt m ∧ IsInt n := by
      obtain ⟨rfl, hright⟩ := (millionths_iff hlt).mp h
      refine ⟨by decide, ?_⟩
      rcases hright with hsix | rfl
      · rw [hsix] at hlt
        rw [IsInt]
        omega
      · decide
    rw [exposureCompensationStep_point hwhole hfraction, if_pos hint]
    refine ⟨_, rfl, ?_⟩
    rw [readFixed_decimal hwhole hfraction, ← h]
    norm_num [Rational.value]

/-- A step of a third, in six digits. -/
theorem stepRight_third : StepRight "0.333333".toList ↔
    0 = 0 ∧ ("333333".toList.length = 6 ∨ 333333 = 0) :=
  @stepRight_iff "0".toList "333333".toList 0 333333 (by decide) (by decide)

/-- A half is published as five millionths. -/
theorem not_stepRight_half : ¬ StepRight "0.5".toList := by
  intro h
  obtain ⟨r, hr, hvalue⟩ := h 0
  have hpublished : exposureCompensationStep 0 "0.5".toList = some ⟨5, 1000000⟩ := by decide
  obtain rfl := Option.some.inj (hpublished.symm.trans hr)
  have hhalf := @readFixed_decimal "0".toList "5".toList 0 5 (by decide) (by decide)
  have htext : "0".toList ++ '.' :: "5".toList = "0.5".toList := rfl
  have hlength : "5".toList.length = 1 := rfl
  rw [htext, hlength] at hhalf
  rw [hhalf] at hvalue
  norm_num [Rational.value] at hvalue

end OppoA37.Camera
