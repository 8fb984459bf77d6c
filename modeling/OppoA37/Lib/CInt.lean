import Mathlib

/-!
# The `int` of C

Whole numbers are taken for what they are, and an `int` for those that fit in 32 bits:

* `toInt` is what is left of a number that is stored in an `int`, `toInt_eq_self` when it is the
  number, and `toInt_eq_iff_dvd` when it is another one;
* `mul`, `add` and `sub` are arithmetic of signed numbers, which is undefined when the result does
  not fit;
* `shiftOne` is a power of two, but for the last one, which is negative;
* `toSize` is what an `int` becomes as a `size_t`. Negative numbers become larger than all others,
  and keep their order: `toSize_lt_toSize`;
* `saturate` is what becomes of a number that is cut off at the bounds.
-/

namespace CInt

/-- A number that fits in an `int`. -/
def IsInt (x : ℤ) : Prop := -2147483648 ≤ x ∧ x ≤ 2147483647

instance instDecidableIsInt (x : ℤ) : Decidable (IsInt x) :=
  inferInstanceAs (Decidable (_ ∧ _))

/-- Store a number in an `int`. -/
def toInt (x : ℤ) : ℤ := Int.bmod x 4294967296

theorem isInt_toInt (x : ℤ) : IsInt (toInt x) := by
  have hle := Int.le_bmod (x := x) (m := 4294967296) (by norm_num)
  have hlt := Int.bmod_lt (x := x) (m := 4294967296) (by norm_num)
  rw [IsInt, toInt]
  omega

/-- Numbers that fit are stored as they are, and no others. -/
theorem toInt_eq_self {x : ℤ} : toInt x = x ↔ IsInt x := by
  constructor
  · intro h
    rw [← h]
    exact isInt_toInt x
  · intro h
    rw [IsInt] at h
    apply Int.bmod_eq_of_le <;> omega

/-- What is stored is the number that fits and has the same low bits. -/
theorem toInt_eq_iff_dvd {x y : ℤ} (hy : IsInt y) : toInt x = y ↔ 4294967296 ∣ x - y := by
  have hfits := isInt_toInt x
  have hdvd : 4294967296 ∣ toInt x - x := Int.dvd_bmod_sub_self
  rw [IsInt] at hy hfits
  omega

/-- Multiply; `none` if the product does not fit. -/
def mul (x y : ℤ) : Option ℤ := if IsInt (x * y) then some (x * y) else none

/-- Add; `none` if the sum does not fit. -/
def add (x y : ℤ) : Option ℤ := if IsInt (x + y) then some (x + y) else none

/-- Subtract; `none` if the difference does not fit. -/
def sub (x y : ℤ) : Option ℤ := if IsInt (x - y) then some (x - y) else none

variable {x y z : ℤ}

theorem mul_eq_some : mul x y = some z ↔ IsInt (x * y) ∧ x * y = z := by
  rw [mul, Option.ite_none_right_eq_some, Option.some.injEq]

theorem sub_eq_some : sub x y = some z ↔ IsInt (x - y) ∧ x - y = z := by
  rw [sub, Option.ite_none_right_eq_some, Option.some.injEq]

/-! ## Shifts -/

/-- `1 << k`; `none` if the shift is not defined. -/
def shiftOne (k : ℤ) : Option ℤ := if 0 ≤ k ∧ k < 32 then some (toInt (2 ^ k.toNat)) else none

/-- All but the last shift give a power of two. -/
theorem shiftOne_of_lt {k : ℕ} (h : k < 31) : shiftOne k = some (2 ^ k) := by
  have hpow : (2 : ℤ) ^ k < 2 ^ 31 := pow_lt_pow_right₀ one_lt_two h
  have hpos : (0 : ℤ) < 2 ^ k := by positivity
  rw [shiftOne, if_pos (by omega), Int.toNat_natCast, toInt_eq_self.mpr (by rw [IsInt]; omega)]

/-! ## Sizes -/

/-- Convert an `int` to a `size_t`. -/
def toSize (x : ℤ) : ℕ := (x % 4294967296).toNat

theorem toSize_of_nonneg (hx : IsInt x) (h : 0 ≤ x) : (toSize x : ℤ) = x := by
  rw [IsInt] at hx
  rw [toSize]
  omega

theorem toSize_of_neg (hx : IsInt x) (h : x < 0) : (toSize x : ℤ) = x + 4294967296 := by
  rw [IsInt] at hx
  rw [toSize]
  omega

/-- Among negative numbers, and among the others, the order is kept; a negative number is the
greater one otherwise. -/
theorem toSize_lt_toSize (hx : IsInt x) (hy : IsInt y) :
    toSize x < toSize y ↔ (0 ≤ x ∧ y < 0) ∨ ((0 ≤ x ↔ 0 ≤ y) ∧ x < y) := by
  rw [IsInt] at hx hy
  rw [toSize, toSize]
  omega

/-! ## What does not fit is cut off -/

/-- A number between the bounds of an `int`, as `strtol` and the conversion of a floating number
leave it. -/
def saturate (x : ℤ) : ℤ := max (-2147483648) (min 2147483647 x)

/-- The whole part of a number, towards zero. -/
def truncate (x : ℚ) : ℤ := if 0 ≤ x then ⌊x⌋ else ⌈x⌉

theorem saturate_le (x : ℤ) : saturate x ≤ 2147483647 := by
  rw [saturate]
  omega

theorem saturate_of_nonneg (h : 0 ≤ x) : saturate x = min 2147483647 x := by
  rw [saturate]
  omega

theorem truncate_of_nonneg {x : ℚ} (h : 0 ≤ x) : truncate x = ⌊x⌋ := if_pos h

end CInt
