import Mathlib

/-!
# Numerals

A numeral stands for a number in a base of sixteen at most; letters go on where the digits end, and
their case does not matter.

* `value_toDigits` says that a number is read as it was written;
* `strtoul_toDigits` says so of `strtoul`, which reads as far as there are digits.
-/

namespace Numeral

/-- What a digit, or a letter, stands for. -/
def digitValue (c : Char) : Option ℕ :=
  if c.isDigit then some (c.toNat - 48)
  else if c.isLower then some (c.toNat - 87)
  else if c.isUpper then some (c.toNat - 55)
  else none

/-- The character is a digit in this base. -/
def isDigitOf (b : ℕ) (c : Char) : Bool := (digitValue c).any (· < b)

/-- The number that digits stand for. -/
def value (b : ℕ) (s : List Char) : ℕ := s.foldl (fun n c => b * n + (digitValue c).getD 0) 0

/-- The marks of base sixteen are skipped, if there is a digit behind them. -/
def skipMark (b : ℕ) : List Char → List Char
  | '0' :: x :: c :: s =>
    if b = 16 ∧ x.toLower = 'x' ∧ isDigitOf b c then c :: s else '0' :: x :: c :: s
  | s => s

/-- `strtoul` of a text that starts with a digit: the number, `max` at most, and what is behind. -/
def strtoul (max b : ℕ) (s : List Char) : ℕ × List Char :=
  let s := skipMark b s
  (min (value b (s.takeWhile (isDigitOf b))) max, s.dropWhile (isDigitOf b))

section

variable {b n : ℕ}

theorem digitValue_digitChar : ∀ d : Fin 16, digitValue (Nat.digitChar d) = some d.val := by
  decide

theorem value_append (b : ℕ) (s : List Char) (c : Char) :
    value b (s ++ [c]) = b * value b s + (digitValue c).getD 0 := by
  rw [value, List.foldl_append]
  rfl

/-- **A number is read** as it was written. -/
theorem value_toDigits (hb : 1 < b) (hb' : b ≤ 16) (n : ℕ) : value b (Nat.toDigits b n) = n := by
  induction n using Nat.strong_induction_on with
  | _ n ih =>
    have hdigit : ∀ d < b, (digitValue (Nat.digitChar d)).getD 0 = d := fun d hd => by
      rw [digitValue_digitChar ⟨d, by omega⟩]
      rfl
    rw [Nat.toDigits_eq_if hb]
    split_ifs with hn
    · exact (Nat.zero_add _).trans (hdigit n hn)
    · have hlt : n / b < n := Nat.div_lt_self (by omega) hb
      rw [value_append, ih _ hlt, hdigit _ (Nat.mod_lt n (by omega)), Nat.div_add_mod]

/-- All characters are digits. -/
theorem exists_digitChar (hb : 1 < b) (hb' : b ≤ 16) {c : Char} (h : c ∈ Nat.toDigits b n) :
    ∃ d : Fin 16, d.val < b ∧ Nat.digitChar d = c := by
  induction n using Nat.strong_induction_on with
  | _ n ih =>
    rw [Nat.toDigits_eq_if hb] at h
    split_ifs at h with hn
    · exact ⟨⟨n, by omega⟩, hn, (List.mem_singleton.mp h).symm⟩
    · rcases List.mem_append.mp h with h | h
      · exact ih (n / b) (Nat.div_lt_self (by omega) hb) h
      · have hlt : n % b < b := Nat.mod_lt n (by omega)
        exact ⟨⟨n % b, by omega⟩, hlt, (List.mem_singleton.mp h).symm⟩

theorem isDigitOf_of_mem_toDigits (hb : 1 < b) (hb' : b ≤ 16) {c : Char}
    (h : c ∈ Nat.toDigits b n) : isDigitOf b c = true := by
  obtain ⟨d, hd, rfl⟩ := exists_digitChar hb hb' h
  rw [isDigitOf, digitValue_digitChar]
  exact decide_eq_true hd

/-- Digits and nothing else. -/
theorem strtoul_digits {max : ℕ} {s : List Char} (hs : ∀ c ∈ s, isDigitOf b c = true)
    (hmark : skipMark b s = s) : strtoul max b s = (min (value b s) max, []) := by
  rw [strtoul, hmark, List.takeWhile_eq_self_iff.mpr hs, List.dropWhile_eq_nil_iff.mpr hs]

theorem skipMark_of_ne (hb : b ≠ 16) (s : List Char) : skipMark b s = s := by
  rw [skipMark.eq_def]
  split
  · rw [if_neg fun h => hb h.1]
  · rfl

/-- **A number is read** by `strtoul`. -/
theorem strtoul_toDigits (hb : 1 < b) (hb' : b < 16) {max : ℕ} (hn : n ≤ max) :
    strtoul max b (Nat.toDigits b n) = (n, []) := by
  rw [strtoul_digits (fun c hc => isDigitOf_of_mem_toDigits hb hb'.le hc)
    (skipMark_of_ne hb'.ne _), value_toDigits hb hb'.le, min_eq_left hn]

/-- And one in base sixteen, behind its mark. -/
theorem strtoul_mark {max : ℕ} (hn : n ≤ max) :
    strtoul max 16 ('0' :: 'x' :: Nat.toDigits 16 n) = (n, []) := by
  have hdigits : ∀ c ∈ Nat.toDigits 16 n, isDigitOf 16 c = true := fun c hc =>
    isDigitOf_of_mem_toDigits (by decide) le_rfl hc
  have hvalue := value_toDigits (b := 16) (by decide) le_rfl n
  obtain ⟨c, s, hs⟩ := List.exists_cons_of_ne_nil (Nat.toDigits_ne_nil (n := n) (b := 16))
  rw [hs] at hdigits hvalue ⊢
  have hmark : skipMark 16 ('0' :: 'x' :: c :: s) = c :: s :=
    if_pos ⟨rfl, rfl, hdigits c List.mem_cons_self⟩
  rw [strtoul, hmark, List.takeWhile_eq_self_iff.mpr hdigits, List.dropWhile_eq_nil_iff.mpr hdigits,
    hvalue, min_eq_left hn]

end

end Numeral
