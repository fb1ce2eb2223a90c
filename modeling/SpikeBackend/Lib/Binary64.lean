import SpikeBackend.Lib.Digits

/-!
# Numbers in binary floating point

A finite float is the rational number it stands for. A quotient is rounded to the 53 digits of a
double, from halfway to the even one; no number here comes near the least or the greatest exponent.

* `abs_nearestFloat_sub_le` — the error of the rounding, by the size of the number;
* `nearestFloat_intCast` — an integer of at most 53 binary digits is a float;
* `ceil_nearestFloat` — rounding up the float is rounding up the number, unless the number is too
  close above an integer.
-/

namespace Text

/-- The distance of the floats around `x`. -/
def floatUnit (x : ℚ) : ℚ := 2 ^ (Int.log 2 |x| - 52)

/-- The float that is nearest to `x`. -/
def nearestFloat (x : ℚ) : ℚ :=
  if x = 0 then 0 else roundHalfEven (x / floatUnit x) * floatUnit x

/-- A time in microseconds as the float of its seconds. -/
def totalSeconds (microseconds : Int) : ℚ := nearestFloat (microseconds / 1000000)

theorem floatUnit_pos (x : ℚ) : 0 < floatUnit x := zpow_pos (by norm_num) _

/-- Rounding to an integer moves by a half at most. -/
theorem abs_roundHalfEven_sub_le (x : ℚ) : |(roundHalfEven x : ℚ) - x| ≤ 1 / 2 := by
  have hLow : (x.floor : ℚ) ≤ x := Rat.floor_le x
  have hHigh : x < (x.floor + 1 : ℤ) := Rat.lt_floor_add_one x
  rw [Int.cast_add, Int.cast_one] at hHigh
  rw [abs_le]
  unfold roundHalfEven
  dsimp only
  split
  · constructor <;> linarith
  · split
    · push_cast
      constructor <;> linarith
    · split
      · constructor <;> linarith
      · push_cast
        constructor <;> linarith

/-- **The error of the rounding.** -/
theorem abs_nearestFloat_sub_le (x : ℚ) : |nearestFloat x - x| ≤ floatUnit x / 2 := by
  have hUnit := floatUnit_pos x
  unfold nearestFloat
  split
  · next hZero =>
    rw [hZero, sub_self, abs_zero]
    rw [hZero] at hUnit
    exact (half_pos hUnit).le
  · have hError := abs_roundHalfEven_sub_le (x / floatUnit x)
    -- the error in units, times the unit
    have hScaled : (roundHalfEven (x / floatUnit x) : ℚ) * floatUnit x - x =
        (roundHalfEven (x / floatUnit x) - x / floatUnit x) * floatUnit x := by
      rw [sub_mul, div_mul_cancel₀ x hUnit.ne']
    rw [hScaled, abs_mul, abs_of_pos hUnit]
    calc |(roundHalfEven (x / floatUnit x) : ℚ) - x / floatUnit x| * floatUnit x
        ≤ 1 / 2 * floatUnit x := mul_le_mul_of_nonneg_right hError hUnit.le
      _ = floatUnit x / 2 := by ring

/-- Below 2 ^ 53 the distance of the floats divides one. -/
theorem exists_floatUnit_mul {x : ℚ} (hLog : Int.log 2 |x| ≤ 52) :
    ∃ k : Nat, floatUnit x * 2 ^ k = 1 := by
  obtain ⟨k, hk⟩ : ∃ k : Nat, (k : ℤ) = 52 - Int.log 2 |x| :=
    ⟨(52 - Int.log 2 |x|).toNat, Int.toNat_of_nonneg (by omega)⟩
  have hExponent : Int.log 2 |x| - 52 = -(k : ℤ) := by omega
  refine ⟨k, ?_⟩
  rw [floatUnit, hExponent, zpow_neg, zpow_natCast]
  exact inv_mul_cancel₀ (by positivity)

/-- Integers below 2 ^ 53 are floats. -/
theorem nearestFloat_intCast {n : ℤ} (h : |n| < 2 ^ 53) : nearestFloat n = n := by
  by_cases hZero : n = 0
  · rw [hZero, Int.cast_zero, nearestFloat, if_pos rfl]
  · have hx : (n : ℚ) ≠ 0 := Int.cast_ne_zero.mpr hZero
    have hLess : |(n : ℚ)| < ((2 : ℕ) : ℚ) ^ (53 : ℤ) := by
      have hCast : ((|n| : ℤ) : ℚ) < ((2 ^ 53 : ℤ) : ℚ) := Int.cast_lt.mpr h
      rw [Int.cast_abs] at hCast
      exact_mod_cast hCast
    have hLog : Int.log 2 |(n : ℚ)| ≤ 52 := by
      have hLogLess := (Int.lt_zpow_iff_log_lt (by decide) (abs_pos.mpr hx)).mp hLess
      omega
    -- up to 53 bits the unit is at most one, so an integer is a whole number of units
    obtain ⟨k, hInverse⟩ := exists_floatUnit_mul hLog
    have hWhole : (n : ℚ) / floatUnit n = ((n * 2 ^ k : ℤ) : ℚ) := by
      rw [div_eq_iff (floatUnit_pos _).ne']
      push_cast
      rw [mul_assoc, mul_comm (2 ^ k), hInverse, mul_one]
    rw [nearestFloat, if_neg hx, hWhole, roundHalfEven_intCast, ← hWhole,
      div_mul_cancel₀ _ (floatUnit_pos _).ne']

/-- Below 2 ^ 53 the floats hold the integers. -/
theorem nearestFloat_le {x : ℚ} {n : ℤ} (hx : x ≠ 0) (hLog : Int.log 2 |x| ≤ 52) (h : x ≤ n) :
    nearestFloat x ≤ n := by
  have hUnit := floatUnit_pos x
  obtain ⟨k, hInverse⟩ := exists_floatUnit_mul hLog
  -- the integer above is a whole number of units as well
  have hWhole : x / floatUnit x ≤ ((n * 2 ^ k : ℤ) : ℚ) := by
    rw [div_le_iff₀ hUnit]
    push_cast
    calc x ≤ n := h
      _ = n * (floatUnit x * 2 ^ k) := by rw [hInverse, mul_one]
      _ = n * 2 ^ k * floatUnit x := by ring
  have hRound : (roundHalfEven (x / floatUnit x) : ℚ) ≤ ((n * 2 ^ k : ℤ) : ℚ) := by
    exact_mod_cast roundHalfEven_le hWhole
  rw [nearestFloat, if_neg hx]
  calc (roundHalfEven (x / floatUnit x) : ℚ) * floatUnit x
      ≤ ((n * 2 ^ k : ℤ) : ℚ) * floatUnit x := mul_le_mul_of_nonneg_right hRound hUnit.le
    _ = n * (floatUnit x * 2 ^ k) := by push_cast; ring
    _ = n := by rw [hInverse, mul_one]

/-- A whole number of seconds is exact. -/
theorem totalSeconds_whole {n : ℤ} (h : |n| < 2 ^ 53) : totalSeconds (n * 1000000) = n := by
  have hQuotient : ((n * 1000000 : ℤ) : ℚ) / 1000000 = n := by
    push_cast
    exact mul_div_cancel_right₀ _ (by norm_num)
  rw [totalSeconds, hQuotient, nearestFloat_intCast h]

/-- **Rounding up.** A number that is farther above an integer than half the distance of the floats
is rounded up as its float is. -/
theorem ceil_nearestFloat {x : ℚ} (hx : x ≠ 0) (hLog : Int.log 2 |x| ≤ 52)
    (hGap : floatUnit x / 2 < x - (⌈x⌉ - 1)) : ⌈nearestFloat x⌉ = ⌈x⌉ := by
  have hError := (abs_le.mp (abs_nearestFloat_sub_le x)).1
  rw [Int.ceil_eq_iff]
  refine ⟨?_, nearestFloat_le hx hLog (Int.le_ceil x)⟩
  linarith

end Text
