import AgentKit.Binary64.Shortest
import AgentKit.Proofs.NearestPattern

/-!
# The printed decimal rounds back

A multiple that is taken for a rounding interval lies in the interval, and on the finest grid there
is one. So wherever the search stops, its decimal is a point of the interval, on the scale of the
grid that was reached. Divided by that scale, the ends of the interval are the midpoints around the
pattern; therefore the value of the decimal rounds to the pattern.
-/

namespace AgentKit

/-- The value of a decimal. -/
def Decimal.value (decimal : Decimal) : ℚ := decimal.digits * 10 ^ decimal.exponent

namespace Binary64

/-- A multiple that is taken lies in the interval. -/
theorem multiple?_contains {interval : RoundingInterval} {step digits : Nat}
    (found : interval.multiple? step = some digits) : interval.contains (digits * step) = true := by
  simp only [RoundingInterval.multiple?] at found
  split at found
  · rename_i both
    obtain ⟨below, above⟩ := Bool.and_eq_true_iff.mp both
    have belowInside := (Bool.and_eq_true_iff.mp below).2
    repeat' split at found
    all_goals
      cases found
      assumption
  · split at found
    · rename_i only
      cases found
      exact (Bool.and_eq_true_iff.mp only).2
    · split at found
      · rename_i only
        cases found
        exact only
      · cases found

/-- A multiple is taken when the one above the value lies in the interval. -/
theorem multiple?_of_above {interval : RoundingInterval} {step : Nat}
    (inside : interval.contains ((interval.value / step + 1) * step) = true) :
    ∃ digits, interval.multiple? step = some digits := by
  simp only [RoundingInterval.multiple?, inside, Bool.and_true, if_true]
  repeat' split
  all_goals exact ⟨_, rfl⟩

/-- Twice the step of the finest grid is less than the least unit. -/
theorem finestStep_small : 2 * unitsPerOne < Nat.pow 10 finestPlaces := by decide +kernel

/-- A point strictly between the ends is in the interval, whether or not these belong to it. -/
theorem contains_of_between {interval : RoundingInterval} {point : Nat}
    (low : interval.doubledLow < 2 * point) (high : 2 * point < interval.doubledHigh) :
    interval.contains point = true := by
  simp [RoundingInterval.contains, low, high, low.le, high.le]

/-- The finest grid has a multiple in the interval of every positive pattern. The one above the
value is less than half a unit away from it, and the midpoints are at least half a unit away. -/
theorem finest_multiple {pattern : Nat} (positive : pattern ≠ 0) :
    ∃ digits, (roundingInterval pattern).multiple? unitsPerOne = some digits := by
  have someStep : 0 < unitsPerOne := by decide +kernel
  have small := finestStep_small
  have division := Nat.div_add_mod' (roundingInterval pattern).value unitsPerOne
  have remainder := Nat.mod_lt (roundingInterval pattern).value someStep
  have low := Nat.mul_le_mul_right (Nat.pow 10 finestPlaces)
    (units_strictMono (Nat.sub_lt (Nat.pos_of_ne_zero positive) Nat.one_pos)).nat_succ_le
  have high := Nat.mul_le_mul_right (Nat.pow 10 finestPlaces)
    (units_strictMono (Nat.lt_add_one pattern)).nat_succ_le
  rw [Nat.succ_mul] at low high
  refine multiple?_of_above (contains_of_between ?_ ?_)
  all_goals
    rw [Nat.succ_mul]
    simp only [roundingInterval, Nat.add_mul] at *
    omega

/-- The decimal of a search from any grid on is a point of the interval, on the scale of the grid
that was reached. The induction is on the grids still to come. -/
theorem shortestFrom_contains {pattern : Nat} (positive : pattern ≠ 0) (index : Nat) :
    ∃ grid : Nat,
      ((roundingInterval pattern).shortestFrom index).exponent = (grid : Int) - finestPlaces ∧
      (roundingInterval pattern).contains
        (((roundingInterval pattern).shortestFrom index).digits *
          (unitsPerOne * Nat.pow 10 grid)) = true := by
  induction index with
  | zero =>
    obtain ⟨digits, found⟩ := finest_multiple positive
    refine ⟨0, ?_, ?_⟩
    · simp [RoundingInterval.shortestFrom]
    · have inside := multiple?_contains found
      simpa [RoundingInterval.shortestFrom, found] using inside
  | succ index inductionHypothesis =>
    rw [RoundingInterval.shortestFrom]
    split
    · rename_i digits found
      exact ⟨index + 1, rfl, multiple?_contains found⟩
    · exact inductionHypothesis

/-- A point of the interval lies between its ends, and strictly when the pattern is odd. -/
theorem contains_ends {pattern point : Nat}
    (inside : (roundingInterval pattern).contains point = true) :
    (roundingInterval pattern).doubledLow ≤ 2 * point ∧
      2 * point ≤ (roundingInterval pattern).doubledHigh ∧
      (pattern % 2 = 0 ∨ (roundingInterval pattern).doubledLow < 2 * point ∧
        2 * point < (roundingInterval pattern).doubledHigh) := by
  by_cases even : pattern % 2 = 0
  · have closed : (roundingInterval pattern).closed = true := beq_iff_eq.mpr even
    simp only [RoundingInterval.contains, closed, if_true, Bool.and_eq_true,
      decide_eq_true_eq] at inside
    exact ⟨inside.1, inside.2, Or.inl even⟩
  · have opened : (roundingInterval pattern).closed = false := beq_eq_false_iff_ne.mpr even
    simp only [RoundingInterval.contains, opened, Bool.false_eq_true, if_false, Bool.and_eq_true,
      decide_eq_true_eq] at inside
    exact ⟨inside.1.le, inside.2.le, Or.inr inside⟩

/-- The sum of two magnitudes, on the scale of the finest grid. -/
theorem magnitude_add (first second : Nat) : magnitude first + magnitude second =
    ((units first + units second) * Nat.pow 10 finestPlaces : Nat) /
      (2 ^ 1074 * 10 ^ finestPlaces) := by
  have ten : (10 : ℚ) ^ finestPlaces ≠ 0 := pow_ne_zero _ (by norm_num)
  rw [magnitude_eq, magnitude_eq, ← add_div, Nat.pow_eq]
  push_cast
  rw [mul_div_mul_right _ _ ten]

/-- Twice the value of a decimal, on the scale of the finest grid. -/
theorem decimal_double {decimal : Decimal} {grid : Nat}
    (exponent : decimal.exponent = (grid : Int) - finestPlaces) : 2 * decimal.value =
    (2 * (decimal.digits * (unitsPerOne * Nat.pow 10 grid)) : Nat) /
      (2 ^ 1074 * 10 ^ finestPlaces) := by
  have one : (unitsPerOne : ℚ) = 1 * 2 ^ 1074 := cast_shiftLeft 1 1074
  have two : (2 : ℚ) ^ 1074 ≠ 0 := pow_ne_zero _ two_ne_zero
  rw [Decimal.value, exponent, zpow_sub₀ (by norm_num), zpow_natCast, zpow_natCast, Nat.pow_eq]
  push_cast
  rw [one, one_mul]
  generalize (2 : ℚ) ^ 1074 = unit at *
  have order : 2 * (decimal.digits * (unit * 10 ^ grid)) =
      unit * (2 * (decimal.digits * 10 ^ grid)) := by ring
  rw [order, mul_div_mul_left _ _ two, mul_div_assoc, mul_div_assoc]

/-- The shortest decimal of a positive pattern, up to that of infinity, rounds to the pattern. -/
theorem shortest_isNearest {pattern : Nat} (positive : pattern ≠ 0)
    (bounded : pattern ≤ infinitePattern) : IsNearest (shortest pattern).value pattern := by
  obtain ⟨grid, exponent, inside⟩ := shortestFrom_contains positive (309 + finestPlaces)
  obtain ⟨low, high, strict⟩ := contains_ends inside
  have double : 2 * (shortest pattern).value = _ := decimal_double exponent
  have scale : (0 : ℚ) < 2 ^ 1074 * 10 ^ finestPlaces :=
    mul_pos (pow_pos two_pos _) (pow_pos (by norm_num) _)
  have previous : ∀ below, below + 1 = pattern → below = pattern - 1 :=
    fun below next => by omega
  refine isNearest_of_between bounded ?_ ?_ ?_
  · intro below next
    rw [double, magnitude_add, previous below next]
    exact div_le_div_of_nonneg_right (Nat.cast_le.mpr low) scale.le
  · rw [double, magnitude_add]
    exact div_le_div_of_nonneg_right (Nat.cast_le.mpr high) scale.le
  · refine strict.imp_right fun ⟨lower, upper⟩ => ⟨?_, ?_⟩
    · intro below next
      rw [double, magnitude_add, previous below next]
      exact div_lt_div_of_pos_right (Nat.cast_lt.mpr lower) scale
    · rw [double, magnitude_add]
      exact div_lt_div_of_pos_right (Nat.cast_lt.mpr upper) scale

/-- Zero rounds to the pattern zero. -/
theorem zero_isNearest : IsNearest 0 0 := by
  have zero : magnitude 0 = 0 := by simp [magnitude, patternMagnitude]
  refine ⟨Nat.zero_le _, ?_, fun _ _ _ _ => rfl⟩
  intro other _
  rw [zero, sub_zero, abs_zero]
  exact abs_nonneg _

end Binary64

end AgentKit
