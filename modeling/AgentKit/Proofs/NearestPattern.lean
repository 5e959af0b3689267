import AgentKit.Binary64.Basic
import Mathlib.Algebra.Order.Field.Rat
import Mathlib.Algebra.Order.Ring.Abs
import Mathlib.Order.Monotone.Basic
import Mathlib.Tactic.FieldSimp
import Mathlib.Tactic.Linarith
import Mathlib.Tactic.NormNum
import Mathlib.Tactic.Positivity
import Mathlib.Tactic.Ring

/-!
# The nearest pattern

The magnitude of a pattern is told by its exponent and its fraction, without reference to the least
unit: a normal number is between one and two times a power of two, and a number with the exponent
zero is a part of the least normal one. This is so for every width of the fraction, and in every
width the magnitude counts a least unit. Patterns are ordered like their magnitudes.

A value rounds to the pattern whose magnitude is nearest, and of two that are equally near to the
even one. Among the patterns up to that of infinity, which counts as the next power of two, there is
one such pattern at most. Every value between the midpoints on both sides of a pattern rounds to it,
and so do the midpoints themselves when the pattern is even.
-/

namespace AgentKit.Binary64

/-- The magnitude of a pattern with a given count of fraction bits and a given bias of the
exponent. -/
def patternMagnitude (width bias pattern : Nat) : ℚ :=
  let exponent : Nat := pattern / 2 ^ width
  let fraction : Nat := pattern % 2 ^ width
  if exponent = 0 then (fraction : ℚ) / 2 ^ width * 2 ^ (1 - (bias : ℤ))
  else (1 + (fraction : ℚ) / 2 ^ width) * 2 ^ ((exponent : ℤ) - bias)

/-- The magnitude of a binary64 pattern. -/
def magnitude (pattern : Nat) : ℚ := patternMagnitude 52 1023 pattern

/-- The count of least units of a pattern with a given count of fraction bits. -/
def patternUnits (width pattern : Nat) : Nat :=
  let exponent := pattern / 2 ^ width
  let fraction := pattern % 2 ^ width
  if exponent = 0 then fraction else (2 ^ width + fraction) * 2 ^ (exponent - 1)

/-- The magnitude of a pattern is nearest to a value, and the pattern is even when another one is as
near. -/
structure IsNearest (value : ℚ) (pattern : Nat) : Prop where
  bounded : pattern ≤ infinitePattern
  nearest : ∀ other ≤ infinitePattern, |value - magnitude pattern| ≤ |value - magnitude other|
  even : ∀ other ≤ infinitePattern, other ≠ pattern →
    |value - magnitude pattern| = |value - magnitude other| → pattern % 2 = 0

/-- A signed value rounds to a number, zero keeping its sign. -/
structure IsRounded (negative : Bool) (value : ℚ) (number : Binary64) : Prop where
  sign : number.isNegative = negative
  pattern : IsNearest value number.pattern

/-- The magnitude of a pattern counts its units. The bias is one more than the power of the least
normal number. -/
theorem patternMagnitude_eq (width power pattern : Nat) :
    patternMagnitude width (power + 1) pattern =
      patternUnits width pattern / 2 ^ (width + power) := by
  have two : (2 : ℚ) ≠ 0 := two_ne_zero
  simp only [patternMagnitude, patternUnits]
  generalize pattern % 2 ^ width = fraction
  split
  · have shift : 1 - ((power + 1 : Nat) : ℤ) = -(power : ℤ) := by
      push_cast
      ring
    rw [shift, zpow_neg, zpow_natCast, pow_add]
    field_simp
  · rename_i normal
    obtain ⟨exponent, same⟩ := Nat.exists_eq_succ_of_ne_zero normal
    have shift : ((exponent + 1 : Nat) : ℤ) - ((power + 1 : Nat) : ℤ) =
        (exponent : ℤ) - (power : ℤ) := by
      push_cast
      ring
    rw [same, Nat.succ_eq_add_one, shift, zpow_sub₀ two, zpow_natCast, zpow_natCast,
      Nat.add_sub_cancel, pow_add]
    push_cast
    field_simp

/-- A shift multiplies by a power of two. -/
theorem cast_shiftLeft (number count : Nat) :
    ((number <<< count : Nat) : ℚ) = number * 2 ^ count := by
  rw [Nat.shiftLeft_eq, Nat.cast_mul, Nat.cast_pow, Nat.cast_ofNat]

/-- The units of a binary64 pattern. -/
theorem units_eq (pattern : Nat) : units pattern = patternUnits 52 pattern := by
  have leading : leadingBit = 2 ^ 52 := rfl
  simp only [units, patternUnits, leading, Nat.shiftLeft_eq]

/-- The magnitude of a binary64 pattern counts its units. -/
theorem magnitude_eq (pattern : Nat) : magnitude pattern = units pattern / 2 ^ 1074 := by
  rw [units_eq]
  exact patternMagnitude_eq 52 1022 pattern

/-- From a pattern to the next one, the units grow by a power of two. -/
theorem units_succ (pattern : Nat) :
    units (pattern + 1) = units pattern + 2 ^ (pattern / leadingBit - 1) := by
  have leading : leadingBit = 0x10000000000000 := rfl
  simp only [units, leading, Nat.shiftLeft_eq]
  by_cases last : pattern % 0x10000000000000 = 0x10000000000000 - 1
  · -- The fraction is full: the next pattern has the next exponent and no fraction.
    have quotient : (pattern + 1) / 0x10000000000000 = pattern / 0x10000000000000 + 1 := by omega
    have remainder : (pattern + 1) % 0x10000000000000 = 0 := by omega
    rw [quotient, remainder, last, if_neg (Nat.succ_ne_zero _), Nat.add_sub_cancel]
    split
    · rename_i subnormal
      rw [subnormal]
      rfl
    · rename_i normal
      obtain ⟨exponent, same⟩ := Nat.exists_eq_succ_of_ne_zero normal
      rw [same, Nat.succ_eq_add_one, Nat.add_sub_cancel, Nat.pow_succ]
      omega
  · have quotient : (pattern + 1) / 0x10000000000000 = pattern / 0x10000000000000 := by omega
    have remainder : (pattern + 1) % 0x10000000000000 = pattern % 0x10000000000000 + 1 := by omega
    rw [quotient, remainder]
    split
    · rename_i subnormal
      rw [subnormal]
      rfl
    · ring

/-- Patterns are ordered like their units. -/
theorem units_strictMono : StrictMono units := by
  refine strictMono_nat_of_lt_succ fun pattern => ?_
  rw [units_succ]
  exact Nat.lt_add_of_pos_right (Nat.two_pow_pos _)

/-- Patterns are ordered like their magnitudes. -/
theorem magnitude_strictMono : StrictMono magnitude := by
  intro first second order
  rw [magnitude_eq, magnitude_eq]
  have less : (units first : ℚ) < units second := Nat.cast_lt.mpr (units_strictMono order)
  exact div_lt_div_of_pos_right less (pow_pos two_pos _)

/-- Of two points the first is as near to a value as the second exactly if the value is not beyond
the midpoint. -/
theorem near_iff (value near far : ℚ) :
    |value - near| ≤ |value - far| ↔ 0 ≤ (far - near) * (near + far - 2 * value) := by
  rw [← sq_le_sq, ← sub_nonneg]
  have difference : (value - far) ^ 2 - (value - near) ^ 2 =
      (far - near) * (near + far - 2 * value) := by ring
  rw [difference]

/-- Two different points are equally near to a value only around their midpoint. -/
theorem midpoint_of_near {value near far : ℚ} (different : near ≠ far)
    (same : |value - near| = |value - far|) : 2 * value = near + far := by
  rcases abs_eq_abs.mp same with equal | opposite
  · exact absurd (by linarith) different
  · linarith

/-- A value between the midpoints around a pattern rounds to the pattern. A midpoint itself counts
only for an even pattern, and below zero there is none. -/
theorem isNearest_of_between {value : ℚ} {pattern : Nat} (bounded : pattern ≤ infinitePattern)
    (low : ∀ below, below + 1 = pattern → magnitude below + magnitude pattern ≤ 2 * value)
    (high : 2 * value ≤ magnitude pattern + magnitude (pattern + 1))
    (inside : pattern % 2 = 0 ∨
      (∀ below, below + 1 = pattern → magnitude below + magnitude pattern < 2 * value) ∧
      2 * value < magnitude pattern + magnitude (pattern + 1)) :
    IsNearest value pattern := by
  refine ⟨bounded, ?_, ?_⟩
  · intro other _
    rw [near_iff]
    rcases Nat.lt_trichotomy other pattern with less | rfl | more
    · obtain ⟨below, rfl⟩ := Nat.exists_eq_succ_of_ne_zero (Nat.ne_zero_of_lt less)
      have order := magnitude_strictMono less
      have next := magnitude_strictMono.monotone (Nat.le_of_lt_succ less)
      have side := low below rfl
      exact mul_nonneg_of_nonpos_of_nonpos (by linarith) (by linarith)
    · simp
    · have order := magnitude_strictMono more
      have next := magnitude_strictMono.monotone (Nat.succ_le_of_lt more)
      exact mul_nonneg (by linarith) (by linarith)
  · intro other _ different same
    rcases inside with even | ⟨lower, upper⟩
    · exact even
    · have middle := midpoint_of_near (magnitude_strictMono.injective.ne different.symm) same
      exfalso
      rcases Nat.lt_or_gt_of_ne different with less | more
      · obtain ⟨below, rfl⟩ := Nat.exists_eq_succ_of_ne_zero (Nat.ne_zero_of_lt less)
        have next := magnitude_strictMono.monotone (Nat.le_of_lt_succ less)
        have side := lower below rfl
        linarith
      · have next := magnitude_strictMono.monotone (Nat.succ_le_of_lt more)
        linarith

/-- A pattern that a value rounds to is not below another one. Both would be even, and a pattern
between them would be nearer. -/
theorem IsNearest.not_lt {value : ℚ} {first second : Nat} (one : IsNearest value first)
    (other : IsNearest value second) : ¬ first < second := by
  intro less
  have same := le_antisymm (one.nearest second other.bounded) (other.nearest first one.bounded)
  have firstEven := one.even second other.bounded (Nat.ne_of_gt less) same
  have secondEven := other.even first one.bounded (Nat.ne_of_lt less) same.symm
  have between : first + 1 < second := by omega
  have lower := magnitude_strictMono (Nat.lt_succ_self first)
  have upper := magnitude_strictMono between
  have middle := midpoint_of_near (lower.trans upper).ne same
  have nearer := one.nearest (first + 1) (between.le.trans other.bounded)
  rw [near_iff] at nearer
  have outside : (magnitude (first + 1) - magnitude first) *
      (magnitude first + magnitude (first + 1) - 2 * value) < 0 :=
    mul_neg_of_pos_of_neg (by linarith) (by linarith)
  exact absurd nearer outside.not_ge

/-- A value rounds to one pattern at most. -/
theorem IsNearest.unique {value : ℚ} {first second : Nat} (one : IsNearest value first)
    (other : IsNearest value second) : first = second := by
  have below := one.not_lt other
  have above := other.not_lt one
  omega

/-- A number is determined by its sign and its pattern. -/
theorem eq_of_sign_pattern {first second : Binary64} (sign : first.isNegative = second.isNegative)
    (pattern : first.pattern = second.pattern) : first = second := by
  obtain ⟨firstBits⟩ := first
  obtain ⟨secondBits⟩ := second
  have low := firstBits.toNat_lt
  have high := secondBits.toNat_lt
  simp only [isNegative, Binary64.pattern, signBit] at sign pattern
  have side := decide_eq_decide.mp sign
  exact congrArg Binary64.mk (UInt64.toNat_inj.mp (by omega))

/-- A signed value rounds to one number at most. -/
theorem IsRounded.unique {negative : Bool} {value : ℚ} {first second : Binary64}
    (one : IsRounded negative value first) (other : IsRounded negative value second) :
    first = second :=
  eq_of_sign_pattern (one.sign.trans other.sign.symm) (one.pattern.unique other.pattern)

end AgentKit.Binary64
