import AgentKit.Proofs.NearestPattern

/-!
# Widening keeps the number

A binary32 number has eight bits of exponent and 23 of fraction. A count with at most 53 significant
bits has a pattern of its own, so nothing is lost when the units of a binary32 number are counted in
the smaller units of binary64. Widening therefore keeps the sign and the magnitude of every finite
number, and it makes no finite number of an infinity or a non-number.
-/

namespace AgentKit.Binary64

/-- The pattern of a binary32 number, without its sign. -/
def singlePattern (bits : UInt32) : Nat := bits.toNat % 2 ^ 31

/-- The magnitude of a binary32 number. -/
def singleMagnitude (bits : UInt32) : ℚ := patternMagnitude 23 127 (singlePattern bits)

/-- Neither an infinity nor a non-number. -/
def IsFiniteSingle (bits : UInt32) : Prop := singlePattern bits / 2 ^ 23 ≠ 255

/-- A number has the sign and the magnitude of a binary32 number, or neither of them is finite. -/
structure Widens (bits : UInt32) (number : Binary64) : Prop where
  finite : number.isFinite = true ↔ IsFiniteSingle bits
  sign : IsFiniteSingle bits → number.isNegative = decide (2 ^ 31 ≤ bits.toNat)
  magnitude : IsFiniteSingle bits → magnitude number.pattern = singleMagnitude bits

/-- Below twice the leading bit, a pattern is the count of its units. -/
theorem units_small {pattern : Nat} (small : pattern < 2 * leadingBit) :
    units pattern = pattern := by
  have leading : leadingBit = 0x10000000000000 := rfl
  simp only [units, leading] at *
  split
  · omega
  · have one : pattern / 0x10000000000000 = 1 := by omega
    rw [one, Nat.sub_self, Nat.shiftLeft_zero]
    omega

/-- The units of a pattern that is put together from a scale and a full significand. -/
theorem units_scaled {scale significand : Nat} (full : leadingBit ≤ significand)
    (fits : significand < 2 * leadingBit) :
    units (scale * leadingBit + significand) = significand <<< scale := by
  have leading : leadingBit = 0x10000000000000 := rfl
  simp only [units, leading] at *
  have quotient : (scale * 0x10000000000000 + significand) / 0x10000000000000 = scale + 1 := by
    omega
  have remainder : 0x10000000000000 + (scale * 0x10000000000000 + significand) % 0x10000000000000 =
      significand := by omega
  rw [quotient, if_neg (Nat.succ_ne_zero _), remainder, Nat.add_sub_cancel]

/-- Below twice the leading bit, a count is its own pattern. -/
theorem floorPattern_small {count : Nat} (small : count < 2 * leadingBit) :
    floorPattern count = count := by
  have short : count.log2 - 52 = 0 := by
    by_cases zero : count = 0
    · rw [zero]
      rfl
    · have bits : count.log2 < 53 := (Nat.log2_lt zero).mpr small
      omega
  simp only [floorPattern, short, Nat.zero_mul, Nat.zero_add, Nat.shiftRight_zero]

/-- The pattern of a full significand that is shifted. -/
theorem floorPattern_scaled {scale significand : Nat} (full : leadingBit ≤ significand)
    (fits : significand < 2 * leadingBit) :
    floorPattern (significand <<< scale) = scale * leadingBit + significand := by
  have some : significand <<< scale ≠ 0 := by
    rw [Nat.shiftLeft_eq]
    exact (Nat.mul_pos (Nat.lt_of_lt_of_le (by decide) full) (Nat.two_pow_pos scale)).ne'
  have bits : (significand <<< scale).log2 = 52 + scale := by
    rw [Nat.log2_eq_iff some, Nat.shiftLeft_eq, Nat.add_right_comm, Nat.pow_add, Nat.pow_add _ 53]
    exact ⟨Nat.mul_le_mul_right _ full, Nat.mul_lt_mul_of_pos_right fits (Nat.two_pow_pos scale)⟩
  simp only [floorPattern, bits, Nat.add_sub_cancel_left, Nat.shiftLeft_shiftRight]

/-- A significand that is not full is made full by a shift. -/
theorem exists_full {significand : Nat} (some : significand ≠ 0)
    (fits : significand < 2 * leadingBit) :
    ∃ lead, leadingBit ≤ significand <<< lead ∧ significand <<< lead < 2 * leadingBit := by
  have bits : significand.log2 < 53 := (Nat.log2_lt some).mpr fits
  obtain ⟨lead, sum⟩ := Nat.exists_eq_add_of_le (Nat.le_of_lt_succ bits)
  refine ⟨lead, ?_, ?_⟩
  · calc 2 ^ 52 = 2 ^ significand.log2 * 2 ^ lead := by rw [sum, Nat.pow_add]
      _ ≤ significand * 2 ^ lead := Nat.mul_le_mul_right _ (Nat.log2_self_le some)
      _ = significand <<< lead := (Nat.shiftLeft_eq _ _).symm
  · calc significand <<< lead = significand * 2 ^ lead := Nat.shiftLeft_eq _ _
      _ < 2 ^ (significand.log2 + 1) * 2 ^ lead :=
        Nat.mul_lt_mul_of_pos_right Nat.lt_log2_self (Nat.two_pow_pos lead)
      _ = 2 ^ 53 := by rw [← Nat.pow_add, Nat.add_right_comm, ← sum]

/-- A count with at most 53 significant bits has a pattern of its own. Either the shift makes the
significand full, and what is left of it is a scale, or the count is small itself. -/
theorem units_floorPattern {significand : Nat} (fits : significand < 2 * leadingBit)
    (shift : Nat) : units (floorPattern (significand <<< shift)) = significand <<< shift := by
  by_cases zero : significand = 0
  · rw [zero, Nat.zero_shiftLeft]
    rfl
  · obtain ⟨lead, full, whole⟩ := exists_full zero fits
    rcases Nat.le_total lead shift with enough | short
    · obtain ⟨scale, rfl⟩ := Nat.exists_eq_add_of_le enough
      rw [Nat.shiftLeft_add, floorPattern_scaled full whole, units_scaled full whole]
    · have small : significand <<< shift < 2 * leadingBit := by
        refine Nat.lt_of_le_of_lt ?_ whole
        rw [Nat.shiftLeft_eq, Nat.shiftLeft_eq]
        exact Nat.mul_le_mul_left _ (Nat.pow_le_pow_right two_pos short)
      rw [floorPattern_small small, units_small small]

/-- A smaller number that is shifted less stays smaller. -/
theorem shiftLeft_lt {small large less more : Nat} (order : small < large) (near : less ≤ more) :
    small <<< less < large <<< more := by
  rw [Nat.shiftLeft_eq, Nat.shiftLeft_eq]
  exact Nat.mul_lt_mul_of_lt_of_le order (Nat.pow_le_pow_right two_pos near) (Nat.two_pow_pos _)

/-- The pattern of a number that is put together from its sign and its pattern. -/
theorem pattern_ofPattern (negative : Bool) {pattern : Nat} (fits : pattern < signBit) :
    (ofPattern negative pattern).pattern = pattern := by
  simp only [ofPattern, Binary64.pattern, signBit, UInt64.toNat_ofNat'] at *
  split <;> omega

/-- The sign of a number that is put together from its sign and its pattern. -/
theorem isNegative_ofPattern (negative : Bool) (pattern : Nat) :
    (ofPattern negative pattern).isNegative = negative := by
  cases negative <;>
    · simp [ofPattern, isNegative, signBit, UInt64.toNat_ofNat']
      omega

/-- A finite binary32 number is widened to a pattern of its units, which are counted in the smaller
unit. Their significant bits are few, and they are far from infinity. -/
theorem ofBinary32_eq {bits : UInt32} (finite : IsFiniteSingle bits) :
    ∃ significand shift, significand < 2 ^ 24 ∧ shift ≤ 1178 ∧
      significand <<< shift = patternUnits 23 (singlePattern bits) <<< 925 ∧
      ofBinary32 bits =
        ofPattern (decide (2 ^ 31 ≤ bits.toNat)) (floorPattern (significand <<< shift)) := by
  have half : 2 ^ 31 = 0x80000000 := rfl
  have leading : 2 ^ 23 = 0x800000 := rfl
  have width := bits.toNat_lt
  simp only [IsFiniteSingle, ofBinary32, patternUnits, singlePattern, half, leading] at finite ⊢
  rw [if_neg finite]
  by_cases subnormal : bits.toNat % 0x80000000 / 0x800000 = 0
  · rw [if_pos subnormal, if_pos subnormal]
    exact ⟨_, 925, by omega, by omega, rfl, rfl⟩
  · rw [if_neg subnormal, if_neg subnormal]
    obtain ⟨exponent, same⟩ := Nat.exists_eq_succ_of_ne_zero subnormal
    refine ⟨_, _, ?_, ?_, ?_, rfl⟩
    · omega
    · omega
    · rw [same, Nat.succ_eq_add_one, Nat.add_sub_cancel, ← Nat.shiftLeft_eq, ← Nat.shiftLeft_add]

/-- A finite binary32 number is widened to a finite one with its sign and its magnitude. -/
theorem ofBinary32_finite {bits : UInt32} (finite : IsFiniteSingle bits) :
    (ofBinary32 bits).isFinite = true ∧
      (ofBinary32 bits).isNegative = decide (2 ^ 31 ≤ bits.toNat) ∧
      magnitude (ofBinary32 bits).pattern = singleMagnitude bits := by
  obtain ⟨significand, shift, few, near, same, shape⟩ := ofBinary32_eq finite
  have counted := units_floorPattern (few.trans (by decide)) shift
  have infinite := @units_scaled 2046 leadingBit le_rfl (by decide)
  have bounded : floorPattern (significand <<< shift) < infinitePattern := by
    have less : significand <<< shift < leadingBit <<< 2046 :=
      shiftLeft_lt (few.trans (by decide)) (near.trans (by decide))
    exact units_strictMono.lt_iff_lt.mp (counted.trans_lt (less.trans_eq infinite.symm))
  have fits : floorPattern (significand <<< shift) < signBit := bounded.trans (by decide)
  rw [isFinite, shape, pattern_ofPattern _ fits, isNegative_ofPattern]
  refine ⟨decide_eq_true bounded, rfl, ?_⟩
  rw [magnitude_eq, counted, same, cast_shiftLeft]
  have parts : (2 : ℚ) ^ 1074 = 2 ^ (23 + 126) * 2 ^ 925 := by rw [← pow_add]
  rw [parts, mul_div_mul_right _ _ (pow_ne_zero _ two_ne_zero)]
  exact (patternMagnitude_eq 23 126 _).symm

/-- An infinity or a non-number of binary32 is widened to none that is finite. -/
theorem ofBinary32_infinite {bits : UInt32} (infinite : ¬ IsFiniteSingle bits) :
    (ofBinary32 bits).isFinite = false := by
  have half : 2 ^ 31 = 0x80000000 := rfl
  have leading : 2 ^ 23 = 0x800000 := rfl
  simp only [IsFiniteSingle, singlePattern, half, leading, not_not] at infinite
  have fits : infinitePattern + (bits.toNat % 0x80000000 % 0x800000) <<< 29 < signBit := by
    simp only [infinitePattern, leadingBit, signBit, Nat.shiftLeft_eq]
    omega
  simp only [ofBinary32, infinite, if_true, isFinite, pattern_ofPattern _ fits]
  exact decide_eq_false (Nat.not_lt.mpr (Nat.le_add_right _ _))

/-- Widening keeps what a number is. -/
theorem ofBinary32_widens (bits : UInt32) : Widens bits (ofBinary32 bits) := by
  refine ⟨⟨?_, fun finite => (ofBinary32_finite finite).1⟩,
    fun finite => (ofBinary32_finite finite).2.1, fun finite => (ofBinary32_finite finite).2.2⟩
  intro finite
  by_contra infinite
  exact absurd finite (by simp [ofBinary32_infinite infinite])

end AgentKit.Binary64
