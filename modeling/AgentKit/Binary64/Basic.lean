/-!
# Binary64 numbers as whole counts of the least unit

Every finite binary64 number is a whole multiple of 2⁻¹⁰⁷⁴. The pattern without its sign bit, read
as a natural number, orders the magnitudes; `units` gives the multiple that a pattern stands for.
Because of this one scale, neighbours, midpoints and rounding need natural numbers only. The
pattern after the largest finite one counts as the power of two that would come next, which is
where rounding to infinity begins.
-/
namespace AgentKit

/-- A binary64 number, given by its 64 bits: the sign, eleven bits of exponent, 52 of fraction. -/
structure Binary64 where
  bits : UInt64
deriving DecidableEq, Repr

namespace Binary64

/-- One, counted in least units. -/
def unitsPerOne : Nat := 1 <<< 1074

/-- The weight of the lowest bit of the exponent in a pattern. A significand of full length has this
bit in front of the fraction. -/
def leadingBit : Nat := 0x10000000000000

/-- The weight of the sign bit. -/
def signBit : Nat := 0x8000000000000000

/-- The multiple of the least unit that a pattern without sign stands for. -/
def units (pattern : Nat) : Nat :=
  let exponent := pattern / leadingBit
  let fraction := pattern % leadingBit
  if exponent = 0 then fraction else (leadingBit + fraction) <<< (exponent - 1)

/-- The largest pattern whose units do not exceed a count. The scale is the number of bits that
the count has beyond 53; below 2⁵³ the pattern is the count itself. -/
def floorPattern (count : Nat) : Nat :=
  let scale := count.log2 - 52
  scale * leadingBit + count >>> scale

/-- The pattern nearest to a ratio of counts, the even one when two are equally near. -/
def roundPattern (numerator denominator : Nat) : Nat :=
  let below := floorPattern (numerator / denominator)
  let twice := 2 * numerator
  let midpoint := (units below + units (below + 1)) * denominator
  if twice < midpoint then below
  else if midpoint < twice then below + 1
  else if below % 2 = 0 then below
  else below + 1

/-- The pattern of infinity; every larger one is no number. -/
def infinitePattern : Nat := 2047 * leadingBit

/-- The pattern without the sign bit. -/
def pattern (number : Binary64) : Nat := number.bits.toNat % signBit

/-- The sign bit. -/
def isNegative (number : Binary64) : Bool := signBit ≤ number.bits.toNat

/-- Neither an infinity nor a non-number. -/
def isFinite (number : Binary64) : Bool := number.pattern < infinitePattern

/-- The number with a given sign and pattern. -/
def ofPattern (negative : Bool) (pattern : Nat) : Binary64 :=
  ⟨.ofNat ((if negative then signBit else 0) + pattern % signBit)⟩

/-- The binary64 number equal to a binary32 one. A finite value has a pattern of its own, since
its units are a multiple of 2⁹²⁵ with at most 24 significant bits; infinities and non-numbers keep
their fraction bits. -/
def ofBinary32 (bits : UInt32) : Binary64 :=
  let magnitude := bits.toNat % 0x80000000
  let exponent := magnitude / 0x800000
  let fraction := magnitude % 0x800000
  let widened :=
    if exponent = 255 then infinitePattern + fraction <<< 29
    else if exponent = 0 then floorPattern (fraction <<< 925)
    else floorPattern ((0x800000 + fraction) <<< (exponent + 924))
  ofPattern (0x80000000 ≤ bits.toNat) widened

end Binary64

end AgentKit
