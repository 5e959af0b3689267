import AgentKit.Binary64.Basic
/-!
# Scaling by powers of ten

A decimal token with a significand and a power of ten becomes a binary64 number by arithmetic on
such numbers: the significand is rounded once, the power of ten once, and their product or quotient
once more. Powers beyond 10³⁰⁸ have no binary64 form; a larger division is done in steps of that
power, and a larger product of anything but zero is out of range.

The results are patterns without sign; a pattern from `infinitePattern` on stands for an overflow.
-/
namespace AgentKit.Binary64

/-- The pattern nearest to a natural number. -/
def naturalPattern (number : Nat) : Nat := roundPattern (number * unitsPerOne) 1

/-- The pattern nearest to the product of two patterns. -/
def productPattern (left right : Nat) : Nat :=
  roundPattern (units left * units right) unitsPerOne

/-- The pattern nearest to the quotient of two patterns. -/
def quotientPattern (numerator denominator : Nat) : Nat :=
  roundPattern (units numerator * unitsPerOne) (units denominator)

/-- The largest power of ten with a finite pattern. -/
def largestPower : Nat := 308

/-- Scale a pattern by a power of ten, or report that the result is out of range. -/
def scalePattern? (pattern : Nat) (exponent : Int) : Option Nat :=
  if 0 ≤ exponent then
    if exponent ≤ largestPower then
      let product := productPattern pattern (naturalPattern (Nat.pow 10 exponent.toNat))
      if product < infinitePattern then some product else none
    else if pattern = 0 then some 0
    else none
  else if -largestPower ≤ exponent then
    some (quotientPattern pattern (naturalPattern (Nat.pow 10 exponent.natAbs)))
  else if pattern = 0 then some 0
  else
    scalePattern? (quotientPattern pattern (naturalPattern (Nat.pow 10 largestPower)))
      (exponent + largestPower)
termination_by exponent.natAbs
decreasing_by
  simp only [largestPower] at *
  omega

end AgentKit.Binary64
