import AgentKit.Binary64.Basic
import AgentKit.Decimal
/-!
# The shortest decimal that identifies a number

A decimal identifies a binary64 number when it lies among the reals that round to it: from the
midpoint with the number below to the midpoint with the number above, the ends included exactly
when the pattern is even. Among those decimals the printed one is a multiple of the coarsest power
of ten that has any, and of the two neighbouring multiples the nearer one.

All quantities are multiples of the least unit divided by 10³²⁴, so that the finest power of ten
considered, 10⁻³²⁴, and the unit itself are both whole.
-/
namespace AgentKit.Binary64

/-- The count of decimal places of the finest grid. It lies below the least unit. -/
def finestPlaces : Nat := 324

/-- The reals that round to a number, with the number itself. Ends are doubled, as they are
midpoints. -/
structure RoundingInterval where
  value : Nat
  doubledLow : Nat
  doubledHigh : Nat
  closed : Bool

/-- The interval of a positive pattern. -/
def roundingInterval (pattern : Nat) : RoundingInterval where
  value := units pattern * Nat.pow 10 finestPlaces
  doubledLow := (units (pattern - 1) + units pattern) * Nat.pow 10 finestPlaces
  doubledHigh := (units pattern + units (pattern + 1)) * Nat.pow 10 finestPlaces
  closed := pattern % 2 == 0

namespace RoundingInterval

/-- A point of the interval. -/
def contains (interval : RoundingInterval) (point : Nat) : Bool :=
  if interval.closed then
    interval.doubledLow ≤ 2 * point && 2 * point ≤ interval.doubledHigh
  else
    interval.doubledLow < 2 * point && 2 * point < interval.doubledHigh

/-- The multiple of a step that lies in the interval next to the value, if one of the two
neighbouring multiples does. Of two the nearer is taken, and the even one when both are equally
near. Zero is no candidate. -/
def multiple? (interval : RoundingInterval) (step : Nat) : Option Nat :=
  let below := interval.value / step
  let above := below + 1
  let takesBelow := below != 0 && interval.contains (below * step)
  let takesAbove := interval.contains (above * step)
  if takesBelow && takesAbove then
    let middle := (below + above) * step
    if 2 * interval.value < middle then some below
    else if middle < 2 * interval.value then some above
    else if below % 2 = 0 then some below
    else some above
  else if takesBelow then some below
  else if takesAbove then some above
  else none

/-- Search the grids from a given one towards finer ones. The finest grid has a multiple in every
interval, since its step is smaller than the least unit. -/
def shortestFrom (interval : RoundingInterval) : Nat → Decimal
  | 0 =>
    ⟨(interval.multiple? unitsPerOne).getD (interval.value / unitsPerOne), -(finestPlaces : Int)⟩
  | index + 1 =>
    match interval.multiple? (unitsPerOne * Nat.pow 10 (index + 1)) with
    | some digits => ⟨digits, (index + 1 : Nat) - (finestPlaces : Int)⟩
    | none => interval.shortestFrom index

end RoundingInterval

/-- The shortest decimal of a positive finite pattern. No finite number reaches 10³⁰⁹, so the
search starts at that power. -/
def shortest (pattern : Nat) : Decimal :=
  (roundingInterval pattern).shortestFrom (309 + finestPlaces)

/-- The number token of a finite number: a minus sign when the sign bit is set, then the shortest
decimal, zero being written with one digit on each side of the point. -/
def text (number : Binary64) : List Char :=
  let magnitude :=
    if number.pattern = 0 then ['0', '.', '0'] else (shortest number.pattern).text
  if number.isNegative then '-' :: magnitude else magnitude

end AgentKit.Binary64
