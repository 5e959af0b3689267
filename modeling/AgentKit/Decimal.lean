import AgentKit.Text.Numeral
/-!
# Decimal numbers and their text

A decimal number is a natural number of digits with a power of ten. Its text is the token that
number fields of a record carry; the layout is fixed here and nowhere else.
-/
namespace AgentKit

/-- A decimal number: `digits` times ten to the `exponent`. -/
structure Decimal where
  digits : Nat
  exponent : Int
deriving DecidableEq, Repr

namespace Decimal

/-- Decimal text. With `e` the power of ten of the leading digit, `-5 ≤ e < 16` is written
positionally and always with a point; any other value as one digit, the remaining digits after a
point if there are any, and a signed exponent. -/
def text (decimal : Decimal) : List Char :=
  let digits := Numeral.natural decimal.digits
  let leading := (digits.length : Int) + decimal.exponent - 1
  if 0 ≤ decimal.exponent ∧ leading < 16 then
    digits ++ List.replicate decimal.exponent.toNat '0' ++ ['.', '0']
  else if 0 ≤ leading ∧ leading < 16 then
    digits.take (leading.toNat + 1) ++ '.' :: digits.drop (leading.toNat + 1)
  else if -5 ≤ leading ∧ leading < 0 then
    '0' :: '.' :: List.replicate (-leading - 1).toNat '0' ++ digits
  else
    let mantissa :=
      match digits with
      | first :: second :: rest => first :: '.' :: second :: rest
      | single => single
    let sign := if leading < 0 then '-' else '+'
    mantissa ++ 'e' :: sign :: Numeral.natural leading.natAbs

end Decimal

end AgentKit
