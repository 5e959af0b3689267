/-!
# Numerals

The texts of whole numbers: plain, signed, and padded with zeros to a fixed count of digits, and the
reading of such texts. Digits are those of ASCII.
-/
namespace AgentKit.Numeral

/-- The character of the last decimal digit of a number. -/
def lastDigit (number : Nat) : Char := Char.ofNat (48 + number % 10)

/-- The last `count` decimal digits of a number, zeros included. -/
def fixed : Nat → Nat → List Char
  | 0, _ => []
  | count + 1, number => fixed count (number / 10) ++ [lastDigit number]

/-- The decimal digits of a number without leading zeros. -/
def natural (number : Nat) : List Char := Nat.toDigits 10 number

/-- The decimal digits of a number, with leading zeros up to a least count. -/
def atLeast (count number : Nat) : List Char :=
  List.replicate (count - (natural number).length) '0' ++ natural number

/-- A minus sign in front of the digits of a negative number, and no sign otherwise. -/
def integer (number : Int) : List Char :=
  if number < 0 then '-' :: natural number.natAbs else natural number.toNat

/-- The value of a decimal digit. -/
def digitValue? (character : Char) : Option Nat :=
  if '0' ≤ character ∧ character ≤ '9' then some (character.toNat - 48) else none

/-- The value of a hexadecimal digit of either case. -/
def hexValue? (character : Char) : Option Nat :=
  if '0' ≤ character ∧ character ≤ '9' then some (character.toNat - 48)
  else if 'a' ≤ character ∧ character ≤ 'f' then some (character.toNat - 87)
  else if 'A' ≤ character ∧ character ≤ 'F' then some (character.toNat - 55)
  else none

/-- The number that a list of decimal digits spells after those already read. -/
def readFrom? (soFar : Nat) : List Char → Option Nat
  | [] => some soFar
  | character :: rest =>
    match digitValue? character with
    | some value => readFrom? (soFar * 10 + value) rest
    | none => none

/-- The number that digits spell, with or without a plus sign in front and with leading zeros, if
it fits into 64 bits. -/
def word? (text : List Char) : Option Nat :=
  let digits :=
    match text with
    | '+' :: rest => rest
    | other => other
  if digits.isEmpty then none
  else (readFrom? 0 digits).filter fun number => number < 0x10000000000000000

end AgentKit.Numeral
