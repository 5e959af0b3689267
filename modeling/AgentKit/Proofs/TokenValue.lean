import AgentKit.Proofs.NumberToken
import AgentKit.Proofs.ShortestDecimal
import Mathlib.Data.List.TakeWhile

/-!
# The exact value of a number token

The value of a token is a rational number and is read off its characters alone: the digits on both
sides of the point are one natural number, every digit behind the point divides it by ten, and the
exponent multiplies by a power of ten. The sign is kept apart, since zero has one too.

Whichever of the four layouts a decimal takes, its text has the value of the decimal, and it has a
point or an exponent. The text of an integer has neither, and its value is the integer.
-/

namespace AgentKit

namespace Json

/-- A text cut at the first mark, without the mark. -/
def cutAt (isMark : Char → Bool) (text : List Char) : List Char × List Char :=
  (text.takeWhile fun character => !isMark character,
    (text.dropWhile fun character => !isMark character).drop 1)

/-- The point between the whole part and the fraction. -/
def isPoint (character : Char) : Bool := character == '.'

/-- A mark in front of the exponent. -/
def isPowerMark (character : Char) : Bool := character == 'e' || character == 'E'

/-- The value of digits with a point among them. -/
def significandValue (text : List Char) : ℚ :=
  let (whole, fraction) := cutAt isPoint text
  (Nat.ofDigitChars 10 (whole ++ fraction) 0 : ℚ) / 10 ^ fraction.length

/-- The value of an exponent without its mark. An exponent that is missing is zero. -/
def exponentValue : List Char → ℤ
  | '-' :: digits => -(Nat.ofDigitChars 10 digits 0 : ℤ)
  | '+' :: digits => Nat.ofDigitChars 10 digits 0
  | digits => Nat.ofDigitChars 10 digits 0

/-- The value of a token without its sign. -/
def unsignedValue (text : List Char) : ℚ :=
  let (significand, exponent) := cutAt isPowerMark text
  significandValue significand * 10 ^ exponentValue exponent

/-- Whether a token has a minus sign, and the value behind the sign. -/
def signedValue : List Char → Bool × ℚ
  | '-' :: text => (true, unsignedValue text)
  | text => (false, unsignedValue text)

/-- A token that has a point or an exponent. -/
def IsMarked (token : List Char) : Prop := '.' ∈ token ∨ 'e' ∈ token

/-- A text without marks is not cut. -/
theorem cutAt_none {isMark : Char → Bool} {text : List Char}
    (plain : ∀ character ∈ text, isMark character = false) : cutAt isMark text = (text, []) := by
  have kept : ∀ character ∈ text, (!isMark character) = true :=
    fun character member => by rw [plain character member]; rfl
  rw [cutAt, List.takeWhile_eq_self_iff.mpr kept, List.dropWhile_eq_nil_iff.mpr kept, List.drop_nil]

/-- A text is cut at its first mark. -/
theorem cutAt_mark {isMark : Char → Bool} {front back : List Char} {mark : Char}
    (plain : ∀ character ∈ front, isMark character = false) (marked : isMark mark = true) :
    cutAt isMark (front ++ mark :: back) = (front, back) := by
  have kept : ∀ character ∈ front, (!isMark character) = true :=
    fun character member => by rw [plain character member]; rfl
  rw [cutAt, List.takeWhile_append_of_pos kept, List.dropWhile_append_of_pos kept]
  simp [marked]

/-- A digit is no mark. -/
theorem digit_unmarked {character : Char} (digit : character.isDigit) :
    isPoint character = false ∧ isPowerMark character = false := by
  have different : ∀ mark : Char, mark.isDigit = false → character ≠ mark := by
    rintro mark other rfl
    exact absurd digit (by rw [other]; decide)
  simp [isPoint, isPowerMark, different '.' rfl, different 'e' rfl, different 'E' rfl]

/-- The value of digits. -/
theorem significandValue_digits {digits : List Char}
    (valid : ∀ character ∈ digits, character.isDigit) :
    significandValue digits = Nat.ofDigitChars 10 digits 0 := by
  have cut := cutAt_none fun character member => (digit_unmarked (valid character member)).1
  simp [significandValue, cut]

/-- The value of digits around a point. -/
theorem significandValue_point {whole fraction : List Char}
    (valid : ∀ character ∈ whole, character.isDigit) :
    significandValue (whole ++ '.' :: fraction) =
      (Nat.ofDigitChars 10 (whole ++ fraction) 0 : ℚ) / 10 ^ fraction.length := by
  have cut : cutAt isPoint (whole ++ '.' :: fraction) = (whole, fraction) :=
    cutAt_mark (fun character member => (digit_unmarked (valid character member)).1) rfl
  simp [significandValue, cut]

/-- Without an exponent, the value is that of the significand. -/
theorem unsignedValue_plain {text : List Char}
    (plain : ∀ character ∈ text, isPowerMark character = false) :
    unsignedValue text = significandValue text := by
  simp [unsignedValue, cutAt_none plain, exponentValue]

/-- Digits around a point hold no mark of an exponent. -/
theorem point_unpowered {whole fraction : List Char}
    (first : ∀ character ∈ whole, character.isDigit)
    (second : ∀ character ∈ fraction, character.isDigit) :
    ∀ character ∈ whole ++ '.' :: fraction, isPowerMark character = false := by
  refine List.forall_mem_append.mpr ⟨?_, List.forall_mem_cons.mpr ⟨rfl, ?_⟩⟩
  · exact fun character member => (digit_unmarked (first character member)).2
  · exact fun character member => (digit_unmarked (second character member)).2

/-- The value of digits around a point, without an exponent. -/
theorem unsignedValue_point {whole fraction : List Char}
    (first : ∀ character ∈ whole, character.isDigit)
    (second : ∀ character ∈ fraction, character.isDigit) :
    unsignedValue (whole ++ '.' :: fraction) =
      (Nat.ofDigitChars 10 (whole ++ fraction) 0 : ℚ) / 10 ^ fraction.length := by
  rw [unsignedValue_plain (point_unpowered first second), significandValue_point first]

/-- An exponent behind a significand multiplies by a power of ten. -/
theorem unsignedValue_power {significand exponent : List Char}
    (plain : ∀ character ∈ significand, isPowerMark character = false) :
    unsignedValue (significand ++ 'e' :: exponent) =
      significandValue significand * 10 ^ exponentValue exponent := by
  have cut : cutAt isPowerMark (significand ++ 'e' :: exponent) = (significand, exponent) :=
    cutAt_mark plain rfl
  simp only [unsignedValue, cut]

/-- The value of a signed exponent. -/
theorem exponentValue_signed (power : Int) :
    exponentValue ((if power < 0 then '-' else '+') :: Numeral.natural power.natAbs) = power := by
  have value : Nat.ofDigitChars 10 (Numeral.natural power.natAbs) 0 = power.natAbs :=
    Nat.ofDigitChars_ten_toDigits
  split
  · rw [exponentValue, value]
    omega
  · rw [exponentValue, value]
    omega

/-- The sign and the value of a text that starts with a digit. -/
theorem signedValue_unsigned {text : List Char} (valid : IsUnsigned text) :
    signedValue text = (false, unsignedValue text) := by
  obtain ⟨leading, later, rfl, digit⟩ := valid.front
  have positive : leading ≠ '-' := by
    rintro rfl
    exact absurd digit (by decide)
  rw [signedValue]
  rintro text same
  exact positive (List.cons.inj same).1

/-- Digits are their own value. -/
theorem unsignedValue_natural (number : Nat) : unsignedValue (Numeral.natural number) = number := by
  have digits := (natural_isWhole number).1.2
  have value : Nat.ofDigitChars 10 (Numeral.natural number) 0 = number :=
    Nat.ofDigitChars_ten_toDigits
  rw [unsignedValue_plain fun character member => (digit_unmarked (digits character member)).2,
    significandValue_digits digits, value]

/-- The text of an integer has its sign and its absolute value. -/
theorem signedValue_integer (number : Int) :
    signedValue (Numeral.integer number) = (decide (number < 0), (number.natAbs : ℚ)) := by
  rw [Numeral.integer]
  split
  · rename_i negative
    rw [signedValue, unsignedValue_natural, decide_eq_true negative]
  · rename_i positive
    have same : number.toNat = number.natAbs := by omega
    rw [signedValue_unsigned (natural_isWhole _).isUnsigned, unsignedValue_natural, same,
      decide_eq_false positive]

/-- The text of an integer has neither a point nor an exponent. -/
theorem integer_unmarked (number : Int) : ¬ IsMarked (Numeral.integer number) := by
  have plain : ∀ value : Nat, ¬ IsMarked (Numeral.natural value) := by
    intro value marked
    have digits := (natural_isWhole value).1.2
    rcases marked with point | power
    · exact absurd (digits '.' point) (by decide)
    · exact absurd (digits 'e' power) (by decide)
  rw [Numeral.integer]
  split
  · rintro (point | power)
    · exact plain _ (Or.inl ((List.mem_cons.mp point).resolve_left (by decide)))
    · exact plain _ (Or.inr ((List.mem_cons.mp power).resolve_left (by decide)))
  · exact plain _

end Json

namespace Decimal

open Json

/-- The value of digits in front of a point, and zeros after them. -/
theorem value_zeros_behind {digits : List Char} (valid : ∀ character ∈ digits, character.isDigit)
    (count : Nat) : unsignedValue (digits ++ List.replicate count '0' ++ ['.', '0']) =
      Nat.ofDigitChars 10 digits 0 * 10 ^ (count : ℤ) := by
  have whole : ∀ character ∈ digits ++ List.replicate count '0', character.isDigit :=
    List.forall_mem_append.mpr ⟨valid, zeros_digits count⟩
  have zero : ∀ character ∈ ['0'], character.isDigit := zeros_digits 1
  rw [unsignedValue_point whole zero, List.append_assoc, ← List.replicate_succ',
    Nat.ofDigitChars_append, Nat.ofDigitChars_replicate_zero, zpow_natCast]
  push_cast
  rw [List.length_singleton, pow_succ, pow_one]
  field_simp

/-- The value of digits with a point among them. -/
theorem value_point_inside {digits : List Char} (valid : ∀ character ∈ digits, character.isDigit)
    (cut : Nat) : unsignedValue (digits.take cut ++ '.' :: digits.drop cut) =
      Nat.ofDigitChars 10 digits 0 * 10 ^ (-((digits.length - cut : Nat) : ℤ)) := by
  rw [unsignedValue_point (fun character member => valid character (List.mem_of_mem_take member))
      (fun character member => valid character (List.mem_of_mem_drop member)),
    List.take_append_drop, List.length_drop, zpow_neg, zpow_natCast, div_eq_mul_inv]

/-- The value of digits behind a point, and zeros in front of them. -/
theorem value_zeros_in_front {digits : List Char} (valid : ∀ character ∈ digits, character.isDigit)
    (count : Nat) : unsignedValue ('0' :: '.' :: List.replicate count '0' ++ digits) =
      Nat.ofDigitChars 10 digits 0 * 10 ^ (-((count + digits.length : Nat) : ℤ)) := by
  have fraction : ∀ character ∈ List.replicate count '0' ++ digits, character.isDigit :=
    List.forall_mem_append.mpr ⟨zeros_digits count, valid⟩
  have zero : ∀ character ∈ ['0'], character.isDigit := zeros_digits 1
  have point := unsignedValue_point zero fraction
  have zeros : ['0'] ++ List.replicate count '0' = List.replicate (count + 1) '0' := rfl
  rw [← List.append_assoc, zeros, Nat.ofDigitChars_append, Nat.ofDigitChars_replicate_zero,
    Nat.mul_zero, List.length_append, List.length_replicate] at point
  rw [zpow_neg, zpow_natCast, ← div_eq_mul_inv]
  exact point

/-- The digits of a number with a point behind the first one, if there are others. -/
def significand : List Char → List Char
  | first :: second :: rest => first :: '.' :: second :: rest
  | single => single

/-- The value of digits with a point behind the first one, and an exponent. -/
theorem value_scientific {digits : List Char} (valid : IsDigits digits) (power : Int) :
    unsignedValue (significand digits ++
        'e' :: (if power < 0 then '-' else '+') :: Numeral.natural power.natAbs) =
      Nat.ofDigitChars 10 digits 0 * 10 ^ (power - (digits.length - 1 : Nat)) := by
  obtain ⟨some, every⟩ := valid
  have ten : (10 : ℚ) ≠ 0 := by norm_num
  rcases digits with _ | ⟨first, _ | ⟨second, rest⟩⟩
  · exact absurd rfl some
  · have shape : significand [first] = [first] := rfl
    rw [shape, unsignedValue_power fun character member =>
        (digit_unmarked (every character member)).2,
      exponentValue_signed, significandValue_digits every]
    simp
  · have parts : ∀ character ∈ [first] ++ second :: rest, character.isDigit := every
    obtain ⟨front, behind⟩ := List.forall_mem_append.mp parts
    have plain := point_unpowered front behind
    have shape : significand (first :: second :: rest) = [first] ++ '.' :: second :: rest := rfl
    rw [shape, unsignedValue_power plain, exponentValue_signed, significandValue_point front,
      zpow_sub₀ ten, zpow_natCast]
    simp only [List.cons_append, List.nil_append, List.length_cons, Nat.add_sub_cancel]
    ring

/-- The text of a decimal has the value of the decimal, in each of its four layouts. -/
theorem unsignedValue_text (decimal : Decimal) : unsignedValue decimal.text = decimal.value := by
  have valid := (natural_isWhole decimal.digits).1
  have value : Nat.ofDigitChars 10 (Numeral.natural decimal.digits) 0 = decimal.digits :=
    Nat.ofDigitChars_ten_toDigits
  have long := List.length_pos_iff.mpr valid.1
  simp only [text, Decimal.value]
  generalize Numeral.natural decimal.digits = digits at *
  rw [← value]
  split
  · rw [value_zeros_behind valid.2]
    congr 2
    omega
  · split
    · rw [value_point_inside valid.2]
      congr 2
      omega
    · split
      · rw [value_zeros_in_front valid.2]
        congr 2
        omega
      · refine (value_scientific valid _).trans ?_
        congr 2
        omega

/-- The text of a decimal has a point or an exponent. -/
theorem text_marked (decimal : Decimal) : IsMarked decimal.text := by
  simp only [text]
  split
  · exact Or.inl (by simp)
  · split
    · exact Or.inl (by simp)
    · split
      · exact Or.inl (by simp)
      · exact Or.inr (by simp)

end Decimal

end AgentKit
