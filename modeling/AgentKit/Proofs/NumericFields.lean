import AgentKit.Proofs.RecordText
import AgentKit.Proofs.TokenValue
import AgentKit.Proofs.WidenedNumber

/-!
# Numeric fields

A caller attaches numbers of every width to a record. Whole numbers become one of two types of 64
bits, and a binary32 number becomes a binary64 one; neither changes the number. The text of a whole
number is its plain decimal form. The text of a finite binary64 number is a token with a point or an
exponent, which no whole number is written as, and rounding the exact value of the token gives that
number back and no other. What is not finite is written as `null`.

A reader of the record finds these texts under the keys that the caller gave last values for.
-/

namespace AgentKit

/-- A whole number of one of the widths that callers use. -/
inductive Whole where
  | int8 (number : Int8)
  | int16 (number : Int16)
  | int32 (number : Int32)
  | int64 (number : Int64)
  | intSize (number : ISize)
  | uint8 (number : UInt8)
  | uint16 (number : UInt16)
  | uint32 (number : UInt32)
  | uint64 (number : UInt64)
  | uintSize (number : USize)

namespace Whole

/-- The number itself. -/
def toInt : Whole → Int
  | .int8 number => number.toInt
  | .int16 number => number.toInt
  | .int32 number => number.toInt
  | .int64 number => number.toInt
  | .intSize number => number.toInt
  | .uint8 number => number.toNat
  | .uint16 number => number.toNat
  | .uint32 number => number.toNat
  | .uint64 number => number.toNat
  | .uintSize number => number.toNat

/-- The value that a record carries: signed numbers stay signed. -/
def value : Whole → Value
  | .int8 number => .int number.toInt64
  | .int16 number => .int number.toInt64
  | .int32 number => .int number.toInt64
  | .int64 number => .int number
  | .intSize number => .int number.toInt64
  | .uint8 number => .uint number.toUInt64
  | .uint16 number => .uint number.toUInt64
  | .uint32 number => .uint number.toUInt64
  | .uint64 number => .uint number
  | .uintSize number => .uint number.toUInt64

end Whole

/-- A text is the plain decimal form of an integer: digits without leading zeros, behind a minus
sign when the integer is negative. It has the value of the integer and is read as it. -/
structure SpellsInteger (text : List Char) (number : Int) : Prop where
  plain : ∃ digits, Json.IsWhole digits ∧ text = if number < 0 then '-' :: digits else digits
  exact : Json.signedValue text = (decide (number < 0), (number.natAbs : ℚ))
  read : Json.tokenInteger? text = some number

/-- A text is a number token that only one binary64 number rounds from, and the text of no whole
number. -/
structure SpellsFloat (text : List Char) (number : Binary64) : Prop where
  token : Json.IsNumber text
  marked : Json.IsMarked text
  apart : ∀ whole : Whole, text ≠ whole.value.text
  rounded : ∀ other : Binary64,
    Binary64.IsRounded (Json.signedValue text).1 (Json.signedValue text).2 other ↔ other = number

/-- The text of a natural number is that of the same integer. -/
theorem Numeral.integer_natural (number : Nat) :
    Numeral.integer number = Numeral.natural number := by
  rw [Numeral.integer, if_neg (by omega), Int.toNat_natCast]

namespace Whole

/-- The text of a whole number is that of the integer, which fits into 64 bits. -/
theorem text_eq (whole : Whole) : whole.value.text = Numeral.integer whole.toInt ∧
    -0x8000000000000000 ≤ whole.toInt ∧ whole.toInt < 0x10000000000000000 := by
  have signed : ∀ number : Int64, (Value.int number).text = Numeral.integer number.toInt ∧
      -0x8000000000000000 ≤ number.toInt ∧ number.toInt < 0x10000000000000000 := by
    intro number
    have low := number.le_toInt
    have high := number.toInt_lt
    exact ⟨rfl, by omega, by omega⟩
  have unsigned : ∀ number : UInt64, (Value.uint number).text = Numeral.integer number.toNat ∧
      -0x8000000000000000 ≤ (number.toNat : Int) ∧
      (number.toNat : Int) < 0x10000000000000000 := by
    intro number
    have high := number.toNat_lt
    exact ⟨(Numeral.integer_natural _).symm, by omega, by omega⟩
  cases whole with
  | int8 number => simpa only [value, toInt, Int8.toInt_toInt64] using signed number.toInt64
  | int16 number => simpa only [value, toInt, Int16.toInt_toInt64] using signed number.toInt64
  | int32 number => simpa only [value, toInt, Int32.toInt_toInt64] using signed number.toInt64
  | int64 number => exact signed number
  | intSize number => simpa only [value, toInt, ISize.toInt_toInt64] using signed number.toInt64
  | uint8 number => simpa only [value, toInt, UInt8.toNat_toUInt64] using unsigned number.toUInt64
  | uint16 number =>
    simpa only [value, toInt, UInt16.toNat_toUInt64] using unsigned number.toUInt64
  | uint32 number =>
    simpa only [value, toInt, UInt32.toNat_toUInt64] using unsigned number.toUInt64
  | uint64 number => exact unsigned number
  | uintSize number =>
    simpa only [value, toInt, USize.toNat_toUInt64] using unsigned number.toUInt64

/-- The text of a whole number is its plain decimal form. -/
theorem spells (whole : Whole) : SpellsInteger whole.value.text whole.toInt := by
  obtain ⟨text, low, high⟩ := whole.text_eq
  rw [text]
  refine ⟨?_, Json.signedValue_integer _, Json.tokenInteger_integer _ low high⟩
  rw [Numeral.integer]
  split
  · exact ⟨_, Json.natural_isWhole _, rfl⟩
  · exact ⟨_, Json.natural_isWhole _, rfl⟩

end Whole

namespace Binary64

/-- Behind its sign, the text of a finite number is a token with a mark, and its value rounds to the
pattern of the number. -/
theorem magnitude_text {number : Binary64} (finite : number.isFinite = true) :
    ∃ text, Json.IsUnsigned text ∧ Json.IsMarked text ∧
      IsNearest (Json.unsignedValue text) number.pattern ∧
      number.text = if number.isNegative then '-' :: text else text := by
  have bounded : number.pattern ≤ infinitePattern := (of_decide_eq_true finite).le
  by_cases zero : number.pattern = 0
  · refine ⟨['0', '.', '0'], ?_, Or.inl (by simp), ?_, ?_⟩
    · exact Json.zeros_in_front_isUnsigned ['0'] ⟨by simp, by simp⟩ 0
    · have value : Json.unsignedValue ['0', '.', '0'] = 0 := by
        have point := Json.unsignedValue_point (Json.zeros_digits 1) (Json.zeros_digits 1)
        rw [← List.replicate_add, Nat.ofDigitChars_replicate_zero] at point
        simpa using point
      rw [value, zero]
      exact zero_isNearest
    · simp only [text, if_pos zero]
  · refine ⟨(shortest number.pattern).text, ?_, Decimal.text_marked _, ?_, ?_⟩
    · exact Json.decimal_isUnsigned _ (Json.shortestFrom_proper _ _)
    · rw [Decimal.unsignedValue_text]
      exact shortest_isNearest zero bounded
    · simp only [text, if_neg zero]

/-- The text of a finite number spells it: the sign is written apart, and of all numbers with that
sign only one has the pattern that is nearest. -/
theorem spells {number : Binary64} (finite : number.isFinite = true) :
    SpellsFloat number.text number := by
  obtain ⟨text, unsigned, marked, nearest, shape⟩ := magnitude_text finite
  have value : Json.signedValue number.text = (number.isNegative, Json.unsignedValue text) := by
    rw [shape]
    split
    · rename_i negative
      rw [Json.signedValue, negative]
    · rename_i positive
      rw [Json.signedValue_unsigned unsigned, Bool.eq_false_iff.mpr positive]
  have held : Json.IsMarked number.text := by
    rw [shape]
    split
    · exact marked.imp (List.mem_cons_of_mem _) (List.mem_cons_of_mem _)
    · exact marked
  have rounded : IsRounded number.isNegative (Json.unsignedValue text) number := ⟨rfl, nearest⟩
  refine ⟨Json.binary64_isNumber number, held, ?_, ?_⟩
  · intro whole same
    rw [same, whole.text_eq.1] at held
    exact Json.integer_unmarked _ held
  · intro other
    rw [value]
    constructor
    · exact fun alsoRounded => alsoRounded.unique rounded
    · rintro rfl
      exact rounded

/-- The least positive number needs one digit. -/
example : text ⟨1⟩ = ['5', 'e', '-', '3', '2', '4'] := by decide +kernel

end Binary64

namespace Record

/-- What a reader finds under a key is what it makes of the value of the key. -/
theorem scalar_mem {record : Record} {key : String} {value : Value}
    (given : record.value? key = some value) :
    (key, Json.scalar value) ∈ record.members.map Json.readBack := by
  have found : record.members.lookup key = some value := by
    rw [members, Fields.lookup_merge, lookup_reserved]
    exact given
  obtain ⟨front, behind, shape, _⟩ := List.lookup_eq_some_iff.mp found
  exact List.mem_map.mpr ⟨(key, value), by simp [shape], rfl⟩

/-- Numbers keep their value and their kind. Whole numbers of every width are written as themselves;
finite binary64 numbers, and finite binary32 numbers through the binary64 number with their sign and
magnitude, are written so that they alone are read back; other floating numbers are written as
`null`. A reader of a record finds these texts under their keys. -/
theorem numbers_kept :
    (∀ whole : Whole, SpellsInteger whole.value.text whole.toInt) ∧
    (∀ number : Binary64, if number.isFinite then SpellsFloat (Value.float number).text number
      else (Value.float number).text = "null".toList) ∧
    (∀ bits : UInt32, Binary64.Widens bits (.ofBinary32 bits)) ∧
    ∀ record : Record, ∃ entries,
      Json.flatMembers? (Utf8.encode record.text) = some entries ∧
      (entries.map Prod.fst).Nodup ∧
      (∀ key (whole : Whole), record.value? key = some whole.value →
        (key, .number whole.value.text) ∈ entries) ∧
      ∀ key number, record.value? key = some (.float number) →
        (key, if number.isFinite then .number (Value.float number).text else .null) ∈ entries := by
  refine ⟨Whole.spells, ?_, Binary64.ofBinary32_widens, ?_⟩
  · intro number
    rw [Value.text]
    split
    · rename_i finite
      exact Binary64.spells finite
    · rfl
  · intro record
    refine ⟨_, Json.flatMembers_text record.members, ?_, ?_, ?_⟩
    · rw [List.map_map]
      exact record.members_keys.2
    · intro key whole given
      have found := scalar_mem given
      cases whole <;> exact found
    · intro key number given
      have found := scalar_mem given
      rw [Json.scalar] at found
      by_cases finite : number.isFinite = true
      · rw [if_pos finite] at found ⊢
        rwa [Value.text, if_pos finite]
      · rwa [if_neg finite] at found ⊢

/-- A record with the least number of 64 bits, minus zero and an infinity. -/
def numeric : Record where
  level := .info
  message := "numbers"
  clock := .masked
  extras :=
    [("least", (Whole.int64 .minValue).value), ("zero", .float ⟨0x8000000000000000⟩),
      ("beyond", .float ⟨0x7FF0000000000000⟩)]

/-- All three are read from its text. -/
theorem numeric_kept :
    (numeric.value? "least" = some (Whole.int64 .minValue).value ∧
      numeric.value? "zero" = some (.float ⟨0x8000000000000000⟩) ∧
      numeric.value? "beyond" = some (.float ⟨0x7FF0000000000000⟩)) ∧
    ∃ entries, Json.flatMembers? (Utf8.encode numeric.text) = some entries ∧
      ("least", .number "-9223372036854775808".toList) ∈ entries ∧
      ("zero", .number "-0.0".toList) ∈ entries ∧ ("beyond", .null) ∈ entries := by
  have given : numeric.value? "least" = some (Whole.int64 .minValue).value ∧
      numeric.value? "zero" = some (.float ⟨0x8000000000000000⟩) ∧
      numeric.value? "beyond" = some (.float ⟨0x7FF0000000000000⟩) := by decide
  obtain ⟨entries, read, _, whole, float⟩ := numbers_kept.2.2.2 numeric
  exact ⟨given, entries, read, whole "least" _ given.1, float "zero" _ given.2.1,
    float "beyond" _ given.2.2⟩

end Record

end AgentKit
