import AgentKit.Time.Timestamp
import AgentKit.Proofs.CalendarDate
import AgentKit.Proofs.NumberToken
/-!
# The text of a timestamp

What a reader learns from the text of a timestamp. The texts of civil times are described without
reference to the writer: a year, and behind it numbers of two digits or six between fixed marks.
Everything behind the year has one length, so a text spells one civil time at most. The text of a
timestamp spells one that is in the calendar, and the instant is found again from it, to the
microsecond.
-/
namespace AgentKit

attribute [ext] Date

/-- A date with a time of day. -/
@[ext]
structure CivilTime where
  date : Date
  hour : Nat
  minute : Nat
  second : Nat
  micros : Nat

namespace CivilTime

/-- Decimal digits spell a number. -/
structure SpellsNumber (digits : List Char) (number : Nat) : Prop where
  decimal : Json.IsDigits digits
  value : Nat.ofDigitChars 10 digits 0 = number

/-- Decimal digits of a given count spell a number. -/
structure SpellsField (count : Nat) (digits : List Char) (number : Nat) : Prop
    extends SpellsNumber digits number where
  length : digits.length = count

/-- A text spells a year: by four digits inside `0` to `9999`, and outside by a sign and at least
four digits, more of them only as the number needs. -/
inductive SpellsYear : List Char → Int → Prop where
  | plain (digits : List Char) (year : Nat) (spelled : SpellsField 4 digits year) :
      SpellsYear digits year
  | late (digits : List Char) (year : Nat) (spelled : SpellsNumber digits year)
      (beyond : 9999 < year) (least : 4 ≤ digits.length) (needed : digits.head? ≠ some '0') :
      SpellsYear ('+' :: digits) year
  | early (digits : List Char) (year : Nat) (spelled : SpellsNumber digits year)
      (before : 0 < year) (least : 4 ≤ digits.length)
      (needed : 4 < digits.length → digits.head? ≠ some '0') :
      SpellsYear ('-' :: digits) (-year)

/-- A text spells a civil time in the form `YYYY-MM-DDTHH:MM:SS.uuuuuu+00:00`. -/
inductive Spells (civil : CivilTime) : List Char → Prop where
  | parts (year month day hour minute second micros : List Char)
      (years : SpellsYear year civil.date.year)
      (months : SpellsField 2 month civil.date.month)
      (days : SpellsField 2 day civil.date.day)
      (hours : SpellsField 2 hour civil.hour)
      (minutes : SpellsField 2 minute civil.minute)
      (seconds : SpellsField 2 second civil.second)
      (fraction : SpellsField 6 micros civil.micros) :
      Spells civil (year ++ '-' :: month ++ '-' :: day ++ 'T' :: hour ++ ':' :: minute ++
        ':' :: second ++ '.' :: micros ++ "+00:00".toList)

/-- Digits spell one number. -/
theorem SpellsNumber.unique {digits : List Char} {first second : Nat}
    (one : SpellsNumber digits first) (other : SpellsNumber digits second) : first = second :=
  one.value.symm.trans other.value

/-- A text spells one year, because a sign is not a digit. -/
theorem SpellsYear.unique {text : List Char} {first second : Int} (one : SpellsYear text first)
    (other : SpellsYear text second) : first = second := by
  have noSign (sign : Char) (digits : List Char) (number : Nat) (foreign : sign.isDigit = false)
      (spelled : SpellsField 4 (sign :: digits) number) : False := by
    have digit := spelled.decimal.2 sign List.mem_cons_self
    exact absurd digit (by simp [foreign])
  cases one with
  | plain digits year spelled =>
    cases other with
    | plain digits other again => rw [spelled.unique again.toSpellsNumber]
    | late => exact (noSign '+' _ _ rfl spelled).elim
    | early => exact (noSign '-' _ _ rfl spelled).elim
  | late digits year spelled =>
    cases other with
    | plain _ other again => exact (noSign '+' _ _ rfl again).elim
    | late digits other again => rw [spelled.unique again]
  | early digits year spelled =>
    cases other with
    | plain _ other again => exact (noSign '-' _ _ rfl again).elim
    | early digits other again => rw [spelled.unique again]

/-- A field at the end of two equal texts spells one number. -/
theorem SpellsField.cancel {count : Nat} {mark : Char}
    {front otherFront digits otherDigits : List Char} {number otherNumber : Nat}
    (one : SpellsField count digits number)
    (other : SpellsField count otherDigits otherNumber)
    (same : front ++ mark :: digits = otherFront ++ mark :: otherDigits) :
    front = otherFront ∧ number = otherNumber := by
  have length : (mark :: digits).length = (mark :: otherDigits).length := by
    rw [List.length_cons, List.length_cons, one.length, other.length]
  obtain ⟨fronts, fields⟩ := List.append_inj' same length
  obtain rfl := (List.cons.inj fields).2
  exact ⟨fronts, one.unique other.toSpellsNumber⟩

/-- A text spells one civil time. -/
theorem Spells.unique {text : List Char} {civil otherCivil : CivilTime} (one : civil.Spells text)
    (other : otherCivil.Spells text) : civil = otherCivil := by
  generalize same : text = otherText at other
  obtain ⟨_, _, _, _, _, _, _, years, months, days, hours, minutes, seconds, fraction⟩ := one
  obtain ⟨_, _, _, _, _, _, _, otherYears, otherMonths, otherDays, otherHours, otherMinutes,
    otherSeconds, otherFraction⟩ := other
  -- The fields are cancelled from the last one to the first, and the year is what is left.
  obtain ⟨same, eqMicros⟩ := fraction.cancel otherFraction (List.append_cancel_right same)
  obtain ⟨same, eqSecond⟩ := seconds.cancel otherSeconds same
  obtain ⟨same, eqMinute⟩ := minutes.cancel otherMinutes same
  obtain ⟨same, eqHour⟩ := hours.cancel otherHours same
  obtain ⟨same, eqDay⟩ := days.cancel otherDays same
  obtain ⟨rfl, eqMonth⟩ := months.cancel otherMonths same
  have eqDate := Date.ext (years.unique otherYears) eqMonth eqDay
  exact CivilTime.ext eqDate eqHour eqMinute eqSecond eqMicros

/-- The characters of a civil time: digits, and the signs and marks around them. -/
def IsLetter (character : Char) : Prop :=
  character.isDigit = true ∨ character ∈ ['+', '-', 'T', ':', '.']

instance (character : Char) : Decidable (IsLetter character) := inferInstanceAs (Decidable (_ ∨ _))

/-- Digits are letters of a civil time. -/
theorem SpellsNumber.letters {digits : List Char} {number : Nat}
    (spelled : SpellsNumber digits number) : ∀ character ∈ digits, IsLetter character :=
  fun character member => .inl (spelled.decimal.2 character member)

/-- So are the characters of a year, with its sign. -/
theorem SpellsYear.letters {text : List Char} {year : Int} (spelled : SpellsYear text year) :
    ∀ character ∈ text, IsLetter character := by
  cases spelled with
  | plain _ _ spelled => exact spelled.letters
  | late _ _ spelled => exact List.forall_mem_cons.mpr ⟨.inr (by simp), spelled.letters⟩
  | early _ _ spelled => exact List.forall_mem_cons.mpr ⟨.inr (by simp), spelled.letters⟩

/-- Nothing else stands in the text of a civil time. -/
theorem Spells.letters {text : List Char} {civil : CivilTime} (spelled : civil.Spells text) :
    ∀ character ∈ text, IsLetter character := by
  obtain ⟨_, _, _, _, _, _, _, years, months, days, hours, minutes, seconds, fraction⟩ := spelled
  have mark : IsLetter '-' ∧ IsLetter 'T' ∧ IsLetter ':' ∧ IsLetter '.' := by simp [IsLetter]
  have offset : ∀ character ∈ "+00:00".toList, IsLetter character := by simp [IsLetter]
  obtain ⟨dash, between, colon, point⟩ := mark
  simp only [List.append_assoc, List.cons_append, List.forall_mem_append, List.forall_mem_cons]
  exact ⟨years.letters, dash, months.letters, dash, days.letters, between, hours.letters, colon,
    minutes.letters, colon, seconds.letters, point, fraction.letters, offset⟩

/-- The last digit of a number is a digit, with the value of the remainder. -/
theorem lastDigit_value (number : Nat) : (Numeral.lastDigit number).isDigit = true ∧
    (Numeral.lastDigit number).toNat - '0'.toNat = number % 10 := by
  have values : ∀ digit < 10, (Char.ofNat (48 + digit)).isDigit = true ∧
      (Char.ofNat (48 + digit)).toNat - '0'.toNat = digit := by decide
  exact values (number % 10) (Nat.mod_lt number (by decide))

@[simp] theorem fixed_length (count number : Nat) :
    (Numeral.fixed count number).length = count := by
  induction count generalizing number with
  | zero => rfl
  | succ count inductionHypothesis => simp [Numeral.fixed, inductionHypothesis]

theorem fixed_digit (count number : Nat) (character : Char)
    (member : character ∈ Numeral.fixed count number) : character.isDigit = true := by
  induction count generalizing number with
  | zero => simp [Numeral.fixed] at member
  | succ count inductionHypothesis =>
    rw [Numeral.fixed, List.mem_append, List.mem_singleton] at member
    rcases member with front | rfl
    · exact inductionHypothesis _ front
    · exact (lastDigit_value number).1

theorem fixed_value (count number : Nat) :
    Nat.ofDigitChars 10 (Numeral.fixed count number) 0 = number % 10 ^ count := by
  induction count generalizing number with
  | zero => simp [Numeral.fixed, Nat.mod_one]
  | succ count inductionHypothesis =>
    rw [Numeral.fixed, Nat.ofDigitChars_append, inductionHypothesis, Nat.ofDigitChars_cons,
      (lastDigit_value number).2, Nat.ofDigitChars_nil, Nat.pow_succ', Nat.mod_mul, Nat.add_comm]

/-- Digits of a fixed count spell a number that they have room for. -/
theorem fixed_spells {count number : Nat} (some : 0 < count) (fits : number < 10 ^ count) :
    SpellsField count (Numeral.fixed count number) number := by
  refine ⟨⟨⟨?_, fixed_digit count number⟩, ?_⟩, fixed_length count number⟩
  · intro none
    have length := fixed_length count number
    rw [none] at length
    exact some.ne length
  · rw [fixed_value, Nat.mod_eq_of_lt fits]

/-- Zeros in front do not change what digits spell. -/
theorem zeros_value (count : Nat) (digits : List Char) :
    Nat.ofDigitChars 10 (List.replicate count '0' ++ digits) 0 = Nat.ofDigitChars 10 digits 0 := by
  induction count with
  | zero => rfl
  | succ count inductionHypothesis =>
    rw [List.replicate_succ, List.cons_append, Nat.ofDigitChars_cons]
    exact inductionHypothesis

/-- Digits up to a least count spell the number. -/
theorem atLeast_spells (count number : Nat) :
    SpellsNumber (Numeral.atLeast count number) number := by
  obtain ⟨some, digits⟩ := (Json.natural_isWhole number).1
  refine ⟨⟨?_, ?_⟩, ?_⟩
  · intro none
    exact some (List.append_eq_nil_iff.mp none).2
  · intro character member
    rcases List.mem_append.mp member with zero | written
    · rw [List.eq_of_mem_replicate zero]
      rfl
    · exact digits character written
  · rw [Numeral.atLeast, zeros_value]
    exact Nat.ofDigitChars_ten_toDigits

theorem le_length_atLeast (count number : Nat) :
    count ≤ (Numeral.atLeast count number).length := by
  rw [Numeral.atLeast, List.length_append, List.length_replicate]
  omega

/-- More digits than the least count are those of the number itself, which does not begin with
zero. -/
theorem atLeast_needed {count number : Nat} (least : 0 < count)
    (longer : count < (Numeral.atLeast count number).length) :
    (Numeral.atLeast count number).head? ≠ some '0' := by
  rw [Numeral.atLeast, List.length_append, List.length_replicate] at longer
  have all : count - (Numeral.natural number).length = 0 := by omega
  rw [Numeral.atLeast, all, List.replicate_zero, List.nil_append]
  intro zero
  have alone := (Json.natural_isWhole number).2 zero
  rw [alone] at longer
  simp at longer
  omega

/-- A number above 9999 has more than four digits. -/
theorem four_lt_length_atLeast {number : Nat} (beyond : 9999 < number) :
    4 < (Numeral.atLeast 4 number).length := by
  have digits : ¬ (Numeral.natural number).length ≤ 4 := by
    rw [Numeral.natural, Nat.length_toDigits_le_iff (by decide) (by decide)]
    omega
  rw [Numeral.atLeast, List.length_append]
  omega

/-- The text of a year spells it. -/
theorem yearText_spells (year : Int) : SpellsYear (Timestamp.yearText year) year := by
  rw [Timestamp.yearText]
  split
  next inside =>
    obtain ⟨number, rfl⟩ := Int.eq_ofNat_of_zero_le inside.1
    exact .plain _ number (fixed_spells (by decide) (by omega))
  next outside =>
    by_cases negative : year < 0
    · obtain ⟨number, rfl⟩ := Int.exists_eq_neg_ofNat negative.le
      rw [if_pos negative, Int.natAbs_neg, Int.natAbs_natCast]
      exact .early _ number (atLeast_spells 4 number) (by omega) (le_length_atLeast 4 number)
        (atLeast_needed (by decide))
    · obtain ⟨number, rfl⟩ := Int.eq_ofNat_of_zero_le (not_lt.mp negative)
      rw [if_neg negative, Int.natAbs_natCast]
      have beyond : 9999 < number := by omega
      exact .late _ number (atLeast_spells 4 number) beyond (le_length_atLeast 4 number)
        (atLeast_needed (by decide) (four_lt_length_atLeast beyond))

/-- The seconds at a civil time since the begin of 1970. A leap second counts as the one before. -/
def toSeconds (civil : CivilTime) : Int :=
  civil.date.toDays * 86400 + civil.hour * 3600 + civil.minute * 60 + min civil.second 59

/-- A date of the calendar with a time of a day that may have a leap second. -/
structure Valid (civil : CivilTime) : Prop where
  date : civil.date.Valid
  hour : civil.hour < 24
  minute : civil.minute < 60
  second : civil.second ≤ 60

end CivilTime

namespace Timestamp

/-- The date and time of day at which an instant is. -/
structure IsAt (timestamp : Timestamp) (civil : CivilTime) : Prop where
  valid : civil.Valid
  leap : civil.second = 60 ↔ timestamp.isLeap
  seconds : civil.toSeconds = timestamp.seconds
  micros : civil.micros =
    (if timestamp.isLeap then timestamp.nanos - 1000000000 else timestamp.nanos) / 1000

/-- The civil time of an instant. -/
def civil (timestamp : Timestamp) : CivilTime :=
  ⟨timestamp.date, timestamp.secondOfDay / 3600, timestamp.secondOfDay / 60 % 60,
    timestamp.secondOfMinute, timestamp.micros⟩

theorem secondOfDay_eq (timestamp : Timestamp) :
    (timestamp.secondOfDay : Int) = timestamp.seconds % 86400 :=
  Int.toNat_of_nonneg (Int.emod_nonneg timestamp.seconds (by decide))

theorem secondOfDay_lt (timestamp : Timestamp) : timestamp.secondOfDay < 86400 := by
  have day := secondOfDay_eq timestamp
  omega

/-- A leap second stands behind the last second of a minute. -/
theorem secondOfDay_of_isLeap {timestamp : Timestamp} (leap : timestamp.isLeap) :
    timestamp.secondOfDay % 60 = 59 := by
  have long : 1000000000 ≤ timestamp.nanos := of_decide_eq_true leap
  have last : timestamp.seconds % 60 = 59 := by
    rcases timestamp.fraction with short | ⟨_, last⟩
    · omega
    · exact last
  have day := secondOfDay_eq timestamp
  omega

/-- The second of the minute is 60 in a leap second, and counts as 59 there. -/
theorem secondOfMinute_spec (timestamp : Timestamp) :
    timestamp.secondOfMinute ≤ 60 ∧ (timestamp.secondOfMinute = 60 ↔ timestamp.isLeap) ∧
      min timestamp.secondOfMinute 59 = timestamp.secondOfDay % 60 := by
  rw [secondOfMinute]
  by_cases leap : timestamp.isLeap
  · rw [secondOfDay_of_isLeap leap, if_pos leap]
    exact ⟨le_rfl, iff_of_true rfl leap, rfl⟩
  · rw [if_neg leap]
    exact ⟨by omega, iff_of_false (by omega) leap, by omega⟩

/-- The nanoseconds of a leap second are counted from its own begin. -/
theorem micros_eq (timestamp : Timestamp) : timestamp.micros =
    (if timestamp.isLeap then timestamp.nanos - 1000000000 else timestamp.nanos) / 1000 := by
  have below : timestamp.nanos < 2000000000 := by
    rcases timestamp.fraction with short | ⟨short, _⟩ <;> omega
  rw [micros]
  by_cases leap : timestamp.isLeap
  · have long : 1000000000 ≤ timestamp.nanos := of_decide_eq_true leap
    rw [if_pos leap]
    omega
  · have few : ¬ 1000000000 ≤ timestamp.nanos := fun long => leap (decide_eq_true long)
    rw [if_neg leap]
    omega

/-- An instant is at its civil time. -/
theorem isAt_civil (timestamp : Timestamp) : timestamp.IsAt timestamp.civil := by
  obtain ⟨date, days⟩ := Date.ofDays_spec (timestamp.seconds / 86400)
  obtain ⟨most, leap, second⟩ := secondOfMinute_spec timestamp
  have time := secondOfDay_eq timestamp
  have short := secondOfDay_lt timestamp
  refine ⟨⟨date, ?_, ?_, most⟩, leap, ?_, micros_eq timestamp⟩
  · dsimp only [civil]
    omega
  · dsimp only [civil]
    omega
  · dsimp only [CivilTime.toSeconds, civil]
    rw [Timestamp.date, days]
    omega

/-- The text of an instant spells its civil time. -/
theorem spells_civil (timestamp : Timestamp) : timestamp.civil.Spells timestamp.text := by
  obtain ⟨⟨date, hour, minute, second⟩, _, _, _⟩ := isAt_civil timestamp
  have day := date.day.2.trans (Date.monthLength_le _ _)
  have micros : timestamp.micros < 10 ^ 6 := by
    rw [Timestamp.micros]
    omega
  exact .parts _ _ _ _ _ _ _ (CivilTime.yearText_spells _)
    (CivilTime.fixed_spells (by decide) (date.month.2.trans_lt (by decide)))
    (CivilTime.fixed_spells (by decide) (day.trans_lt (by decide)))
    (CivilTime.fixed_spells (by decide) (hour.trans (by decide)))
    (CivilTime.fixed_spells (by decide) (minute.trans (by decide)))
    (CivilTime.fixed_spells (by decide) (second.trans_lt (by decide)))
    (CivilTime.fixed_spells (by decide) micros)

/-- The text of an instant spells its date and time of day and nothing else, and two instants have
one text only if they agree to the microsecond and in being inside a leap second. -/
theorem text_decodes (timestamp : Timestamp) :
    (∃ civil, timestamp.IsAt civil ∧
      ∀ other : CivilTime, other.Spells timestamp.text ↔ other = civil) ∧
    ∀ other : Timestamp, timestamp.text = other.text ↔
      timestamp.seconds = other.seconds ∧ timestamp.isLeap = other.isLeap ∧
        timestamp.micros = other.micros := by
  have spelled := spells_civil timestamp
  have here := isAt_civil timestamp
  refine ⟨⟨timestamp.civil, here, fun other => ⟨fun otherSpelled => ?_, ?_⟩⟩,
    fun other => ⟨fun same => ?_, ?_⟩⟩
  · exact otherSpelled.unique spelled
  · rintro rfl
    exact spelled
  · have civil : timestamp.civil = other.civil := spelled.unique (same ▸ spells_civil other)
    have there := isAt_civil other
    refine ⟨?_, ?_, congrArg CivilTime.micros civil⟩
    · rw [← here.seconds, ← there.seconds, civil]
    · rw [Bool.eq_iff_iff, ← here.leap, ← there.leap, civil]
  · rintro ⟨seconds, leap, micros⟩
    rw [text, text, plainText, plainText, date, date, secondOfMinute, secondOfMinute, secondOfDay,
      secondOfDay, seconds, leap, micros]

example : (Timestamp.of? 1483228799 1500000000).map text =
    some "2016-12-31T23:59:60.500000+00:00".toList := by decide +kernel

end Timestamp

end AgentKit
