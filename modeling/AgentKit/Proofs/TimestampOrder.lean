import AgentKit.Proofs.TimestampText
import Mathlib.Order.Compare
import Mathlib.Order.Monotone.Basic

/-!
# The order of timestamp texts

Texts of timestamps are compared octet by octet, as programs do that sort lines of text. Inside four
digits of a year every field of such a text has one length, so the first field that differs decides,
and a field of digits is compared as its number. Instants are compared by the same fields: days by
year, month and day, and seconds of a day by hour, minute and second. A leap second is the one place
where both differ: the text counts it as second 60, and an instant as a fraction above the second
before it.
-/

namespace AgentKit

/-- What one comparison decides, and another one where the first finds no difference. -/
theorem compare_eq_then {α β γ : Type} [LinearOrder α] [LinearOrder β] [LinearOrder γ]
    {whole other : α} {front otherFront : β} {back otherBack : γ}
    (less : front < otherFront ∨ front = otherFront ∧ back < otherBack → whole < other)
    (more : otherFront < front ∨ front = otherFront ∧ otherBack < back → other < whole)
    (same : front = otherFront → back = otherBack → whole = other) :
    compare whole other = (compare front otherFront).then (compare back otherBack) := by
  rcases lt_trichotomy front otherFront with before | equal | behind
  · rw [compare_lt_iff_lt.mpr before, compare_lt_iff_lt.mpr (less (.inl before))]
    rfl
  · rw [compare_eq_iff_eq.mpr equal, Ordering.eq_then]
    rcases lt_trichotomy back otherBack with before | also | behind
    · rw [compare_lt_iff_lt.mpr before, compare_lt_iff_lt.mpr (less (.inr ⟨equal, before⟩))]
    · rw [compare_eq_iff_eq.mpr also, compare_eq_iff_eq.mpr (same equal also)]
    · rw [compare_gt_iff_gt.mpr behind, compare_gt_iff_gt.mpr (more (.inr ⟨equal, behind⟩))]
  · rw [compare_gt_iff_gt.mpr behind, compare_gt_iff_gt.mpr (more (.inl behind))]
    rfl

namespace Utf8

/-- Octets are compared from the front: a difference in a front of the same length decides. -/
theorem compare_append {front otherFront : Bytes} (back otherBack : Bytes)
    (length : front.length = otherFront.length) :
    compare (front ++ back) (otherFront ++ otherBack) =
      (compare front otherFront).then (compare back otherBack) := by
  induction front generalizing otherFront with
  | nil =>
    cases otherFront with
    | nil => rfl
    | cons octet rest => cases length
  | cons octet rest inductionHypothesis =>
    cases otherFront with
    | nil => cases length
    | cons other more =>
      rw [List.cons_append, List.cons_append, List.compare_cons_cons, List.compare_cons_cons,
        inductionHypothesis (Nat.succ.inj length), Ordering.then_assoc]

/-- A common front decides nothing. -/
theorem compare_append_left (front back otherBack : Bytes) :
    compare (front ++ back) (front ++ otherBack) = compare back otherBack := by
  rw [compare_append back otherBack rfl, Std.compare_self, Ordering.eq_then]

/-- Octets in front of others in the order of lists are those that compare as less. -/
theorem compare_eq_lt (octets others : Bytes) : compare octets others = .lt ↔ octets < others := by
  induction octets generalizing others with
  | nil => cases others <;> simp
  | cons octet rest inductionHypothesis =>
    cases others with
    | nil => simp
    | cons other more =>
      rw [List.compare_cons_cons, Ordering.then_eq_lt, List.cons_lt_cons_iff,
        inductionHypothesis, Std.compare_eq_iff_eq, Std.compare_eq_lt]

end Utf8

namespace Numeral

/-- A digit is one octet. -/
theorem length_encode_fixed (count number : Nat) :
    (Utf8.encode (fixed count number)).length = count := by
  rw [Utf8.encode_ascii, List.length_map, CivilTime.fixed_length]
  intro character member
  have digit := CivilTime.fixed_digit count number character member
  have bounds := (Json.digit_code character digit).2
  omega

/-- Digits are compared by their values. -/
theorem compare_lastDigit (number other : Nat) :
    compare (Utf8.encode [lastDigit number]) (Utf8.encode [lastDigit other]) =
      compare (number % 10) (other % 10) := by
  have table : ∀ digit < 10, ∀ second < 10,
      compare (Utf8.encode [Char.ofNat (48 + digit)]) (Utf8.encode [Char.ofNat (48 + second)]) =
        compare digit second := by decide
  exact table (number % 10) (Nat.mod_lt _ (by decide)) (other % 10) (Nat.mod_lt _ (by decide))

/-- Digits of a fixed count are compared as the number that they spell. -/
theorem compare_fixed {count number other : Nat} (fits : number < 10 ^ count)
    (alsoFits : other < 10 ^ count) :
    compare (Utf8.encode (fixed count number)) (Utf8.encode (fixed count other)) =
      compare number other := by
  induction count generalizing number other with
  | zero =>
    rw [Nat.lt_one_iff.mp fits, Nat.lt_one_iff.mp alsoFits]
    rfl
  | succ count inductionHypothesis =>
    have length := (length_encode_fixed count (number / 10)).trans
      (length_encode_fixed count (other / 10)).symm
    rw [Nat.pow_succ] at fits alsoFits
    rw [fixed, fixed, Utf8.encode_append, Utf8.encode_append, Utf8.compare_append _ _ length,
      inductionHypothesis (by omega) (by omega), compare_lastDigit]
    symm
    apply compare_eq_then
    all_goals omega

/-- A field of digits in front of a mark and more text decides, unless the numbers are equal. -/
theorem compare_field {count number other : Nat} (fits : number < 10 ^ count)
    (alsoFits : other < 10 ^ count) (mark : Char) (rest otherRest : List Char) :
    compare (Utf8.encode (fixed count number ++ mark :: rest))
        (Utf8.encode (fixed count other ++ mark :: otherRest)) =
      (compare number other).then (compare (Utf8.encode rest) (Utf8.encode otherRest)) := by
  have length := (length_encode_fixed count number).trans (length_encode_fixed count other).symm
  rw [Utf8.encode_append, Utf8.encode_append, Utf8.compare_append _ _ length,
    compare_fixed fits alsoFits, Utf8.encode_cons, Utf8.encode_cons, Utf8.compare_append_left]

end Numeral

namespace Date

/-- Later months begin later. -/
theorem monthStart_mono (year : Int) : Monotone (monthStart year) := by
  apply monotone_nat_of_le_succ
  intro month
  cases month with
  | zero => exact Nat.le_refl _
  | succ month => exact Nat.le_add_right _ _

/-- The days of a month end in front of every later month. -/
theorem Valid.day_le {date : Date} (valid : date.Valid) {later : Nat} (after : date.month < later) :
    monthStart date.year date.month + date.day ≤ monthStart date.year later := by
  obtain ⟨⟨first, _⟩, _, last⟩ := valid
  have next : monthStart date.year (date.month + 1) =
      monthStart date.year date.month + monthLength date.year date.month := by
    obtain ⟨before, month⟩ := Nat.exists_eq_add_of_le' first
    rw [month]
    rfl
  have mono : monthStart date.year (date.month + 1) ≤ monthStart date.year later :=
    monthStart_mono date.year after
  omega

/-- Later years begin later. -/
theorem yearStart_mono {year later : Int} (after : year ≤ later) :
    yearStart year ≤ yearStart later := by
  simp only [yearStart]
  omega

/-- The days of a year end in front of every later year. -/
theorem Valid.yearStart_le {date : Date} (valid : date.Valid) {later : Int}
    (after : date.year < later) :
    yearStart date.year + monthStart date.year date.month + date.day ≤ yearStart later := by
  have inside : monthStart date.year date.month + date.day ≤ monthStart date.year 13 :=
    valid.day_le (Nat.lt_succ_of_le valid.month.2)
  have next := yearStart_succ date.year
  have mono := yearStart_mono (Int.add_one_le_of_lt after)
  omega

/-- The days of a year are in the order of their months, and in a month in their own order. -/
theorem compare_dayOfYear {date other : Date} (valid : date.Valid) (alsoValid : other.Valid)
    (same : date.year = other.year) :
    compare (monthStart date.year date.month + date.day)
        (monthStart other.year other.month + other.day) =
      (compare date.month other.month).then (compare date.day other.day) := by
  have first := valid.day.1
  have otherFirst := alsoValid.day.1
  apply compare_eq_then
  · rintro (before | ⟨equal, before⟩)
    · have next := valid.day_le before
      rw [same] at next ⊢
      omega
    · rw [same, equal]
      omega
  · rintro (before | ⟨equal, before⟩)
    · have next := alsoValid.day_le before
      rw [← same] at next ⊢
      omega
    · rw [same, equal]
      omega
  · intro equal also
    rw [same, equal, also]

/-- Days are in the order of their dates: by the year, then by the month, then by the day. -/
theorem compare_toDays {date other : Date} (valid : date.Valid) (alsoValid : other.Valid) :
    compare date.toDays other.toDays = (compare date.year other.year).then
      ((compare date.month other.month).then (compare date.day other.day)) := by
  have first := valid.day.1
  have otherFirst := alsoValid.day.1
  have whole : compare date.toDays other.toDays = (compare date.year other.year).then
      (compare (monthStart date.year date.month + date.day)
        (monthStart other.year other.month + other.day)) := by
    apply compare_eq_then
    · rintro (before | ⟨same, before⟩)
      · have next := valid.yearStart_le before
        simp only [toDays]
        omega
      · simp only [toDays, same] at before ⊢
        omega
    · rintro (before | ⟨same, before⟩)
      · have next := alsoValid.yearStart_le before
        simp only [toDays]
        omega
      · simp only [toDays, same] at before ⊢
        omega
    · intro same also
      simp only [toDays, same] at also ⊢
      omega
  rw [whole]
  -- The days inside a year are compared only where the years are equal.
  rcases lt_trichotomy date.year other.year with before | same | behind
  · rw [compare_lt_iff_lt.mpr before]
    rfl
  · rw [compare_dayOfYear valid alsoValid same]
  · rw [compare_gt_iff_gt.mpr behind]
    rfl

end Date

namespace Timestamp

variable (first second : Timestamp)

/-- Instants are in the order of their days, and on one day in that of hour, minute and second. -/
theorem compare_seconds :
    compare first.seconds second.seconds =
      (compare (first.seconds / 86400) (second.seconds / 86400)).then
        ((compare (first.secondOfDay / 3600) (second.secondOfDay / 3600)).then
          ((compare (first.secondOfDay / 60 % 60) (second.secondOfDay / 60 % 60)).then
            (compare (first.secondOfDay % 60) (second.secondOfDay % 60)))) := by
  have time := secondOfDay_eq first
  have otherTime := secondOfDay_eq second
  have days : compare first.seconds second.seconds =
      (compare (first.seconds / 86400) (second.seconds / 86400)).then
        (compare first.secondOfDay second.secondOfDay) := by
    apply compare_eq_then
    all_goals omega
  have hours : compare first.secondOfDay second.secondOfDay =
      (compare (first.secondOfDay / 3600) (second.secondOfDay / 3600)).then
        (compare (first.secondOfDay % 3600) (second.secondOfDay % 3600)) := by
    apply compare_eq_then
    all_goals omega
  have minutes : compare (first.secondOfDay % 3600) (second.secondOfDay % 3600) =
      (compare (first.secondOfDay / 60 % 60) (second.secondOfDay / 60 % 60)).then
        (compare (first.secondOfDay % 60) (second.secondOfDay % 60)) := by
    apply compare_eq_then
    all_goals omega
  rw [days, hours, minutes]

/-- Microseconds since a second, where those of a leap second go on behind the second before it. -/
theorem subsecond_eq (timestamp : Timestamp) :
    timestamp.nanos / 1000 = timestamp.micros + if timestamp.isLeap then 1000000 else 0 := by
  have below : timestamp.nanos < 2000000000 := by
    rcases timestamp.fraction with short | ⟨short, _⟩ <;> omega
  rw [micros]
  by_cases leap : timestamp.isLeap
  · have long : 1000000000 ≤ timestamp.nanos := of_decide_eq_true leap
    rw [if_pos leap]
    omega
  · have few : ¬ 1000000000 ≤ timestamp.nanos := fun long => leap (decide_eq_true long)
    rw [if_neg leap]
    omega

/-- A leap second carries one second over: its second of the minute is one more than that of the
day, and its microseconds are a second less than those since the second before it. -/
theorem exists_carry (timestamp : Timestamp) : ∃ carry, carry ≤ 1 ∧
    (carry = 1 → timestamp.secondOfDay % 60 = 59) ∧
    timestamp.secondOfMinute = timestamp.secondOfDay % 60 + carry ∧
    timestamp.nanos / 1000 = timestamp.micros + 1000000 * carry := by
  have subsecond := subsecond_eq timestamp
  by_cases leap : timestamp.isLeap
  · refine ⟨1, le_rfl, fun _ => secondOfDay_of_isLeap leap, ?_, ?_⟩
    · rw [secondOfMinute, if_pos leap]
    · rw [subsecond, if_pos leap]
  · refine ⟨0, by omega, fun one => absurd one (by decide), ?_, ?_⟩
    · rw [secondOfMinute, if_neg leap]
    · rw [subsecond, if_neg leap]

theorem micros_lt (timestamp : Timestamp) : timestamp.micros < 1000000 := by
  rw [micros]
  omega

/-- Inside a minute second 60 with its own microseconds is behind second 59, as it is when it counts
as a part of that second. -/
theorem compare_leap :
    (compare (first.secondOfDay % 60) (second.secondOfDay % 60)).then
        (compare (first.nanos / 1000) (second.nanos / 1000)) =
      (compare first.secondOfMinute second.secondOfMinute).then
        (compare first.micros second.micros) := by
  have short := micros_lt first
  have otherShort := micros_lt second
  obtain ⟨carry, _, last, shown, subsecond⟩ := exists_carry first
  obtain ⟨otherCarry, _, otherLast, otherShown, otherSubsecond⟩ := exists_carry second
  -- Both sides compare the microseconds of the minute, cut at different places.
  trans compare (2000000 * (first.secondOfDay % 60) + first.nanos / 1000)
    (2000000 * (second.secondOfDay % 60) + second.nanos / 1000)
  · symm
    apply compare_eq_then
    all_goals omega
  · apply compare_eq_then
    all_goals omega

/-- Years of four digits are compared as the numbers that the digits spell. -/
theorem compare_year {year other : Int} (inside : 0 ≤ year) (alsoInside : 0 ≤ other) :
    compare year.toNat other.toNat = compare year other := by
  obtain ⟨number, rfl⟩ := Int.eq_ofNat_of_zero_le inside
  obtain ⟨otherNumber, rfl⟩ := Int.eq_ofNat_of_zero_le alsoInside
  rw [Int.toNat_natCast, Int.toNat_natCast, ← cmp_eq_compare, ← cmp_eq_compare]
  exact (Nat.strictMono_cast.cmp_map_eq number otherNumber).symm

/-- Every field of a text has room for its number. -/
theorem fields_fit (timestamp : Timestamp) :
    timestamp.date.month < 10 ^ 2 ∧ timestamp.date.day < 10 ^ 2 ∧
      timestamp.secondOfDay / 3600 < 10 ^ 2 ∧ timestamp.secondOfDay / 60 % 60 < 10 ^ 2 ∧
      timestamp.secondOfMinute < 10 ^ 2 ∧ timestamp.micros < 10 ^ 6 := by
  obtain ⟨⟨date, hour, minute, second⟩, _, _, _⟩ := isAt_civil timestamp
  have day := date.day.2.trans (Date.monthLength_le _ _)
  exact ⟨date.month.2.trans_lt (by decide), day.trans_lt (by decide), hour.trans (by decide),
    minute.trans (by decide), second.trans_lt (by decide), micros_lt timestamp⟩

/-- The texts of two instants are compared field by field, from the year on. -/
theorem compare_fields (inside : 0 ≤ first.date.year ∧ first.date.year ≤ 9999)
    (alsoInside : 0 ≤ second.date.year ∧ second.date.year ≤ 9999) :
    compare (Utf8.encode first.text) (Utf8.encode second.text) =
      (compare first.date.year second.date.year).then
        ((compare first.date.month second.date.month).then
          ((compare first.date.day second.date.day).then
            ((compare (first.secondOfDay / 3600) (second.secondOfDay / 3600)).then
              ((compare (first.secondOfDay / 60 % 60) (second.secondOfDay / 60 % 60)).then
                ((compare first.secondOfMinute second.secondOfMinute).then
                  (compare first.micros second.micros)))))) := by
  obtain ⟨month, day, hour, minute, seconds, micros⟩ := fields_fit first
  obtain ⟨otherMonth, otherDay, otherHour, otherMinute, otherSeconds, otherMicros⟩ :=
    fields_fit second
  have year : first.date.year.toNat < 10 ^ 4 := by omega
  have otherYear : second.date.year.toNat < 10 ^ 4 := by omega
  have offset : "+00:00".toList = '+' :: "00:00".toList := rfl
  simp only [text, plainText, yearText, if_pos inside, if_pos alsoInside, offset,
    List.append_assoc, List.cons_append]
  rw [Numeral.compare_field year otherYear, Numeral.compare_field month otherMonth,
    Numeral.compare_field day otherDay, Numeral.compare_field hour otherHour,
    Numeral.compare_field minute otherMinute, Numeral.compare_field seconds otherSeconds,
    Numeral.compare_field micros otherMicros, Std.compare_self, Ordering.then_eq,
    compare_year inside.1 alsoInside.1]

/-- The texts of two instants, octet by octet, are in the order of the instants. -/
theorem compare_text (inside : 0 ≤ first.date.year ∧ first.date.year ≤ 9999)
    (alsoInside : 0 ≤ second.date.year ∧ second.date.year ≤ 9999) :
    compare (Utf8.encode first.text) (Utf8.encode second.text) =
      (compare first.seconds second.seconds).then
        (compare (first.nanos / 1000) (second.nanos / 1000)) := by
  obtain ⟨valid, days⟩ := Date.ofDays_spec (first.seconds / 86400)
  obtain ⟨otherValid, otherDays⟩ := Date.ofDays_spec (second.seconds / 86400)
  have dates := Date.compare_toDays valid otherValid
  rw [days, otherDays] at dates
  rw [compare_fields first second inside alsoInside, compare_seconds, dates]
  simp only [Ordering.then_assoc]
  rw [compare_leap]
  rfl

/-- Inside four digits of a year, texts of instants are equal exactly when the instants agree to the
microsecond, and octet by octet one text is in front of another exactly when its instant is: the
earlier second, or in one second the fewer microseconds, where those of a leap second go on behind
the second before it. -/
theorem text_sorts (inside : 0 ≤ first.date.year ∧ first.date.year ≤ 9999)
    (alsoInside : 0 ≤ second.date.year ∧ second.date.year ≤ 9999) :
    (Utf8.encode first.text = Utf8.encode second.text ↔
      first.seconds = second.seconds ∧ first.nanos / 1000 = second.nanos / 1000) ∧
    (Utf8.encode first.text < Utf8.encode second.text ↔
      first.seconds < second.seconds ∨
        first.seconds = second.seconds ∧ first.nanos / 1000 < second.nanos / 1000) := by
  have order := compare_text first second inside alsoInside
  constructor
  · rw [← Std.compare_eq_iff_eq, order, Ordering.then_eq_eq, Std.compare_eq_iff_eq,
      Std.compare_eq_iff_eq]
  · rw [← Utf8.compare_eq_lt, order, Ordering.then_eq_lt, Int.compare_eq_lt, Nat.compare_eq_lt,
      Std.compare_eq_iff_eq]

/-- Half a second into the leap second at the end of 2016, and the begin of 2017: the text with
second 60 is in front. -/
theorem leapSecond_sorts :
    let leap : Timestamp := ⟨1483228799, 1500000000, by decide, by decide, by decide⟩
    let newYear : Timestamp := ⟨1483228800, 0, by decide, by decide, by decide⟩
    (0 ≤ leap.date.year ∧ leap.date.year ≤ 9999) ∧
      (0 ≤ newYear.date.year ∧ newYear.date.year ≤ 9999) ∧
      Utf8.encode leap.text < Utf8.encode newYear.text :=
  ⟨by decide, by decide, (text_sorts _ _ (by decide) (by decide)).2.mpr (by decide)⟩

end Timestamp

end AgentKit
