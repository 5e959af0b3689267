import AgentKit.Time.Calendar
import Mathlib.Tactic.IntervalCases
/-!
# Dates and days

The calendar is told by its years and months: which years have a leap day, how long each month is,
and so on which day a month begins. Counting the days in front of a date inverts the computation of
dates from days, on both sides of every border of a year, a century or a cycle.

The computation divides a cycle of 400 years that begins on a first of March. A day of the cycle has
a century, a group of four years in it, a year of the group, and a place in that year. A year has
365 days, but the last year of a group one more, but not in the last group of a century, except for
the last century. The one division by which the computation finds the year is correct because the
leap days in front of a day are counted by three quotients, which may be one too many only on days
late in a year.
-/

namespace AgentKit.Date

/-- Years with a leap day. -/
def IsLeapYear (year : Int) : Prop := year % 4 = 0 ∧ (year % 100 ≠ 0 ∨ year % 400 = 0)

instance (year : Int) : Decidable (IsLeapYear year) := inferInstanceAs (Decidable (_ ∧ _))

/-- The number of days of a month. -/
def monthLength (year : Int) : Nat → Nat
  | 2 => if IsLeapYear year then 29 else 28
  | 4 | 6 | 9 | 11 => 30
  | _ => 31

theorem monthLength_le (year : Int) (month : Nat) : monthLength year month ≤ 31 := by
  rw [monthLength.eq_def]
  split <;> try split
  all_goals decide

/-- The number of days of a year in front of a month. -/
def monthStart (year : Int) : Nat → Nat
  | 0 | 1 => 0
  | month + 1 => monthStart year month + monthLength year month

/-- The number of days in front of a year, from 1 January of the year 1. -/
def yearStart (year : Int) : Int :=
  365 * (year - 1) + (year - 1) / 4 - (year - 1) / 100 + (year - 1) / 400

/-- A day that stands in the calendar. -/
structure Valid (date : Date) : Prop where
  month : 1 ≤ date.month ∧ date.month ≤ 12
  day : 1 ≤ date.day ∧ date.day ≤ monthLength date.year date.month

/-- The number of days in front of a date, from 1 January 1970. -/
def toDays (date : Date) : Int :=
  yearStart date.year + monthStart date.year date.month + (date.day - 1) - yearStart 1970

/-- The next year begins behind the twelve months of a year. -/
theorem yearStart_succ (year : Int) :
    yearStart (year + 1) = yearStart year + monthStart year 13 := by
  by_cases leap : IsLeapYear year
  · simp only [yearStart, monthStart, monthLength, if_pos leap]
    obtain ⟨fourth, century⟩ := leap
    omega
  · simp only [yearStart, monthStart, monthLength, if_neg leap]
    rw [IsLeapYear] at leap
    omega

/-- The place of a day in the cycle of 400 years. Years begin on 1 March. -/
structure CyclePlace (day : Nat) where
  century : Nat
  group : Nat
  year : Nat
  rest : Nat
  century_le : century ≤ 3
  group_le : group ≤ 24
  year_le : year ≤ 3
  rest_le : rest ≤ 365
  leap : rest = 365 → year = 3 ∧ (group < 24 ∨ century = 3)
  sum : day = 36524 * century + 1461 * group + 365 * year + rest

/-- Every day of the cycle has its place. -/
theorem exists_place {day : Nat} (inside : day < 146097) : Nonempty (CyclePlace day) := by
  obtain ⟨century, low, high, top⟩ : ∃ century, century ≤ 3 ∧ 36524 * century ≤ day ∧
      (day < 36524 * century + 36524 ∨ century = 3) :=
    ⟨min (day / 36524) 3, by omega, by omega, by omega⟩
  obtain ⟨left, rfl⟩ := Nat.exists_eq_add_of_le high
  obtain ⟨year, few, within, last⟩ : ∃ year, year ≤ 3 ∧ 365 * year ≤ left % 1461 ∧
      (left % 1461 < 365 * year + 365 ∨ year = 3) :=
    ⟨min (left % 1461 / 365) 3, by omega, by omega, by omega⟩
  exact ⟨⟨century, left / 1461, year, left % 1461 - 365 * year, low, by omega, few, by omega,
    by omega, by omega⟩⟩

namespace CyclePlace

variable {day : Nat} (place : CyclePlace day)

/-- The number of years of the cycle in front of a day. -/
def years : Nat := 100 * place.century + 4 * place.group + place.year

/-- Two of the quotients differ by the century, also on the last day of the cycle. -/
theorem div_century : day / 36524 = place.century + day / 146096 := by
  obtain ⟨century, group, year, rest, _, _, _, _, leap, sum⟩ := place
  have short : 1461 * group + 365 * year + rest < 36524 ∨ century = 3 ∧ day = 146096 := by omega
  rcases short with short | ⟨rfl, rfl⟩
  · have early : day / 146096 = 0 := by omega
    dsimp only
    omega
  · rfl

/-- The third counts the groups, and one more at most on days that are not among the first of their
year. -/
theorem div_group : ∃ carry left, day / 1460 = 25 * place.century + place.group + carry ∧
    place.rest = carry + left ∧ left < 365 := by
  obtain ⟨century, group, year, rest, _, _, _, _, leap, sum⟩ := place
  by_cases late : 1460 ≤ 24 * century + group + 365 * year + rest
  · exact ⟨1, rest - 1, by dsimp only; omega, by dsimp only; omega, by omega⟩
  · exact ⟨0, rest, by dsimp only; omega, by dsimp only; omega, by omega⟩

/-- Taking out the leap days leaves years of 365 days. -/
theorem years_eq :
    (day - day / 1460 + day / 36524 - day / 146096) / 365 = place.years := by
  have regroup (century group year carry left : Nat) :
      36524 * century + 1461 * group + 365 * year + (carry + left) -
          (25 * century + group + carry) + century =
        365 * (100 * century + 4 * group + year) + left := by omega
  obtain ⟨carry, left, group, rest, short⟩ := place.div_group
  have sum := place.sum
  rw [rest] at sum
  have whole : day - day / 1460 + day / 36524 - day / 146096 = 365 * place.years + left := by
    rw [place.div_century, group, ← Nat.add_assoc, Nat.add_sub_cancel]
    exact (congrArg (· - _ + _) sum).trans (regroup ..)
  rw [whole, Nat.mul_add_div (by decide), Nat.div_eq_of_lt short, Nat.add_zero]

/-- The days in front of the year are those of whole years, with their leap days. -/
theorem rest_eq :
    day - (365 * place.years + place.years / 4 - place.years / 100) = place.rest := by
  obtain ⟨century, group, year, rest, _, _, _, _, leap, sum⟩ := place
  simp only [years]
  omega

end CyclePlace

/-- The date of a day of a year that begins on 1 March. -/
def fromMarch (year : Int) (dayOfYear : Nat) : Date :=
  let monthFromMarch := (5 * dayOfYear + 2) / 153
  let month := if monthFromMarch < 10 then monthFromMarch + 3 else monthFromMarch - 9
  ⟨year + (if month ≤ 2 then 1 else 0), month, dayOfYear - (153 * monthFromMarch + 2) / 5 + 1⟩

/-- The place of a day in the cycle decides about its date. -/
theorem ofDays_eq (days : Int)
    (place : CyclePlace ((days + epochOffset) % cycleDays).toNat) :
    ofDays days = fromMarch (place.years + (days + epochOffset) / cycleDays * 400) place.rest := by
  rw [ofDays, place.years_eq, place.rest_eq]
  rfl

/-- The number of days in front of 1 March of a year. -/
def marchStart (year : Int) : Int := yearStart year + monthStart year 3

/-- The leap day of a year is in front of its first of March. -/
theorem marchStart_eq (year : Int) :
    marchStart year = 365 * year + year / 4 - year / 100 + year / 400 - 306 := by
  rw [marchStart]
  by_cases leap : IsLeapYear year
  · simp only [yearStart, monthStart, monthLength, if_pos leap]
    obtain ⟨fourth, century⟩ := leap
    omega
  · simp only [yearStart, monthStart, monthLength, if_neg leap]
    rw [IsLeapYear] at leap
    omega

/-- January begins 306 days behind 1 March. -/
theorem yearStart_next (year : Int) : yearStart (year + 1) = marchStart year + 306 := by
  rw [marchStart_eq, yearStart]
  omega

/-- The lengths of the months from March on repeat after 153 days. -/
theorem monthStart_march (year : Int) {month : Nat} (named : month ≤ 10) :
    monthStart year (month + 3) = monthStart year 3 + (153 * month + 2) / 5 := by
  interval_cases month <;> rfl

/-- A date from March to December is in the year itself. -/
theorem fromMarch_valid_of_lt {dayOfYear : Nat} (early : dayOfYear < 306) (year : Int) :
    (fromMarch year dayOfYear).Valid ∧
      (fromMarch year dayOfYear).toDays + yearStart 1970 = marchStart year + dayOfYear := by
  obtain ⟨month, quotient⟩ : ∃ month, (5 * dayOfYear + 2) / 153 = month := ⟨_, rfl⟩
  have named : month < 10 := by omega
  have date : fromMarch year dayOfYear =
      ⟨year, month + 3, dayOfYear - (153 * month + 2) / 5 + 1⟩ := by
    simp [fromMarch, quotient, named]
  have start := monthStart_march year named.le
  have next : monthStart year (month + 1 + 3) =
      monthStart year 3 + (153 * (month + 1) + 2) / 5 :=
    monthStart_march year (Nat.succ_le_of_lt named)
  have length : monthStart year (month + 1 + 3) =
      monthStart year (month + 3) + monthLength year (month + 3) := rfl
  rw [date]
  refine ⟨⟨⟨?_, ?_⟩, ?_, ?_⟩, ?_⟩
  · dsimp only; omega
  · dsimp only; omega
  · dsimp only; omega
  · dsimp only; omega
  · simp only [toDays, marchStart]
    omega

/-- A date of January or February is in the next year. -/
theorem fromMarch_valid_of_le {year : Int} {dayOfYear : Nat} (late : 306 ≤ dayOfYear)
    (most : dayOfYear ≤ 365) (leap : dayOfYear = 365 → IsLeapYear (year + 1)) :
    (fromMarch year dayOfYear).Valid ∧
      (fromMarch year dayOfYear).toDays + yearStart 1970 = marchStart year + dayOfYear := by
  have next := yearStart_next year
  by_cases january : dayOfYear < 337
  · have date : fromMarch year dayOfYear = ⟨year + 1, 1, dayOfYear - 306 + 1⟩ := by
      have quotient : (5 * dayOfYear + 2) / 153 = 10 := by omega
      simp [fromMarch, quotient]
    rw [date]
    refine ⟨⟨⟨by simp, by simp⟩, ?_⟩, ?_⟩
    · simp only [monthLength]
      omega
    · simp only [toDays, monthStart]
      omega
  · have date : fromMarch year dayOfYear = ⟨year + 1, 2, dayOfYear - 337 + 1⟩ := by
      have quotient : (5 * dayOfYear + 2) / 153 = 11 := by omega
      simp [fromMarch, quotient]
    rw [date]
    refine ⟨⟨⟨by simp, by simp⟩, ?_⟩, ?_⟩
    · simp only [monthLength]
      split
      · omega
      · have most : dayOfYear ≠ 365 := fun last => absurd (leap last) ‹_›
        omega
    · simp only [toDays, monthStart, monthLength]
      omega

/-- The date of a day of a year from March on is in the calendar, and as many days are in front of
it. -/
theorem fromMarch_valid {year : Int} {dayOfYear : Nat} (most : dayOfYear ≤ 365)
    (leap : dayOfYear = 365 → IsLeapYear (year + 1)) :
    (fromMarch year dayOfYear).Valid ∧
      (fromMarch year dayOfYear).toDays + yearStart 1970 = marchStart year + dayOfYear :=
  (Nat.lt_or_ge dayOfYear 306).elim (fromMarch_valid_of_lt · year)
    (fromMarch_valid_of_le · most leap)

/-- A year with 366 days, counted from March, ends on the leap day of the next. -/
theorem CyclePlace.isLeapYear {day : Nat} (place : CyclePlace day) (last : place.rest = 365)
    (cycle : Int) : IsLeapYear (place.years + cycle * 400 + 1) := by
  obtain ⟨final, group⟩ := place.leap last
  have few := place.group_le
  rw [IsLeapYear, years, final]
  omega

/-- The days in front of the year of a place, counted by cycles, centuries and groups. -/
theorem CyclePlace.marchStart_eq {day : Nat} (place : CyclePlace day) (cycle : Int) :
    marchStart (place.years + cycle * 400) + place.rest = day + cycle * cycleDays - 306 := by
  obtain ⟨century, group, year, rest, _, _, _, _, leap, sum⟩ := place
  rw [Date.marchStart_eq, years, cycleDays]
  dsimp only
  omega

/-- Every day has a date of the calendar, on which it is that many days from 1970. -/
theorem ofDays_spec (days : Int) : (ofDays days).Valid ∧ (ofDays days).toDays = days := by
  have positive : (0 : Int) < cycleDays := by decide
  have fromZero := Int.emod_nonneg (days + epochOffset) positive.ne'
  have inside : ((days + epochOffset) % cycleDays).toNat < 146097 := by
    have upper := Int.emod_lt_of_pos (days + epochOffset) positive
    rw [cycleDays] at upper fromZero ⊢
    omega
  obtain ⟨place⟩ := exists_place inside
  obtain ⟨valid, counted⟩ := fromMarch_valid place.rest_le
    (fun last => place.isLeapYear last ((days + epochOffset) / cycleDays))
  rw [place.marchStart_eq, Int.toNat_of_nonneg fromZero, Int.emod_add_ediv_mul] at counted
  rw [ofDays_eq days place]
  have epoch : yearStart 1970 = 719162 := rfl
  have offset : epochOffset = 719468 := rfl
  exact ⟨valid, by omega⟩

end AgentKit.Date
