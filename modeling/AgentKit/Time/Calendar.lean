/-!
# The calendar

Dates of the proleptic Gregorian calendar from a count of days since 1970-01-01, for every count,
negative ones included.

A cycle of the calendar has 400 years and 146097 days. The computation shifts the origin to a
first of March, so that the leap day is the last day of a year, and divides the day of the cycle
into years of 365 days after taking out the leap days passed so far. Months from March on have
lengths 31, 30, 31, 30, 31 that repeat, so the day of the year splits by 153 days for five months.
-/
namespace AgentKit

/-- A day of the calendar. -/
structure Date where
  year : Int
  month : Nat
  day : Nat
deriving DecidableEq, Repr

namespace Date

/-- Days from 1 March of the year 0 to 1 January 1970. -/
def epochOffset : Int := 719468

/-- Days in a cycle of 400 years. -/
def cycleDays : Int := 146097

/-- The date that lies a number of days after 1970-01-01. -/
def ofDays (days : Int) : Date :=
  let shifted := days + epochOffset
  let cycle := shifted / cycleDays
  let dayOfCycle := (shifted % cycleDays).toNat
  let yearOfCycle :=
    (dayOfCycle - dayOfCycle / 1460 + dayOfCycle / 36524 - dayOfCycle / 146096) / 365
  let dayOfYear := dayOfCycle - (365 * yearOfCycle + yearOfCycle / 4 - yearOfCycle / 100)
  let monthFromMarch := (5 * dayOfYear + 2) / 153
  let day := dayOfYear - (153 * monthFromMarch + 2) / 5 + 1
  let month := if monthFromMarch < 10 then monthFromMarch + 3 else monthFromMarch - 9
  let year := (yearOfCycle : Int) + cycle * 400 + (if month ≤ 2 then 1 else 0)
  ⟨year, month, day⟩

end Date

end AgentKit
