import AgentKit.Text.Numeral
import AgentKit.Time.Calendar
/-!
# Timestamps and readings of the clock

A timestamp is an instant in seconds and nanoseconds since 1970-01-01T00:00:00 in universal time.
The nanoseconds of a leap second run from one to two thousand millions and are allowed only in the
last second of a minute, where the text shows second 60.

Records carry timestamps as text with microseconds and the offset `+00:00`. A clock either stands
at a timestamp or is masked: the text of a masked reading has zeros for all its digits, so that
output of two runs can be compared.
-/
namespace AgentKit

/-- An instant, to the nanosecond, in the range of years that the calendar text supports. -/
structure Timestamp where
  seconds : Int
  nanos : Nat
  lower : -8334601228800 ≤ seconds
  upper : seconds ≤ 8210266876799
  fraction : nanos < 1000000000 ∨ (nanos < 2000000000 ∧ seconds % 60 = 59)
deriving DecidableEq

namespace Timestamp

/-- The timestamp of a number of seconds and nanoseconds, when there is one. -/
def of? (seconds : Int) (nanos : Nat) : Option Timestamp :=
  if lower : -8334601228800 ≤ seconds then
    if upper : seconds ≤ 8210266876799 then
      if fraction : nanos < 1000000000 ∨ (nanos < 2000000000 ∧ seconds % 60 = 59) then
        some ⟨seconds, nanos, lower, upper, fraction⟩
      else none
    else none
  else none

/-- An instant inside a leap second. -/
def isLeap (timestamp : Timestamp) : Bool := 1000000000 ≤ timestamp.nanos

/-- Seconds since midnight, a leap second counting as the second before it. -/
def secondOfDay (timestamp : Timestamp) : Nat := (timestamp.seconds % 86400).toNat

/-- The date. -/
def date (timestamp : Timestamp) : Date := .ofDays (timestamp.seconds / 86400)

/-- The second of the minute, 60 inside a leap second. -/
def secondOfMinute (timestamp : Timestamp) : Nat :=
  timestamp.secondOfDay % 60 + (if timestamp.isLeap then 1 else 0)

/-- Whole microseconds since the last second. -/
def micros (timestamp : Timestamp) : Nat := timestamp.nanos % 1000000000 / 1000

/-- The text of a year: four digits, and outside `0` to `9999` a sign in front of at least four. -/
def yearText (year : Int) : List Char :=
  if 0 ≤ year ∧ year ≤ 9999 then Numeral.fixed 4 year.toNat
  else (if year < 0 then '-' else '+') :: Numeral.atLeast 4 year.natAbs

/-- Date and time of day without an offset, `YYYY-MM-DDTHH:MM:SS.uuuuuu`. -/
def plainText (timestamp : Timestamp) : List Char :=
  let date := timestamp.date
  yearText date.year ++ '-' :: Numeral.fixed 2 date.month ++ '-' :: Numeral.fixed 2 date.day ++
    'T' :: Numeral.fixed 2 (timestamp.secondOfDay / 3600) ++
    ':' :: Numeral.fixed 2 (timestamp.secondOfDay / 60 % 60) ++
    ':' :: Numeral.fixed 2 timestamp.secondOfMinute ++
    '.' :: Numeral.fixed 6 timestamp.micros

/-- The text that records and result files carry. -/
def text (timestamp : Timestamp) : List Char :=
  timestamp.plainText ++ "+00:00".toList

end Timestamp

/-- What a reading of the clock gives. -/
inductive Clock where
  /-- The clock stands at a timestamp. -/
  | standing (timestamp : Timestamp)
  /-- The digits of the reading are withheld. -/
  | masked

namespace Clock

/-- Date and time of day without an offset. -/
def plainText : Clock → List Char
  | .standing timestamp => timestamp.plainText
  | .masked => "0000-00-00T00:00:00.000000".toList

/-- The text that records and pages carry. -/
def text (clock : Clock) : List Char := clock.plainText ++ "+00:00".toList

/-- The text that diagnostics carry. -/
def zuluText (clock : Clock) : List Char := clock.plainText ++ ['Z']

end Clock

end AgentKit
