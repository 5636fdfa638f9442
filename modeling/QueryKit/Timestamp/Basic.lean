set_option autoImplicit false

/-! # Instants

An instant counts seconds from the start of 1970 in UTC, and nanoseconds within the second. Inside a
leap second the nanoseconds run from one to two thousand million. -/

namespace QueryKit

/-- An instant in UTC. -/
structure Timestamp where
  seconds : Int
  nanos : Nat
deriving DecidableEq

/-- A day of the Gregorian calendar, whose rules are taken to hold for all years. -/
structure CalendarDay where
  year : Int
  month : Nat
  day : Nat
deriving DecidableEq

namespace CalendarDay

/-- Every fourth year is longer, save for three out of four centuries. -/
def isLeap (year : Int) : Bool :=
  year % 4 == 0 && (year % 100 != 0 || year % 400 == 0)

/-- The number of days in a month. -/
def daysInMonth (year : Int) (month : Nat) : Nat :=
  if month = 2 then (if isLeap year then 29 else 28)
  else if month = 4 || month = 6 || month = 9 || month = 11 then 30
  else 31

/-- Days from the start of 1970. The year is taken to begin in March, so that its leap day is its
    last. -/
def toDays (d : CalendarDay) : Int :=
  let year := if d.month ≤ 2 then d.year - 1 else d.year
  let era := year / 400
  let yearOfEra := year - era * 400
  let month : Int := if d.month ≤ 2 then d.month + 9 else d.month - 3
  let dayOfYear := (153 * month + 2) / 5 + d.day - 1
  let dayOfEra := yearOfEra * 365 + yearOfEra / 4 - yearOfEra / 100 + dayOfYear
  era * 146097 + dayOfEra - 719468

/-- The day that many days after the start of 1970. -/
def ofDays (days : Int) : CalendarDay :=
  let shifted := days + 719468
  let era := shifted / 146097
  let dayOfEra := shifted - era * 146097
  let yearOfEra := (dayOfEra - dayOfEra / 1460 + dayOfEra / 36524 - dayOfEra / 146096) / 365
  let dayOfYear := dayOfEra - (365 * yearOfEra + yearOfEra / 4 - yearOfEra / 100)
  let month := (5 * dayOfYear + 2) / 153
  let day := dayOfYear - (153 * month + 2) / 5 + 1
  let year := yearOfEra + era * 400
  { year := if month < 10 then year else year + 1
    month := (if month < 10 then month + 3 else month - 9).toNat
    day := day.toNat }

end CalendarDay

namespace Timestamp

/-- The nanoseconds of one second. -/
def nanosPerSecond : Nat := 1000000000

/-- The instant is inside a leap second. -/
def isLeap (t : Timestamp) : Bool :=
  nanosPerSecond ≤ t.nanos

/-- The start of the year 2000 in seconds from the start of 1970. -/
def year2000 : Int := 946684800

/-- Microseconds from the start of 2000, cut off towards it. -/
def microsSince2000 (t : Timestamp) : Int :=
  ((t.seconds - year2000) * nanosPerSecond + t.nanos).tdiv 1000

end Timestamp

end QueryKit
