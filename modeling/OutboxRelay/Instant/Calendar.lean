/-!
# Calendar dates

The proleptic Gregorian calendar. Days are counted from the beginning of 1970. The count goes
through years that begin in March, so that the leap day is the last day of its year and four
hundred years always have the same number of days.
-/

namespace OutboxRelay

/-- A day of the calendar. -/
structure CalendarDate where
  year : Int
  month : Nat
  day : Nat
deriving DecidableEq, Inhabited

namespace CalendarDate

/-- Every fourth year is a leap year, of the hundredth years only every fourth. -/
def isLeapYear (year : Int) : Bool :=
  year % 4 == 0 && (year % 100 != 0 || year % 400 == 0)

/-- The number of days of a month. -/
def daysInMonth (year : Int) (month : Nat) : Nat :=
  if month = 2 then (if isLeapYear year then 29 else 28)
  else if month = 4 ∨ month = 6 ∨ month = 9 ∨ month = 11 then 30
  else 31

/-- A date exists when its month is one of twelve and its month is long enough. -/
def isValid (date : CalendarDate) : Bool :=
  1 ≤ date.month && date.month ≤ 12 && 1 ≤ date.day &&
    date.day ≤ daysInMonth date.year date.month

/-- Days in four hundred years. -/
def daysPerEra : Nat := 146097

/-- Days from the first of March of the year 0 to the beginning of 1970. -/
def epochDay : Int := 719468

/-- Days from the beginning of 1970 to a date. -/
def toDays (date : CalendarDate) : Int :=
  let year := if date.month ≤ 2 then date.year - 1 else date.year
  let month : Int := if date.month ≤ 2 then date.month + 9 else (date.month : Int) - 3
  let era := year / 400
  let yearOfEra := year % 400
  let dayOfYear := (153 * month + 2) / 5 + date.day - 1
  era * daysPerEra + (yearOfEra * 365 + yearOfEra / 4 - yearOfEra / 100 + dayOfYear) - epochDay

/-- The date that lies a number of days after the beginning of 1970. -/
def ofDays (days : Int) : CalendarDate :=
  let shifted := days + epochDay
  let era := shifted / daysPerEra
  let dayOfEra := shifted % daysPerEra
  let yearOfEra :=
    (dayOfEra - dayOfEra / 1460 + dayOfEra / 36524 - dayOfEra / 146096) / 365
  let dayOfYear := dayOfEra - (365 * yearOfEra + yearOfEra / 4 - yearOfEra / 100)
  let month := (5 * dayOfYear + 2) / 153
  let day := (dayOfYear - (153 * month + 2) / 5 + 1).toNat
  if month < 10 then ⟨yearOfEra + era * 400, (month + 3).toNat, day⟩
  else ⟨yearOfEra + era * 400 + 1, (month - 9).toNat, day⟩

end CalendarDate

end OutboxRelay
